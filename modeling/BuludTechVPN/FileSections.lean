import BuludTechVPN.FileReading

/-!
What the sections of a configuration file say when they are read.

Each section writes options of its own names. Where the fields of the profile fit the way in which
they are written, it says nothing of any other option.
-/

namespace BuludTechVPN.FileReading

open JavaLang LineParser ParseConfig VpnProfile

variable {fails : Prop} {k : Text} {pf : Platform} {p : VpnProfile}

/-! ### Platform and profile -/

/-- What the device contributes can be read, and is not about the option `k`. -/
structure PlatformFits (fails : Prop) (k : Text) (pf : Platform) : Prop where
  cacheDir : Raw fails pf.cacheDir
  versionEnvString : Quoted fails pf.versionEnvString
  versionString : Quoted fails pf.versionString
  keyStoreCertificates : ∀ ca extra cert, pf.keyStoreCertificates = some (ca, extra, cert) →
    Encloses "ca".toList ca ∧ '\r' ∉ ca ∧ Encloses "cert".toList cert ∧ '\r' ∉ cert ∧
      ∀ x ∈ extra, Encloses "extra-certs".toList x ∧ '\r' ∉ x
  keychainAccess : Says fails k [] (pf.keychainAccess ++ ['\n'])
  jellyKeystoreAlphanumericBug : Says fails k [] (pf.jellyKeystoreAlphanumericBug ++ ['\n'])

/-- The keystore is asked, and has a chain of certificates. -/
def hasChain (pf : Platform) : Bool :=
  !pf.configForOvpn3 && pf.keyStoreCertificates.any (·.2.1.isSome)

/-- The names of the options that some files have and others have not, whatever is converted. -/
def optionalNames : List Text :=
  ["setenv", "extra-certs", "ifconfig-ipv6", "tun-mtu", "preresolve"].map String.toList

/-- One of these options, which the sections of this file have not. -/
structure Silent (pf : Platform) (p : VpnProfile) (k : Text) : Prop where
  optional : k ∈ optionalNames
  setenv : k = "setenv".toList → pf.configForOvpn3 = true
  extraCerts : k = "extra-certs".toList → hasChain pf = false
  ifconfigIpv6 : k = "ifconfig-ipv6".toList → p.mIPv6Address = none
  tunMtu : k = "tun-mtu".toList → (48 ≤ p.mTunMtu && p.mTunMtu ≠ 1500) = false
  preresolve : k = "preresolve".toList → p.mPersistTun = false

/-- Those of the names that a section writes in any file. -/
def always (names : List Text) : List Text := names.filter (· ∉ optionalNames)

lemma notMem_always {names : List Text} (hk : k ∈ names → Silent pf p k) : k ∉ always names := by
  intro hm
  obtain ⟨hmem, hopt⟩ := List.mem_filter.1 hm
  exact of_decide_eq_true hopt (hk hmem).optional

/-- A name that is written under a condition, where the condition holds. -/
lemma notMem_optional {names : List Text} {name : Text} {b : Bool} (hmem : name ∈ names)
    (hk : k ∈ names → Silent pf p k) (hs : Silent pf p k → k = name → b = false) (hb : b = true) :
    k ∉ [name] := by
  rw [List.mem_singleton]
  rintro rfl
  rw [hs (hk hmem) rfl] at hb
  cases hb

def managementNames : List Text :=
  ["management", "management-client", "management-query-passwords", "management-hold", "setenv",
   "machine-readable-output", "allow-recursive-routing", "ifconfig-nowarn"].map String.toList

lemma says_managementLines (hk : k ∈ managementNames → Silent pf p k)
    (hpf : PlatformFits fails k pf) : ∀ t ∈ managementLines pf, Says fails k [] t := by
  have hsetenv : (!pf.configForOvpn3) = true → k ∉ ["setenv".toList] :=
    notMem_optional (by decide) hk fun h he => by rw [h.setenv he]; rfl
  have hk := notMem_always hk
  intro t ht
  simp only [managementLines, List.mem_append, List.mem_cons, List.not_mem_nil, or_false,
    mem_piece] at ht
  rcases ht with ((((rfl | rfl | rfl | rfl | rfl) | ⟨hv, rfl⟩) | ⟨hv, rfl⟩) | rfl | rfl | rfl)
  · exact says_known (by decide) hk
  · exact says_framed (by decide) hk hpf.cacheDir.behind
  · exact says_known (by decide) hk
  · exact says_known (by decide) hk
  · exact says_known (by decide) hk
  · exact says_framed (by decide) (hsetenv hv) hpf.versionEnvString.behind
  · exact says_framed (by decide) (hsetenv hv) hpf.versionString.behind
  · exact says_known (by decide) hk
  · exact says_known (by decide) hk
  · exact says_known (by decide) hk

/-- The tags under which the key of the control channel may be written. -/
def tlsTags : List Text := ["secret", "tls-crypt", "tls-auth"].map String.toList

/-- The fields of the profile fit the way in which they are written. -/
structure ProfileFits (fails : Prop) (p : VpnProfile) : Prop where
  mConnectRetryMax : Raw fails p.mConnectRetryMax
  mConnectRetry : Raw fails p.mConnectRetry
  mConnectRetryMaxTime : Raw fails p.mConnectRetryMaxTime
  mCaFilename : FileFits fails "ca".toList p.mCaFilename
  mClientKeyFilename : FileFits fails "key".toList p.mClientKeyFilename
  mClientCertFilename : FileFits fails "cert".toList p.mClientCertFilename
  mPKCS12Filename : FileFits fails "pkcs12".toList p.mPKCS12Filename
  mCrlFilename : FileFits fails "crl-verify".toList p.mCrlFilename
  mTLSAuthFilename : ∀ tag ∈ tlsTags, FileFits fails tag p.mTLSAuthFilename
  mTLSAuthDirection : Raw fails p.mTLSAuthDirection
  mIPv4Address : ∀ a ∈ p.mIPv4Address, Raw fails a
  mIPv6Address : ∀ a ∈ p.mIPv6Address, Raw fails a
  mDNS1 : Raw fails p.mDNS1
  mDNS2 : Raw fails p.mDNS2
  mSearchDomain : Raw fails p.mSearchDomain
  mCustomRoutes : ∀ route ∈ words (p.mCustomRoutes.getD []), Raw fails route
  mExcludedRoutes : ∀ route ∈ words (p.mExcludedRoutes.getD []), Raw fails route
  mCustomRoutesv6 : ∀ route ∈ getCustomRoutesv6 p.mCustomRoutesv6, Raw fails route
  mRemoteCN : Quoted fails p.mRemoteCN
  mx509UsernameField : ∀ f ∈ p.mx509UsernameField, Quoted fails f
  mCipher : Raw fails p.mCipher
  mAuth : Raw fails p.mAuth
  mConnections : ∀ c ∈ p.mConnections, Raw fails c.mServerName ∧ Raw fails c.mServerPort

def clientNames : List Text := ["client", "pull", "tls-client"].map String.toList

lemma says_clientLine (hk : k ∉ clientNames) : ∀ t ∈ p.clientLine, Says fails k [] t := by
  intro t ht
  unfold clientLine at ht
  split_ifs at ht
  · rw [List.mem_singleton] at ht
    exact ht ▸ says_known (by decide) hk
  · rw [List.mem_singleton] at ht
    exact ht ▸ says_known (by decide) hk
  · obtain ⟨-, rfl⟩ := mem_piece.1 ht
    exact says_known (by decide) hk

def connectRetryNames : List Text :=
  ["verb", "connect-retry-max", "connect-retry", "resolv-retry", "dev"].map String.toList

lemma says_connectRetryLines (hk : k ∉ connectRetryNames) (hp : ProfileFits fails p) :
    ∀ t ∈ p.connectRetryLines, Says fails k [] t := by
  intro t ht
  simp only [connectRetryLines, List.mem_append, List.mem_cons, List.not_mem_nil, or_false,
    mem_piece] at ht
  have hretry : Behind fails (if p.mConnectRetry = [] then "2".toList else p.mConnectRetry) := by
    split_ifs
    · exact Plain.behind (by decide)
    · exact hp.mConnectRetry.behind
  have htime : Behind fails
      (if p.mConnectRetryMaxTime = [] then "300".toList else p.mConnectRetryMaxTime) := by
    split_ifs
    · exact Plain.behind (by decide)
    · exact hp.mConnectRetryMaxTime.behind
  rcases ht with (rfl | ⟨-, rfl⟩) | rfl | rfl | rfl
  · exact says_known (by decide) hk
  · exact says_framed (by decide) hk hp.mConnectRetryMax.behind
  · have hframes : Frames connectRetryNames "connect-retry ".toList ['\n'] := by decide
    have := says_framed hframes hk
      (hretry.append ((Plain.behind (by decide : Plain [' '])).append htime))
    simpa using this
  · exact says_known (by decide) hk
  · exact says_known (by decide) hk

def dhcpNames : List Text := ["dhcp-option".toList]

lemma says_dnsLine (hk : k ∉ dhcpNames) {dns : Text} (h : Raw fails dns) :
    ∀ t ∈ dnsLine dns, Says fails k [] t := by
  intro t ht
  obtain ⟨-, rfl⟩ := mem_piece.1 ht
  split_ifs
  · exact says_framed (by decide) hk h.behind
  · exact says_framed (by decide) hk h.behind

lemma says_dhcpLines (hk : k ∉ dhcpNames) (hp : ProfileFits fails p) :
    ∀ t ∈ p.dhcpLines, Says fails k [] t := by
  intro t ht
  unfold dhcpLines at ht
  split_ifs at ht
  · rcases List.mem_append.1 ht with ht | ht
    · rcases List.mem_append.1 ht with ht | ht
      · exact says_dnsLine hk hp.mDNS1 t ht
      · exact says_dnsLine hk hp.mDNS2 t ht
    · obtain ⟨-, rfl⟩ := mem_piece.1 ht
      exact says_framed (by decide) hk hp.mSearchDomain.behind
  · cases ht

def credentialNames : List Text :=
  ["auth-user-pass", "ca", "key", "cert", "pkcs12", "extra-certs", "management-external-key",
   "auth-retry"].map String.toList

lemma says_file {names : List Text} (hk : k ∉ names) {tag : Text} {file : Option Text}
    (ht : IsTag tag) (hn : IsName tag) (hm : optionAlias tag ∈ names)
    (h : FileFits fails tag file) : Says fails k [] (insertFileData tag file) :=
  says_insertFileData ht hn (ne_of_mem_of_not_mem hm hk) h

lemma says_embedded {names : List Text} (hk : k ∉ names) {tag content : Text} (ht : IsTag tag)
    (hm : optionAlias tag ∈ names) (he : Encloses tag content) (hr : '\r' ∉ content) :
    Says fails k [] (inlineBlock tag content) := by
  have : Says fails k _ _ := says_inlineBlock ht he hr
  rwa [if_neg (ne_of_mem_of_not_mem hm hk)] at this

lemma says_keychainLines (hk : k ∈ credentialNames → Silent pf p k) (hpf : PlatformFits fails k pf)
    (hv : pf.configForOvpn3 = false) {lines : List Text} (h : keychainLines pf p = .ok lines) :
    ∀ t ∈ lines, Says fails k [] t := by
  have hchain : hasChain pf = true → k ∉ ["extra-certs".toList] :=
    notMem_optional (by decide) hk Silent.extraCerts
  have hk := notMem_always hk
  have hcomment : Says fails k [] "### From Keystore ####\n".toList := says_known (by decide) hk
  unfold keychainLines at h
  split at h
  · next ca extra cert hks =>
    cases h
    obtain ⟨h1, h2, h3, h4, h5⟩ := hpf.keyStoreCertificates ca extra cert hks
    intro t ht
    simp only [List.mem_append, List.mem_cons, List.not_mem_nil, or_false] at ht
    rcases ht with ((rfl | rfl) | ht) | rfl | rfl
    · exact hcomment
    · exact says_embedded hk (by decide) (by decide) h1 h2
    · cases extra with
      | none => cases ht
      | some x =>
        obtain rfl := List.mem_singleton.1 ht
        exact says_embedded (hchain (by rw [hasChain, hks, hv]; rfl)) (by decide) (by decide)
          (h5 x rfl).1 (h5 x rfl).2
    · exact says_embedded hk (by decide) (by decide) h3 h4
    · exact says_known (by decide) hk
  · split_ifs at h
    · obtain ⟨mAlias, -, h⟩ := bind_eq_ok.1 h
      cases h
      intro t ht
      simp only [List.mem_append, List.mem_cons, List.not_mem_nil, or_false, mem_piece] at ht
      rcases ht with (rfl | rfl) | ⟨-, rfl⟩
      · exact hcomment
      · exact hpf.keychainAccess
      · exact hpf.jellyKeystoreAlphanumericBug
    · cases h
      intro t ht
      simp only [List.mem_cons, List.not_mem_nil, or_false] at ht
      rcases ht with rfl | rfl
      · exact hcomment
      · exact hpf.keychainAccess

lemma says_credentialLines (hk : k ∈ credentialNames → Silent pf p k) (hpf : PlatformFits fails k pf)
    (hp : ProfileFits fails p) {lines : List Text} (h : credentialLines pf p = .ok lines) :
    ∀ t ∈ lines, Says fails k [] t := by
  have hkeychain := @says_keychainLines fails k pf p hk hpf
  have hk := notMem_always hk
  have hca := says_file hk (by decide) (by decide) (by decide) hp.mCaFilename
  have hcerts : ∀ t ∈ [insertFileData "ca".toList p.mCaFilename,
      insertFileData "key".toList p.mClientKeyFilename,
      insertFileData "cert".toList p.mClientCertFilename], Says fails k [] t := by
    simp only [List.forall_mem_cons]
    exact ⟨hca, says_file hk (by decide) (by decide) (by decide) hp.mClientKeyFilename,
      says_file hk (by decide) (by decide) (by decide) hp.mClientCertFilename, by simp⟩
  have hpkcs : ∀ t ∈ [insertFileData "pkcs12".toList p.mPKCS12Filename], Says fails k [] t := by
    simp only [List.forall_mem_cons]
    exact ⟨says_file hk (by decide) (by decide) (by decide) hp.mPKCS12Filename, by simp⟩
  have hkeystore : ∀ {lines : List Text},
      (if pf.configForOvpn3 = true then .ok [] else keychainLines pf p) = .ok lines →
        ∀ t ∈ lines, Says fails k [] t := fun {lines} h => by
    split_ifs at h with hv
    · cases h
      simp
    · exact hkeychain (by simpa using hv) h
  unfold credentialLines at h
  cases ha : p.mAuthenticationType with
  | userpassCertificates | certificates => rw [ha] at h; cases h; exact hcerts
  | userpassPkcs12 | pkcs12 => rw [ha] at h; cases h; exact hpkcs
  | userpassKeystore | keystore => rw [ha] at h; exact hkeystore h
  | userpass =>
    rw [ha] at h
    cases h
    simpa using hca
  | statickeys => rw [ha] at h; cases h; simp

lemma says_authenticationLines (hk : k ∈ credentialNames → Silent pf p k) (hpf : PlatformFits fails k pf)
    (hp : ProfileFits fails p) {lines : List Text} (h : authenticationLines pf p = .ok lines) :
    ∀ t ∈ lines, Says fails k [] t := by
  obtain ⟨credentials, hc, h⟩ := bind_eq_ok.1 h
  cases h
  intro t ht
  simp only [List.mem_append, mem_piece] at ht
  rcases ht with (⟨-, rfl⟩ | ht) | ⟨hb, rfl⟩
  · exact says_known (by decide) (notMem_always hk)
  · exact says_credentialLines hk hpf hp hc t ht
  · -- no type with a password has the value of the constant
    unfold isUserPWAuth at hb
    cases ha : p.mAuthenticationType <;> rw [ha] at hb <;> exact absurd hb (by decide)

def tlsNames : List Text := ["secret", "tls-crypt", "tls-auth", "key-direction"].map String.toList

/-- The tag under which the key of the control channel is written. -/
def tlsEntry (p : VpnProfile) : Text :=
  if p.mAuthenticationType = .statickeys then "secret".toList
  else if p.mTLSAuthDirection = "tls-crypt".toList then "tls-crypt".toList
  else "tls-auth".toList

lemma tlsEntry_mem (p : VpnProfile) : tlsEntry p ∈ tlsTags := by
  unfold tlsEntry
  split_ifs <;> decide

lemma says_tlsAuthLines (hk : k ∉ tlsNames) (hp : ProfileFits fails p) :
    ∀ t ∈ p.tlsAuthLines, Says fails k [] t := by
  have htags : ∀ tag ∈ tlsTags, IsTag tag ∧ IsName tag ∧ optionAlias tag ∈ tlsNames := by decide
  have hfile : Says fails k [] (insertFileData (tlsEntry p) p.mTLSAuthFilename) := by
    obtain ⟨ht, hn, hm⟩ := htags _ (tlsEntry_mem p)
    exact says_insertFileData ht hn (ne_of_mem_of_not_mem hm hk)
      (hp.mTLSAuthFilename _ (tlsEntry_mem p))
  intro t ht
  unfold tlsAuthLines at ht
  by_cases hu : p.mUseTLSAuth = true
  · rw [if_pos hu] at ht
    simp only [List.mem_cons, mem_piece] at ht
    rcases ht with rfl | ⟨-, rfl⟩
    · exact hfile
    · exact says_framed (by decide) hk hp.mTLSAuthDirection.behind
  · rw [if_neg hu] at ht
    cases ht

def keyNames : List Text := ["crl-verify".toList, "comp-lzo".toList] ++ tlsNames

lemma says_keyLines (hk : k ∉ keyNames) (hp : ProfileFits fails p) :
    ∀ t ∈ p.keyLines, Says fails k [] t := by
  intro t ht
  unfold keyLines at ht
  simp only [List.mem_append, mem_piece] at ht
  rcases ht with (⟨-, rfl⟩ | ⟨-, rfl⟩) | ht
  · exact says_insertFileData (by decide) (by decide)
      (ne_of_mem_of_not_mem (by decide : _ ∈ keyNames) hk) hp.mCrlFilename
  · exact says_known (by decide) hk
  · exact says_tlsAuthLines (fun h => hk (List.mem_append_right _ h)) hp t ht

def addressNames : List Text := ["ifconfig".toList, "ifconfig-ipv6".toList]

lemma says_addressLines (hk : k ∈ addressNames → Silent pf p k) (hp : ProfileFits fails p) :
    ∀ t ∈ p.addressLines, Says fails k [] t := by
  have hipv6 : p.mIPv6Address.isSome = true → k ∉ ["ifconfig-ipv6".toList] :=
    notMem_optional (by decide) hk fun h he => by rw [h.ifconfigIpv6 he]; rfl
  have hk := notMem_always hk
  intro t ht
  unfold addressLines at ht
  split_ifs at ht
  · cases ht
  · rcases List.mem_append.1 ht with ht | ht
    · obtain ⟨a, ha, rfl⟩ := Option.map_eq_some_iff.1 (Option.mem_toList.1 ht)
      have ha := hp.mIPv4Address a (Option.filter_eq_some_iff.1 ha).1
      refine says_framed (by decide) hk ?_
      cases hc : cidrToIPAndNetmask a with
      | none => exact Plain.behind (by decide)
      | some t => exact behind_cidr ha hc
    · obtain ⟨a, ha, rfl⟩ := Option.map_eq_some_iff.1 (Option.mem_toList.1 ht)
      have ha := (Option.filter_eq_some_iff.1 ha).1
      exact says_framed (by decide) (hipv6 (by rw [ha]; rfl)) (hp.mIPv6Address a ha).behind

lemma mem_netmasks {routes : List Text} {t : Text} (h : t ∈ netmasks routes) :
    ∃ route ∈ routes, cidrToIPAndNetmask route = some t := by
  induction routes with
  | nil => cases h
  | cons route routes ih =>
    rw [netmasks] at h
    cases hc : cidrToIPAndNetmask route with
    | none => rw [hc] at h; cases h
    | some u =>
      rw [hc] at h
      rcases List.mem_cons.1 h with rfl | h
      · exact ⟨route, List.mem_cons_self, hc⟩
      · obtain ⟨r, hr, ht⟩ := ih h
        exact ⟨r, List.mem_cons_of_mem _ hr, ht⟩

/-- The lines of the IPv4 routes. -/
def ipv4RouteLines (p : VpnProfile) : List Text :=
  if p.mUseDefaultRoute then ["route 0.0.0.0 0.0.0.0 vpn_gateway\n".toList]
  else
    (getCustomRoutes p.mCustomRoutes).map
      (fun route => "route ".toList ++ route ++ " vpn_gateway\n".toList) ++
    (getCustomRoutes p.mExcludedRoutes).map
      (fun route => "route ".toList ++ route ++ " net_gateway\n".toList)

def otherRouteNames : List Text := ["route-nopull".toList, "route-ipv6".toList]

/-- The lines of the routes are those of the IPv4 routes and two kinds more. -/
lemma says_routeLines {ls : List (List Text)} (hk : k ∉ otherRouteNames)
    (hp : ProfileFits fails p) (h4 : Says fails k ls (ipv4RouteLines p).flatten) :
    Says fails k ls p.routeLines.flatten := by
  have hbefore : ∀ t ∈ piece (p.mUsePull && p.mRoutenopull) "route-nopull\n".toList ++
      piece p.mUseDefaultRoutev6 "route-ipv6 ::/0\n".toList, Says fails k [] t := by
    intro t ht
    simp only [List.mem_append, mem_piece] at ht
    rcases ht with ⟨-, rfl⟩ | ⟨-, rfl⟩
    · exact says_known (by decide) hk
    · exact says_known (by decide) hk
  have hbehind : ∀ t ∈ (if p.mUseDefaultRoutev6 = true then []
      else (getCustomRoutesv6 p.mCustomRoutesv6).map
        (fun route => "route-ipv6 ".toList ++ route ++ ['\n'])), Says fails k [] t := by
    intro t ht
    split_ifs at ht
    · cases ht
    · obtain ⟨route, hr, rfl⟩ := List.mem_map.1 ht
      exact says_framed (by decide) hk (hp.mCustomRoutesv6 route hr).behind
  unfold routeLines
  rw [List.flatten_append, List.flatten_append]
  exact ((Says.flatten hbefore).append_nil h4).nil_append (Says.flatten hbehind)

lemma says_ipv4RouteLines (hk : k ≠ "route".toList) (hp : ProfileFits fails p) :
    Says fails k [] (ipv4RouteLines p).flatten := by
  have hk : k ∉ ["route".toList] := by simpa using hk
  refine Says.flatten fun t ht => ?_
  unfold ipv4RouteLines at ht
  split_ifs at ht
  · obtain rfl := List.mem_singleton.1 ht
    exact says_known (by decide) hk
  · rcases List.mem_append.1 ht with ht | ht
    · obtain ⟨netmask, hn, rfl⟩ := List.mem_map.1 ht
      obtain ⟨route, hr, hc⟩ := mem_netmasks hn
      exact says_framed (by decide) hk (behind_cidr (hp.mCustomRoutes route hr) hc)
    · obtain ⟨netmask, hn, rfl⟩ := List.mem_map.1 ht
      obtain ⟨route, hr, hc⟩ := mem_netmasks hn
      exact says_framed (by decide) hk (behind_cidr (hp.mExcludedRoutes route hr) hc)

def linkNames : List Text := ["mssfix", "tun-mtu", "nobind"].map String.toList

lemma says_linkLines (hk : k ∈ linkNames → Silent pf p k) :
    ∀ t ∈ p.linkLines, Says fails k [] t := by
  have hmtu : (48 ≤ p.mTunMtu && p.mTunMtu ≠ 1500) = true → k ∉ ["tun-mtu".toList] :=
    notMem_optional (by decide) hk Silent.tunMtu
  have hk := notMem_always hk
  intro t ht
  unfold linkLines at ht
  simp only [List.mem_append, mem_piece] at ht
  rcases ht with (ht | ⟨hm, rfl⟩) | ⟨-, rfl⟩
  · split_ifs at ht
    · cases ht
    · obtain rfl := List.mem_singleton.1 ht
      exact says_known (by decide) hk
    · obtain rfl := List.mem_singleton.1 ht
      exact says_framed (by decide) hk (plain_showInt _).behind
  · exact says_framed (by decide) (hmtu hm) (plain_showInt _).behind
  · exact says_known (by decide) hk

def peerNames : List Text :=
  ["verify-x509-name", "compat-names", "tls-remote", "x509-username-field",
   "remote-cert-tls"].map String.toList

lemma says_nameLines (hk : k ∉ peerNames) (hp : ProfileFits fails p) {lines : List Text}
    (h : p.nameLines = .ok lines) : ∀ t ∈ lines, Says fails k [] t := by
  unfold nameLines at h
  split_ifs at h
  · obtain ⟨conn, hconn, h⟩ := bind_eq_ok.1 h
    cases h
    have hmem : conn ∈ p.mConnections := by
      unfold arrayGet at hconn
      split at hconn
      · next c hc =>
        cases hconn
        exact List.mem_of_getElem? hc
      · cases hconn
    have hname : Quoted fails conn.mServerName :=
      ⟨(hp.mConnections conn hmem).1.1.2, .inr (hp.mConnections conn hmem).1.1.1⟩
    intro t ht
    obtain rfl := List.mem_singleton.1 ht
    exact says_framed (by decide) hk hname.behind
  · cases h
    have hname := hp.mRemoteCN.behind
    intro t ht
    cases hx : p.mX509AuthType with
    | tlsremoteCompatNoremapping =>
      simp only [hx, List.mem_cons, List.not_mem_nil, or_false] at ht
      rcases ht with rfl | rfl
      · exact says_known (by decide) hk
      · exact says_framed (by decide) hk hname
    | tlsremote | tlsremoteDn =>
      simp only [hx, List.mem_cons, List.not_mem_nil, or_false] at ht
      exact ht ▸ says_framed (by decide) hk hname
    | tlsremoteRdn | tlsremoteRdnPrefix =>
      simp only [hx, List.mem_cons, List.not_mem_nil, or_false] at ht
      exact ht ▸ says_framed (by decide) hk hname

lemma says_peerLines (hk : k ∉ peerNames) (hp : ProfileFits fails p) {lines : List Text}
    (h : p.peerLines = .ok lines) : ∀ t ∈ lines, Says fails k [] t := by
  have hcert : ∀ t ∈ piece p.mExpectTLSCert "remote-cert-tls server\n".toList,
      Says fails k [] t := fun t ht => (mem_piece.1 ht).2 ▸ says_known (by decide) hk
  unfold peerLines at h
  split_ifs at h
  · cases h
    simp
  · obtain ⟨names, hn, h⟩ := bind_eq_ok.1 h
    cases h
    intro t ht
    rcases List.mem_append.1 ht with ht | ht
    · rcases List.mem_append.1 ht with ht | ht
      · exact says_nameLines hk hp hn t ht
      · obtain ⟨f, hf, rfl⟩ := Option.map_eq_some_iff.1 (Option.mem_toList.1 ht)
        exact says_framed (by decide) hk
          (hp.mx509UsernameField f (Option.filter_eq_some_iff.1 hf).1).behind
    · exact hcert t ht
  · cases h
    exact hcert

def settingNames : List Text :=
  ["cipher", "auth", "remote-random-hostname", "float", "persist-tun", "preresolve",
   "push-peer-info", "management-query-proxy"].map String.toList

lemma says_settingLines (hk : k ∈ settingNames → Silent pf p k) (hp : ProfileFits fails p) :
    ∀ t ∈ settingLines pf p, Says fails k [] t := by
  have hresolve : p.mPersistTun = true → k ∉ ["preresolve".toList] :=
    notMem_optional (by decide) hk Silent.preresolve
  have hk := notMem_always hk
  intro t ht
  simp only [settingLines, List.mem_append, mem_piece] at ht
  rcases ht with
    (((((⟨-, rfl⟩ | ⟨-, rfl⟩) | ⟨-, rfl⟩) | ⟨-, rfl⟩) | ⟨hb, rfl⟩) | ⟨-, rfl⟩) | ⟨-, rfl⟩
  · exact says_framed (by decide) hk hp.mCipher.behind
  · exact says_framed (by decide) hk hp.mAuth.behind
  · exact says_known (by decide) hk
  · exact says_known (by decide) hk
  · refine says_known (by decide : isAbout ["persist-tun".toList, "preresolve".toList] _) ?_
    have hpersist : k ≠ "persist-tun".toList := (ne_of_mem_of_not_mem (by decide) hk).symm
    exact List.not_mem_cons_of_ne_of_not_mem hpersist (hresolve hb)
  · exact says_known (by decide) hk
  · exact says_known (by decide) hk

/-! ### Connections -/

def remoteNames : List Text := ["remote".toList, "connect-timeout".toList]

lemma behind_remote {c : Connection} (h : Raw fails c.mServerName ∧ Raw fails c.mServerPort) :
    Behind fails (c.mServerName ++ ' ' :: c.mServerPort ++
      if c.mUseUdp then " udp".toList else " tcp-client".toList) := by
  refine (h.1.behind.append ((Plain.behind (by decide : Plain [' '])).append h.2.behind)).append ?_
  split_ifs
  · exact Plain.behind (by decide)
  · exact Plain.behind (by decide)

lemma remoteLine_eq (c : Connection) : c.remoteLine = "remote".toList ++ ' ' ::
    (c.mServerName ++ ' ' :: c.mServerPort ++
      if c.mUseUdp then " udp".toList else " tcp-client".toList) ++ ['\n'] := by
  unfold Connection.remoteLine
  split_ifs <;> simp

lemma says_remoteLine (hk : k ∉ remoteNames) {c : Connection}
    (h : Raw fails c.mServerName ∧ Raw fails c.mServerPort) : Says fails k [] c.remoteLine := by
  rw [remoteLine_eq]
  have hrest := behind_remote h
  have hname : IsName "remote".toList := by decide
  exact says_other hname.opens (ne_of_mem_of_not_mem (by decide : _ ∈ remoteNames) hk) hrest.1
    hrest.2

/-- What the timeout of a connection says. -/
lemma says_timeout (c : Connection) : Says fails k
    (if "connect-timeout".toList = k ∧ c.mConnectTimeout ≠ 0 then
      [["connect-timeout".toList, showInt c.mConnectTimeout]] else []) c.timeoutLine := by
  unfold Connection.timeoutLine
  by_cases h0 : c.mConnectTimeout = 0
  · rw [if_pos h0, if_neg fun h => h.2 h0]
    exact Says.nil
  · have hscan : scan (between ["connect-timeout".toList])
        (' ' :: showInt c.mConnectTimeout ++ ['\x00']) =
          .ok ["connect-timeout".toList, showInt c.mConnectTimeout] := by
      rw [List.cons_append, scan_blank (by decide), scan_word (isWord_showInt _) (by decide)]
      rfl
    have hrest : IsLine (' ' :: showInt c.mConnectTimeout) :=
      isLine_cons.2 ⟨by decide, by decide, (plain_showInt _).1⟩
    have hname : IsName "connect-timeout".toList := by decide
    have hline : Says fails k _ _ := says_args hname.opens hrest hscan
    have hl : IsLine ("connect-timeout".toList ++ ' ' :: ' ' :: showInt c.mConnectTimeout) := by
      rw [isLine_append, isLine_cons]
      exact ⟨by decide, by decide, by decide, hrest⟩
    have htext : " connect-timeout  ".toList ++ showInt c.mConnectTimeout ++ ['\n'] =
        ' ' :: ("connect-timeout".toList ++ ' ' :: ' ' :: showInt c.mConnectTimeout) ++ ['\n'] := by
      simp
    rw [if_neg h0, htext]
    simp only [h0, ne_eq, not_false_eq_true, and_true]
    exact Says.indent hl (not_accessServer (by decide) _) hline

lemma says_timeoutLine (hk : k ∉ remoteNames) (c : Connection) : Says fails k [] c.timeoutLine := by
  have h : Says fails k _ _ := says_timeout c
  have hne : "connect-timeout".toList ≠ k := ne_of_mem_of_not_mem (by decide) hk
  rwa [if_neg fun h => hne h.1] at h

/-- A connection says what its custom configuration does. -/
lemma says_connectionBlock {ls : List (List Text)} (hk : k ∉ remoteNames) {c : Connection}
    (h : Raw fails c.mServerName ∧ Raw fails c.mServerPort) (hc : Says fails k ls c.customLines) :
    Says fails k ls c.getConnectionBlock :=
  ((says_remoteLine hk h).append_nil (says_timeoutLine hk c)).append_nil hc

/-- What is written behind the remote, if there is only one. -/
def soleCustomLines (p : VpnProfile) : Text :=
  match p.mConnections with
  | [c] => c.customLines
  | _ => []

def remotesNames : List Text := "remote-random".toList :: remoteNames

lemma says_remoteLines {ls : List (List Text)} (hk : k ∉ remotesNames) (hp : ProfileFits fails p)
    (hc : Says fails k ls (soleCustomLines p)) : Says fails k ls p.remoteLines.flatten := by
  have hk' : k ∉ remoteNames := fun h => hk (List.mem_cons_of_mem _ h)
  unfold remoteLines
  unfold soleCustomLines at hc
  split
  · next c hconns =>
    rw [hconns] at hc
    have := says_connectionBlock hk' (hp.mConnections c (hconns ▸ List.mem_cons_self)) hc
    simpa using this
  · next hne =>
    have hnone : ls = [] := by
      split at hc
      · next c hconns => exact absurd hconns (hne c)
      · obtain ⟨es, he, hls⟩ | ⟨-, e, he⟩ := hc.reads
        · cases he
          exact hls.symm
        · cases he
    subst hnone
    refine Says.flatten fun t ht => ?_
    rcases List.mem_append.1 ht with ht | ht
    · exact (mem_piece.1 ht).2 ▸ says_known (by decide) hk
    · split_ifs at ht with hplain
      · obtain ⟨c, hc, rfl⟩ := List.mem_map.1 ht
        have hmem := (List.mem_filter.1 hc).1
        refine says_connectionBlock hk' (hp.mConnections c hmem) ?_
        have honly : c.isOnlyRemote = true := by
          unfold canUsePlainRemotes at hplain
          rw [Bool.or_eq_true, decide_eq_true_eq, List.all_eq_true] at hplain
          rcases hplain with hlen | hall
          · obtain ⟨d, hd⟩ := List.length_eq_one_iff.1 hlen
            exact absurd hd (hne d)
          · exact hall c hmem
        rw [Connection.customLines, if_pos honly]
        exact Says.nil
      · cases ht

lemma complete_connectionBlock {c : Connection} (hc : Complete c.customLines) :
    ∃ t, c.getConnectionBlock = t ++ ['\n'] := by
  have hremote : Complete c.remoteLine := by
    rw [remoteLine_eq]
    exact complete_newline _
  have hne : c.remoteLine ≠ [] := by
    rw [remoteLine_eq]
    exact List.append_ne_nil_of_right_ne_nil _ (List.cons_ne_nil _ _)
  have htimeout : Complete c.timeoutLine := (says_timeout c : Says False [] _ _).complete
  have h : Complete c.getConnectionBlock := (hremote.append htimeout).append hc
  rcases h with h | h
  · exact absurd (List.append_eq_nil_iff.1 (List.append_eq_nil_iff.1 h).1).1 hne
  · exact ⟨_, (List.dropLast_append_getLast? _ h).symm⟩

lemma enclose {o o' e e' n t : Text} (ho : o = o') (he : e = e' ++ n) (hn : n = ['\n']) :
    o ++ (t ++ ['\n']) ++ e = o' ++ t ++ n ++ e' ++ n := by
  simp [ho, he, hn]

/-- The block of a connection is read whole. -/
lemma says_block {c : Connection} {t : Text} (ht : c.getConnectionBlock = t ++ ['\n'])
    (he : Encloses "connection".toList t) (hr : '\r' ∉ t) : Says fails k
      (if "connection".toList = k then [["connection".toList, inlineTag ++ t]] else [])
      (connectionBlock c) := by
  have htext : connectionBlock c = inlineBlock "connection".toList t :=
    (congrArg (fun b => "<connection>\n".toList ++ b ++ "</connection>\n".toList) ht).trans
      (enclose (by decide) (by decide) (by decide))
  rw [htext]
  exact says_inlineBlock (by decide) he hr

/-- The blocks can be read. -/
def BlocksFit (p : VpnProfile) : Prop := ∀ c ∈ p.mConnections, ∃ t,
  c.getConnectionBlock = t ++ ['\n'] ∧ Encloses "connection".toList t ∧ '\r' ∉ t

lemma says_blocksComment : Says fails k [] blocksComment :=
  says_known (by decide +kernel : isAbout [] blocksComment) (by simp)

lemma says_blockLines (hk : k ≠ "connection".toList) (hb : BlocksFit p) :
    ∀ t ∈ p.blockLines, Says fails k [] t := by
  intro t ht
  unfold blockLines at ht
  split_ifs at ht
  · cases ht
  · rcases List.mem_cons.1 ht with hcomment | ht
    · rw [hcomment]
      exact says_blocksComment
    · obtain ⟨c, hc, rfl⟩ := List.mem_map.1 ht
      obtain ⟨u, hu, he, hr⟩ := hb c (List.mem_filter.1 hc).1
      have : Says fails k _ _ := says_block hu he hr
      rwa [if_neg (Ne.symm hk)] at this

lemma says_customLines {ls : List (List Text)}
    (hc : p.mUseCustomConfig = true → Says fails k ls p.mCustomConfigOptions)
    (hn : p.mUseCustomConfig = false → ls = []) : Says fails k ls p.customLines.flatten := by
  unfold customLines
  by_cases hu : p.mUseCustomConfig = true
  · rw [if_pos hu]
    have h1 : Says fails k [] "# Custom configuration options\n".toList :=
      says_known (by decide : isAbout [] _) (by simp)
    have h2 : Says fails k [] "# You are on your on own here :)\n".toList :=
      says_known (by decide : isAbout [] _) (by simp)
    have := h1.append_nil (h2.append_nil ((hc hu).nil_append says_blank))
    simpa using this
  · rw [if_neg hu, hn (by simpa using hu)]
    exact Says.nil

/-! ### The file -/

/-- The names of the sections that nothing of a configuration is asked for. -/
def fixedNames : List Text :=
  managementNames ++ clientNames ++ connectRetryNames ++ credentialNames ++ addressNames ++
    otherRouteNames ++ dhcpNames ++ linkNames ++ settingNames

/-- The first line, behind its first character. -/
def comment : Text := " Enables connection to GUI\n".toList

/-- The pieces of the file in front of the custom options. -/
def globalPieces (pf : Platform) (p : VpnProfile) : Call (List Text) := do
  let authentication ← authenticationLines pf p
  let peer ← p.peerLines
  return managementLines pf ++ p.clientLine ++ p.connectRetryLines ++ p.remoteLines ++
    authentication ++ p.keyLines ++ p.addressLines ++ p.routeLines ++ p.dhcpLines ++
    p.linkLines ++ peer ++ settingLines pf p

lemma getConfigFile_ok {t : Text} : p.getConfigFile pf = .ok t ↔
    ∃ pieces, globalPieces pf p = .ok pieces ∧
      t = pieces.flatten ++ p.customLines.flatten ++ p.blockLines.flatten := by
  unfold getConfigFile
  rw [map_eq_pure_bind]
  constructor
  · intro h
    obtain ⟨pieces, hpieces, h⟩ := bind_eq_ok.1 h
    obtain ⟨authentication, ha, hpieces⟩ := bind_eq_ok.1 hpieces
    obtain ⟨peer, hp, hpieces⟩ := bind_eq_ok.1 hpieces
    obtain rfl := Except.ok.inj hpieces
    obtain rfl := Except.ok.inj h
    refine ⟨_, bind_eq_ok.2 ⟨authentication, ha, bind_eq_ok.2 ⟨peer, hp, rfl⟩⟩, ?_⟩
    simp only [List.flatten_append]
  · rintro ⟨pieces, h, rfl⟩
    obtain ⟨authentication, ha, h⟩ := bind_eq_ok.1 h
    obtain ⟨peer, hp, h⟩ := bind_eq_ok.1 h
    obtain rfl := Except.ok.inj h
    refine bind_eq_ok.2 ⟨_, bind_eq_ok.2 ⟨authentication, ha, bind_eq_ok.2 ⟨peer, hp, rfl⟩⟩, ?_⟩
    simp only [List.flatten_append]
    rfl

/-- **The sections say** what they say, one after the other. -/
theorem says_globalPieces {remotes keys routes peer : List (List Text)}
    (hk : k ∈ fixedNames → Silent pf p k) (hpf : PlatformFits fails k pf) (hp : ProfileFits fails p)
    (hremotes : Says fails k remotes p.remoteLines.flatten)
    (hkeys : Says fails k keys p.keyLines.flatten)
    (hroutes : Says fails k routes (ipv4RouteLines p).flatten)
    (hpeer : ∀ lines, p.peerLines = .ok lines → Says fails k peer lines.flatten)
    {pieces : List Text} (h : globalPieces pf p = .ok pieces) :
    Says fails k (remotes ++ keys ++ routes ++ peer) pieces.flatten ∧
      ∀ t, Unmarked (pieces.flatten ++ t) := by
  have hnames : ∀ {names : List Text}, (∀ name ∈ names, name ∈ fixedNames) →
      k ∈ names → Silent pf p k := fun hsub hm => hk (hsub k hm)
  have hnot : ∀ {names : List Text}, (∀ name ∈ names, name ∈ fixedNames ∧ name ∉ optionalNames) →
      k ∉ names := fun hsub hm => (hsub k hm).2 (hk (hsub k hm).1).optional
  obtain ⟨authentication, hauth, h⟩ := bind_eq_ok.1 h
  obtain ⟨peerLines, hpl, h⟩ := bind_eq_ok.1 h
  obtain rfl := Except.ok.inj h
  refine ⟨?_, ?_⟩
  · simp only [List.flatten_append]
    have h1 := Says.flatten (@says_managementLines fails k pf p (hnames (by decide +kernel)) hpf)
    have h2 : Says fails k _ _ :=
      Says.flatten (@says_clientLine fails k p (hnot (by decide +kernel)))
    have h3 := Says.flatten (says_connectRetryLines (hnot (by decide +kernel)) hp)
    have h4 := Says.flatten (says_authenticationLines (hnames (by decide +kernel)) hpf hp hauth)
    have h5 := Says.flatten (says_addressLines (hnames (by decide +kernel)) hp)
    have h6 := says_routeLines (hnot (by decide +kernel)) hp hroutes
    have h7 := Says.flatten (says_dhcpLines (hnot (by decide +kernel)) hp)
    have h8 : Says fails k _ _ :=
      Says.flatten (@says_linkLines fails k pf p (hnames (by decide +kernel)))
    have h9 := Says.flatten (@says_settingLines fails k pf p (hnames (by decide +kernel)) hp)
    have := (((((((((((h1.append h2).append h3).append hremotes).append h4).append hkeys).append
      h5).append h6).append h7).append h8).append (hpeer _ hpl)).append h9)
    simpa only [List.nil_append, List.append_nil] using this
  · obtain ⟨rest, hrest⟩ : ∃ rest, managementLines pf = ('#' :: comment) :: rest := ⟨_, rfl⟩
    exact fun t => by simp [hrest, Unmarked]

/-- **The file says what its sections say.** -/
theorem says_getConfigFile {remotes keys routes peer custom blocks : List (List Text)}
    (hk : k ∉ fixedNames) (hpf : PlatformFits fails k pf) (hp : ProfileFits fails p)
    (hremotes : Says fails k remotes p.remoteLines.flatten)
    (hkeys : Says fails k keys p.keyLines.flatten)
    (hroutes : Says fails k routes (ipv4RouteLines p).flatten)
    (hpeer : ∀ lines, p.peerLines = .ok lines → Says fails k peer lines.flatten)
    (hcustom : Says fails k custom p.customLines.flatten)
    (hblocks : Says fails k blocks p.blockLines.flatten) {t : Text}
    (h : p.getConfigFile pf = .ok t) :
    Says fails k (remotes ++ keys ++ routes ++ peer ++ custom ++ blocks) t ∧ Unmarked t := by
  obtain ⟨pieces, hpieces, rfl⟩ := getConfigFile_ok.1 h
  obtain ⟨hread, hunmarked⟩ := says_globalPieces (fun hm => absurd hm hk) hpf hp hremotes hkeys
    hroutes hpeer hpieces
  refine ⟨(hread.append hcustom).append hblocks, ?_⟩
  rw [List.append_assoc]
  exact hunmarked _

end BuludTechVPN.FileReading
