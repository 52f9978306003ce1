import BuludTechVPN.ConnectionChecks

/-!
What each stage of the conversion does: the options that it takes out of the map, and how the
profile changes with their lines.
-/

namespace BuludTechVPN.ConvertProfile

open JavaLang ParseConfig VpnProfile ImportChecks Stages

/-- The names of the options that are taken, and what the profile may become. -/
structure Effect where
  names : List Text
  changes : Lines → VpnProfile → VpnProfile → Prop

def Does (f : Stage) (e : Effect) : Prop := ∀ s s', f s = .ok s' →
  s'.options = e.names.foldl Multimap.remove s.options ∧ e.changes (view s) s.np s'.np

/-- The effect of an option whose last line counts. -/
def lastEffect (option : Text) (changes : List Text → VpnProfile → VpnProfile → Prop) : Effect where
  names := [option]
  changes o np np' := match (o option).getLast? with
    | none => np' = np
    | some l => changes l np np'

/-- The effect of an option whose lines all count. -/
def allEffect (option : Text) (changes : List (List Text) → VpnProfile → VpnProfile → Prop) :
    Effect where
  names := [option]
  changes o np np' := if o option = [] then np' = np else changes (o option) np np'

def flagEffect (option : Text) (set : VpnProfile → VpnProfile) : Effect :=
  lastEffect option fun _ np np' => np' = set np

def argumentEffect (option : Text) (set : VpnProfile → Text → VpnProfile) : Effect :=
  lastEffect option fun l np np' => np' = set np (argument l 1)

/-! ### Families of stages -/

variable {option : Text} {minarg maxarg : ℕ}

lemma does_onOption {use : Import → List Text → Call Import}
    {changes : List Text → VpnProfile → VpnProfile → Prop}
    (h : ∀ s l s', l.length ≤ maxarg + 1 → use s l = .ok s' →
      s'.options = s.options ∧ changes l s.np s'.np) :
    Does (onOption option minarg maxarg use) (lastEffect option changes) := by
  intro s s' hs
  obtain ⟨harity, hs⟩ := getOption_bind_ok.1 hs
  show _ ∧ (match (s.options.get option).getLast? with
    | none => s'.np = s.np
    | some l => changes l s.np s'.np)
  cases hl : (s.options.get option).getLast? with
  | none =>
    rw [hl] at hs
    cases hs
    exact ⟨(Multimap.remove_eq_self (List.getLast?_eq_none_iff.1 hl)).symm, rfl⟩
  | some l =>
    rw [hl] at hs
    exact h _ l s' (arity_getLast? harity hl).2 hs

lemma does_onAllOption {use : Import → List (List Text) → Call Import}
    {changes : List (List Text) → VpnProfile → VpnProfile → Prop}
    (h : ∀ s lines s', use s lines = .ok s' →
      s'.options = s.options ∧ changes lines s.np s'.np) :
    Does (onAllOption option minarg maxarg use) (allEffect option changes) := by
  intro s s' hs
  obtain ⟨-, hs⟩ := getAllOption_bind_ok.1 hs
  show _ ∧ (if s.options.get option = [] then s'.np = s.np
    else changes (s.options.get option) s.np s'.np)
  cases hl : s.options.get option with
  | nil =>
    rw [hl] at hs
    cases hs
    exact ⟨(Multimap.remove_eq_self hl).symm, rfl⟩
  | cons l lines =>
    rw [hl] at hs
    exact h _ (l :: lines) s' hs

lemma does_onFlag {set : VpnProfile → VpnProfile} :
    Does (onFlag option minarg maxarg set) (flagEffect option set) :=
  does_onOption fun s l s' _ h => by
    cases h
    exact ⟨rfl, rfl⟩

lemma does_onArgument {set : VpnProfile → Text → VpnProfile} :
    Does (onArgument option set) (argumentEffect option set) :=
  does_onOption fun s l s' _ h => by
    obtain ⟨a, ha, h⟩ := bind_eq_ok.1 h
    cases h
    exact ⟨rfl, by rw [arrayGet_ok ha]⟩

/-! ### Stages with an effect of their own -/

def clientEffect : Effect where
  names := ["pull".toList, "client".toList]
  changes o np np' := np' =
    if o "client".toList ≠ [] ∨ o "pull".toList ≠ [] then { np with mUsePull := true } else np

lemma does_client : Does client clientEffect := by
  intro s s' h
  unfold client at h
  show _ ∧ s'.np = if s.options.get "client".toList ≠ [] ∨ s.options.get "pull".toList ≠ [] then _ else _
  split_ifs at h ⊢ with hc
  · cases h
    exact ⟨rfl, rfl⟩
  · cases h
    rw [not_or, not_not, not_not] at hc
    refine ⟨?_, rfl⟩
    show _ = (s.options.remove "pull".toList).remove "client".toList
    rw [Multimap.remove_eq_self hc.2, Multimap.remove_eq_self hc.1]

def secretEffect : Effect := lastEffect "secret".toList fun l np np' => np' = { np with
  mAuthenticationType := .statickeys
  mUseTLSAuth := true
  mTLSAuthFilename := some (argument l 1)
  mTLSAuthDirection := l[2]?.getD np.mTLSAuthDirection }

lemma does_secret : Does secret secretEffect :=
  does_onOption fun s l s' _ h => by
    obtain ⟨a, ha, h⟩ := bind_eq_ok.1 h
    cases h
    exact ⟨rfl, by rw [arrayGet_ok ha]⟩

def routeEffect : Effect := allEffect "route".toList fun lines np np' =>
  ∃ r, lines.foldlM addRoute ([], []) = .ok r ∧
    np' = { np with mCustomRoutes := some r.1, mExcludedRoutes := some r.2 }

lemma does_route : Does route routeEffect :=
  does_onAllOption fun s lines s' h => by
    obtain ⟨r, hr, h⟩ := bind_eq_ok.1 h
    cases h
    exact ⟨rfl, r, hr, rfl⟩

def routeIpv6Effect : Effect := allEffect "route-ipv6".toList fun lines np np' =>
  np' = { np with mCustomRoutesv6 := lines.flatMap (argument · 1 ++ [' ']) }

lemma mapM_arrayGet {lines : List (List Text)} {i : ℕ} {as : List Text}
    (h : lines.mapM (arrayGet · i) = .ok as) : as = lines.map (argument · i) := by
  have hall := mapM_eq_ok.1 h
  clear h
  induction hall with
  | nil => rfl
  | cons ha _ ih => rw [List.map_cons, ih, arrayGet_ok ha]

lemma does_routeIpv6 : Does routeIpv6 routeIpv6Effect :=
  does_onAllOption fun s lines s' h => by
    obtain ⟨nets, hn, h⟩ := bind_eq_ok.1 h
    cases h
    exact ⟨rfl, by rw [mapM_arrayGet hn, List.flatMap_map]⟩

def tlsAuthEffect : Effect := allEffect "tls-auth".toList fun lines np np' =>
  lines.foldlM tlsAuthLine np = .ok np'

lemma does_tlsAuth : Does tlsAuth tlsAuthEffect :=
  does_onAllOption fun s lines s' h => by
    obtain ⟨np, hn, h⟩ := bind_eq_ok.1 h
    cases h
    exact ⟨rfl, hn⟩

def redirectEffect (option : Text) (defaultRoute : Bool) : Effect :=
  allEffect option fun lines np np' => np' = checkRedirectParameters np lines defaultRoute

lemma does_redirectGateway :
    Does redirectGateway (redirectEffect "redirect-gateway".toList true) :=
  does_onAllOption fun s lines s' h => by
    cases h
    exact ⟨rfl, rfl⟩

lemma does_redirectPrivate :
    Does redirectPrivate (redirectEffect "redirect-private".toList false) :=
  does_onAllOption fun s lines s' h => by
    cases h
    exact ⟨rfl, rfl⟩

/-- The options are only checked. -/
def checkEffect (names : List Text) : Effect := ⟨names, fun _ np np' => np' = np⟩

lemma does_dev : Does dev (checkEffect ["dev".toList, "dev-type".toList]) := by
  intro s s' h
  obtain ⟨-, h⟩ := getOption_bind_ok.1 h
  obtain ⟨-, h⟩ := getOption_bind_ok.1 h
  obtain ⟨b, -, h⟩ := bind_eq_ok.1 h
  split at h
  · cases h
    exact ⟨rfl, rfl⟩
  · cases h

def mssfixEffect : Effect := lastEffect "mssfix".toList fun _ np np' =>
  ∃ n, np' = { np with mMssFix := n }

lemma does_mssfix : Does mssfix mssfixEffect :=
  does_onOption fun s l s' _ h => by
    revert h
    rcases l[1]? with _ | arg <;> intro h
    · cases h
      exact ⟨rfl, _, rfl⟩
    · obtain ⟨n, -, h⟩ := bind_eq_ok.1 h
      cases h
      exact ⟨rfl, _, rfl⟩

def mtuEffect : Effect := lastEffect "mtu".toList fun _ np np' =>
  ∃ n, np' = { np with mTunMtu := n }

lemma does_mtu : Does mtu mtuEffect :=
  does_onOption fun s _ s' _ h => by
    obtain ⟨arg, -, h⟩ := bind_eq_ok.1 h
    obtain ⟨n, -, h⟩ := bind_eq_ok.1 h
    cases h
    exact ⟨rfl, _, rfl⟩

def modeEffect : Effect := lastEffect "mode".toList fun _ np np' => np' = np

lemma does_mode : Does mode modeEffect :=
  does_onOption fun s _ s' _ h => by
    obtain ⟨arg, -, h⟩ := bind_eq_ok.1 h
    split_ifs at h
    cases h
    exact ⟨rfl, rfl⟩

def dhcpEffect : Effect := allEffect "dhcp-option".toList fun lines np np' =>
  lines.foldlM dhcpLine np = .ok np'

lemma does_dhcpOption : Does dhcpOption dhcpEffect :=
  does_onAllOption fun s lines s' h => by
    obtain ⟨np, hn, h⟩ := bind_eq_ok.1 h
    cases h
    exact ⟨rfl, hn⟩

def ifconfigEffect : Effect := lastEffect "ifconfig".toList fun l np np' =>
  ∃ c : Cidr.CIDRIP, c.mIp = argument l 1 ∧ np' = { np with mIPv4Address := some c.toString }

lemma does_ifconfig : Does ifconfig ifconfigEffect :=
  does_onOption fun s l s' _ h => by
    obtain ⟨ip, hip, h⟩ := bind_eq_ok.1 h
    obtain ⟨mask, -, h⟩ := bind_eq_ok.1 h
    obtain ⟨c, hc, h⟩ := bind_eq_ok.1 h
    cases h
    refine ⟨rfl, c, ?_, rfl⟩
    unfold ifconfigCidr at hc
    split at hc
    · cases hc
    · rw [Cidr.ofMask_mIp hc, arrayGet_ok hip]

def certEffect : Effect := lastEffect "cert".toList fun l np np' => np' = { np with
  mClientCertFilename := some (argument l 1)
  mAuthenticationType := .certificates }

lemma does_cert : Does cert certEffect :=
  does_onOption fun s l s' _ h => by
    obtain ⟨a, ha, h⟩ := bind_eq_ok.1 h
    cases h
    exact ⟨rfl, by rw [arrayGet_ok ha]⟩

def pkcs12Effect : Effect := lastEffect "pkcs12".toList fun l np np' => np' = { np with
  mPKCS12Filename := some (argument l 1)
  mAuthenticationType := .keystore }

lemma does_pkcs12 : Does pkcs12 pkcs12Effect :=
  does_onOption fun s l s' _ h => by
    obtain ⟨a, ha, h⟩ := bind_eq_ok.1 h
    cases h
    exact ⟨rfl, by rw [arrayGet_ok ha]⟩

def cryptoapicertEffect : Effect := lastEffect "cryptoapicert".toList fun _ np np' =>
  np' = { np with mAuthenticationType := .keystore }

lemma does_cryptoapicert : Does cryptoapicert cryptoapicertEffect :=
  does_onOption fun s l s' _ h => by
    cases h
    exact ⟨rfl, rfl⟩

def tlsRemoteEffect : Effect where
  names := ["compat-names".toList, "no-name-remapping".toList, "tls-remote".toList]
  changes o np np' := match (o "tls-remote".toList).getLast? with
    | none => np' = np
    | some l => np' = { np with
        mRemoteCN := argument l 1
        mCheckRemoteCN := true
        mX509AuthType :=
          if (o "compat-names".toList).getLast?.any (2 < ·.length) ||
              (o "no-name-remapping".toList).getLast?.isSome then .tlsremoteCompatNoremapping
          else .tlsremote }

lemma does_tlsRemote : Does tlsRemote tlsRemoteEffect := by
  intro s s' h
  obtain ⟨-, h⟩ := getOption_bind_ok.1 h
  obtain ⟨-, h⟩ := getOption_bind_ok.1 h
  obtain ⟨-, h⟩ := getOption_bind_ok.1 h
  have hremap : (s.options.remove "compat-names".toList).get "no-name-remapping".toList =
      s.options.get "no-name-remapping".toList := Multimap.get_remove_of_ne (by decide)
  have hremote : ((s.options.remove "compat-names".toList).remove
      "no-name-remapping".toList).get "tls-remote".toList = s.options.get "tls-remote".toList := by
    rw [Multimap.get_remove_of_ne (by decide), Multimap.get_remove_of_ne (by decide)]
  rw [hremap, hremote] at h
  show _ ∧ (match (s.options.get "tls-remote".toList).getLast? with | none => _ | some l => _)
  dsimp only at h
  cases hl : (s.options.get "tls-remote".toList).getLast? with
  | none =>
    rw [hl] at h
    cases h
    exact ⟨rfl, rfl⟩
  | some l =>
    rw [hl] at h
    obtain ⟨a, ha, h⟩ := bind_eq_ok.1 h
    cases h
    exact ⟨rfl, by rw [arrayGet_ok ha]; rfl⟩

def verifyX509NameEffect : Effect := lastEffect "verify-x509-name".toList fun l np np' =>
  ∃ t, x509Type l[2]? = .ok t ∧
    np' = { np with mRemoteCN := argument l 1, mCheckRemoteCN := true, mX509AuthType := t }

lemma does_verifyX509Name : Does verifyX509Name verifyX509NameEffect :=
  does_onOption fun s l s' _ h => by
    obtain ⟨a, ha, h⟩ := bind_eq_ok.1 h
    obtain ⟨t, ht, h⟩ := bind_eq_ok.1 h
    cases h
    exact ⟨rfl, t, ht, by rw [arrayGet_ok ha]⟩

def connectRetryEffect : Effect := lastEffect "connect-retry".toList fun l np np' =>
  np' = { np with
    mConnectRetry := argument l 1
    mConnectRetryMaxTime := l[2]?.getD np.mConnectRetryMaxTime }

lemma does_connectRetry : Does connectRetry connectRetryEffect :=
  does_onOption fun s l s' _ h => by
    obtain ⟨a, ha, h⟩ := bind_eq_ok.1 h
    cases h
    exact ⟨rfl, by rw [arrayGet_ok ha]⟩

def authUserPassEffect : Effect := lastEffect "auth-user-pass".toList fun l np np' =>
  ∃ type, np' = match l[1]? with
    | none => { np with mAuthenticationType := type }
    | some file => useEmbbedUserAuth { np with mAuthenticationType := type, mUsername := none } file

lemma does_authUserPass : Does authUserPass authUserPassEffect :=
  does_onOption fun s l s' _ h => by
    dsimp only at h
    cases hl : l[1]? with
    | none =>
      rw [hl] at h
      cases h
      exact ⟨rfl, _, rfl⟩
    | some file =>
      rw [hl] at h
      cases h
      exact ⟨rfl, _, rfl⟩

def authRetryEffect : Effect := lastEffect "auth-retry".toList fun _ np np' =>
  ∃ r, np' = { np with mAuthRetry := r }

lemma does_authRetry : Does authRetry authRetryEffect :=
  does_onOption fun s _ s' _ h => by
    obtain ⟨arg, -, h⟩ := bind_eq_ok.1 h
    split_ifs at h
    · cases h
      exact ⟨rfl, _, rfl⟩
    · cases h
      exact ⟨rfl, _, rfl⟩
    · obtain ⟨_, -, h⟩ := bind_eq_ok.1 h
      cases h

def crlVerifyEffect : Effect := lastEffect "crl-verify".toList fun l np np' =>
  l.length ≤ 3 ∧ np' = if l[2]? = some "dir".toList then
      { np with mCustomConfigOptions := np.mCustomConfigOptions ++ join [' '] l ++ ['\n'] }
    else { np with mCrlFilename := some (argument l 1) }

lemma does_crlVerify : Does crlVerify crlVerifyEffect :=
  does_onOption fun s l s' hlen h => by
    dsimp only at h
    split_ifs at h ⊢ with hd
    · cases h
      exact ⟨rfl, hlen, rfl⟩
    · obtain ⟨a, ha, h⟩ := bind_eq_ok.1 h
      cases h
      exact ⟨rfl, hlen, by rw [arrayGet_ok ha]⟩

def protoForceEffect : Effect := lastEffect "proto-force".toList fun _ np np' =>
  ∃ disableUDP, np' = { np with mConnections := np.mConnections.map (disableProto disableUDP) }

lemma does_protoForce : Does protoForce protoForceEffect :=
  does_onOption fun s l s' _ h => by
    obtain ⟨arg, -, h⟩ := bind_eq_ok.1 h
    obtain ⟨b, -, h⟩ := bind_eq_ok.1 h
    cases h
    exact ⟨rfl, b, rfl⟩

def accessServerEffect : Effect where
  names := []
  changes _ np np' := ∃ mName mUsername, np' = { np with mName := mName, mUsername := mUsername }

lemma does_accessServerExtra (metaOptions : Multimap Text (List Text)) :
    Does (accessServerExtra metaOptions) accessServerEffect := fun s s' h => by
  cases h
  exact ⟨rfl, _, _, rfl⟩

/-- What `remote-cert-tls` does; lines that are kept stand under another name. -/
def remoteCertTlsOf (s : Import) : Import :=
  match view s "remote-cert-tls".toList with
  | [] => s
  | l :: lines =>
    if argument l 1 = "server".toList then
      { s with
        options := s.options.remove "remote-cert-tls".toList
        np := { s.np with mExpectTLSCert := true } }
    else
      { s with options :=
          (s.options.remove "remote-cert-tls".toList).put "remotetls".toList (l :: lines) }

lemma remoteCertTls_ok {s s' : Import} (h : remoteCertTls s = .ok s') : s' = remoteCertTlsOf s := by
  obtain ⟨-, h⟩ := getAllOption_bind_ok.1 h
  rw [remoteCertTlsOf, view]
  cases hl : s.options.get "remote-cert-tls".toList with
  | nil =>
    rw [hl] at h
    cases h
    rfl
  | cons l lines =>
    rw [hl] at h
    obtain ⟨l', hl', h⟩ := bind_eq_ok.1 h
    cases hl'
    obtain ⟨arg, harg, h⟩ := bind_eq_ok.1 h
    rw [arrayGet_ok harg] at h
    dsimp only
    split_ifs at h ⊢ with hs
    · cases h
      rfl
    · cases h
      rfl

end BuludTechVPN.ConvertProfile
