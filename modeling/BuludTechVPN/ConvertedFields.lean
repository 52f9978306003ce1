import BuludTechVPN.ConvertedConnections
import BuludTechVPN.StageEffects

/-!
The fields of a converted profile can be written, if the options that they come from can.
-/

namespace BuludTechVPN.FileReading

open JavaLang LineParser ParseConfig VpnProfile ConvertProfile ImportChecks Stages

variable {fails : Prop}

/-! ### Options -/

/-- A file that may be the key of the control channel. -/
def KeyFits (fails : Prop) (file : Text) : Prop := ∀ tag ∈ tlsTags, FileFits fails tag (some file)

/-- The options whose arguments are written as they are. -/
def rawNames : List Text :=
  ["key-direction", "cipher", "auth", "connect-retry", "connect-retry-max"].map String.toList

/-- Those whose argument is written between quotes. -/
def quotedNames : List Text :=
  ["tls-remote", "verify-x509-name", "x509-username-field"].map String.toList

/-- Those whose file is written under the name of the option. -/
def storedNames : List Text := ["ca", "cert", "key", "pkcs12"].map String.toList

/-- The options that are converted, or looked at. -/
def convertedNames : List Text :=
  ["pull", "client", "secret", "route", "route-ipv6", "route-nopull", "tls-auth", "key-direction",
   "tls-crypt", "redirect-gateway", "redirect-private", "dev", "dev-type", "mssfix", "mtu", "mode",
   "dhcp-option", "ifconfig", "remote-random-hostname", "float", "comp-lzo", "cipher", "auth", "ca",
   "cert", "key", "pkcs12", "cryptoapicert", "compat-names", "no-name-remapping", "tls-remote",
   "verify-x509-name", "x509-username-field", "verb", "nobind", "persist-tun", "push-peer-info",
   "connect-retry", "connect-retry-max", "remote-cert-tls", "auth-user-pass", "auth-retry",
   "crl-verify", "port", "rport", "proto", "connect-timeout", "remote", "connection",
   "remote-random", "proto-force"].map String.toList

/-- The name under which the lines of `remote-cert-tls` are kept. -/
def remotetls : Text := "remotetls".toList

/-- What the conversion stores of the options can be written. -/
structure OptionsFit (fails : Prop) (o : Lines) : Prop extends ConnectionsFit fails o where
  raw : ∀ name ∈ rawNames, ∀ l ∈ (o name).getLast?,
    Raw fails (argument l 1) ∧ Raw fails (argument l 2)
  quoted : ∀ name ∈ quotedNames, ∀ l ∈ (o name).getLast?, Quoted fails (argument l 1)
  stored : ∀ name ∈ storedNames, ∀ l ∈ (o name).getLast?,
    FileFits fails name (some (argument l 1))
  secret : ∀ l ∈ (o "secret".toList).getLast?,
    KeyFits fails (argument l 1) ∧ Raw fails (argument l 2)
  tlsCrypt : ∀ l ∈ (o "tls-crypt".toList).getLast?, KeyFits fails (argument l 1)
  tlsAuth : ∀ l ∈ o "tls-auth".toList, Raw fails (argument l 2) ∧
    (argument l 1 ≠ "[inline]".toList → KeyFits fails (argument l 1))
  crlVerify : ∀ l ∈ (o "crl-verify".toList).getLast?,
    if l[2]? = some "dir".toList then Raw fails (argument l 1)
    else FileFits fails "crl-verify".toList (some (argument l 1))
  ifconfig : ∀ l ∈ (o "ifconfig".toList).getLast?, Raw fails (argument l 1)
  dhcpOption : ∀ l ∈ o "dhcp-option".toList,
    argument l 1 = "DOMAIN".toList ∨ argument l 1 = "DNS".toList → Raw fails (argument l 2)
  route : ∀ l ∈ o "route".toList, Spaced fails (argument l 1)
  routeIpv6 : ∀ l ∈ o "route-ipv6".toList, Spaced fails (argument l 1)
  remoteCertTls : (∀ l ∈ (o "remote-cert-tls".toList).head?, argument l 1 ≠ "server".toList) →
    ∀ l ∈ o "remote-cert-tls".toList, LineFits fails l
  other : ∀ name ∉ convertedNames ++ ignoreOptions, ∀ l ∈ o name, LineFits fails l

/-- Options that are not there fit. -/
lemma OptionsFit.of_le {o o' : Lines} (h : OptionsFit fails o)
    (hle : ∀ name ≠ remotetls, o' name = o name ∨ o' name = [])
    (hr : ∀ l ∈ o' remotetls, LineFits fails l) : OptionsFit fails o' := by
  have hlast : ∀ {name : Text} {P : List Text → Prop}, name ≠ remotetls →
      (∀ l ∈ (o name).getLast?, P l) → ∀ l ∈ (o' name).getLast?, P l := by
    intro name P hne hP l hl
    rcases hle name hne with he | he
    · exact hP l (he ▸ hl)
    · rw [he] at hl
      cases hl
  have hall : ∀ {name : Text} {P : List Text → Prop}, name ≠ remotetls →
      (∀ l ∈ o name, P l) → ∀ l ∈ o' name, P l := by
    intro name P hne hP l hl
    rcases hle name hne with he | he
    · exact hP l (he ▸ hl)
    · rw [he] at hl
      cases hl
  exact {
    port := hlast (by decide) h.port
    rport := hlast (by decide) h.rport
    remote := hall (by decide) h.remote
    connection := hall (by decide) h.connection
    raw := fun name hn => hlast (ne_of_mem_of_not_mem hn (by decide)) (h.raw name hn)
    quoted := fun name hn => hlast (ne_of_mem_of_not_mem hn (by decide)) (h.quoted name hn)
    stored := fun name hn => hlast (ne_of_mem_of_not_mem hn (by decide)) (h.stored name hn)
    secret := hlast (by decide) h.secret
    tlsCrypt := hlast (by decide) h.tlsCrypt
    tlsAuth := hall (by decide) h.tlsAuth
    crlVerify := hlast (by decide) h.crlVerify
    ifconfig := hlast (by decide) h.ifconfig
    dhcpOption := hall (by decide) h.dhcpOption
    route := hall (by decide) h.route
    routeIpv6 := hall (by decide) h.routeIpv6
    remoteCertTls := by
      rcases hle "remote-cert-tls".toList (by decide) with he | he
      · rw [he]
        exact h.remoteCertTls
      · rw [he]
        simp
    other := fun name hn => by
      by_cases hne : name = remotetls
      · exact hne ▸ hr
      · exact hall hne (h.other name hn) }

/-! ### Fields -/

/-- What is noted beside the fields that are written: the texts of the routes, whether a default
route is asked for, and whether the names to be checked are names. -/
structure Notes where
  mCustomRoutes : Option Text
  mExcludedRoutes : Option Text
  redirected : Prop
  named : Prop

/-- A name that the conversion does not take for one that is missing. -/
def IsRealName (name : Text) : Prop := name ≠ [] ∧ name ≠ "unknown".toList

/-- The fields of the profile can be written, and are as it is noted. -/
structure Fields (fails : Prop) (n : Notes) (np : VpnProfile) : Prop extends
    ProfileFits fails np where
  custom : ∀ k ≠ "crl-verify".toList, Says fails k [] np.mCustomConfigOptions
  routes : np.mCustomRoutes = n.mCustomRoutes
  excluded : np.mExcludedRoutes = n.mExcludedRoutes
  redirected : np.mUseDefaultRoute = true → n.redirected
  named : n.named → np.mCheckRemoteCN = true → IsRealName np.mRemoteCN
  mServerName : np.mServerName = "unknown".toList

/-- What the notes say of the options. -/
structure Noted (n : Notes) (o : Lines) : Prop where
  redirected : o "redirect-gateway".toList ≠ [] → n.redirected
  named : n.named → ∀ name ∈ ["tls-remote".toList, "verify-x509-name".toList],
    ∀ l ∈ (o name).getLast?, IsRealName (argument l 1)

/-- Every option stands under its name, or is kept under another. -/
def Keyed (o : Lines) : Prop := ∀ name, ∀ l ∈ o name, ∃ arg0 args, l = arg0 :: args ∧
  (optionAlias arg0 = name ∨ name = remotetls ∧ arg0 = "remote-cert-tls".toList)

/-- The state of a conversion that goes well. -/
structure Fitting (fails : Prop) (n : Notes) (o : Lines) (np : VpnProfile) : Prop where
  options : OptionsFit fails o
  noted : Noted n o
  keyed : Keyed o
  fields : Fields fails n np

lemma get_foldl_remove_cases (o : Options) (names : List Text) (k : Text) :
    (names.foldl Multimap.remove o).get k = o.get k ∨
      (names.foldl Multimap.remove o).get k = [] := by
  rw [Multimap.get_foldl_remove]
  split_ifs
  · exact .inr rfl
  · exact .inl rfl

variable {n : Notes} {names : List Text} {f : Stage}

/-- Options that are gone change nothing of it. -/
lemma Fitting.remove {o : Options} {np : VpnProfile} (h : Fitting fails n o.get np)
    (names : List Text) : Fitting fails n (names.foldl Multimap.remove o).get np where
  options := by
    refine h.options.of_le (fun name _ => get_foldl_remove_cases o names name) fun l hl => ?_
    rcases get_foldl_remove_cases o names remotetls with he | he
    · exact h.options.other remotetls (by decide) l (he ▸ hl)
    · rw [he] at hl
      cases hl
  noted := by
    constructor
    · intro hne
      rcases get_foldl_remove_cases o names "redirect-gateway".toList with he | he
      · exact h.noted.redirected (he ▸ hne)
      · exact absurd he hne
    · intro hn name hm l hl
      rcases get_foldl_remove_cases o names name with he | he
      · exact h.noted.named hn name hm l (he ▸ hl)
      · rw [he] at hl
        cases hl
  keyed name l hl := by
    rcases get_foldl_remove_cases o names name with he | he
    · exact h.keyed name l (he ▸ hl)
    · rw [he] at hl
      cases hl
  fields := h.fields

/-- A stage takes its options out of the map and stores what can be written. -/
def Keeps (fails : Prop) (n : Notes) (f : Stage) (names : List Text) : Prop :=
  ∀ s s', Fitting fails n (view s) s.np → f s = .ok s' →
    s'.options = names.foldl Multimap.remove s.options ∧ Fitting fails n (view s') s'.np

lemma keeps_of_does {e : Effect} (h : Does f e)
    (hk : ∀ o np np', Fitting fails n o np → e.changes o np np' → Fields fails n np') :
    Keeps fails n f e.names := by
  intro s s' hs hf
  obtain ⟨ho, hc⟩ := h s s' hf
  refine ⟨ho, ?_⟩
  have := hs.remove e.names
  rw [view, ho]
  exact { this with fields := hk _ _ _ hs hc }

lemma keeps_last {option : Text} {changes : List Text → VpnProfile → VpnProfile → Prop}
    (h : Does f (lastEffect option changes))
    (hk : ∀ o np np' l, Fitting fails n o np → l ∈ (o option).getLast? → changes l np np' →
      Fields fails n np') : Keeps fails n f [option] :=
  keeps_of_does h fun o np np' hs hc => by
    cases hl : (o option).getLast? with
    | none =>
      simp only [lastEffect, hl] at hc
      cases hc
      exact hs.fields
    | some l =>
      simp only [lastEffect, hl] at hc
      exact hk o np np' l hs hl hc

lemma keeps_all {option : Text} {changes : List (List Text) → VpnProfile → VpnProfile → Prop}
    (h : Does f (allEffect option changes))
    (hk : ∀ o np np', Fitting fails n o np → o option ≠ [] → changes (o option) np np' →
      Fields fails n np') : Keeps fails n f [option] :=
  keeps_of_does h fun o np np' hs hc => by
    change (if o option = [] then _ else _) at hc
    split_ifs at hc with ho
    · cases hc
      exact hs.fields
    · exact hk o np np' hs ho hc

lemma keeps_flag {option : Text} {minarg maxarg : ℕ} {set : VpnProfile → VpnProfile}
    (hk : ∀ np, Fields fails n np → Fields fails n (set np)) :
    Keeps fails n (onFlag option minarg maxarg set) [option] :=
  keeps_last does_onFlag fun o np np' l hs _ hc => by
    cases hc
    exact hk np hs.fields

lemma keeps_argument {option : Text} {set : VpnProfile → Text → VpnProfile}
    (hk : ∀ o np l, Fitting fails n o np → l ∈ (o option).getLast? →
      Fields fails n (set np (argument l 1))) : Keeps fails n (onArgument option set) [option] :=
  keeps_last does_onArgument fun o np np' l hs hl hc => by
    cases hc
    exact hk o np l hs hl

/-! ### Stages -/

lemma keeps_client : Keeps fails n client ["pull".toList, "client".toList] :=
  keeps_of_does does_client fun o np np' hs hc => by
    cases hc
    split_ifs
    · exact { hs.fields with }
    · exact hs.fields

lemma Raw.nil : Raw fails [] := ⟨isLine_nil, .inr List.not_mem_nil⟩

lemma raw_getD {t : Text} {l : List Text} {i : ℕ} (ht : Raw fails t)
    (hl : Raw fails (argument l i)) : Raw fails (l[i]?.getD t) := by
  unfold argument at hl
  cases h : l[i]? with
  | none => exact ht
  | some a =>
    rw [h] at hl
    exact hl

lemma keeps_secret : Keeps fails n secret ["secret".toList] :=
  keeps_last does_secret fun o np np' l hs hl hc => by
    cases hc
    obtain ⟨hkey, hraw⟩ := hs.options.secret l hl
    exact { hs.fields with
      mTLSAuthFilename := hkey
      mTLSAuthDirection := raw_getD hs.fields.mTLSAuthDirection hraw }

lemma spaced_addRoute {lines : List (List Text)} {acc r : Text × Text}
    (hl : ∀ l ∈ lines, Spaced fails (argument l 1)) (ha : Spaced fails acc.1 ∧ Spaced fails acc.2)
    (h : lines.foldlM addRoute acc = .ok r) : Spaced fails r.1 ∧ Spaced fails r.2 := by
  refine foldlM_keeps (P := fun acc => Spaced fails acc.1 ∧ Spaced fails acc.2) ?_ ha h
  intro acc l hm acc' hacc hr
  obtain ⟨net, hnet, hr⟩ := bind_eq_ok.1 hr
  obtain ⟨cidr, hcidr, hr⟩ := bind_eq_ok.1 hr
  have hip : Spaced fails cidr.mIp := by
    unfold routeCidr at hcidr
    split at hcidr
    · cases hcidr
    · cases hcidr
    · rw [Cidr.ofMask_mIp hcidr, arrayGet_ok hnet]
      exact hl l hm
  have htext : Spaced fails (cidr.toString ++ [' ']) :=
    (hip.append (Raw.append (raw_known (by decide : IsLine ['/'] ∧ _)) (raw_showInt _)).spaced).append
      (raw_known (by decide)).spaced
  split_ifs at hr
  · cases hr
    refine ⟨hacc.1, ?_⟩
    rw [List.append_assoc]
    exact hacc.2.append htext
  · cases hr
    refine ⟨?_, hacc.2⟩
    rw [List.append_assoc]
    exact hacc.1.append htext

/-- The routes are noted anew. -/
lemma fitting_route {s s' : Import} (hs : Fitting fails n (view s) s.np) (h : route s = .ok s') :
    s'.options = s.options.remove "route".toList ∧
      Fitting fails { n with
        mCustomRoutes := s'.np.mCustomRoutes
        mExcludedRoutes := s'.np.mExcludedRoutes } (view s') s'.np := by
  obtain ⟨ho, hc⟩ := does_route s s' h
  refine ⟨ho, ?_⟩
  have hrest := hs.remove ["route".toList]
  rw [view, ho]
  refine { hrest with noted := ⟨hrest.noted.redirected, hrest.noted.named⟩, fields := ?_ }
  change (if view s "route".toList = [] then _ else _) at hc
  split_ifs at hc
  · rw [hc]
    exact { hs.fields with routes := rfl, excluded := rfl }
  · obtain ⟨r, hr, hc⟩ := hc
    have hsp := spaced_addRoute hs.options.route
      ⟨(raw_known (by decide)).spaced, (raw_known (by decide)).spaced⟩ hr
    rw [hc]
    exact { hs.fields with
      routes := rfl
      excluded := rfl
      mCustomRoutes := hsp.1.words
      mExcludedRoutes := hsp.2.words }

lemma keeps_routeIpv6 : Keeps fails n routeIpv6 ["route-ipv6".toList] :=
  keeps_all does_routeIpv6 fun o np np' hs _ hc => by
    cases hc
    have hsp : ∀ lines : List (List Text), (∀ l ∈ lines, Spaced fails (argument l 1)) →
        Spaced fails (lines.flatMap (argument · 1 ++ [' '])) := by
      intro lines h
      induction lines with
      | nil => exact (raw_known (by decide)).spaced
      | cons l lines ih =>
        rw [List.forall_mem_cons] at h
        rw [List.flatMap_cons]
        exact (h.1.append (raw_known (by decide)).spaced).append (ih h.2)
    exact { hs.fields with mCustomRoutesv6 := (hsp _ hs.options.routeIpv6).words }

lemma keeps_routeNopull : Keeps fails n routeNopull ["route-nopull".toList] :=
  keeps_flag fun _ h => { h with }

lemma keeps_tlsAuth : Keeps fails n tlsAuth ["tls-auth".toList] :=
  keeps_all does_tlsAuth fun o np np' hs _ hc => by
    refine foldlM_keeps (fun np l hm np' hnp h => ?_) hs.fields hc
    obtain ⟨hraw, hkey⟩ := hs.options.tlsAuth l hm
    obtain ⟨file, hfile, h⟩ := bind_eq_ok.1 h
    rw [arrayGet_ok hfile] at h
    split_ifs at h with hinline
    · cases h
      exact { hnp with mTLSAuthDirection := raw_getD hnp.mTLSAuthDirection hraw }
    · cases h
      exact { hnp with
        mTLSAuthFilename := hkey hinline
        mTLSAuthDirection := raw_getD hnp.mTLSAuthDirection hraw }

lemma Fitting.raw {o : Lines} {np : VpnProfile} {name : Text} {l : List Text}
    (h : Fitting fails n o np) (hl : l ∈ (o name).getLast?) (hn : name ∈ rawNames) :
    Raw fails (argument l 1) ∧ Raw fails (argument l 2) :=
  h.options.raw name hn l hl

lemma keeps_keyDirection : Keeps fails n keyDirection ["key-direction".toList] :=
  keeps_argument fun _ _ _ hs hl =>
    { hs.fields with mTLSAuthDirection := (hs.raw hl (by decide)).1 }

lemma keeps_tlsCrypt : Keeps fails n tlsCrypt ["tls-crypt".toList] :=
  keeps_argument fun _ _ l hs hl =>
    have hcrypt : Raw fails "tls-crypt".toList := raw_known (by decide)
    { hs.fields with
      mTLSAuthFilename := hs.options.tlsCrypt l hl
      mTLSAuthDirection := hcrypt }

lemma Fields.redirectWord {np : VpnProfile} (h : Fields fails n np) (word : Text) :
    Fields fails n (redirectWord np word) := by
  unfold ConvertProfile.redirectWord
  split_ifs
  · exact { h with }
  · exact { h with }
  · exact h
  · exact { h with }
  · exact h

lemma keeps_redirectGateway : Keeps fails n redirectGateway ["redirect-gateway".toList] :=
  keeps_all does_redirectGateway fun o np np' hs ho hc => by
    have hwords : ∀ (words : List Text) (np : VpnProfile), Fields fails n np →
        Fields fails n (words.foldl ConvertProfile.redirectWord np) := by
      intro words
      induction words with
      | nil => exact fun _ h => h
      | cons w words ih => exact fun np h => ih _ (h.redirectWord w)
    have hred := hs.noted.redirected ho
    have hall := hwords ((o "redirect-gateway".toList).flatMap (·.drop 1)) np hs.fields
    rw [hc]
    unfold checkRedirectParameters
    rw [if_pos rfl]
    dsimp only
    split_ifs
    · exact hall
    · exact { hall with redirected := fun _ => hred }

lemma keeps_redirectPrivate : Keeps fails n redirectPrivate ["redirect-private".toList] :=
  keeps_all does_redirectPrivate fun o np np' hs _ hc => by
    rw [hc]
    exact hs.fields

lemma keeps_dev : Keeps fails n dev ["dev".toList, "dev-type".toList] :=
  keeps_of_does does_dev fun _ _ _ hs hc => by
    cases hc
    exact hs.fields

lemma keeps_mssfix : Keeps fails n mssfix ["mssfix".toList] :=
  keeps_last does_mssfix fun _ _ _ _ hs _ hc => by
    obtain ⟨m, rfl⟩ := hc
    exact { hs.fields with }

lemma keeps_mtu : Keeps fails n mtu ["mtu".toList] :=
  keeps_last does_mtu fun _ _ _ _ hs _ hc => by
    obtain ⟨m, rfl⟩ := hc
    exact { hs.fields with }

lemma keeps_mode : Keeps fails n mode ["mode".toList] :=
  keeps_last does_mode fun _ _ _ _ hs _ hc => by
    cases hc
    exact hs.fields

lemma keeps_dhcpOption : Keeps fails n dhcpOption ["dhcp-option".toList] :=
  keeps_all does_dhcpOption fun o np np' hs _ hc => by
    refine foldlM_keeps (fun np l hm np' hnp h => ?_) hs.fields hc
    have hraw := hs.options.dhcpOption l hm
    obtain ⟨type, htype, h⟩ := bind_eq_ok.1 h
    obtain ⟨arg, harg, h⟩ := bind_eq_ok.1 h
    rw [arrayGet_ok htype, arrayGet_ok harg] at h
    split_ifs at h with hdomain hdns
    · cases h
      exact { hnp with mSearchDomain := hraw (.inl hdomain) }
    · cases h
      exact { hnp with mDNS1 := hraw (.inr hdns) }
    · cases h
      exact { hnp with mDNS2 := hraw (.inr hdns) }
    · cases h
      exact hnp

lemma keeps_ifconfig : Keeps fails n ifconfig ["ifconfig".toList] :=
  keeps_last does_ifconfig fun o np np' l hs hl hc => by
    obtain ⟨c, hip, rfl⟩ := hc
    have hraw := hs.options.ifconfig l hl
    refine { hs.fields with mIPv4Address := ?_ }
    rintro a ⟨⟩
    rw [Cidr.CIDRIP.toString, hip]
    exact hraw.append (Raw.append (raw_known (by decide : IsLine ['/'] ∧ _)) (raw_showInt _))

lemma keeps_remoteRandomHostname :
    Keeps fails n remoteRandomHostname ["remote-random-hostname".toList] :=
  keeps_flag fun _ h => { h with }

lemma keeps_float : Keeps fails n float ["float".toList] := keeps_flag fun _ h => { h with }

lemma keeps_compLzo : Keeps fails n compLzo ["comp-lzo".toList] := keeps_flag fun _ h => { h with }

lemma keeps_cipher : Keeps fails n cipher ["cipher".toList] :=
  keeps_argument fun _ _ _ hs hl => { hs.fields with mCipher := (hs.raw hl (by decide)).1 }

lemma keeps_auth : Keeps fails n auth ["auth".toList] :=
  keeps_argument fun _ _ _ hs hl => { hs.fields with mAuth := (hs.raw hl (by decide)).1 }

lemma keeps_ca : Keeps fails n ca ["ca".toList] :=
  keeps_argument fun _ _ l hs hl =>
    { hs.fields with mCaFilename := hs.options.stored _ (by decide) l hl }

lemma keeps_cert : Keeps fails n cert ["cert".toList] :=
  keeps_last does_cert fun _ _ _ l hs hl hc => by
    cases hc
    exact { hs.fields with mClientCertFilename := hs.options.stored _ (by decide) l hl }

lemma keeps_key : Keeps fails n key ["key".toList] :=
  keeps_argument fun _ _ l hs hl =>
    { hs.fields with mClientKeyFilename := hs.options.stored _ (by decide) l hl }

lemma keeps_pkcs12 : Keeps fails n pkcs12 ["pkcs12".toList] :=
  keeps_last does_pkcs12 fun _ _ _ l hs hl hc => by
    cases hc
    exact { hs.fields with mPKCS12Filename := hs.options.stored _ (by decide) l hl }

lemma keeps_cryptoapicert : Keeps fails n cryptoapicert ["cryptoapicert".toList] :=
  keeps_last does_cryptoapicert fun _ _ _ _ hs _ hc => by
    cases hc
    exact { hs.fields with }

lemma keeps_tlsRemote : Keeps fails n tlsRemote
    ["compat-names".toList, "no-name-remapping".toList, "tls-remote".toList] :=
  keeps_of_does does_tlsRemote fun o np np' hs hc => by
    cases hl : (o "tls-remote".toList).getLast? with
    | none =>
      simp only [tlsRemoteEffect, hl] at hc
      cases hc
      exact hs.fields
    | some l =>
      simp only [tlsRemoteEffect, hl] at hc
      cases hc
      exact { hs.fields with
        mRemoteCN := hs.options.quoted _ (by decide) l hl
        named := fun hn _ => hs.noted.named hn _ (by decide) l hl }

lemma keeps_verifyX509Name : Keeps fails n verifyX509Name ["verify-x509-name".toList] :=
  keeps_last does_verifyX509Name fun _ _ _ l hs hl hc => by
    obtain ⟨t, -, rfl⟩ := hc
    exact { hs.fields with
      mRemoteCN := hs.options.quoted _ (by decide) l hl
      named := fun hn _ => hs.noted.named hn _ (by decide) l hl }

lemma keeps_x509UsernameField : Keeps fails n x509UsernameField ["x509-username-field".toList] :=
  keeps_argument fun _ _ l hs hl =>
    have hfield : ∀ f ∈ some (argument l 1), Quoted fails f := fun f hf =>
      Option.mem_some_iff.1 hf ▸ hs.options.quoted _ (by decide) l hl
    { hs.fields with mx509UsernameField := hfield }

lemma keeps_verb : Keeps fails n verb ["verb".toList] :=
  keeps_argument fun _ _ _ hs _ => { hs.fields with }

lemma keeps_nobind : Keeps fails n nobind ["nobind".toList] := keeps_flag fun _ h => { h with }

lemma keeps_persistTun : Keeps fails n persistTun ["persist-tun".toList] :=
  keeps_flag fun _ h => { h with }

lemma keeps_pushPeerInfo : Keeps fails n pushPeerInfo ["push-peer-info".toList] :=
  keeps_flag fun _ h => { h with }

lemma keeps_connectRetry : Keeps fails n connectRetry ["connect-retry".toList] :=
  keeps_last does_connectRetry fun _ _ _ l hs hl hc => by
    cases hc
    obtain ⟨h1, h2⟩ := hs.raw hl (by decide)
    exact { hs.fields with
      mConnectRetry := h1
      mConnectRetryMaxTime := raw_getD hs.fields.mConnectRetryMaxTime h2 }

lemma keeps_connectRetryMax : Keeps fails n connectRetryMax ["connect-retry-max".toList] :=
  keeps_argument fun _ _ _ hs hl =>
    { hs.fields with mConnectRetryMax := (hs.raw hl (by decide)).1 }

lemma keeps_authUserPass : Keeps fails n authUserPass ["auth-user-pass".toList] :=
  keeps_last does_authUserPass fun _ np np' l hs _ hc => by
    obtain ⟨type, rfl⟩ := hc
    cases l[1]? with
    | none => exact { hs.fields with }
    | some file =>
      dsimp only
      unfold useEmbbedUserAuth
      split
      · exact { hs.fields with }
      · exact { hs.fields with }

lemma keeps_authRetry : Keeps fails n authRetry ["auth-retry".toList] :=
  keeps_last does_authRetry fun _ _ _ _ hs _ hc => by
    obtain ⟨r, rfl⟩ := hc
    exact { hs.fields with }

/-- The line of a directory of revocation lists, as it is kept. -/
lemma join_crlDirectory {l : List Text} (hhead : ∃ args, l = "crl-verify".toList :: args)
    (hlen : l.length ≤ 3) (hd : l[2]? = some "dir".toList) :
    join [' '] l = "crl-verify".toList ++ ' ' :: (argument l 1 ++ " dir".toList) := by
  obtain ⟨args, rfl⟩ := hhead
  match args, hd, hlen with
  | [a, d], hd, _ =>
    obtain rfl : d = "dir".toList := by simpa using hd
    simp [join, argument]

lemma behind_crlDirectory {a : Text} (ha : Raw fails a) : Behind fails (a ++ " dir".toList) :=
  (Raw.behind ha).append (Plain.behind (by decide))

lemma says_crlDirectory {k : Text} {l : List Text} (hk : k ≠ "crl-verify".toList)
    (hhead : ∃ args, l = "crl-verify".toList :: args) (hlen : l.length ≤ 3)
    (hd : l[2]? = some "dir".toList) (ha : Raw fails (argument l 1)) :
    Says fails k [] (join [' '] l ++ ['\n']) := by
  have hname : IsName "crl-verify".toList := by decide
  have hrest : Behind fails _ := behind_crlDirectory ha
  rw [join_crlDirectory hhead hlen hd]
  exact says_other hname.opens hk.symm hrest.1 hrest.2

lemma keeps_crlVerify : Keeps fails n crlVerify ["crl-verify".toList] :=
  keeps_last does_crlVerify fun o np np' l hs hl hc => by
    obtain ⟨hlen, hc⟩ := hc
    have hfit := hs.options.crlVerify l hl
    split_ifs at hc hfit with hd
    · cases hc
      have hhead : ∃ args, l = "crl-verify".toList :: args := by
        obtain ⟨arg0, args, rfl, hkey | ⟨hkey, -⟩⟩ := hs.keyed _ l (List.mem_of_getLast? hl)
        · unfold optionAlias at hkey
          split_ifs at hkey with ha
          · exact absurd hkey (by decide)
          · exact ⟨args, by rw [hkey]⟩
        · exact absurd hkey (by decide)
      refine { hs.fields with custom := fun k hk => ?_ }
      have := (hs.fields.custom k hk).append_nil (says_crlDirectory hk hhead hlen hd hfit)
      rwa [← List.append_assoc] at this
    · cases hc
      exact { hs.fields with mCrlFilename := hfit }

end BuludTechVPN.FileReading
