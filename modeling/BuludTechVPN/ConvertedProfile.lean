import BuludTechVPN.ConvertedFields
import BuludTechVPN.ImportSafety

/-!
A converted profile can be written, if the options that it comes from can.

The stages are run in groups. What is left of the options behind them is written back as text.
-/

namespace BuludTechVPN.FileReading

open JavaLang LineParser ParseConfig VpnProfile ConvertProfile ImportChecks Stages

variable {fails : Prop} {n : Notes} {orders : ℕ → KeyOrder Text} {s s' : Import}

/-! ### What is left of the options -/

/-- The options of the names are taken, and the others are left. -/
def Took (names : List Text) (o o' : Options) : Prop :=
  ∀ k ≠ remotetls, o'.get k = if k ∈ names then [] else o.get k

lemma Took.trans {names names' : List Text} {o o' o'' : Options} (h : Took names o o')
    (h' : Took names' o' o'') : Took (names ++ names') o o'' := by
  intro k hk
  rw [h' k hk, h k hk]
  by_cases hm : k ∈ names
  · simp [hm]
  · simp [hm]

lemma took_foldl_remove (names : List Text) (o : Options) :
    Took names o (names.foldl Multimap.remove o) := by
  intro k _
  rw [Multimap.get_foldl_remove]
  congr

lemma took_remoteCertTls : Took ["remote-cert-tls".toList] s.options (remoteCertTlsOf s).options := by
  intro k hk
  have hremove := took_foldl_remove ["remote-cert-tls".toList] s.options k hk
  unfold remoteCertTlsOf
  cases hl : view s "remote-cert-tls".toList with
  | nil =>
    by_cases hm : k ∈ ["remote-cert-tls".toList]
    · rw [if_pos hm, List.mem_singleton.1 hm]
      exact hl
    · rw [if_neg hm]
  | cons l lines =>
    by_cases hs : argument l 1 = "server".toList
    · dsimp only
      rw [if_pos hs]
      exact hremove
    · dsimp only
      rw [if_neg hs]
      exact (Multimap.get_put_of_ne hk).trans hremove

/-! ### Groups of stages -/

lemma inTurn_append (fs gs : List Stage) (s : Import) :
    inTurn (fs ++ gs) s = inTurn fs s >>= inTurn gs := List.foldlM_append ..

/-- Stages that keep what fits do so one after the other. -/
lemma inTurn_keeps {fs : List Stage} {names : List (List Text)}
    (h : List.Forall₂ (Keeps fails n) fs names) (hs : Fitting fails n (view s) s.np)
    (hr : inTurn fs s = .ok s') :
    Took names.flatten s.options s'.options ∧ Fitting fails n (view s') s'.np := by
  induction h generalizing s with
  | nil =>
    cases hr
    exact ⟨fun _ _ => by simp, hs⟩
  | @cons f names fs rest hf _ ih =>
    rw [inTurn_cons] at hr
    obtain ⟨s₁, h1, hr⟩ := bind_eq_ok.1 hr
    obtain ⟨ho, hs₁⟩ := hf s s₁ hs h1
    obtain ⟨ht, hs'⟩ := ih hs₁ hr
    refine ⟨?_, hs'⟩
    rw [List.flatten_cons]
    exact (ho ▸ took_foldl_remove names s.options).trans ht

def tunnelStages : List Stage :=
  [routeIpv6, routeNopull, tlsAuth, keyDirection, tlsCrypt, redirectGateway, redirectPrivate, dev,
   mssfix, mtu, mode, dhcpOption, ifconfig, remoteRandomHostname, float, compLzo, cipher, auth, ca,
   cert, key, pkcs12, cryptoapicert, tlsRemote, verifyX509Name, x509UsernameField, verb, nobind,
   persistTun, pushPeerInfo, connectRetry, connectRetryMax]

def tunnelNames : List (List Text) :=
  [["route-ipv6".toList], ["route-nopull".toList], ["tls-auth".toList], ["key-direction".toList],
   ["tls-crypt".toList], ["redirect-gateway".toList], ["redirect-private".toList],
   ["dev".toList, "dev-type".toList], ["mssfix".toList], ["mtu".toList], ["mode".toList],
   ["dhcp-option".toList], ["ifconfig".toList], ["remote-random-hostname".toList],
   ["float".toList], ["comp-lzo".toList], ["cipher".toList], ["auth".toList], ["ca".toList],
   ["cert".toList], ["key".toList], ["pkcs12".toList], ["cryptoapicert".toList],
   ["compat-names".toList, "no-name-remapping".toList, "tls-remote".toList],
   ["verify-x509-name".toList], ["x509-username-field".toList], ["verb".toList], ["nobind".toList],
   ["persist-tun".toList], ["push-peer-info".toList], ["connect-retry".toList],
   ["connect-retry-max".toList]]

lemma tunnel_keeps : List.Forall₂ (Keeps fails n) tunnelStages tunnelNames :=
  .cons keeps_routeIpv6 <| .cons keeps_routeNopull <| .cons keeps_tlsAuth <|
  .cons keeps_keyDirection <| .cons keeps_tlsCrypt <| .cons keeps_redirectGateway <|
  .cons keeps_redirectPrivate <| .cons keeps_dev <| .cons keeps_mssfix <| .cons keeps_mtu <|
  .cons keeps_mode <| .cons keeps_dhcpOption <| .cons keeps_ifconfig <|
  .cons keeps_remoteRandomHostname <| .cons keeps_float <| .cons keeps_compLzo <|
  .cons keeps_cipher <| .cons keeps_auth <| .cons keeps_ca <| .cons keeps_cert <|
  .cons keeps_key <| .cons keeps_pkcs12 <| .cons keeps_cryptoapicert <| .cons keeps_tlsRemote <|
  .cons keeps_verifyX509Name <| .cons keeps_x509UsernameField <| .cons keeps_verb <|
  .cons keeps_nobind <| .cons keeps_persistTun <| .cons keeps_pushPeerInfo <|
  .cons keeps_connectRetry <| .cons keeps_connectRetryMax .nil

def clientStages : List Stage := [client, secret]
def pullNames : List (List Text) := [["pull".toList, "client".toList], ["secret".toList]]

lemma client_keeps : List.Forall₂ (Keeps fails n) clientStages pullNames :=
  .cons keeps_client <| .cons keeps_secret .nil

def userStages : List Stage := [authUserPass, authRetry, crlVerify]
def userNames : List (List Text) :=
  [["auth-user-pass".toList], ["auth-retry".toList], ["crl-verify".toList]]

lemma user_keeps : List.Forall₂ (Keeps fails n) userStages userNames :=
  .cons keeps_authUserPass <| .cons keeps_authRetry <| .cons keeps_crlVerify .nil

/-- The stages before the connections. -/
def fieldStages : List Stage :=
  clientStages ++ route :: (tunnelStages ++ remoteCertTls :: userStages)

lemma stages_eq (orders : ℕ → KeyOrder Text) (metaOptions : Multimap Text (List Text)) :
    stages orders metaOptions = fieldStages ++ connections orders ::
      [remoteRandom, protoForce, accessServerExtra metaOptions,
       checkIgnoreAndInvalidOptions (orders 0), fixup] := rfl

lemma Keyed.head {o : Lines} {name : Text} {l : List Text} (h : Keyed o) (hl : l ∈ o name)
    (hne : name ≠ remotetls) (ha : name ≠ "timeout-connect".toList) :
    ∃ args, l = name :: args := by
  obtain ⟨arg0, args, rfl, hkey | ⟨hkey, -⟩⟩ := h name l hl
  · unfold optionAlias at hkey
    split_ifs at hkey
    · exact absurd hkey.symm ha
    · exact ⟨args, by rw [hkey]⟩
  · exact absurd hkey hne

/-- Lines of `remote-cert-tls` may be kept under the other name. -/
lemma Fitting.put {o : Options} {np : VpnProfile} {lines : List (List Text)}
    (h : Fitting fails n o.get np) (hl : ∀ l ∈ lines, LineFits fails l)
    (hk : ∀ l ∈ lines, ∃ args, l = "remote-cert-tls".toList :: args) :
    Fitting fails n (o.put remotetls lines).get np := by
  have hget : ∀ l, l ∈ (o.put remotetls lines).get remotetls → l ∈ lines := by
    intro l hm
    rw [Multimap.mem_get, Multimap.mem_put] at hm
    rcases hm with ⟨-, hne⟩ | ⟨-, hm⟩
    · exact absurd rfl hne
    · exact hm
  have hother : ∀ name ≠ remotetls, (o.put remotetls lines).get name = o.get name :=
    fun name hne => Multimap.get_put_of_ne hne
  refine ⟨h.options.of_le (fun name hne => .inl (hother name hne)) fun l hm => hl l (hget l hm),
    ⟨fun hne => ?_, fun hn name hm l hl' => ?_⟩, fun name l hl' => ?_, h.fields⟩
  · rw [hother _ (by decide)] at hne
    exact h.noted.redirected hne
  · rw [hother name (ne_of_mem_of_not_mem hm (by decide))] at hl'
    exact h.noted.named hn name hm l hl'
  · by_cases hne : name = remotetls
    · obtain ⟨args, rfl⟩ := hk l (hget l (hne ▸ hl'))
      exact ⟨_, args, rfl, .inr ⟨hne, rfl⟩⟩
    · rw [hother name hne] at hl'
      exact h.keyed name l hl'

lemma fitting_remoteCertTls (hs : Fitting fails n (view s) s.np) :
    Fitting fails n (view (remoteCertTlsOf s)) (remoteCertTlsOf s).np := by
  unfold remoteCertTlsOf
  cases hl : view s "remote-cert-tls".toList with
  | nil => exact hs
  | cons l lines =>
    have hrest := hs.remove ["remote-cert-tls".toList]
    by_cases hserver : argument l 1 = "server".toList
    · dsimp only
      rw [if_pos hserver]
      exact { hrest with fields := { hs.fields with } }
    · dsimp only
      rw [if_neg hserver, ← hl]
      refine hrest.put (hs.options.remoteCertTls ?_) fun l' hm =>
        hs.keyed.head hm (by decide) (by decide)
      rw [hl]
      rintro l' ⟨⟩
      exact hserver

/-! ### The stages before the connections -/

def fieldNames : List Text :=
  pullNames.flatten ++ ["route".toList] ++ tunnelNames.flatten ++ ["remote-cert-tls".toList] ++
    userNames.flatten

/-- The notes with the routes that the profile has. -/
def Notes.of (n : Notes) (np : VpnProfile) : Notes :=
  { n with mCustomRoutes := np.mCustomRoutes, mExcludedRoutes := np.mExcludedRoutes }

/-- **The stages before the connections** store what can be written; the routes are those of the
stage that is about them. -/
theorem fieldStages_fitting (hs : Fitting fails n (view s) s.np)
    (hr : inTurn fieldStages s = .ok s') : Took fieldNames s.options s'.options ∧
      ∃ s₁ s₂, view s₁ "route".toList = view s "route".toList ∧
        s₁.np.mCustomRoutes = s.np.mCustomRoutes ∧ s₁.np.mExcludedRoutes = s.np.mExcludedRoutes ∧
        route s₁ = .ok s₂ ∧ Fitting fails (n.of s₂.np) (view s') s'.np := by
  rw [fieldStages, inTurn_append] at hr
  obtain ⟨s₁, h1, hr⟩ := bind_eq_ok.1 hr
  rw [inTurn_cons] at hr
  obtain ⟨s₂, h2, hr⟩ := bind_eq_ok.1 hr
  rw [inTurn_append] at hr
  obtain ⟨s₃, h3, hr⟩ := bind_eq_ok.1 hr
  rw [inTurn_cons] at hr
  obtain ⟨s₄, h4, hr⟩ := bind_eq_ok.1 hr
  obtain ⟨t1, f1⟩ := inTurn_keeps client_keeps hs h1
  obtain ⟨o2, f2⟩ := fitting_route f1 h2
  have t2 : Took ["route".toList] s₁.options s₂.options := o2 ▸ took_foldl_remove _ _
  obtain ⟨t3, f3⟩ := inTurn_keeps tunnel_keeps f2 h3
  obtain rfl := remoteCertTls_ok h4
  obtain ⟨t5, f5⟩ := inTurn_keeps user_keeps (fitting_remoteCertTls f3) hr
  refine ⟨(((t1.trans t2).trans t3).trans took_remoteCertTls).trans t5, s₁, s₂, ?_, ?_, ?_, h2, f5⟩
  · exact (t1 _ (by decide)).trans (if_neg (by decide))
  · rw [f1.fields.routes, hs.fields.routes]
  · rw [f1.fields.excluded, hs.fields.excluded]

/-! ### The conversion -/

/-- The options of a configuration that was read. -/
lemma keyed_of_parseConfig {text : Text} {p : ConfigParser}
    (hp : parseConfig text = .ok p) : Keyed p.options.get := by
  intro name l hl
  obtain ⟨arg0, args, he⟩ := entry_of_mem_parseConfig hp _ (Multimap.mem_get.1 hl)
  obtain ⟨rfl, rfl⟩ := Prod.mk.inj he
  exact ⟨arg0, args, rfl, .inl rfl⟩

/-- The text of the custom options. -/
def customText (order : KeyOrder Text) (crl : Text) (rest : Options) : Text :=
  if rest = [] then crl else customHeader ++ crl ++ (rest.values order).flatMap getOptionStrings

/-- The custom options: the directories of revocation lists, and what is left of the options. -/
structure CustomText (fails : Prop) (order : KeyOrder Text) (o : Options) (np : VpnProfile)
    (crl : Text) (rest : Options) : Prop where
  directory : ∀ k ≠ "crl-verify".toList, Says fails k [] crl
  took : Took (convertedNames ++ ignoreOptions) o rest
  fits : OptionsFit fails rest.get
  keyed : Keyed rest.get
  text : np.mCustomConfigOptions = customText order crl rest
  used : rest ≠ [] → np.mUseCustomConfig = true

/-- A connection may be switched off, and stays what it is. -/
def Switched (c' c : Connection) : Prop := c = c' ∨ c = { c' with mEnabled := false }

/-- A profile that was converted from options that fit. -/
structure Converted (fails : Prop) (n : Notes) (order : KeyOrder Text) (o : Options)
    (np : VpnProfile) : Prop where
  profile : ProfileFits fails np
  routes : np.mCustomRoutes = n.mCustomRoutes
  excluded : np.mExcludedRoutes = n.mExcludedRoutes
  redirected : np.mUseDefaultRoute = true → n.redirected
  named : n.named → np.mCheckRemoteCN = true → np.mRemoteCN ≠ []
  origins : ∀ c ∈ np.mConnections, ∃ c', Origin fails o.get c' ∧ Switched c' c
  length : np.mConnections.length =
    if o.get "connection".toList = [] then (o.get "remote".toList).length
    else (o.get "connection".toList).length
  custom : ∃ crl rest, CustomText fails order o np crl rest

lemma raw_default {t : Text} (h : t ∈ [[], "8.8.8.8".toList, "8.8.4.4".toList,
    "blinkt.de".toList, "-1".toList, "2".toList, "300".toList, "openvpn.example.com".toList,
    "1194".toList]) : Raw fails t := by
  have hall : ∀ t ∈ [[], "8.8.8.8".toList, "8.8.4.4".toList, "blinkt.de".toList, "-1".toList,
      "2".toList, "300".toList, "openvpn.example.com".toList, "1194".toList],
      IsLine t ∧ '\\' ∉ t := by decide
  exact raw_known (hall t h)

/-- The profile that a conversion begins with can be written. -/
lemma fields_start : Fields fails ⟨none, none, n.redirected, n.named⟩
    (VpnProfile.new convertedProfile).clearDefaults where
  mConnectRetryMax := raw_default (by decide)
  mConnectRetry := raw_default (by decide)
  mConnectRetryMaxTime := raw_default (by decide)
  mCaFilename := trivial
  mClientKeyFilename := trivial
  mClientCertFilename := trivial
  mPKCS12Filename := trivial
  mCrlFilename := trivial
  mTLSAuthFilename _ _ := trivial
  mTLSAuthDirection := raw_default (by decide)
  mIPv4Address := by rintro a ⟨⟩
  mIPv6Address := by rintro a ⟨⟩
  mDNS1 := raw_default (by decide)
  mDNS2 := raw_default (by decide)
  mSearchDomain := raw_default (by decide)
  mCustomRoutes := by
    rw [show words _ = [] by decide]
    simp
  mExcludedRoutes := by
    rw [show words _ = [] by decide]
    simp
  mCustomRoutesv6 := by
    rw [show getCustomRoutesv6 _ = [] by decide]
    simp
  mRemoteCN := ⟨by decide, .inr (by decide)⟩
  mx509UsernameField := by rintro f ⟨⟩
  mCipher := raw_default (by decide)
  mAuth := raw_default (by decide)
  mConnections := by
    intro c hc
    obtain rfl := List.mem_singleton.1 hc
    exact ⟨raw_default (by decide), raw_default (by decide)⟩
  custom _ _ := .nil
  routes := rfl
  excluded := rfl
  redirected := by
    intro h
    cases h
  named := by
    intro _ h
    cases h
  mServerName := rfl

/-! ### The stages behind the connections -/

lemma keeps_remoteRandom : Keeps fails n remoteRandom ["remote-random".toList] :=
  keeps_flag fun _ h => { h with }

lemma keeps_protoForce : Keeps fails n protoForce ["proto-force".toList] :=
  keeps_last does_protoForce fun _ _ _ _ hs _ hc => by
    obtain ⟨b, rfl⟩ := hc
    refine { hs.fields with mConnections := fun c hc => ?_ }
    obtain ⟨d, hd, rfl⟩ := List.mem_map.1 hc
    unfold disableProto
    split_ifs
    · exact hs.fields.mConnections d hd
    · exact hs.fields.mConnections d hd

lemma keeps_accessServerExtra (metaOptions : Multimap Text (List Text)) :
    Keeps fails n (accessServerExtra metaOptions) [] :=
  keeps_of_does (does_accessServerExtra metaOptions) fun _ _ _ hs hc => by
    obtain ⟨mName, mUsername, rfl⟩ := hc
    exact { hs.fields with }

def lateStages (metaOptions : Multimap Text (List Text)) : List Stage :=
  [remoteRandom, protoForce, accessServerExtra metaOptions]

def lateNames : List (List Text) := [["remote-random".toList], ["proto-force".toList], []]

lemma late_keeps (metaOptions : Multimap Text (List Text)) :
    List.Forall₂ (Keeps fails n) (lateStages metaOptions) lateNames :=
  .cons keeps_remoteRandom <| .cons keeps_protoForce <|
  .cons (keeps_accessServerExtra metaOptions) .nil

/-- Behind the connections nothing is done to them but that some are switched off. -/
lemma late_mConnections {metaOptions : Multimap Text (List Text)}
    (h : inTurn (lateStages metaOptions) s = .ok s') :
    ∃ f, s'.np.mConnections = s.np.mConnections.map f ∧ ∀ c, Switched c (f c) := by
  rw [lateStages, inTurn_cons] at h
  obtain ⟨s₁, h1, h⟩ := bind_eq_ok.1 h
  rw [inTurn_cons] at h
  obtain ⟨s₂, h2, h⟩ := bind_eq_ok.1 h
  cases h
  have hrandom : s₁.np.mConnections = s.np.mConnections := by
    obtain ⟨-, hc⟩ := does_onFlag s s₁ h1
    cases hl : (view s "remote-random".toList).getLast? with
    | none =>
      simp only [flagEffect, lastEffect, hl] at hc
      rw [hc]
    | some l =>
      simp only [flagEffect, lastEffect, hl] at hc
      rw [hc]
  obtain ⟨-, hc⟩ := does_protoForce s₁ s₂ h2
  rw [← hrandom]
  cases hl : (view s₁ "proto-force".toList).getLast? with
  | none =>
    simp only [protoForceEffect, lastEffect, hl] at hc
    rw [hc]
    exact ⟨id, (List.map_id _).symm, fun c => .inl rfl⟩
  | some l =>
    simp only [protoForceEffect, lastEffect, hl] at hc
    obtain ⟨b, hc⟩ := hc
    rw [hc]
    refine ⟨disableProto b, rfl, fun c => ?_⟩
    unfold disableProto
    split_ifs
    · exact .inr rfl
    · exact .inl rfl

/-! ### What is left at the end -/

lemma checkIgnoreAndInvalidOptions_ok {order : KeyOrder Text}
    (h : checkIgnoreAndInvalidOptions order s = .ok s') :
    s'.options = ignoreOptions.foldl Multimap.remove s.options ∧
      s'.np = keepCustomOptions order s.np s'.options := by
  unfold checkIgnoreAndInvalidOptions at h
  generalize ignoreOptions = names at h ⊢
  split at h
  · cases h
  · cases h
    exact ⟨rfl, rfl⟩

lemma keepCustomOptions_eq (order : KeyOrder Text) (np : VpnProfile) (rest : Options) :
    keepCustomOptions order np rest = { np with
      mCustomConfigOptions := customText order np.mCustomConfigOptions rest
      mUseCustomConfig := np.mUseCustomConfig || rest ≠ [] } := by
  unfold keepCustomOptions customText
  by_cases h : rest = []
  · rw [if_pos h, if_pos h, decide_eq_false fun hne => hne h, Bool.or_false]
  · rw [if_neg h, if_neg h, decide_eq_true h, Bool.or_true]

/-- The name that is missing is written as none. -/
def knownName (np : VpnProfile) : Text := if np.mRemoteCN = np.mServerName then [] else np.mRemoteCN

lemma fixup_ok (h : fixup s = .ok s') :
    s' = { s with np := { s.np with mRemoteCN := knownName s.np } } := by
  unfold fixup at h
  unfold knownName
  split_ifs at h ⊢
  · cases h
    rfl
  · cases h
    rfl

lemma Fields.knownName {np : VpnProfile} (h : Fields fails n np) :
    Quoted fails (knownName np) ∧
      (n.named → np.mCheckRemoteCN = true → FileReading.knownName np ≠ []) := by
  unfold FileReading.knownName
  split_ifs with he
  · refine ⟨⟨by simp, .inr (by simp)⟩, fun hn hc => ?_⟩
    exact absurd (he.trans h.mServerName) (h.named hn hc).2
  · exact ⟨h.mRemoteCN, fun hn hc => (h.named hn hc).1⟩

/-- All that is taken on the way. -/
def allNames : List Text :=
  fieldNames ++ (connectionKeys ++ ["connection".toList]) ++ lateNames.flatten ++ ignoreOptions

lemma took_all {o o' : Options} (h : Took allNames o o') :
    Took (convertedNames ++ ignoreOptions) o o' := by
  have hsame : (∀ k ∈ allNames, k ∈ convertedNames ++ ignoreOptions) ∧
      ∀ k ∈ convertedNames ++ ignoreOptions, k ∈ allNames := by decide +kernel
  intro k hk
  rw [h k hk]
  exact if_congr ⟨hsame.1 k, hsame.2 k⟩ rfl rfl

lemma Fitting.connections {cs : List Connection} {o : Lines}
    (hs : Fitting fails n (view s) s.np) (ho : ConnectionsFit fails o)
    (hc : ∀ c ∈ cs, Origin fails o c) (names : List Text) :
    Fitting fails n (view { s with
      np := { s.np with mConnections := cs }
      options := names.foldl Multimap.remove s.options }) { s.np with mConnections := cs } where
  options := (hs.remove names).options
  noted := (hs.remove names).noted
  keyed := (hs.remove names).keyed
  fields := { hs.fields with
    mConnections := fun c hm =>
      have hfit := (hc c hm).fits ho
      ⟨hfit.mServerName, hfit.mServerPort⟩ }

/-- **The conversion stores what can be written**, if the options can be. -/
theorem converted {p : ConfigParser} (ho : OptionsFit fails p.options.get)
    (hn : Noted n p.options.get) (hk : Keyed p.options.get)
    (h : convertProfile orders p = .ok s) : ∃ s₁ s₂,
      view s₁ "route".toList = p.options.get "route".toList ∧ s₁.np.mCustomRoutes = none ∧
      s₁.np.mExcludedRoutes = none ∧ route s₁ = .ok s₂ ∧
      Converted fails (n.of s₂.np) (orders 0) p.options s.np ∧
      ∃ crl, CustomText fails (orders 0) p.options s.np crl s.options := by
  have hs : Fitting fails ⟨none, none, n.redirected, n.named⟩ (view (ConfigParser.start p))
      (ConfigParser.start p).np := ⟨ho, ⟨hn.redirected, hn.named⟩, hk, fields_start⟩
  rw [convertProfile, stages_eq, inTurn_append] at h
  obtain ⟨s₃, h3, h⟩ := bind_eq_ok.1 h
  obtain ⟨t3, s₁, s₂, hview, hroutes, hexcluded, hroute, f3⟩ := fieldStages_fitting hs h3
  rw [inTurn_cons] at h
  obtain ⟨s₄, h4, h⟩ := bind_eq_ok.1 h
  obtain ⟨cs, rfl, horigin, hlen⟩ := connections_ok f3.options.toConnectionsFit h4
  have f4 := f3.connections f3.options.toConnectionsFit horigin
    (connectionKeys ++ ["connection".toList])
  have hlate : [remoteRandom, protoForce, accessServerExtra p.metaOptions,
      checkIgnoreAndInvalidOptions (orders 0), fixup] = lateStages p.metaOptions ++
        [checkIgnoreAndInvalidOptions (orders 0), fixup] := rfl
  rw [hlate, inTurn_append] at h
  obtain ⟨s₅, h5, h⟩ := bind_eq_ok.1 h
  obtain ⟨t5, f5⟩ := inTurn_keeps (late_keeps p.metaOptions) f4 h5
  have hswitched := late_mConnections h5
  rw [inTurn_cons] at h
  obtain ⟨s₆, h6, h⟩ := bind_eq_ok.1 h
  obtain ⟨o6, n6⟩ := checkIgnoreAndInvalidOptions_ok h6
  have f6 := f5.remove ignoreOptions
  rw [← o6] at f6
  rw [inTurn_cons] at h
  obtain ⟨s₇, h7, h⟩ := bind_eq_ok.1 h
  cases h
  have htook : Took allNames p.options s₆.options :=
    ((t3.trans (took_foldl_remove _ _)).trans t5).trans (o6 ▸ took_foldl_remove _ _)
  have hname := f5.fields.knownName
  have hlines : ∀ name ∈ ["connection".toList, "remote".toList],
      view s₃ name = p.options.get name := by
    intro name hm
    have hne : ∀ name ∈ ["connection".toList, "remote".toList],
        name ≠ remotetls ∧ name ∉ fieldNames := by decide
    exact (t3 name (hne name hm).1).trans (if_neg (hne name hm).2)
  obtain ⟨f, hf, hswitched⟩ := hswitched
  rw [fixup_ok h7, n6, keepCustomOptions_eq]
  have hcustom : CustomText fails (orders 0) p.options
      { s₅.np with
        mCustomConfigOptions := customText (orders 0) s₅.np.mCustomConfigOptions s₆.options
        mUseCustomConfig := s₅.np.mUseCustomConfig || s₆.options ≠ []
        mRemoteCN := knownName s₅.np } s₅.np.mCustomConfigOptions s₆.options := {
    directory := f5.fields.custom
    took := took_all htook
    fits := f6.options
    keyed := f6.keyed
    text := rfl
    used := fun hne => by simp [hne] }
  refine ⟨s₁, s₂, hview, hroutes, hexcluded, hroute, ?_, _, hcustom⟩
  exact {
    profile := { f5.fields.toProfileFits with mRemoteCN := hname.1 }
    routes := f5.fields.routes
    excluded := f5.fields.excluded
    redirected := f5.fields.redirected
    named := hname.2
    origins := by
      intro c hc
      obtain ⟨c', hc', rfl⟩ := List.mem_map.1 (hf ▸ hc)
      exact ⟨c', (horigin c' hc').congr (hlines _ (by simp)), hswitched c'⟩
    length := by
      show s₅.np.mConnections.length = _
      rw [hf, List.length_map, hlen, hlines _ (by simp), hlines _ (by simp)]
    custom := ⟨_, _, hcustom⟩ }

end BuludTechVPN.FileReading
