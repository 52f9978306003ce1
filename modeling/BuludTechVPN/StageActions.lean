import BuludTechVPN.ConvertedProfile

/-!
What each stage of the conversion takes of the options, and which fields of the profile it touches.

The table of the actions stands for the whole conversion: a field that no later stage touches is
in the profile at the end as its stage left it.
-/

namespace BuludTechVPN.FileReading

open JavaLang LineParser ParseConfig VpnProfile ConvertProfile ImportChecks Stages

variable {orders : ℕ → KeyOrder Text} {p : ConfigParser}
variable {s s' : Import} {f : Stage} {names : List Text}

/-! ### Fields -/

/-- The fields that are followed through the conversion. -/
inductive Field
  | mAuthenticationType
  | mRemoteCN
  | mX509AuthType
  | mCheckRemoteCN
  | mExpectTLSCert
  | mCrlFilename
  | mCustomConfigOptions
  | mUseCustomConfig
  | mPersistTun
  | mTunMtu
  | mIPv6Address
  | mServerName
  | mConnections
  deriving DecidableEq

/-- Both profiles have the field. -/
def Field.Same (np np' : VpnProfile) : Field → Prop
  | mAuthenticationType => np'.mAuthenticationType = np.mAuthenticationType
  | mRemoteCN => np'.mRemoteCN = np.mRemoteCN
  | mX509AuthType => np'.mX509AuthType = np.mX509AuthType
  | mCheckRemoteCN => np'.mCheckRemoteCN = np.mCheckRemoteCN
  | mExpectTLSCert => np'.mExpectTLSCert = np.mExpectTLSCert
  | mCrlFilename => np'.mCrlFilename = np.mCrlFilename
  | mCustomConfigOptions => np'.mCustomConfigOptions = np.mCustomConfigOptions
  | mUseCustomConfig => np'.mUseCustomConfig = np.mUseCustomConfig
  | mPersistTun => np'.mPersistTun = np.mPersistTun
  | mTunMtu => np'.mTunMtu = np.mTunMtu
  | mIPv6Address => np'.mIPv6Address = np.mIPv6Address
  | mServerName => np'.mServerName = np.mServerName
  | mConnections => np'.mConnections = np.mConnections

lemma Field.Same.refl (np : VpnProfile) (field : Field) : field.Same np np := by
  cases field <;> rfl

lemma Field.Same.trans {np np' np'' : VpnProfile} {field : Field} (h : field.Same np np')
    (h' : field.Same np' np'') : field.Same np np'' := by
  cases field <;> exact Eq.trans h' h

/-- Only the fields are touched. -/
def Agree (touched : List Field) (np np' : VpnProfile) : Prop :=
  ∀ field ∉ touched, field.Same np np'

variable {touched touched' : List Field} {np np' np'' : VpnProfile}

lemma Agree.refl (touched : List Field) (np : VpnProfile) : Agree touched np np :=
  fun field _ => .refl np field

lemma Agree.trans (h : Agree touched np np') (h' : Agree touched' np' np'') :
    Agree (touched ++ touched') np np'' := by
  intro field hf
  rw [List.mem_append, not_or] at hf
  exact (h field hf.1).trans (h' field hf.2)

/-! ### Actions -/

/-- The options of the names are taken, those of other names are left, and some may be added. -/
def Takes (names added : List Text) (o o' : Options) : Prop :=
  ∀ k ∉ added, o'.get k = if k ∈ names then [] else o.get k

lemma Takes.trans {names names' added added' : List Text} {o o' o'' : Options}
    (h : Takes names added o o') (h' : Takes names' added' o' o'') :
    Takes (names ++ names') (added ++ added') o o'' := by
  intro k hk
  rw [List.mem_append, not_or] at hk
  rw [h' k hk.2, h k hk.1]
  by_cases hm : k ∈ names
  · simp [hm]
  · simp [hm]

lemma takes_foldl_remove (names : List Text) (o : Options) :
    Takes names [] o (names.foldl Multimap.remove o) := by
  intro k _
  rw [Multimap.get_foldl_remove]
  congr

/-- What a stage takes of the options, which fields it touches, and what it adds to the options. -/
structure Action where
  names : List Text
  touched : List Field
  added : List Text

def Acts (f : Stage) (a : Action) : Prop := ∀ s s', f s = .ok s' →
  Takes a.names a.added s.options s'.options ∧ Agree a.touched s.np s'.np

lemma acts_of_does {e : Effect} (h : Does f e)
    (hc : ∀ o np np', e.changes o np np' → Agree touched np np') : Acts f ⟨e.names, touched, []⟩ :=
  fun s s' hs =>
    ⟨(h s s' hs).1 ▸ takes_foldl_remove e.names s.options, hc _ _ _ (h s s' hs).2⟩

lemma acts_last {option : Text} {changes : List Text → VpnProfile → VpnProfile → Prop}
    (h : Does f (lastEffect option changes))
    (hc : ∀ l np np', changes l np np' → Agree touched np np') : Acts f ⟨[option], touched, []⟩ :=
  acts_of_does h fun o np np' hch => by
    cases hl : (o option).getLast? with
    | none =>
      simp only [lastEffect, hl] at hch
      exact hch ▸ .refl touched np
    | some l =>
      simp only [lastEffect, hl] at hch
      exact hc l np np' hch

lemma acts_all {option : Text} {changes : List (List Text) → VpnProfile → VpnProfile → Prop}
    (h : Does f (allEffect option changes))
    (hc : ∀ lines np np', changes lines np np' → Agree touched np np') :
    Acts f ⟨[option], touched, []⟩ :=
  acts_of_does h fun o np np' hch => by
    change (if o option = [] then _ else _) at hch
    split_ifs at hch
    · exact hch ▸ .refl touched np
    · exact hc _ np np' hch

lemma acts_flag {option : Text} {minarg maxarg : ℕ} {set : VpnProfile → VpnProfile}
    (hc : ∀ np, Agree touched np (set np)) :
    Acts (onFlag option minarg maxarg set) ⟨[option], touched, []⟩ :=
  acts_last does_onFlag fun _ np _ hch => hch ▸ hc np

lemma acts_argument {option : Text} {set : VpnProfile → Text → VpnProfile}
    (hc : ∀ np arg, Agree touched np (set np arg)) :
    Acts (onArgument option set) ⟨[option], touched, []⟩ :=
  acts_last does_onArgument fun _ np _ hch => hch ▸ hc np _

/-! ### Stages -/

lemma acts_client : Acts client ⟨["pull".toList, "client".toList], [], []⟩ :=
  acts_of_does does_client fun o np np' hch field _ => by
    obtain rfl : np' = _ := hch
    split_ifs
    · cases field <;> rfl
    · exact .refl np field

lemma acts_secret : Acts secret ⟨["secret".toList], [.mAuthenticationType], []⟩ :=
  acts_last does_secret fun l np np' hch field hf => by
    rw [hch]
    cases field with
    | mAuthenticationType => exact absurd List.mem_cons_self hf
    | _ => rfl

lemma acts_route : Acts route ⟨["route".toList], [], []⟩ :=
  acts_all does_route fun lines np np' hch field _ => by
    obtain ⟨r, -, rfl⟩ := hch
    cases field <;> rfl

lemma acts_routeIpv6 : Acts routeIpv6 ⟨["route-ipv6".toList], [], []⟩ :=
  acts_all does_routeIpv6 fun _ _ _ hch field _ => by
    rw [hch]
    cases field <;> rfl

lemma acts_tlsAuth : Acts tlsAuth ⟨["tls-auth".toList], [], []⟩ :=
  acts_all does_tlsAuth fun lines np np' hch field _ => by
    refine foldlM_keeps (P := fun r => field.Same np r) ?_ (.refl np field) hch
    intro r l _ r' hr h
    obtain ⟨file, -, h⟩ := bind_eq_ok.1 h
    obtain rfl := Except.ok.inj h
    refine hr.trans ?_
    split_ifs
    · cases field <;> rfl
    · cases field <;> rfl

lemma agree_foldl_redirectWord (words : List Text) (np : VpnProfile) :
    Agree [] np (words.foldl redirectWord np) := by
  induction words generalizing np with
  | nil => exact .refl [] np
  | cons w words ih =>
    refine @Agree.trans [] [] _ _ _ (fun field _ => ?_) (ih _)
    unfold redirectWord
    split_ifs
    · cases field <;> rfl
    · cases field <;> rfl
    · exact .refl np field
    · cases field <;> rfl
    · exact .refl np field

lemma acts_redirect {option : Text} {defaultRoute : Bool}
    (h : Does f (redirectEffect option defaultRoute)) : Acts f ⟨[option], [], []⟩ :=
  acts_all h fun lines np np' hch => by
    rw [hch]
    unfold checkRedirectParameters
    have hall := agree_foldl_redirectWord (lines.flatMap (·.drop 1)) np
    split_ifs
    · dsimp only
      split_ifs
      · exact hall
      · refine @Agree.trans [] [] _ _ _ hall fun field _ => ?_
        cases field <;> rfl
    · exact .refl [] np

lemma acts_dev : Acts dev ⟨["dev".toList, "dev-type".toList], [], []⟩ :=
  acts_of_does does_dev fun _ np _ hch => hch ▸ .refl [] np

lemma acts_mssfix : Acts mssfix ⟨["mssfix".toList], [], []⟩ :=
  acts_last does_mssfix fun _ _ _ hch field _ => by
    obtain ⟨n, rfl⟩ := hch
    cases field <;> rfl

lemma acts_mtu : Acts mtu ⟨["mtu".toList], [.mTunMtu], []⟩ :=
  acts_last does_mtu fun _ _ _ hch field hf => by
    obtain ⟨n, rfl⟩ := hch
    cases field with
    | mTunMtu => exact absurd List.mem_cons_self hf
    | _ => rfl

lemma acts_mode : Acts mode ⟨["mode".toList], [], []⟩ :=
  acts_last does_mode fun _ np _ hch => hch ▸ .refl [] np

lemma acts_dhcpOption : Acts dhcpOption ⟨["dhcp-option".toList], [], []⟩ :=
  acts_all does_dhcpOption fun lines np np' hch field _ => by
    refine foldlM_keeps (P := fun r => field.Same np r) ?_ (.refl np field) hch
    intro r l _ r' hr h
    obtain ⟨type, -, h⟩ := bind_eq_ok.1 h
    obtain ⟨arg, -, h⟩ := bind_eq_ok.1 h
    obtain rfl := Except.ok.inj h
    refine hr.trans ?_
    split_ifs
    · cases field <;> rfl
    · cases field <;> rfl
    · cases field <;> rfl
    · exact .refl r field

lemma acts_ifconfig : Acts ifconfig ⟨["ifconfig".toList], [], []⟩ :=
  acts_last does_ifconfig fun _ _ _ hch field _ => by
    obtain ⟨c, -, rfl⟩ := hch
    cases field <;> rfl

lemma acts_cert : Acts cert ⟨["cert".toList], [.mAuthenticationType], []⟩ :=
  acts_last does_cert fun l np np' hch field hf => by
    rw [hch]
    cases field with
    | mAuthenticationType => exact absurd List.mem_cons_self hf
    | _ => rfl

lemma acts_pkcs12 : Acts pkcs12 ⟨["pkcs12".toList], [.mAuthenticationType], []⟩ :=
  acts_last does_pkcs12 fun l np np' hch field hf => by
    rw [hch]
    cases field with
    | mAuthenticationType => exact absurd List.mem_cons_self hf
    | _ => rfl

lemma acts_cryptoapicert : Acts cryptoapicert ⟨["cryptoapicert".toList], [.mAuthenticationType], []⟩ :=
  acts_last does_cryptoapicert fun l np np' hch field hf => by
    rw [hch]
    cases field with
    | mAuthenticationType => exact absurd List.mem_cons_self hf
    | _ => rfl

/-- The fields of the name that is checked. -/
def nameFields : List Field := [.mRemoteCN, .mX509AuthType, .mCheckRemoteCN]

lemma agree_name (np : VpnProfile) (name : Text) (check : Bool) (type : X509Verify) :
    Agree nameFields np
      { np with mRemoteCN := name, mCheckRemoteCN := check, mX509AuthType := type } := by
  intro field hf
  cases field with
  | mRemoteCN | mX509AuthType | mCheckRemoteCN => exact absurd (by decide) hf
  | _ => rfl

lemma acts_tlsRemote : Acts tlsRemote
    ⟨["compat-names".toList, "no-name-remapping".toList, "tls-remote".toList], nameFields, []⟩ :=
  acts_of_does does_tlsRemote fun o np np' hch => by
    cases hl : (o "tls-remote".toList).getLast? with
    | none =>
      simp only [tlsRemoteEffect, hl] at hch
      exact hch ▸ .refl nameFields np
    | some l =>
      simp only [tlsRemoteEffect, hl] at hch
      exact hch ▸ agree_name np _ _ _

lemma acts_verifyX509Name : Acts verifyX509Name ⟨["verify-x509-name".toList], nameFields, []⟩ :=
  acts_last does_verifyX509Name fun l np np' hch => by
    obtain ⟨t, -, rfl⟩ := hch
    exact agree_name np _ _ _

lemma acts_persistTun : Acts persistTun ⟨["persist-tun".toList], [.mPersistTun], []⟩ :=
  acts_flag fun np field hf => by
    cases field with
    | mPersistTun => exact absurd List.mem_cons_self hf
    | _ => rfl

lemma acts_connectRetry : Acts connectRetry ⟨["connect-retry".toList], [], []⟩ :=
  acts_last does_connectRetry fun l np np' hch field _ => by
    rw [hch]
    cases field <;> rfl

lemma acts_remoteCertTls : Acts remoteCertTls
    ⟨["remote-cert-tls".toList], [.mExpectTLSCert], [remotetls]⟩ := by
  intro s s' h
  rw [remoteCertTls_ok h]
  refine ⟨fun k hk => took_remoteCertTls k (by simpa using hk), fun field hf => ?_⟩
  unfold remoteCertTlsOf
  cases view s "remote-cert-tls".toList with
  | nil => exact .refl s.np field
  | cons l lines =>
    dsimp only
    split_ifs
    · cases field with
      | mExpectTLSCert => exact absurd List.mem_cons_self hf
      | _ => rfl
    · exact .refl s.np field

lemma acts_authUserPass :
    Acts authUserPass ⟨["auth-user-pass".toList], [.mAuthenticationType], []⟩ :=
  acts_last does_authUserPass fun l np np' hch field hf => by
    obtain ⟨type, rfl⟩ := hch
    have htype : Agree [.mAuthenticationType] np { np with mAuthenticationType := type } :=
      fun field hf => by
        cases field with
        | mAuthenticationType => exact absurd List.mem_cons_self hf
        | _ => rfl
    cases l[1]? with
    | none => exact htype field hf
    | some file =>
      dsimp only
      unfold useEmbbedUserAuth
      split
      · exact (htype field hf).trans (by cases field <;> rfl)
      · exact (htype field hf).trans (by cases field <;> rfl)

lemma acts_authRetry : Acts authRetry ⟨["auth-retry".toList], [], []⟩ :=
  acts_last does_authRetry fun _ _ _ hch field _ => by
    obtain ⟨r, rfl⟩ := hch
    cases field <;> rfl

lemma acts_crlVerify :
    Acts crlVerify ⟨["crl-verify".toList], [.mCustomConfigOptions, .mCrlFilename], []⟩ :=
  acts_last does_crlVerify fun l np np' hch field hf => by
    rw [hch.2]
    split_ifs
    · cases field with
      | mCustomConfigOptions => exact absurd (by decide) hf
      | _ => rfl
    · cases field with
      | mCrlFilename => exact absurd (by decide) hf
      | _ => rfl

lemma acts_connections :
    Acts (connections orders) ⟨connectionKeys ++ ["connection".toList], [.mConnections], []⟩ := by
  intro s s' h
  obtain ⟨r, hr, h⟩ := bind_eq_ok.1 h
  obtain ⟨-, h⟩ := getAllOption_bind_ok.1 h
  obtain ⟨cs, -, h⟩ := bind_eq_ok.1 h
  obtain rfl := Except.ok.inj h
  obtain ⟨hrest, -⟩ := parseConnectionOptions_ok hr
  refine ⟨?_, fun field hf => ?_⟩
  · show Takes _ _ _ (r.2.remove "connection".toList)
    rw [hrest]
    exact takes_foldl_remove (connectionKeys ++ ["connection".toList]) s.options
  · cases field with
    | mConnections => exact absurd List.mem_cons_self hf
    | _ => rfl

lemma acts_protoForce : Acts protoForce ⟨["proto-force".toList], [.mConnections], []⟩ :=
  acts_last does_protoForce fun _ _ _ hch field hf => by
    obtain ⟨b, rfl⟩ := hch
    cases field with
    | mConnections => exact absurd List.mem_cons_self hf
    | _ => rfl

lemma acts_accessServerExtra (metaOptions : Multimap Text (List Text)) :
    Acts (accessServerExtra metaOptions) ⟨[], [], []⟩ :=
  acts_of_does (does_accessServerExtra metaOptions) fun _ _ _ hch field _ => by
    obtain ⟨mName, mUsername, rfl⟩ := hch
    cases field <;> rfl

lemma acts_checkIgnoreAndInvalidOptions (order : KeyOrder Text) :
    Acts (checkIgnoreAndInvalidOptions order)
      ⟨ignoreOptions, [.mCustomConfigOptions, .mUseCustomConfig], []⟩ := by
  intro s s' h
  obtain ⟨ho, hnp⟩ := checkIgnoreAndInvalidOptions_ok h
  rw [hnp, ho, keepCustomOptions_eq]
  refine ⟨takes_foldl_remove ignoreOptions s.options, fun field hf => ?_⟩
  cases field with
  | mCustomConfigOptions | mUseCustomConfig => exact absurd (by decide) hf
  | _ => rfl

lemma acts_fixup : Acts fixup ⟨[], [.mRemoteCN], []⟩ := by
  intro s s' h
  rw [fixup_ok h]
  refine ⟨fun k _ => by simp, fun field hf => ?_⟩
  cases field with
  | mRemoteCN => exact absurd List.mem_cons_self hf
  | _ => rfl

/-! ### The table -/

/-- An option of its own, and no field that is followed. -/
def plain (option : String) : Action := ⟨[option.toList], [], []⟩

/-- What the stages of the conversion do, in their order. -/
def actions : List Action :=
  [⟨["pull".toList, "client".toList], [], []⟩, ⟨["secret".toList], [.mAuthenticationType], []⟩,
   plain "route", plain "route-ipv6", plain "route-nopull", plain "tls-auth",
   plain "key-direction", plain "tls-crypt", plain "redirect-gateway", plain "redirect-private",
   ⟨["dev".toList, "dev-type".toList], [], []⟩, plain "mssfix", ⟨["mtu".toList], [.mTunMtu], []⟩,
   plain "mode", plain "dhcp-option", plain "ifconfig", plain "remote-random-hostname",
   plain "float", plain "comp-lzo", plain "cipher", plain "auth", plain "ca",
   ⟨["cert".toList], [.mAuthenticationType], []⟩, plain "key",
   ⟨["pkcs12".toList], [.mAuthenticationType], []⟩, ⟨["cryptoapicert".toList], [.mAuthenticationType], []⟩,
   ⟨["compat-names".toList, "no-name-remapping".toList, "tls-remote".toList], nameFields, []⟩,
   ⟨["verify-x509-name".toList], nameFields, []⟩, plain "x509-username-field", plain "verb",
   plain "nobind", ⟨["persist-tun".toList], [.mPersistTun], []⟩, plain "push-peer-info",
   plain "connect-retry", plain "connect-retry-max",
   ⟨["remote-cert-tls".toList], [.mExpectTLSCert], [remotetls]⟩,
   ⟨["auth-user-pass".toList], [.mAuthenticationType], []⟩, plain "auth-retry",
   ⟨["crl-verify".toList], [.mCustomConfigOptions, .mCrlFilename], []⟩,
   ⟨connectionKeys ++ ["connection".toList], [.mConnections], []⟩, plain "remote-random",
   ⟨["proto-force".toList], [.mConnections], []⟩, ⟨[], [], []⟩,
   ⟨ignoreOptions, [.mCustomConfigOptions, .mUseCustomConfig], []⟩, ⟨[], [.mRemoteCN], []⟩]

lemma acts_plainFlag {option : String} {minarg maxarg : ℕ} {set : VpnProfile → VpnProfile}
    (hc : ∀ np, ∀ field : Field, field.Same np (set np)) :
    Acts (onFlag option.toList minarg maxarg set) (plain option) :=
  acts_flag fun np field _ => hc np field

lemma acts_plainArgument {option : String} {set : VpnProfile → Text → VpnProfile}
    (hc : ∀ np arg, ∀ field : Field, field.Same np (set np arg)) :
    Acts (onArgument option.toList set) (plain option) :=
  acts_argument fun np arg field _ => hc np arg field

/-- **What the stages do**, each by itself. -/
theorem stages_act (orders : ℕ → KeyOrder Text) (metaOptions : Multimap Text (List Text)) :
    List.Forall₂ Acts (stages orders metaOptions) actions :=
  .cons acts_client <| .cons acts_secret <| .cons acts_route <| .cons acts_routeIpv6 <|
    .cons (acts_plainFlag fun np field => by cases field <;> rfl) <| .cons acts_tlsAuth <|
    .cons (acts_plainArgument fun np _ field => by cases field <;> rfl) <|
    .cons (acts_plainArgument fun np _ field => by cases field <;> rfl) <|
    .cons (acts_redirect does_redirectGateway) <| .cons (acts_redirect does_redirectPrivate) <|
    .cons acts_dev <| .cons acts_mssfix <| .cons acts_mtu <| .cons acts_mode <|
    .cons acts_dhcpOption <| .cons acts_ifconfig <|
    .cons (acts_plainFlag fun np field => by cases field <;> rfl) <|
    .cons (acts_plainFlag fun np field => by cases field <;> rfl) <|
    .cons (acts_plainFlag fun np field => by cases field <;> rfl) <|
    .cons (acts_plainArgument fun np _ field => by cases field <;> rfl) <|
    .cons (acts_plainArgument fun np _ field => by cases field <;> rfl) <|
    .cons (acts_plainArgument fun np _ field => by cases field <;> rfl) <| .cons acts_cert <|
    .cons (acts_plainArgument fun np _ field => by cases field <;> rfl) <| .cons acts_pkcs12 <|
    .cons acts_cryptoapicert <| .cons acts_tlsRemote <| .cons acts_verifyX509Name <|
    .cons (acts_plainArgument fun np _ field => by cases field <;> rfl) <|
    .cons (acts_plainArgument fun np _ field => by cases field <;> rfl) <|
    .cons (acts_plainFlag fun np field => by cases field <;> rfl) <| .cons acts_persistTun <|
    .cons (acts_plainFlag fun np field => by cases field <;> rfl) <| .cons acts_connectRetry <|
    .cons (acts_plainArgument fun np _ field => by cases field <;> rfl) <| .cons acts_remoteCertTls <|
    .cons acts_authUserPass <| .cons acts_authRetry <| .cons acts_crlVerify <|
    .cons acts_connections <| .cons (acts_plainFlag fun np field => by cases field <;> rfl) <|
    .cons acts_protoForce <| .cons (acts_accessServerExtra metaOptions) <|
    .cons (acts_checkIgnoreAndInvalidOptions (orders 0)) <| .cons acts_fixup .nil

/-! ### Runs -/

/-- What a list of stages does. -/
def together (acts : List Action) : Action :=
  ⟨acts.flatMap (·.names), acts.flatMap (·.touched), acts.flatMap (·.added)⟩

variable {fs behind : List Stage} {acts : List Action}

/-- **Stages act together** as each of them does. -/
theorem inTurn_acts (h : List.Forall₂ Acts fs acts) (hr : inTurn fs s = .ok s') :
    Takes (together acts).names (together acts).added s.options s'.options ∧
      Agree (together acts).touched s.np s'.np := by
  induction h generalizing s with
  | nil =>
    cases hr
    exact ⟨fun k _ => by simp [together], .refl _ _⟩
  | cons hf _ ih =>
    rw [inTurn_cons] at hr
    obtain ⟨s₁, h1, hr⟩ := bind_eq_ok.1 hr
    obtain ⟨ht, ha⟩ := hf s s₁ h1
    obtain ⟨ht', ha'⟩ := ih hr
    exact ⟨ht.trans ht', ha.trans ha'⟩

/-- A stage in a run, with what happens before and behind it. -/
lemma inTurn_at (h : List.Forall₂ Acts fs acts) (n : ℕ) (hs : fs.drop n = f :: behind)
    (hr : inTurn fs s = .ok s') : ∃ s₁ s₂, inTurn (fs.take n) s = .ok s₁ ∧ f s₁ = .ok s₂ ∧
      inTurn (fs.drop (n + 1)) s₂ = .ok s' ∧ List.Forall₂ Acts (fs.take n) (acts.take n) ∧
      List.Forall₂ Acts (fs.drop (n + 1)) (acts.drop (n + 1)) := by
  have hdrop : fs.drop (n + 1) = behind := by
    rw [← List.tail_drop, hs, List.tail_cons]
  rw [← List.take_append_drop n fs, hs, inTurn_append] at hr
  obtain ⟨s₁, h1, hr⟩ := bind_eq_ok.1 hr
  rw [inTurn_cons] at hr
  obtain ⟨s₂, h2, hr⟩ := bind_eq_ok.1 hr
  exact ⟨s₁, s₂, h1, h2, hdrop ▸ hr, List.forall₂_take n h, List.forall₂_drop (n + 1) h⟩

/-- **A stage of the conversion**, with what happens before and behind it. -/
theorem convertProfile_at (n : ℕ) (hs : (stages orders p.metaOptions).drop n = f :: behind)
    (h : convertProfile orders p = .ok s) : ∃ s₁ s₂, f s₁ = .ok s₂ ∧
      Takes (together (actions.take n)).names (together (actions.take n)).added
        p.options s₁.options ∧
      Agree (together (actions.take n)).touched (ConfigParser.start p).np s₁.np ∧
      Takes (together (actions.drop (n + 1))).names (together (actions.drop (n + 1))).added
        s₂.options s.options ∧
      Agree (together (actions.drop (n + 1))).touched s₂.np s.np := by
  obtain ⟨s₁, s₂, h1, hf, h2, hbefore, hbehind⟩ :=
    inTurn_at (stages_act orders p.metaOptions) n hs h
  exact ⟨s₁, s₂, hf, (inTurn_acts hbefore h1).1, (inTurn_acts hbefore h1).2,
    (inTurn_acts hbehind h2).1, (inTurn_acts hbehind h2).2⟩

/-- What no stage touches is as it was at the start. -/
lemma same_of_untouched (field : Field) (hf : field ∉ (together actions).touched)
    (h : convertProfile orders p = .ok s) : field.Same (ConfigParser.start p).np s.np :=
  (inTurn_acts (stages_act orders p.metaOptions) h).2 field hf

end BuludTechVPN.FileReading
