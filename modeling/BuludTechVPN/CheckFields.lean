import BuludTechVPN.ServerList

/-!
The checks of the server, as an import stores them: the name that is asked for, the purpose of its
certificate, and the lists of certificates that were revoked.
-/

namespace BuludTechVPN.FileReading

open JavaLang LineParser ParseConfig VpnProfile ConvertProfile ImportChecks Stages

variable {orders : ℕ → KeyOrder Text} {p : ConfigParser} {s s' : Import} {f : Stage}
variable {fs behind : List Stage} {acts : List Action}

/-! ### The kind of authentication -/

/-- The profile authenticates with certificates or passwords. -/
def IsTls (np : VpnProfile) : Prop := np.mAuthenticationType ≠ .statickeys

def KeepsTls (f : Stage) : Prop := ∀ s s', f s = .ok s' → IsTls s.np → IsTls s'.np

lemma keepsTls_last {option : Text} {changes : List Text → VpnProfile → VpnProfile → Prop}
    (h : Does f (lastEffect option changes))
    (hc : ∀ l np np', changes l np np' → IsTls np → IsTls np') : KeepsTls f := by
  intro s s' hs ht
  obtain ⟨-, hch⟩ := h s s' hs
  cases hl : (view s option).getLast? with
  | none =>
    simp only [lastEffect, hl] at hch
    rwa [hch]
  | some l =>
    simp only [lastEffect, hl] at hch
    exact hc l _ _ hch ht

lemma keepsTls_cert : KeepsTls cert := keepsTls_last does_cert fun _ _ _ hc _ => by
  rw [IsTls, hc]
  simp

lemma keepsTls_pkcs12 : KeepsTls pkcs12 := keepsTls_last does_pkcs12 fun _ _ _ hc _ => by
  rw [IsTls, hc]
  simp

lemma keepsTls_cryptoapicert : KeepsTls cryptoapicert :=
  keepsTls_last does_cryptoapicert fun _ _ _ hc _ => by
    rw [IsTls, hc]
    simp

lemma userAuthType_ne {b : Bool} {type : AuthenticationType} (h : type ≠ .statickeys) :
    userAuthType b type ≠ .statickeys := by
  cases type <;> cases b <;> first | exact h | decide

lemma does_userAuthType : Does authUserPass (lastEffect "auth-user-pass".toList fun _ np np' =>
    ∃ b, np'.mAuthenticationType = userAuthType b np.mAuthenticationType) :=
  does_onOption fun s l s' _ h => by
    dsimp only at h
    cases hf : l[1]? with
    | none =>
      rw [hf] at h
      obtain rfl := Except.ok.inj h
      exact ⟨rfl, s.noauthtypeset, rfl⟩
    | some file =>
      rw [hf] at h
      obtain rfl := Except.ok.inj h
      refine ⟨rfl, s.noauthtypeset, ?_⟩
      dsimp only
      unfold useEmbbedUserAuth
      split <;> rfl

lemma keepsTls_authUserPass : KeepsTls authUserPass :=
  keepsTls_last does_userAuthType fun _ np np' hc ht => by
    obtain ⟨b, hc⟩ := hc
    rw [IsTls, hc]
    exact userAuthType_ne ht

/-- A stage of a run that leaves the authentication alone before. -/
lemma isTls_at (hall : List.Forall₂ Acts fs acts) (n : ℕ) (hs : fs.drop n = f :: behind)
    (hf : KeepsTls f) (hfree : .mAuthenticationType ∉ (together (acts.take n)).touched)
    (ht : IsTls s.np) (hr : inTurn fs s = .ok s') : ∃ s₂, IsTls s₂.np ∧
      inTurn (fs.drop (n + 1)) s₂ = .ok s' ∧
      List.Forall₂ Acts (fs.drop (n + 1)) (acts.drop (n + 1)) := by
  obtain ⟨s₁, s₂, h1, hstage, h2, hbefore, hbehind⟩ := inTurn_at hall n hs hr
  have hsame : s₁.np.mAuthenticationType = s.np.mAuthenticationType :=
    (inTurn_acts hbefore h1).2 .mAuthenticationType hfree
  exact ⟨s₂, hf s₁ s₂ hstage (by rwa [IsTls, hsame]), h2, hbehind⟩

/-- **Without `secret`** the profile is one for TLS. -/
theorem isTls_of_convert (hnone : p.options.get "secret".toList = [])
    (h : convertProfile orders p = .ok s) : IsTls s.np := by
  obtain ⟨s₁, s₂, h1, hsecret, h2, hbefore, hbehind⟩ :=
    inTurn_at (stages_act orders p.metaOptions) 1 rfl h
  obtain ⟨t1, a1⟩ := inTurn_acts hbefore h1
  have htype : s₁.np.mAuthenticationType = .keystore := a1 .mAuthenticationType (by decide)
  have hstart : IsTls s₁.np := by
    rw [IsTls, htype]
    decide
  have hview : view s₁ "secret".toList = [] := by
    rw [view, t1 _ (by decide), if_neg (by decide)]
    exact hnone
  have h0 : IsTls s₂.np := by
    obtain ⟨-, hc⟩ := does_secret s₁ s₂ hsecret
    simp only [secretEffect, lastEffect, hview, List.getLast?_nil] at hc
    rwa [hc]
  obtain ⟨s₃, t3, h3, hl3⟩ := isTls_at hbehind 20 rfl keepsTls_cert (by decide) h0 h2
  obtain ⟨s₄, t4, h4, hl4⟩ := isTls_at hl3 1 rfl keepsTls_pkcs12 (by decide) t3 h3
  obtain ⟨s₅, t5, h5, hl5⟩ := isTls_at hl4 0 rfl keepsTls_cryptoapicert (by decide) t4 h4
  obtain ⟨s₆, t6, h6, hl6⟩ := isTls_at hl5 10 rfl keepsTls_authUserPass (by decide) t5 h5
  have hend : s.np.mAuthenticationType = s₆.np.mAuthenticationType :=
    (inTurn_acts hl6 h6).2 .mAuthenticationType (by decide)
  rwa [IsTls, hend]

/-! ### The name -/

/-- The name that the configuration asks for. -/
def checkedName (o : Lines) : Option Text :=
  (lastArgument o "verify-x509-name".toList).or (lastArgument o "tls-remote".toList)

/-- The fields of the name before the last stage. -/
structure NameFields (o : Lines) (np : VpnProfile) : Prop where
  mCheckRemoteCN : np.mCheckRemoteCN = (checkedName o).isSome
  mRemoteCN : ∀ name ∈ checkedName o, np.mRemoteCN = name
  mX509AuthType : ∀ l ∈ (o "verify-x509-name".toList).getLast?,
    x509Type l[2]? = .ok np.mX509AuthType

lemma nameFields_of_stages {o : Lines} {s₁ s₂ s₃ : Import} (hcheck : s₁.np.mCheckRemoteCN = false)
    (htls : view s₁ "tls-remote".toList = o "tls-remote".toList)
    (hverify : view s₂ "verify-x509-name".toList = o "verify-x509-name".toList)
    (h1 : tlsRemote s₁ = .ok s₂) (h2 : verifyX509Name s₂ = .ok s₃) : NameFields o s₃.np := by
  obtain ⟨-, h1⟩ := does_tlsRemote s₁ s₂ h1
  obtain ⟨-, h2⟩ := does_verifyX509Name s₂ s₃ h2
  cases hl : (o "verify-x509-name".toList).getLast? with
  | some l =>
    have hname : checkedName o = some (argument l 1) := by
      rw [checkedName, lastArgument, hl]
      rfl
    simp only [verifyX509NameEffect, lastEffect, hverify, hl] at h2
    obtain ⟨t, ht, h2⟩ := h2
    rw [h2]
    refine ⟨by rw [hname]; rfl, fun name hn => ?_, fun l' hl' => ?_⟩
    · exact Option.some.inj (hname.symm.trans hn)
    · obtain rfl := Option.some.inj (hl.symm.trans hl')
      exact ht
  | none =>
    have hname : checkedName o = lastArgument o "tls-remote".toList := by
      rw [checkedName, lastArgument, hl]
      rfl
    have hnone : ∀ t, ∀ l ∈ (o "verify-x509-name".toList).getLast?, x509Type l[2]? = .ok t := by
      rw [hl]
      rintro t l ⟨⟩
    simp only [verifyX509NameEffect, lastEffect, hverify, hl] at h2
    rw [h2]
    cases hr : (o "tls-remote".toList).getLast? with
    | some l =>
      have hlast : checkedName o = some (argument l 1) := by
        rw [hname, lastArgument, hr]
        rfl
      simp only [tlsRemoteEffect, htls, hr] at h1
      rw [h1]
      exact ⟨by rw [hlast]; rfl, fun name hn => Option.some.inj (hlast.symm.trans hn), hnone _⟩
    | none =>
      have hlast : checkedName o = none := by
        rw [hname, lastArgument, hr]
        rfl
      simp only [tlsRemoteEffect, htls, hr] at h1
      rw [h1]
      refine ⟨by rw [hlast, hcheck]; rfl, fun name hn => ?_, hnone _⟩
      rw [hlast] at hn
      cases hn

/-- **The name that is asked for** is stored, but if it is that of a server that is not known. -/
theorem name_of_convert (h : convertProfile orders p = .ok s) : ∃ np,
    NameFields p.options.get np ∧ s.np.mCheckRemoteCN = np.mCheckRemoteCN ∧
      s.np.mX509AuthType = np.mX509AuthType ∧
      s.np.mRemoteCN = if np.mRemoteCN = "unknown".toList then [] else np.mRemoteCN := by
  obtain ⟨s₁, s₂, h1, htls, h2, hbefore, hbehind⟩ :=
    inTurn_at (stages_act orders p.metaOptions) 26 rfl h
  obtain ⟨t1, a1⟩ := inTurn_acts hbefore h1
  obtain ⟨s₃, s₄, h3, hverify, h4, -, hlater⟩ := inTurn_at hbehind 0 rfl h2
  obtain rfl := Except.ok.inj h3
  obtain ⟨s₅, s₆, h5, hfixup, h6, hbetween, -⟩ := inTurn_at hlater 16 rfl h4
  obtain rfl := Except.ok.inj h6
  obtain ⟨-, a5⟩ := inTurn_acts hbetween h5
  have hview : ∀ k ∈ ["tls-remote".toList, "verify-x509-name".toList],
      view s₁ k = p.options.get k := by
    have hfree : ∀ k ∈ ["tls-remote".toList, "verify-x509-name".toList],
        k ∉ (together (actions.take 26)).added ∧ k ∉ (together (actions.take 26)).names := by
      decide +kernel
    exact fun k hk => (t1 k (hfree k hk).1).trans (if_neg (hfree k hk).2)
  have hverified : view s₂ "verify-x509-name".toList = p.options.get "verify-x509-name".toList := by
    rw [view, (acts_tlsRemote s₁ s₂ htls).1 _ (by decide), if_neg (by decide)]
    exact hview _ (by decide)
  have hserver : s₅.np.mServerName = "unknown".toList :=
    calc s₅.np.mServerName
      _ = s₄.np.mServerName := a5 .mServerName (by decide)
      _ = s₂.np.mServerName := (acts_verifyX509Name s₂ s₄ hverify).2 .mServerName (by decide)
      _ = s₁.np.mServerName := (acts_tlsRemote s₁ s₂ htls).2 .mServerName (by decide)
      _ = "unknown".toList := a1 .mServerName (by decide)
  have hcheck : s₁.np.mCheckRemoteCN = false := a1 .mCheckRemoteCN (by decide)
  have hfields : NameFields p.options.get s₄.np :=
    nameFields_of_stages hcheck (hview _ (by decide)) hverified htls hverify
  refine ⟨s₅.np, ?_, ?_, ?_, ?_⟩
  · have hcn : s₅.np.mRemoteCN = s₄.np.mRemoteCN := a5 .mRemoteCN (by decide)
    have htype : s₅.np.mX509AuthType = s₄.np.mX509AuthType := a5 .mX509AuthType (by decide)
    have hon : s₅.np.mCheckRemoteCN = s₄.np.mCheckRemoteCN := a5 .mCheckRemoteCN (by decide)
    exact ⟨hon.trans hfields.mCheckRemoteCN, hcn ▸ hfields.mRemoteCN, htype ▸ hfields.mX509AuthType⟩
  · rw [fixup_ok hfixup]
  · rw [fixup_ok hfixup]
  · rw [fixup_ok hfixup, ← hserver]
    rfl

/-! ### The certificate -/

/-- The first line of `remote-cert-tls` is about a server. -/
def wantsServer (o : Lines) : Bool :=
  (o "remote-cert-tls".toList).head?.any (argument · 1 = "server".toList)

lemma mExpectTLSCert_remoteCertTlsOf (hoff : s.np.mExpectTLSCert = false) :
    (remoteCertTlsOf s).np.mExpectTLSCert = wantsServer (view s) := by
  unfold remoteCertTlsOf wantsServer
  cases hl : view s "remote-cert-tls".toList with
  | nil => exact hoff
  | cons l lines =>
    by_cases hserver : argument l 1 = "server".toList
    · rw [List.head?_cons, Option.any_some, decide_eq_true hserver]
      dsimp only
      rw [if_pos hserver]
    · rw [List.head?_cons, Option.any_some, decide_eq_false hserver]
      dsimp only
      rwa [if_neg hserver]

/-- **The purpose of the certificate** is checked if the first line asks for it. -/
theorem mExpectTLSCert_of_convert (h : convertProfile orders p = .ok s) :
    s.np.mExpectTLSCert = wantsServer p.options.get := by
  obtain ⟨s₁, s₂, hstage, t1, a1, -, a2⟩ := convertProfile_at (f := remoteCertTls) 35 rfl h
  have hoff : s₁.np.mExpectTLSCert = false := a1 .mExpectTLSCert (by decide)
  have hend : s.np.mExpectTLSCert = s₂.np.mExpectTLSCert := a2 .mExpectTLSCert (by decide)
  have hview : view s₁ "remote-cert-tls".toList = p.options.get "remote-cert-tls".toList := by
    rw [view, t1 _ (by decide), if_neg (by decide +kernel)]
  rw [hend, remoteCertTls_ok hstage, mExpectTLSCert_remoteCertTlsOf hoff, wantsServer, hview]
  rfl

/-! ### What is left -/

/-- Something is left of the options: one that is not recognised, or a purpose of the certificate
that is not that of a server. -/
def LeftOver (o : Lines) : Prop :=
  (∃ k ∉ convertedNames ++ ignoreOptions, o k ≠ []) ∨
    (o "remote-cert-tls".toList ≠ [] ∧ wantsServer o = false)

lemma remotetls_remoteCertTlsOf : (remoteCertTlsOf s).options.get remotetls ≠ [] ↔
    view s remotetls ≠ [] ∨ (view s "remote-cert-tls".toList ≠ [] ∧ wantsServer (view s) = false) := by
  have hremove : (s.options.remove "remote-cert-tls".toList).get remotetls = view s remotetls :=
    Multimap.get_remove_of_ne (by decide)
  unfold remoteCertTlsOf wantsServer
  cases hl : view s "remote-cert-tls".toList with
  | nil => simp [view]
  | cons l lines =>
    by_cases hserver : argument l 1 = "server".toList
    · rw [List.head?_cons, Option.any_some, decide_eq_true hserver]
      dsimp only
      rw [if_pos hserver, hremove]
      simp
    · rw [List.head?_cons, Option.any_some, decide_eq_false hserver]
      dsimp only
      rw [if_neg hserver]
      refine iff_of_true (List.ne_nil_of_mem (a := l) ?_) (.inr ⟨List.cons_ne_nil _ _, rfl⟩)
      exact Multimap.mem_get.2 (Multimap.mem_put.2 (.inr ⟨rfl, List.mem_cons_self⟩))

/-- **What is left** of the options at the end. -/
theorem options_ne_nil_iff (h : convertProfile orders p = .ok s) :
    s.options ≠ [] ↔ LeftOver p.options.get := by
  have hany : s.options ≠ [] ↔ ∃ k, s.options.get k ≠ [] := by
    constructor
    · intro hne
      obtain ⟨e, he⟩ := List.exists_mem_of_ne_nil _ hne
      exact ⟨e.1, List.ne_nil_of_mem (Multimap.mem_get.2 he)⟩
    · rintro ⟨k, hk⟩ hnil
      rw [hnil] at hk
      exact hk rfl
  have hsame : (∀ k ∈ (together actions).names, k ∈ convertedNames ++ ignoreOptions) ∧
      (∀ k ∈ convertedNames ++ ignoreOptions, k ∈ (together actions).names) ∧
        ∀ k ∈ (together actions).added, k = remotetls := by decide +kernel
  have hother : ∀ k ≠ remotetls, s.options.get k ≠ [] ↔
      k ∉ convertedNames ++ ignoreOptions ∧ p.options.get k ≠ [] := by
    intro k hk
    have htake := (inTurn_acts (stages_act orders p.metaOptions) h).1 k
      fun ha => hk (hsame.2.2 k ha)
    rw [htake]
    by_cases hm : k ∈ (together actions).names
    · rw [if_pos hm]
      exact iff_of_false (fun hne => hne rfl) fun hn => hn.1 (hsame.1 k hm)
    · rw [if_neg hm]
      exact iff_and_self.2 fun _ hn => hm (hsame.2.1 k hn)
  have htls : s.options.get remotetls ≠ [] ↔ p.options.get remotetls ≠ [] ∨
      (p.options.get "remote-cert-tls".toList ≠ [] ∧ wantsServer p.options.get = false) := by
    obtain ⟨s₁, s₂, hstage, t1, -, t2, -⟩ := convertProfile_at (f := remoteCertTls) 35 rfl h
    have hview : ∀ k ∈ [remotetls, "remote-cert-tls".toList], view s₁ k = p.options.get k := by
      have hfree : ∀ k ∈ [remotetls, "remote-cert-tls".toList],
          k ∉ (together (actions.take 35)).added ∧ k ∉ (together (actions.take 35)).names := by
        decide +kernel
      exact fun k hk => (t1 k (hfree k hk).1).trans (if_neg (hfree k hk).2)
    rw [t2 _ (by decide), if_neg (by decide +kernel), remoteCertTls_ok hstage,
      remotetls_remoteCertTlsOf, wantsServer, hview _ (by decide), hview _ (by decide)]
    rfl
  rw [hany]
  constructor
  · rintro ⟨k, hk⟩
    by_cases hne : k = remotetls
    · subst hne
      rcases htls.1 hk with hk | hk
      · exact .inl ⟨remotetls, by decide +kernel, hk⟩
      · exact .inr hk
    · exact .inl ⟨k, (hother k hne).1 hk⟩
  · rintro (⟨k, hn, hk⟩ | hcert)
    · by_cases hne : k = remotetls
      · subst hne
        exact ⟨_, htls.2 (.inl hk)⟩
      · exact ⟨k, (hother k hne).2 ⟨hn, hk⟩⟩
    · exact ⟨_, htls.2 (.inr hcert)⟩

/-! ### Revoked certificates -/

/-- A line of `crl-verify` for a directory. -/
def isDirectory (l : List Text) : Bool := l[2]? = some "dir".toList

/-- What is written of the directory of revocation lists. -/
def crlDirectory (o : Lines) : Text :=
  (((o "crl-verify".toList).getLast?.filter isDirectory).map (join [' '] · ++ ['\n'])).getD []

/-- The file of revoked certificates. -/
def crlFile (o : Lines) : Option Text :=
  ((o "crl-verify".toList).getLast?.filter (!isDirectory ·)).map (argument · 1)

lemma crl_of_crlVerify {o : Lines} (hview : view s "crl-verify".toList = o "crl-verify".toList)
    (hfile : s.np.mCrlFilename = none) (htext : s.np.mCustomConfigOptions = [])
    (h : crlVerify s = .ok s') :
    s'.np.mCrlFilename = crlFile o ∧ s'.np.mCustomConfigOptions = crlDirectory o ∧
      ∀ l ∈ (o "crl-verify".toList).getLast?, l.length ≤ 3 := by
  obtain ⟨-, hc⟩ := does_crlVerify s s' h
  unfold crlFile crlDirectory
  cases hl : (o "crl-verify".toList).getLast? with
  | none =>
    simp only [crlVerifyEffect, lastEffect, hview, hl] at hc
    rw [hc]
    exact ⟨hfile, htext, fun l hl => by cases hl⟩
  | some l =>
    simp only [crlVerifyEffect, lastEffect, hview, hl] at hc
    obtain ⟨hlen, hc⟩ := hc
    have hshort : ∀ l' ∈ some l, l'.length ≤ 3 := by
      rintro l' ⟨⟩
      exact hlen
    by_cases hd : isDirectory l = true
    · rw [if_pos (of_decide_eq_true hd)] at hc
      rw [hc, Option.filter_some_pos hd, Option.filter_some_neg (by rw [hd]; decide)]
      refine ⟨hfile, ?_, hshort⟩
      dsimp only
      rw [htext]
      rfl
    · rw [if_neg fun hw => hd (decide_eq_true hw)] at hc
      rw [hc, Option.filter_some_pos (by simpa using hd), Option.filter_some_neg (by simpa using hd)]
      exact ⟨rfl, htext, hshort⟩

/-- **The lists of revoked certificates** are stored as a file, or as text that stands in the file
if there is something left of the options. -/
theorem crl_of_convert (h : convertProfile orders p = .ok s) :
    s.np.mCrlFilename = crlFile p.options.get ∧
      s.np.mCustomConfigOptions = customText (orders 0) (crlDirectory p.options.get) s.options ∧
      s.np.mUseCustomConfig = decide (s.options ≠ []) ∧
      ∀ l ∈ (p.options.get "crl-verify".toList).getLast?, l.length ≤ 3 := by
  obtain ⟨s₁, s₂, h1, hcrl, h2, hbefore, hbehind⟩ :=
    inTurn_at (stages_act orders p.metaOptions) 38 rfl h
  obtain ⟨t1, a1⟩ := inTurn_acts hbefore h1
  obtain ⟨s₃, s₄, h3, hcheck, h4, hbetween, hlater⟩ := inTurn_at hbehind 4 rfl h2
  obtain ⟨-, a3⟩ := inTurn_acts hbetween h3
  obtain ⟨t4, a4⟩ := inTurn_acts hlater h4
  obtain ⟨hrest, hnp⟩ := checkIgnoreAndInvalidOptions_ok hcheck
  rw [keepCustomOptions_eq] at hnp
  have hsame : s.options = s₄.options := by
    change inTurn [fixup] s₄ = .ok s at h4
    obtain ⟨s₅, h5, h6⟩ := bind_eq_ok.1 ((inTurn_cons ..).symm.trans h4)
    obtain rfl := Except.ok.inj h6
    rw [fixup_ok h5]
  have hview : view s₁ "crl-verify".toList = p.options.get "crl-verify".toList := by
    rw [view, t1 _ (by decide), if_neg (by decide +kernel)]
    rfl
  have hfile : s₁.np.mCrlFilename = none := a1 .mCrlFilename (by decide)
  have htext : s₁.np.mCustomConfigOptions = [] := a1 .mCustomConfigOptions (by decide)
  have hused : s₃.np.mUseCustomConfig = false :=
    calc s₃.np.mUseCustomConfig
      _ = s₂.np.mUseCustomConfig := a3 .mUseCustomConfig (by decide)
      _ = s₁.np.mUseCustomConfig := (acts_crlVerify s₁ s₂ hcrl).2 .mUseCustomConfig (by decide)
      _ = false := a1 .mUseCustomConfig (by decide)
  obtain ⟨hstored, hwritten, hshort⟩ := crl_of_crlVerify hview hfile htext hcrl
  have hname : s.np.mCrlFilename = s₄.np.mCrlFilename := a4 .mCrlFilename (by decide)
  have hcustom : s.np.mCustomConfigOptions = s₄.np.mCustomConfigOptions :=
    a4 .mCustomConfigOptions (by decide)
  have huse : s.np.mUseCustomConfig = s₄.np.mUseCustomConfig := a4 .mUseCustomConfig (by decide)
  have hname' : s₃.np.mCrlFilename = s₂.np.mCrlFilename := a3 .mCrlFilename (by decide)
  have hcustom' : s₃.np.mCustomConfigOptions = s₂.np.mCustomConfigOptions :=
    a3 .mCustomConfigOptions (by decide)
  rw [hname, hcustom, huse, hsame, hnp]
  refine ⟨hname'.trans hstored, ?_, ?_, hshort⟩
  · dsimp only
    rw [hcustom', hwritten]
  · dsimp only
    rw [hused, Bool.false_or]

end BuludTechVPN.FileReading
