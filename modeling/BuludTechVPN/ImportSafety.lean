import BuludTechVPN.ConnectionChecks

/-!
Whether an import can end with an exception that `doImport` does not catch, or not end at all.
-/

namespace BuludTechVPN.ImportChecks

open JavaLang ParseConfig ConvertProfile Stages

/-! ### The conversion -/

/-- The checks of the stages before the routes, in the order of the stages. -/
def earlyChecks : List (Check Text (List (List Text))) :=
  [noCheck ["client".toList, "pull".toList], anyArguments "secret".toList 1 2]

/-- Those between the routes and `ifconfig`. -/
def tunnelChecks : List (Check Text (List (List Text))) :=
  [anyArguments "route-ipv6".toList 1 4, anyArguments "route-nopull".toList 1 1,
   anyArguments "tls-auth".toList 1 2, anyArguments "key-direction".toList 1 1,
   anyArguments "tls-crypt".toList 1 1, anyArguments "redirect-gateway".toList 0 7,
   anyArguments "redirect-private".toList 0 5, devCheck, mssfixCheck, mtuCheck, modeCheck,
   anyArguments "dhcp-option".toList 2 2]

/-- Those between `ifconfig` and `auth-retry`. -/
def peerChecks : List (Check Text (List (List Text))) :=
  [anyArguments "remote-random-hostname".toList 0 0, anyArguments "float".toList 0 0,
   anyArguments "comp-lzo".toList 0 1, anyArguments "cipher".toList 1 1,
   anyArguments "auth".toList 1 1, anyArguments "ca".toList 1 1, anyArguments "cert".toList 1 1,
   anyArguments "key".toList 1 1, anyArguments "pkcs12".toList 1 1,
   anyArguments "cryptoapicert".toList 1 1, tlsRemoteCheck, verifyX509NameCheck,
   anyArguments "x509-username-field".toList 1 1, anyArguments "verb".toList 1 1,
   anyArguments "nobind".toList 0 0, anyArguments "persist-tun".toList 0 0,
   anyArguments "push-peer-info".toList 0 0, anyArguments "connect-retry".toList 1 2,
   anyArguments "connect-retry-max".toList 1 1, remoteCertTlsCheck,
   anyArguments "auth-user-pass".toList 0 1]

def crlCheck : Check Text (List (List Text)) := anyArguments "crl-verify".toList 1 2

/-- Those behind the connections. -/
def lateChecks : List (Check Text (List (List Text))) :=
  [anyArguments "remote-random".toList 0 0, protoForceCheck, noCheck [], unsupportedCheck,
   noCheck []]

def checks : List (Check Text (List (List Text))) :=
  earlyChecks ++ routesCheck :: (tunnelChecks ++ ifconfigCheck ::
    (peerChecks ++ authRetryCheck :: crlCheck :: connectionsCheck :: lateChecks))

instance (c d : Check Text (List (List Text))) : Decidable (Apart c d) :=
  inferInstanceAs (Decidable (∀ k ∈ c.keys, k ∉ d.keys))

lemma checks_apart : checks.Pairwise Apart := by
  decide +kernel

lemma stages_meet (orders : ℕ → KeyOrder Text) (metaOptions : Multimap Text (List Text)) :
    List.Forall₂ (Meets view Escapes) (stages orders metaOptions) checks :=
  .cons meets_client <| .cons meets_secret <| .cons meets_route <| .cons meets_routeIpv6 <|
  .cons meets_onFlag <| .cons meets_tlsAuth <| .cons meets_onArgument <| .cons meets_onArgument <|
  .cons meets_redirectGateway <| .cons meets_redirectPrivate <| .cons meets_dev <|
  .cons meets_mssfix <| .cons meets_mtu <| .cons meets_mode <| .cons meets_dhcpOption <|
  .cons meets_ifconfig <| .cons meets_onFlag <| .cons meets_onFlag <| .cons meets_onFlag <|
  .cons meets_onArgument <| .cons meets_onArgument <| .cons meets_onArgument <|
  .cons meets_cert <| .cons meets_onArgument <| .cons meets_pkcs12 <| .cons meets_cryptoapicert <|
  .cons meets_tlsRemote <| .cons meets_verifyX509Name <| .cons meets_onArgument <|
  .cons meets_onArgument <| .cons meets_onFlag <| .cons meets_onFlag <| .cons meets_onFlag <|
  .cons meets_connectRetry <| .cons meets_onArgument <| .cons meets_remoteCertTls <|
  .cons meets_authUserPass <| .cons meets_authRetry <| .cons meets_crlVerify <|
  .cons (meets_connections orders) <| .cons meets_onFlag <| .cons meets_protoForce <|
  .cons (meets_accessServerExtra metaOptions) <|
  .cons (meets_checkIgnoreAndInvalidOptions (orders 0)) <| .cons meets_fixup .nil

/-- **Which configurations are accepted**, and on which the conversion fails. -/
theorem convertProfile_outcome (orders : ℕ → KeyOrder Text) (p : ConfigParser) :
    Outcome Escapes (AcceptsAll checks p.options.get) (FailsFirst checks p.options.get)
      (convertProfile orders p) :=
  inTurn_outcome (stages_meet orders p.metaOptions) checks_apart (ConfigParser.start p)

lemma not_fails_early {o : Lines} : ∀ c ∈ earlyChecks, ¬ c.fails o := by
  simp [earlyChecks, noCheck, anyArguments]

lemma not_fails_tunnel {o : Lines} : ∀ c ∈ tunnelChecks, ¬ c.fails o := by
  simp [tunnelChecks, anyArguments, devCheck, mssfixCheck, mtuCheck, modeCheck, lastLine]

lemma not_fails_peer {o : Lines} : ∀ c ∈ peerChecks, ¬ c.fails o := by
  simp [peerChecks, anyArguments, tlsRemoteCheck, verifyX509NameCheck, remoteCertTlsCheck, lastLine]

lemma not_fails_late {o : Lines} : ∀ c ∈ lateChecks, ¬ c.fails o := by
  simp [lateChecks, anyArguments, protoForceCheck, unsupportedCheck, noCheck, lastLine]

/-- None of the four stages that can fail does, if the conversion comes to it. -/
def Harmless (o : Lines) : Prop :=
  (AcceptsAll earlyChecks o → ¬ routesCheck.fails o) ∧
    (AcceptsAll (earlyChecks ++ routesCheck :: tunnelChecks) o → ¬ ifconfigCheck.fails o) ∧
    (AcceptsAll (earlyChecks ++ routesCheck :: (tunnelChecks ++ ifconfigCheck :: peerChecks)) o →
      ¬ authRetryCheck.fails o) ∧
    (AcceptsAll (earlyChecks ++ routesCheck :: (tunnelChecks ++ ifconfigCheck ::
      (peerChecks ++ [authRetryCheck, crlCheck]))) o → ¬ connectionsCheck.fails o)

lemma not_failsFirst_checks {o : Lines} : ¬ FailsFirst checks o ↔ Harmless o := by
  have safe : ∀ {c : Check Text (List (List Text))} {cs : List (Check Text (List (List Text)))},
      FailsFirst (c :: cs) o ↔ c.fails o ∨ c.accepts o ∧ FailsFirst cs o := firstFails_cons
  have crl : ¬ crlCheck.fails o := id
  have nil : AcceptsAll [] o := by simp [AcceptsAll]
  simp only [checks, Harmless, failsFirst_append, safe, acceptsAll_append, acceptsAll_cons,
    not_failsFirst not_fails_early, not_failsFirst not_fails_tunnel,
    not_failsFirst not_fails_peer, not_failsFirst not_fails_late, crl, nil, false_or, and_false,
    or_false, and_true]
  constructor
  · intro h
    refine ⟨fun e hr => h ⟨e, .inl hr⟩, ?_, ?_, ?_⟩
    · rintro ⟨e, r, t⟩ hi
      exact h ⟨e, .inr ⟨r, t, .inl hi⟩⟩
    · rintro ⟨e, r, t, i, p⟩ ha
      exact h ⟨e, .inr ⟨r, t, .inr ⟨i, p, .inl ha⟩⟩⟩
    · rintro ⟨e, r, t, i, p, a, c⟩ hc
      exact h ⟨e, .inr ⟨r, t, .inr ⟨i, p, .inr ⟨a, c, hc⟩⟩⟩⟩
  · rintro ⟨hroute, hif, hauth, hconn⟩ ⟨e, hr | ⟨r, t, hi | ⟨i, p, ha | ⟨a, c, hc⟩⟩⟩⟩
    · exact hroute e hr
    · exact hif ⟨e, r, t⟩ hi
    · exact hauth ⟨e, r, t, i, p⟩ ha
    · exact hconn ⟨e, r, t, i, p, a, c⟩ hc

/-! ### Imports -/

/-- What `doImport` relies on: a profile, or one of the two exceptions that it catches. -/
def Handled {α : Type} (r : Call α) : Prop :=
  (∃ a, r = .ok a) ∨ (∃ m, r = .error (.configParse m)) ∨ r = .error .io

lemma handled_iff {α : Type} {r : Call α} :
    Handled r ↔ ¬ ∃ e, r = .error e ∧ Escapes e := by
  rcases r with e | a
  · cases e <;> simp [Handled, Escapes]
  · simp [Handled]

/-- **An import is handled exactly on harmless options**: no route or `ifconfig` mask that the
constructor of `CIDRIP` loops on or, for `ifconfig`, is too short for, no unknown `auth-retry`
and no `connection` shorter than the inline tag, if the conversion comes to it. -/
theorem handled_importConfig (orders : ℕ → KeyOrder Text) (text : Text) :
    Handled (importConfig orders text) ↔
      ∀ p, parseConfig text = .ok p → Harmless p.options.get := by
  rw [handled_iff, importConfig]
  rcases hp : parseConfig text with e | p
  · obtain ⟨m, rfl⟩ := parseConfig_error hp
    simp [bind, Except.bind, Escapes]
  · have := (convertProfile_outcome orders p).fails_iff
    simp only [bind, Except.bind, this, not_failsFirst_checks]
    simp

/-- An unknown argument of `auth-retry` ends the import with an exception that nobody catches. -/
theorem not_always_handled : ¬ ∀ orders text, Handled (importConfig orders text) := by
  intro h
  have escapes : importConfig (fun _ => .asKept _) "auth-retry keep\n".toList =
      .error .arrayIndexOutOfBounds := by decide +kernel
  have := h (fun _ => .asKept _) "auth-retry keep\n".toList
  rw [handled_iff] at this
  exact this ⟨_, escapes, trivial⟩

/-- A mask that the constructor of `CIDRIP` makes zero. -/
example : importConfig (fun _ => .asKept _) "route 10.0.0.0 -256.0.0.0\n".toList =
    .error .endlessLoop := by decide +kernel

end BuludTechVPN.ImportChecks
