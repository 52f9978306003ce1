import BuludTechVPN.ScreenPause

/-!
The reasons that are given for a pause: a reason names a component that is disconnected, unless
the VPN is told to pause while nothing is.
-/

namespace BuludTechVPN.DeviceState

open JavaLang Phone

/-- The component that the reason names is disconnected. -/
def PauseReason.Names (r : DeviceStateReceiver) : PauseReason → Prop
  | .userPause => r.userpause = .disconnected
  | .screenOff => r.screen = .disconnected
  | .noNetwork => r.network = .disconnected

namespace DeviceStateReceiver

variable {r : DeviceStateReceiver}

/-- Some component is disconnected. -/
def AnyDisconnected (r : DeviceStateReceiver) : Prop :=
  r.userpause = .disconnected ∨ r.screen = .disconnected ∨ r.network = .disconnected

/-- **The answer is true if there is one**: only the default of `getPauseReason` can be wrong. -/
lemma getPauseReason_names : r.getPauseReason.Names r ↔ r.AnyDisconnected := by
  unfold getPauseReason AnyDisconnected
  by_cases hu : r.userpause = .disconnected
  · simp [hu, PauseReason.Names]
  · by_cases hs : r.screen = .disconnected
    · simp [hu, hs, PauseReason.Names]
    · by_cases hn : r.network = .disconnected
      · simp [hu, hs, hn, PauseReason.Names]
      · simp [hu, hs, hn, PauseReason.Names]

end DeviceStateReceiver

/-- Every pause was requested for a reason that was true when it was. -/
def Truthful (p : Phone) : Prop :=
  ∀ i ∈ p.issued, ∀ reason, i.request = .pause reason → reason.Names i.receiver

/-- The two events that pause a VPN of which nothing is disconnected. The user lifts a pause, and
there is something other to wait for, or there was no pause to lift; or the screen goes on while
the loss of the network is pending. -/
def PausesForNothing (p : Phone) : Event → Prop
  | .userPause pause =>
    pause = false ∧ p.receiver.screen ≠ .disconnected ∧ p.receiver.network ≠ .disconnected ∧
      (p.receiver.screen = .shouldBeConnected → p.receiver.network = .shouldBeConnected →
        p.receiver.userpause = .shouldBeConnected)
  | .screenOn =>
    p.receiver.userpause ≠ .disconnected ∧ p.receiver.network ≠ .disconnected ∧
      ¬ (p.receiver.userpause = .shouldBeConnected ∧ p.receiver.network = .shouldBeConnected)
  | _ => False

section Truthful

variable {p q : Phone} {now : ℤ}

lemma Truthful.of_issued (h : Truthful p) (hi : q.issued = p.issued) : Truthful q := by
  unfold Truthful
  rw [hi]
  exact h

lemma Truthful.append {i : Issue} (h : Truthful p) (hi : q.issued = p.issued ++ [i]) :
    Truthful q ↔ ∀ reason, i.request = .pause reason → reason.Names i.receiver := by
  unfold Truthful
  rw [hi]
  simp only [List.forall_mem_append, List.forall_mem_singleton]
  exact and_iff_right h

/-- A pause is requested truthfully exactly if something is disconnected. -/
lemma Truthful.pause (h : Truthful p) (r : DeviceStateReceiver) :
    Truthful (({ p with receiver := r } : Phone).pause r.getPauseReason) ↔ r.AnyDisconnected := by
  refine (h.append (pause_issued { p with receiver := r } _)).trans ?_
  rw [← DeviceStateReceiver.getPauseReason_names]
  simp only [Request.pause.injEq, forall_eq']

/-- Another request has no reason. -/
lemma Truthful.other {request : Request} {r : DeviceStateReceiver} (h : Truthful p)
    (hi : q.issued = p.issued ++ [⟨request, r⟩]) (hr : request.isPause = false) : Truthful q := by
  refine (h.append hi).mpr fun reason hp => ?_
  obtain rfl : request = .pause reason := hp
  cases hr

lemma Truthful.networkStateChange {info : Option NetworkInfo} {sendusr1 : Bool}
    (h : Truthful p) : Truthful (p.networkStateChange now info sendusr1) := by
  unfold Phone.networkStateChange
  cases info with
  | none =>
    simp only
    split_ifs
    · exact h.of_issued rfl
    · exact h.of_issued rfl
  | some info =>
    simp only
    split_ifs
    · exact h.other (networkChange_issued _ now _) rfl
    · exact h.other (networkChange_issued _ now _) rfl
    · exact h.other (resume_issued _ now) rfl
    · exact h.of_issued rfl
    · exact h

lemma truthful_userPause (h : Truthful p) {pause : Bool} :
    Truthful (p.userPause now pause) ↔ ¬ PausesForNothing p (.userPause pause) := by
  unfold Phone.userPause
  cases pause with
  | true =>
    rw [if_pos rfl]
    exact iff_of_true ((h.pause _).mpr (.inl rfl)) fun hb => absurd hb.1 (by decide)
  | false =>
    rw [if_neg (by decide)]
    simp only
    split_ifs with hr
    · -- the VPN is resumed
      refine iff_of_true (h.other (resume_issued _ now) rfl) fun hb => ?_
      simp only [DeviceStateReceiver.shouldBeConnected, Bool.and_eq_true, decide_eq_true_eq,
        Bool.not_eq_true', decide_eq_false_iff_not] at hr
      obtain ⟨⟨hs, -, hn⟩, hwere⟩ := hr
      exact hwere ⟨hs, hb.2.2.2 hs hn, hn⟩
    · refine (h.pause _).trans ?_
      simp only [DeviceStateReceiver.shouldBeConnected, Bool.and_eq_true, decide_eq_true_eq,
        Bool.not_eq_true', decide_eq_false_iff_not] at hr
      simp only [DeviceStateReceiver.AnyDisconnected, PausesForNothing]
      grind

lemma truthful_screenOn (h : Truthful p) :
    Truthful (p.screenOn now) ↔ ¬ PausesForNothing p .screenOn := by
  unfold Phone.screenOn
  simp only
  split_ifs with h1 h2
  · refine iff_of_true (h.other (resume_issued _ now) rfl) fun hb => h1 ?_
    have hoff := hb.2.2
    simp only [DeviceStateReceiver.shouldBeConnected, hoff, and_false]
  · refine (h.pause _).trans ?_
    simp only [DeviceStateReceiver.shouldBeConnected, true_and, Bool.not_eq_true',
      decide_eq_false_iff_not] at h2
    simp only [DeviceStateReceiver.AnyDisconnected, PausesForNothing]
    grind
  · refine iff_of_true (h.of_issued rfl) fun hb => h2 ?_
    have hoff := hb.2.2
    simp only [DeviceStateReceiver.shouldBeConnected, true_and, hoff, decide_false, Bool.not_false]

/-- **One step**: the reasons stay true exactly if the VPN is not paused for nothing. -/
theorem truthful_handle {e : Event} (h : Truthful p) :
    Truthful (handle now p e) ↔ ¬ PausesForNothing p e := by
  cases e with
  | accept => exact iff_of_true (h.of_issued rfl) not_false
  | register info sendusr1 =>
    have hnew : Truthful { p with
        receiver := .new, thread := { p.thread with mPauseCallback := true } } := h.of_issued rfl
    exact iff_of_true hnew.networkStateChange not_false
  | hold waittime =>
    refine iff_of_true ?_ not_false
    simp only [DeviceState.handle, handleHold]
    split_ifs
    · exact h.of_issued rfl
    · exact h.of_issued rfl
  | resumeHold =>
    refine iff_of_true ?_ not_false
    simp only [DeviceState.handle, Phone.resumeHold]
    split_ifs
    · exact h.of_issued (by simp)
    · exact h.of_issued rfl
  | userPause pause => exact truthful_userPause h
  | screenOff pref =>
    refine iff_of_true ?_ not_false
    simp only [DeviceState.handle, Phone.screenOff]
    split_ifs
    · exact h.of_issued rfl
    · exact h.of_issued rfl
    · exact h
  | screenOn => exact truthful_screenOn h
  | networkStateChange info sendusr1 => exact iff_of_true h.networkStateChange not_false
  | delayDisconnect =>
    refine iff_of_true ?_ not_false
    simp only [DeviceState.handle, Phone.delayDisconnect]
    split_ifs
    · exact (h.pause _).mpr (.inr (.inr rfl))
    · exact h.of_issued rfl
  | updateByteCount diffIn diffOut =>
    refine iff_of_true ?_ not_false
    simp only [DeviceState.handle, Phone.updateByteCount]
    split_ifs
    · exact h
    · exact (h.pause _).mpr (.inr (.inl rfl))
    · exact h.of_issued rfl

end Truthful

/-- **The reported reason is true**: along a run every pause is requested for a component that is
disconnected, exactly if no event pauses the VPN for nothing. -/
theorem reported_reason_true (es : List (ℤ × Event)) :
    Runs.Along step Truthful .start es ↔
      Runs.Avoids step (fun p e => PausesForNothing p e.2) .start es := by
  refine Runs.along_iff_avoids (I := Truthful) (fun _ h => h) ?_ ?_ ?_ es
  · rintro p ⟨now, e⟩ q h hc hq
    obtain ⟨-, rfl⟩ := step_eq_some.mp hq
    exact (truthful_handle h).mpr hc
  · rintro p ⟨now, e⟩ q h hc hq
    obtain ⟨-, rfl⟩ := step_eq_some.mp hq
    exact fun ht => (truthful_handle h).mp ht hc
  · intro i hi
    cases hi

/-- The network is lost, and the screen goes on before the loss has been settled. -/
def litLoss : List (ℤ × Event) :=
  [(0, .register (some wifi) true), (1, .networkStateChange none true), (2, .screenOn)]

/-- The pause is put down to the user, who has not paused. -/
theorem litLoss_blames_user : ¬ ∀ es, Runs.Along step Truthful .start es := by
  intro h
  have hrun : Allowed (fun _ _ => True) .start litLoss := by
    simp only [litLoss, Allowed, true_and, and_true]
    decide
  have hlast := along_run hrun (h litLoss)
  have hissue : ⟨.pause .userPause, (run .start litLoss).receiver⟩ ∈ (run .start litLoss).issued := by
    decide
  have huser : (run .start litLoss).receiver.userpause = .disconnected := hlast _ hissue _ rfl
  exact absurd huser (by decide)

end BuludTechVPN.DeviceState
