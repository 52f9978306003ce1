import BuludTechVPN.DeviceState
import BuludTechVPN.Runs

/-!
Holding and releasing the OpenVPN process: when a hold is released, and that no hold is left
behind.
-/

namespace BuludTechVPN.DeviceState

open JavaLang Phone

/-! ### What the operations of the thread touch -/

namespace Phone

variable (p : Phone) (now : ℤ) (cmd : Text) (request : Request) (reason : PauseReason)

@[simp] lemma managmentCommand_receiver : (p.managmentCommand cmd).receiver = p.receiver := by
  unfold managmentCommand; split_ifs <;> rfl

@[simp] lemma managmentCommand_thread : (p.managmentCommand cmd).thread = p.thread := by
  unfold managmentCommand; split_ifs <;> rfl

@[simp] lemma issue_receiver : (p.issue request).receiver = p.receiver := rfl
@[simp] lemma issue_thread : (p.issue request).thread = p.thread := rfl
@[simp] lemma issue_written : (p.issue request).written = p.written := rfl

@[simp] lemma releaseHoldCmd_receiver : (p.releaseHoldCmd now).receiver = p.receiver := by
  simp [releaseHoldCmd]

@[simp] lemma releaseHoldCmd_waiting :
    (p.releaseHoldCmd now).thread.mWaitingForRelease = false := by
  simp [releaseHoldCmd]

@[simp] lemma releaseHold_receiver : (p.releaseHold now).receiver = p.receiver := by
  unfold releaseHold; split_ifs <;> simp

@[simp] lemma releaseHold_waiting : (p.releaseHold now).thread.mWaitingForRelease = false := by
  unfold releaseHold; split_ifs with h <;> simp [h]

@[simp] lemma resume_receiver : (p.resume now).receiver = p.receiver := by simp [resume]

@[simp] lemma resume_waiting : (p.resume now).thread.mWaitingForRelease = false := by
  simp [resume]

@[simp] lemma networkChange_receiver (same : Bool) :
    (p.networkChange now same).receiver = p.receiver := by
  unfold networkChange; simp only; split_ifs <;> simp

@[simp] lemma networkChange_waiting (same : Bool) :
    (p.networkChange now same).thread.mWaitingForRelease = false := by
  unfold networkChange; simp only; split_ifs with h <;> simp_all

@[simp] lemma signalusr1_receiver : p.signalusr1.receiver = p.receiver := by
  unfold signalusr1; simp only; split_ifs <;> simp

@[simp] lemma signalusr1_waiting :
    p.signalusr1.thread.mWaitingForRelease = p.thread.mWaitingForRelease := by
  unfold signalusr1; simp only; split_ifs <;> simp

@[simp] lemma pause_receiver : (p.pause reason).receiver = p.receiver := by simp [pause]

@[simp] lemma pause_waiting :
    (p.pause reason).thread.mWaitingForRelease = p.thread.mWaitingForRelease := by simp [pause]

lemma shouldBeRunning_imp {p : Phone} (h : p.shouldBeRunning = true) :
    p.receiver.shouldBeConnected = true := by
  simp only [shouldBeRunning, Bool.and_eq_true] at h
  exact h.2

lemma shouldBeRunning_of {p : Phone} (hcb : p.thread.mPauseCallback = true)
    (h : p.receiver.shouldBeConnected = true) : p.shouldBeRunning = true := by
  simp [shouldBeRunning, hcb, h]

end Phone

/-! ### A paused VPN is not released -/

/-- Every release of a hold was written while the VPN should have been running. -/
def ReleasedRunning (p : Phone) : Prop :=
  ∀ w ∈ p.written, w.command = holdRelease →
    w.shouldBeRunning = true ∧ w.receiver.userpause ≠ .disconnected

/-- The same network is back within the delay, and a hold is pending although the screen or the
user keeps the VPN paused: the branch for this case releases without asking. -/
def ReleasesPaused (p : Phone) : Event → Prop
  | .networkStateChange (some info) _ =>
    info.connected = true ∧ p.receiver.network = .pendingDisconnect ∧
      p.receiver.sameNetwork info = true ∧ p.thread.mWaitingForRelease = true ∧
      ¬ (p.receiver.screen = .shouldBeConnected ∧ p.receiver.userpause = .shouldBeConnected)
  | _ => False

section Released

variable {p q : Phone} {now : ℤ} {cmd : Text} {reason : PauseReason} {same : Bool}

lemma ReleasedRunning.of_written (h : ReleasedRunning p) (he : q.written = p.written) :
    ReleasedRunning q := by
  unfold ReleasedRunning; rw [he]; exact h

lemma ReleasedRunning.managmentCommand (h : ReleasedRunning p)
    (hc : cmd = holdRelease → p.shouldBeRunning = true) :
    ReleasedRunning (p.managmentCommand cmd) := by
  unfold Phone.managmentCommand
  split_ifs
  · intro w hw hcmd
    rcases List.mem_append.mp hw with hw | hw
    · exact h w hw hcmd
    · obtain rfl : w = ⟨cmd, p.shouldBeRunning, p.receiver⟩ := by simpa using hw
      have hrun := hc hcmd
      have hcon := shouldBeRunning_imp hrun
      simp only [DeviceStateReceiver.shouldBeConnected, decide_eq_true_eq] at hcon
      exact ⟨hrun, by simp [hcon.2.1]⟩
  · exact h

lemma ReleasedRunning.releaseHoldCmd (h : ReleasedRunning p) (hr : p.shouldBeRunning = true) :
    ReleasedRunning (p.releaseHoldCmd now) := by
  unfold Phone.releaseHoldCmd
  refine ReleasedRunning.managmentCommand (ReleasedRunning.managmentCommand
    (ReleasedRunning.managmentCommand (h.of_written rfl) fun _ => ?_) ?_) ?_
  · exact hr
  · intro e; exact absurd e (by decide)
  · intro e; exact absurd e (by decide)

lemma ReleasedRunning.releaseHold (h : ReleasedRunning p)
    (hr : p.thread.mWaitingForRelease = true → p.shouldBeRunning = true) :
    ReleasedRunning (p.releaseHold now) := by
  unfold Phone.releaseHold
  split_ifs with hw
  · exact h.releaseHoldCmd (hr hw)
  · exact h

lemma ReleasedRunning.resume (h : ReleasedRunning p) (hr : p.shouldBeRunning = true) :
    ReleasedRunning (p.resume now) := by
  unfold Phone.resume
  have h1 : ReleasedRunning ((p.issue .resume).releaseHold now) :=
    (h.of_written (by simp)).releaseHold fun _ => hr
  exact h1.of_written rfl

lemma ReleasedRunning.networkChange (h : ReleasedRunning p)
    (hr : p.thread.mWaitingForRelease = true → p.shouldBeRunning = true) :
    ReleasedRunning (p.networkChange now same) := by
  unfold Phone.networkChange
  have h1 : ReleasedRunning (p.issue (.networkChange same)) := h.of_written (by simp)
  simp only
  split_ifs
  · exact h1.releaseHold hr
  · exact h1.managmentCommand fun e => absurd e (by decide)

lemma ReleasedRunning.pause (h : ReleasedRunning p) : ReleasedRunning (p.pause reason) := by
  unfold Phone.pause Phone.signalusr1
  simp only
  split_ifs
  · exact h.of_written rfl
  · refine ReleasedRunning.managmentCommand (h.of_written rfl) fun e => absurd e (by decide)

lemma ReleasedRunning.networkStateChange {info : Option NetworkInfo} {sendusr1 : Bool}
    (h : ReleasedRunning p) (hcb : p.thread.mPauseCallback = true)
    (hc : ¬ ReleasesPaused p (.networkStateChange info sendusr1)) :
    ReleasedRunning (p.networkStateChange now info sendusr1) := by
  unfold Phone.networkStateChange
  cases info with
  | none =>
    simp only
    split_ifs
    · exact h.of_written rfl
    · exact h.of_written rfl
  | some info =>
    simp only
    split_ifs with h1 h2 h3 h4
    · -- the same network within the delay
      simp only [Bool.and_eq_true, decide_eq_true_eq] at h2
      refine ReleasedRunning.networkChange (h.of_written rfl) fun hw => ?_
      by_contra hrun
      refine hc ⟨h1, h2.1, h2.2, hw, fun hs => hrun ?_⟩
      simp [shouldBeRunning, DeviceStateReceiver.shouldBeConnected, hs, hcb]
    · refine ReleasedRunning.of_written (p := Phone.networkChange _ _ _) ?_ rfl
      exact ReleasedRunning.networkChange (h.of_written rfl) fun _ =>
        shouldBeRunning_of hcb h3
    · refine ReleasedRunning.of_written (p := Phone.resume _ _) ?_ rfl
      exact ReleasedRunning.resume (h.of_written rfl) (shouldBeRunning_of hcb h3)
    · exact h.of_written rfl
    · exact h

/-- **One step**: a step that is not the unchecked release writes a release only while the VPN
should be running. -/
theorem ReleasedRunning.handle {e : Event} (h : ReleasedRunning p) (he : Enabled p e)
    (hc : ¬ ReleasesPaused p e) : ReleasedRunning (handle now p e) := by
  cases e with
  | accept => exact h.of_written rfl
  | register info sendusr1 =>
    refine ReleasedRunning.networkStateChange (h.of_written rfl) rfl ?_
    cases info with
    | none => simp [ReleasesPaused]
    | some info => simp [ReleasesPaused, DeviceStateReceiver.new]
  | hold waittime =>
    simp only [DeviceState.handle, handleHold]
    split_ifs
    · exact h.of_written rfl
    · exact h.of_written rfl
  | resumeHold =>
    simp only [DeviceState.handle, Phone.resumeHold]
    split_ifs with hr
    · exact ReleasedRunning.releaseHoldCmd (h.of_written rfl) hr
    · exact h.of_written rfl
  | userPause pause =>
    have hcb : p.thread.mPauseCallback = true := he
    simp only [DeviceState.handle, Phone.userPause]
    split_ifs with h1 h2
    · exact ReleasedRunning.pause (h.of_written rfl)
    · simp only [Bool.and_eq_true] at h2
      exact ReleasedRunning.resume (h.of_written rfl) (shouldBeRunning_of hcb h2.1)
    · exact ReleasedRunning.pause (h.of_written rfl)
  | screenOff pref =>
    simp only [DeviceState.handle, Phone.screenOff]
    split_ifs
    · exact h.of_written rfl
    · exact h.of_written rfl
    · exact h
  | screenOn =>
    have hcb : p.thread.mPauseCallback = true := he
    simp only [DeviceState.handle, Phone.screenOn]
    split_ifs with h1 h2
    · refine ReleasedRunning.resume (h.of_written rfl) ?_
      -- switching the screen on can only turn "should be connected" on
      simp only [shouldBeRunning, hcb, Bool.true_and]
      by_contra hoff
      refine h1 ?_
      simp only [DeviceStateReceiver.shouldBeConnected] at hoff ⊢
      grind
    · exact ReleasedRunning.pause (h.of_written rfl)
    · exact h.of_written rfl
  | networkStateChange info sendusr1 => exact h.networkStateChange he hc
  | delayDisconnect =>
    simp only [DeviceState.handle, Phone.delayDisconnect]
    split_ifs
    · exact ReleasedRunning.pause (h.of_written rfl)
    · exact h.of_written rfl
  | updateByteCount diffIn diffOut =>
    simp only [DeviceState.handle, Phone.updateByteCount]
    split_ifs
    · exact h
    · exact ReleasedRunning.pause (h.of_written rfl)
    · exact h.of_written rfl

end Released

/-- **A paused VPN is not released** in a run without the unchecked release. -/
theorem hold_released_running {p : Phone} (h : Reaches (fun p e => ¬ ReleasesPaused p e) p) :
    ReleasedRunning p := by
  refine Runs.invariant (I := ReleasedRunning) ?_ ?_ h
  · intro w hw
    simp [Phone.start] at hw
  · rintro u v - hu ⟨now, he, hc⟩
    exact hu.handle he hc

def wifi : NetworkInfo := ⟨1, some "office".toList, true⟩

/-- A hold that is released when its waiting time is over. -/
theorem hold_released_after_wait : ReleasedRunning (run .start
    [(0, .register (some wifi) true), (1, .accept), (2, .hold 2), (3, .resumeHold)]) := by
  refine hold_released_running (reaches_run .refl _ ?_)
  simp only [Allowed, ReleasesPaused, not_false_iff, true_and, and_true]
  decide

/-- The user pauses the VPN, OpenVPN goes into a hold, and the network is lost for a moment. -/
def pausedOutage : List (ℤ × Event) :=
  [(0, .register (some wifi) true), (1, .accept), (2, .userPause true), (3, .hold 2),
   (4, .networkStateChange none true), (5, .networkStateChange (some wifi) true)]

theorem paused_released : ¬ ∀ p, Reaches (fun _ _ => True) p → ReleasedRunning p := by
  intro h
  have hr : Reaches (fun _ _ => True) (run .start pausedOutage) :=
    reaches_run .refl _ (by simp only [pausedOutage, Allowed, true_and, and_true]; decide)
  have hw : ∃ w ∈ (run .start pausedOutage).written,
      w.command = holdRelease ∧ w.shouldBeRunning = false := by decide
  obtain ⟨w, hw, hc, hs⟩ := hw
  simp [(h _ hr w hw hc).1] at hs

/-! ### A hold is not forgotten -/

/-- If OpenVPN waits in a hold although the VPN should be running, a resume is pending. -/
def HoldRemembered (p : Phone) : Prop :=
  p.thread.mWaitingForRelease = true → p.shouldBeRunning = true → 0 < p.thread.mResumeHandler

/-- The user resumes a VPN that should be running anyway while it waits in a hold: the handler
pauses it once more, which drops the pending resume. -/
def DropsResume (p : Phone) (e : Event) : Prop :=
  e = .userPause false ∧ p.receiver.shouldBeConnected = true ∧ p.thread.mWaitingForRelease = true

section Remembered

variable {p : Phone} {now : ℤ}

lemma remembered_of_released (h : p.thread.mWaitingForRelease = false) : HoldRemembered p :=
  fun hw => by simp [h] at hw

lemma remembered_of_disconnected (h : p.receiver.shouldBeConnected = false) : HoldRemembered p :=
  fun _ hr => by simp [shouldBeRunning_imp hr] at h

lemma HoldRemembered.networkStateChange {info : Option NetworkInfo} {sendusr1 : Bool}
    (h : HoldRemembered p) : HoldRemembered (p.networkStateChange now info sendusr1) := by
  unfold Phone.networkStateChange
  cases info with
  | none =>
    simp only
    split_ifs
    · exact remembered_of_disconnected (by simp [DeviceStateReceiver.shouldBeConnected])
    · exact h
  | some info =>
    simp only
    split_ifs with h1 h2 h3 h4
    · exact remembered_of_released (by simp)
    · exact remembered_of_released (by simp)
    · exact remembered_of_released (by simp)
    · refine remembered_of_disconnected ?_
      simp only [Bool.not_eq_true] at h3
      exact h3
    · exact h

/-- **One step**: only dropping the pending resume forgets a hold. -/
theorem HoldRemembered.handle {e : Event} (h : HoldRemembered p) (he : Enabled p e)
    (hc : ¬ DropsResume p e) : HoldRemembered (handle now p e) := by
  cases e with
  | accept => exact h
  | register info sendusr1 =>
    refine HoldRemembered.networkStateChange (remembered_of_disconnected ?_)
    simp [DeviceStateReceiver.new, DeviceStateReceiver.shouldBeConnected]
  | hold waittime =>
    simp only [DeviceState.handle, handleHold]
    split_ifs with hr
    · exact fun _ _ => Nat.succ_pos _
    · exact fun _ hr' => absurd hr' hr
  | resumeHold =>
    simp only [DeviceState.handle, Phone.resumeHold]
    split_ifs with hr
    · exact remembered_of_released (by simp)
    · exact fun _ hr' => absurd hr' hr
  | userPause pause =>
    simp only [DeviceState.handle, Phone.userPause]
    split_ifs with h1 h2
    · exact remembered_of_disconnected (by simp [DeviceStateReceiver.shouldBeConnected])
    · exact remembered_of_released (by simp)
    · intro hw hr
      have hcon := shouldBeRunning_imp hr
      simp only [pause_receiver, pause_waiting] at hcon hw
      simp only [hcon, Bool.true_and, Bool.not_eq_true', Bool.not_eq_false] at h2
      exact absurd ⟨by simpa using h1, h2, hw⟩ hc
  | screenOff pref =>
    simp only [DeviceState.handle, Phone.screenOff]
    split_ifs
    · exact remembered_of_disconnected (by
        simp [DeviceStateReceiver.shouldBeConnected, DeviceStateReceiver.fillTrafficData])
    · exact remembered_of_disconnected (by
        simp [DeviceStateReceiver.shouldBeConnected, DeviceStateReceiver.fillTrafficData])
    · exact h
  | screenOn =>
    simp only [DeviceState.handle, Phone.screenOn]
    split_ifs with h1 h2
    · exact remembered_of_released (by simp)
    · exact remembered_of_disconnected (by simpa using h2)
    · intro hw hr
      have hcon := shouldBeRunning_imp hr
      rw [ne_eq, not_not] at h1
      refine h hw ?_
      simp only [shouldBeRunning, Bool.and_eq_true] at hr ⊢
      exact ⟨hr.1, h1 ▸ hcon⟩
  | networkStateChange info sendusr1 => exact h.networkStateChange
  | delayDisconnect =>
    simp only [DeviceState.handle, Phone.delayDisconnect]
    split_ifs
    · exact remembered_of_disconnected (by
        simp [DeviceStateReceiver.shouldBeConnected, DeviceStateReceiver.settleScreen])
    · exact h
  | updateByteCount diffIn diffOut =>
    simp only [DeviceState.handle, Phone.updateByteCount]
    split_ifs with h1
    · exact h
    · exact remembered_of_disconnected (by simp [DeviceStateReceiver.shouldBeConnected])
    · refine remembered_of_disconnected ?_
      simp only [ne_eq, not_not] at h1
      simp [DeviceStateReceiver.shouldBeConnected, h1]

end Remembered

/-- **A hold is not forgotten** in a run in which no pending resume is dropped. -/
theorem hold_remembered {p : Phone} (h : Reaches (fun p e => ¬ DropsResume p e) p) :
    HoldRemembered p := by
  refine Runs.invariant (I := HoldRemembered) (remembered_of_released rfl) ?_ h
  rintro u v - hu ⟨now, he, hc⟩
  exact hu.handle he hc

/-- A hold that is pending while its waiting time lasts. -/
theorem hold_remembered_waiting : HoldRemembered (run .start
    [(0, .register (some wifi) true), (1, .accept), (2, .hold 10), (3, .screenOn)]) := by
  refine hold_remembered (reaches_run .refl _ ?_)
  simp only [Allowed, DropsResume, reduceCtorEq, false_and, not_false_iff, true_and, and_true]
  decide

/-- The user resumes a VPN that is not paused while OpenVPN waits in a hold. -/
def needlessResume : List (ℤ × Event) :=
  [(0, .register (some wifi) true), (1, .accept), (2, .hold 10), (3, .userPause false)]

theorem needlessResume_forgets : ¬ ∀ p, Reaches (fun _ _ => True) p → HoldRemembered p := by
  intro h
  have hr : Reaches (fun _ _ => True) (run .start needlessResume) :=
    reaches_run .refl _ (by simp only [needlessResume, Allowed, true_and, and_true]; decide)
  have hrun : (run .start needlessResume).thread.mWaitingForRelease = true ∧
      (run .start needlessResume).shouldBeRunning = true ∧
      (run .start needlessResume).thread.mResumeHandler = 0 := by decide
  have := h _ hr hrun.1 hrun.2.1
  omega

end BuludTechVPN.DeviceState
