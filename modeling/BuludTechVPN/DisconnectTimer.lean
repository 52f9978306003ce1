import BuludTechVPN.HoldRelease

/-!
The delayed disconnect: a timer that was posted when the network was lost is gone once the
network is back, and the returns of the network that leave it behind.
-/

namespace BuludTechVPN.DeviceState

open JavaLang Phone

/-- What holds along a run of enabled events holds where it ends. -/
lemma along_run {C : Phone → Event → Prop} {P : Phone → Prop} {p : Phone}
    {es : List (ℤ × Event)} (ha : Allowed C p es) (h : Runs.Along step P p es) : P (run p es) := by
  induction es generalizing p with
  | nil => exact h
  | cons e es ih =>
    obtain ⟨now, e⟩ := e
    exact ih ha.2.2 (h.2 _ (step_eq_some.mpr ⟨ha.1, rfl⟩))

/-- No delayed disconnect is pending while the network is there. -/
def TimerSettled (p : Phone) : Prop :=
  p.receiver.network = .shouldBeConnected → p.receiver.mDisconnectHandler = 0

/-- The network is back while a delayed disconnect is pending, and it is not the same network
within the delay: this branch removes the callback only if the screen and the user let the VPN
connect. -/
def LeavesTimer (p : Phone) : Event → Prop
  | .networkStateChange (some info) _ =>
    info.connected = true ∧ p.receiver.mDisconnectHandler ≠ 0 ∧
      ¬ (p.receiver.network = .pendingDisconnect ∧ p.receiver.sameNetwork info = true) ∧
      ¬ (p.receiver.screen = .shouldBeConnected ∧ p.receiver.userpause = .shouldBeConnected)
  | _ => False

section Timer

variable {p : Phone} {now : ℤ}

lemma timerSettled_of_network (h : p.receiver.network ≠ .shouldBeConnected) : TimerSettled p :=
  fun hn => absurd hn h

lemma timerSettled_of_removed (h : p.receiver.mDisconnectHandler = 0) : TimerSettled p :=
  fun _ => h

lemma TimerSettled.of_receiver {q : Phone} (h : TimerSettled p)
    (hn : q.receiver.network = p.receiver.network)
    (hm : q.receiver.mDisconnectHandler = p.receiver.mDisconnectHandler) : TimerSettled q := by
  intro hq
  rw [hm]
  exact h (hn ▸ hq)

/-- Settling a pending screen does not change whether the VPN should be connected. -/
lemma shouldBeConnected_settle (r : DeviceStateReceiver) :
    r.settleScreen.shouldBeConnected = r.shouldBeConnected := by
  simp only [DeviceStateReceiver.shouldBeConnected, DeviceStateReceiver.settleScreen]
  split_ifs with h
  · simp [h]
  · rfl

lemma TimerSettled.networkStateChange {info : Option NetworkInfo} {sendusr1 : Bool}
    (h : TimerSettled p) (hc : ¬ LeavesTimer p (.networkStateChange info sendusr1)) :
    TimerSettled (p.networkStateChange now info sendusr1) := by
  unfold Phone.networkStateChange
  cases info with
  | none =>
    simp only
    split_ifs
    · exact timerSettled_of_network (by simp)
    · exact h.of_receiver rfl rfl
  | some info =>
    simp only
    split_ifs with h1 h2 h3 h4
    · exact timerSettled_of_removed (by simp)
    · exact timerSettled_of_removed (by simp)
    · exact timerSettled_of_removed (by simp)
    · -- the VPN is paused, so the timer must have been gone before
      rw [shouldBeConnected_settle] at h3
      refine timerSettled_of_removed ?_
      by_contra hm
      refine hc ⟨h1, hm, by simpa using h2, fun hs => h3 ?_⟩
      simp [DeviceStateReceiver.shouldBeConnected, hs]
    · exact h

/-- A network that is not the same one within the delay only settles the screen of a VPN that the
screen or the user keeps paused. -/
lemma networkStateChange_paused {info : NetworkInfo} (now : ℤ) (sendusr1 : Bool)
    (hc : info.connected = true)
    (hsame : ¬ (p.receiver.network = .pendingDisconnect ∧ p.receiver.sameNetwork info = true))
    (hoff : ¬ (p.receiver.screen = .shouldBeConnected ∧
      p.receiver.userpause = .shouldBeConnected)) :
    p.networkStateChange now (some info) sendusr1 =
      { p with receiver := { ({ p.receiver with network := .shouldBeConnected } :
        DeviceStateReceiver).settleScreen with
          lastNetwork := info.type, lastConnectedNetwork := some info } } := by
  have hbranch : (decide (p.receiver.network = .pendingDisconnect) &&
      p.receiver.sameNetwork info) = false := by simpa using hsame
  have hconn : ({ p.receiver with network := .shouldBeConnected } :
      DeviceStateReceiver).shouldBeConnected = false := by
    simpa [DeviceStateReceiver.shouldBeConnected] using hoff
  simp only [Phone.networkStateChange, hc, if_true, hbranch, Bool.false_eq_true, if_false,
    shouldBeConnected_settle, hconn]

/-- A step that leaves the timer behind ends with the network there and the timer pending. -/
lemma LeavesTimer.pending {e : Event} (h : LeavesTimer p e) : ¬ TimerSettled (handle now p e) := by
  cases e with
  | networkStateChange info sendusr1 =>
    cases info with
    | none => exact absurd h not_false
    | some info =>
      obtain ⟨hc, hm, hsame, hoff⟩ := h
      intro hq
      refine hm ?_
      simp only [DeviceState.handle, networkStateChange_paused now _ hc hsame hoff] at hq
      exact hq rfl
  | _ => exact absurd h not_false

/-- **One step**: only such a return of the network leaves a timer behind. -/
theorem TimerSettled.handle {e : Event} (h : TimerSettled p) (he : Enabled p e)
    (hc : ¬ LeavesTimer p e) : TimerSettled (handle now p e) := by
  cases e with
  | accept => exact h.of_receiver rfl rfl
  | register info sendusr1 =>
    refine TimerSettled.networkStateChange (timerSettled_of_removed rfl) ?_
    cases info with
    | none => exact not_false
    | some info => simp [LeavesTimer, DeviceStateReceiver.new]
  | hold waittime =>
    simp only [DeviceState.handle, handleHold]
    split_ifs
    · exact h.of_receiver rfl rfl
    · exact h.of_receiver rfl rfl
  | resumeHold =>
    simp only [DeviceState.handle, Phone.resumeHold]
    split_ifs
    · exact h.of_receiver (by simp) (by simp)
    · exact h.of_receiver rfl rfl
  | userPause pause =>
    simp only [DeviceState.handle, Phone.userPause]
    split_ifs
    · exact h.of_receiver (by simp) (by simp)
    · exact h.of_receiver (by simp) (by simp)
    · exact h.of_receiver (by simp) (by simp)
  | screenOff pref =>
    simp only [DeviceState.handle, Phone.screenOff]
    split_ifs
    · exact h.of_receiver rfl rfl
    · exact h.of_receiver rfl rfl
    · exact h
  | screenOn =>
    simp only [DeviceState.handle, Phone.screenOn]
    split_ifs
    · exact timerSettled_of_removed (by simp)
    · exact timerSettled_of_removed (by simp)
    · exact timerSettled_of_removed rfl
  | networkStateChange info sendusr1 => exact h.networkStateChange hc
  | delayDisconnect =>
    simp only [DeviceState.handle, Phone.delayDisconnect]
    split_ifs with hn
    · exact timerSettled_of_network (by simp [DeviceStateReceiver.settleScreen])
    · -- a timer that runs was pending, so the network is not there
      refine timerSettled_of_network fun hs => ?_
      have h0 := h hs
      have hpos := he.2
      omega
  | updateByteCount diffIn diffOut =>
    simp only [DeviceState.handle, Phone.updateByteCount]
    split_ifs
    · exact h
    · exact h.of_receiver (by simp) (by simp)
    · exact h.of_receiver rfl rfl

end Timer

/-- **A disconnect timer does not outlive the loss that started it**: along a run no timer is
pending while the network is there, exactly if no return of the network leaves one behind. -/
theorem timer_ends_with_loss (es : List (ℤ × Event)) :
    Runs.Along step TimerSettled .start es ↔
      Runs.Avoids step (fun p e => LeavesTimer p e.2) .start es := by
  refine Runs.along_iff_avoids (I := TimerSettled) (fun _ h => h) ?_ ?_ ?_ es
  · rintro p ⟨now, e⟩ q h hc hq
    obtain ⟨he, rfl⟩ := step_eq_some.mp hq
    exact h.handle he hc
  · rintro p ⟨now, e⟩ q - hc hq
    obtain ⟨-, rfl⟩ := step_eq_some.mp hq
    exact hc.pending
  · exact timerSettled_of_removed rfl

def mobile : NetworkInfo := ⟨0, some "lte".toList, true⟩

/-- The network is lost, the user pauses the VPN, and the device is on another network before
the delay is over. -/
def pausedSwitch : List (ℤ × Event) :=
  [(0, .register (some wifi) true), (1, .networkStateChange none true), (2, .userPause true),
   (3, .networkStateChange (some mobile) true)]

theorem pausedSwitch_pending : ¬ ∀ es, Runs.Along step TimerSettled .start es := by
  intro h
  have hrun : Allowed (fun _ _ => True) .start pausedSwitch := by
    simp only [pausedSwitch, Allowed, true_and, and_true]
    decide
  have hlast := along_run hrun (h pausedSwitch)
  have hfacts : (run .start pausedSwitch).receiver.network = .shouldBeConnected ∧
      (run .start pausedSwitch).receiver.mDisconnectHandler = 1 := by decide
  have hnone := hlast hfacts.1
  omega

end BuludTechVPN.DeviceState
