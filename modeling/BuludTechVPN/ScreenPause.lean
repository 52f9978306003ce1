import BuludTechVPN.DisconnectTimer

/-!
Pausing for the screen: when the receiver takes the screen to be disconnected, the VPN has been
told to pause, and the two ways in which it has not.
-/

namespace BuludTechVPN.DeviceState

open JavaLang Phone

/-! ### What has been requested -/

def Request.isPause : Request → Bool
  | .pause _ => true
  | _ => false

namespace Phone

/-- The most recent of the requests. -/
def lastRequest (p : Phone) : Option Request := p.issued.getLast?.map Issue.request

/-- The VPN was told to pause, and to nothing else since. -/
def Paused (p : Phone) : Prop := p.lastRequest.any Request.isPause = true

/-- Between `p` and `q` the VPN is told to pause. -/
def CallsPause (p q : Phone) : Prop :=
  ∃ l, q.issued = p.issued ++ l ∧ ∃ i ∈ l, i.request.isPause = true

variable (p : Phone) (now : ℤ) (cmd : Text) (reason : PauseReason)

@[simp] lemma managmentCommand_issued : (p.managmentCommand cmd).issued = p.issued := by
  unfold managmentCommand; split_ifs <;> rfl

@[simp] lemma releaseHoldCmd_issued : (p.releaseHoldCmd now).issued = p.issued := by
  simp [releaseHoldCmd]

@[simp] lemma releaseHold_issued : (p.releaseHold now).issued = p.issued := by
  unfold releaseHold; split_ifs <;> simp

@[simp] lemma signalusr1_issued : p.signalusr1.issued = p.issued := by
  unfold signalusr1; simp only; split_ifs <;> simp

@[simp] lemma pause_issued :
    (p.pause reason).issued = p.issued ++ [⟨.pause reason, p.receiver⟩] := by
  simp [pause, issue]

@[simp] lemma resume_issued : (p.resume now).issued = p.issued ++ [⟨.resume, p.receiver⟩] := by
  simp [resume, issue]

@[simp] lemma networkChange_issued (same : Bool) :
    (p.networkChange now same).issued = p.issued ++ [⟨.networkChange same, p.receiver⟩] := by
  unfold networkChange; simp only; split_ifs <;> simp [issue]

@[simp] lemma managmentCommand_callback :
    (p.managmentCommand cmd).thread.mPauseCallback = p.thread.mPauseCallback := by simp

@[simp] lemma releaseHoldCmd_callback :
    (p.releaseHoldCmd now).thread.mPauseCallback = p.thread.mPauseCallback := by
  simp [releaseHoldCmd]

@[simp] lemma releaseHold_callback :
    (p.releaseHold now).thread.mPauseCallback = p.thread.mPauseCallback := by
  unfold releaseHold; split_ifs <;> simp

@[simp] lemma pause_callback :
    (p.pause reason).thread.mPauseCallback = p.thread.mPauseCallback := by
  unfold pause signalusr1; simp only; split_ifs <;> simp

@[simp] lemma resume_callback :
    (p.resume now).thread.mPauseCallback = p.thread.mPauseCallback := by
  simp [resume]

@[simp] lemma networkChange_callback (same : Bool) :
    (p.networkChange now same).thread.mPauseCallback = p.thread.mPauseCallback := by
  unfold networkChange; simp only; split_ifs <;> simp

variable {p}

lemma lastRequest_append {l : List Issue} {i : Issue} (h : p.issued = l ++ [i]) :
    p.lastRequest = some i.request := by
  simp [lastRequest, h]

lemma paused_pause : (p.pause reason).Paused := by
  unfold Paused
  rw [lastRequest_append (pause_issued p reason)]
  rfl

lemma callsPause_pause {q : Phone} (h : q.issued = p.issued) : CallsPause p (q.pause reason) :=
  ⟨_, by rw [pause_issued, h], _, List.mem_singleton_self _, rfl⟩

end Phone

/-! ### Settling the screen -/

/-- A handler run that takes the screen to be disconnected tells the VPN to pause, or starts where
that was the last it was told. -/
def PausesScreen (p : Phone) (e : ℤ × Event) : Prop :=
  p.receiver.screen ≠ .disconnected → (handle e.1 p e.2).receiver.screen = .disconnected →
    CallsPause p (handle e.1 p e.2) ∨ p.Paused

/-- The two runs of a handler that settle the screen of a running VPN. A network is reported that
is not the same one within the delay, while the screen has a disconnect pending and the VPN is not
paused; or the screen goes off under a pause of the user that the return of the same network has
lifted. -/
def SettlesUnpaused (p : Phone) : Event → Prop
  | .networkStateChange (some info) _ =>
    info.connected = true ∧ p.receiver.screen = .pendingDisconnect ∧ ¬ p.Paused ∧
      ¬ (p.receiver.network = .pendingDisconnect ∧ p.receiver.sameNetwork info = true)
  | .screenOff screenOffPause =>
    screenOffPause = true ∧ p.receiver.screen ≠ .disconnected ∧
      p.receiver.userpause = .disconnected ∧ p.lastRequest = some (.networkChange true)
  | _ => False

/-- While the user has paused the VPN, it was last told to pause, or that the same network is
back. -/
def UserPaused (p : Phone) : Prop :=
  p.receiver.userpause = .disconnected →
    p.Paused ∨ p.lastRequest = some (.networkChange true)

/-- The receiver is installed, and once the network is given up the VPN is paused. -/
structure Connected (p : Phone) : Prop where
  callback : p.thread.mPauseCallback = true
  user : UserPaused p
  network : p.receiver.network = .disconnected → p.Paused

section Invariant

variable {p q : Phone} {now : ℤ}

lemma Phone.Paused.of_issued (h : p.Paused) (hi : q.issued = p.issued) : q.Paused := by
  unfold Phone.Paused Phone.lastRequest
  rw [hi]
  exact h

lemma userPaused_of_user (h : p.receiver.userpause ≠ .disconnected) : UserPaused p :=
  fun hu => absurd hu h

lemma userPaused_of_paused (h : p.Paused) : UserPaused p := fun _ => .inl h

lemma UserPaused.of_same (h : UserPaused p) (hu : q.receiver.userpause = p.receiver.userpause)
    (hi : q.issued = p.issued) : UserPaused q := by
  intro hq
  unfold Phone.Paused Phone.lastRequest
  rw [hi]
  exact h (hu ▸ hq)

lemma UserPaused.networkStateChange {info : Option NetworkInfo} {sendusr1 : Bool}
    (h : UserPaused p) : UserPaused (p.networkStateChange now info sendusr1) := by
  unfold Phone.networkStateChange
  cases info with
  | none =>
    simp only
    split_ifs
    · exact h.of_same rfl rfl
    · exact h.of_same rfl rfl
  | some info =>
    simp only
    split_ifs with h1 h2 h3 h4
    · exact fun _ => .inr (lastRequest_append (networkChange_issued _ now true))
    · refine userPaused_of_user ?_
      simp only [DeviceStateReceiver.shouldBeConnected, decide_eq_true_eq] at h3
      simp [h3.2.1]
    · refine userPaused_of_user ?_
      simp only [DeviceStateReceiver.shouldBeConnected, decide_eq_true_eq] at h3
      simp [h3.2.1]
    · exact h.of_same rfl rfl
    · exact h

/-- **One step** keeps what was last requested under a pause of the user. -/
theorem UserPaused.handle {e : Event} (h : UserPaused p) : UserPaused (handle now p e) := by
  cases e with
  | accept => exact h.of_same rfl rfl
  | register info sendusr1 =>
    exact UserPaused.networkStateChange (userPaused_of_user (by simp [DeviceStateReceiver.new]))
  | hold waittime =>
    simp only [DeviceState.handle, handleHold]
    split_ifs
    · exact h.of_same rfl rfl
    · exact h.of_same rfl rfl
  | resumeHold =>
    simp only [DeviceState.handle, Phone.resumeHold]
    split_ifs
    · exact h.of_same (by simp) (by simp)
    · exact h.of_same rfl rfl
  | userPause pause =>
    simp only [DeviceState.handle, Phone.userPause]
    split_ifs
    · exact userPaused_of_paused (paused_pause _)
    · exact userPaused_of_user (by simp)
    · exact userPaused_of_paused (paused_pause _)
  | screenOff pref =>
    simp only [DeviceState.handle, Phone.screenOff]
    split_ifs
    · exact h.of_same rfl rfl
    · exact h.of_same rfl rfl
    · exact h
  | screenOn =>
    simp only [DeviceState.handle, Phone.screenOn]
    split_ifs with h1 h2
    · -- only without a pause of the user does the screen make a difference
      refine userPaused_of_user fun hu => h1 ?_
      simp only [resume_receiver] at hu
      simp [DeviceStateReceiver.shouldBeConnected, hu]
    · exact userPaused_of_paused (paused_pause _)
    · exact h.of_same rfl rfl
  | networkStateChange info sendusr1 => exact h.networkStateChange
  | delayDisconnect =>
    simp only [DeviceState.handle, Phone.delayDisconnect]
    split_ifs
    · exact userPaused_of_paused (paused_pause _)
    · exact h.of_same rfl rfl
  | updateByteCount diffIn diffOut =>
    simp only [DeviceState.handle, Phone.updateByteCount]
    split_ifs
    · exact h
    · exact userPaused_of_paused (paused_pause _)
    · exact h.of_same rfl rfl

lemma networkStateChange_network {info : Option NetworkInfo} {sendusr1 : Bool}
    (h : (p.networkStateChange now info sendusr1).receiver.network = .disconnected) :
    p.receiver.network = .disconnected ∧
      (p.networkStateChange now info sendusr1).issued = p.issued := by
  unfold Phone.networkStateChange at h ⊢
  cases info with
  | none =>
    simp only at h ⊢
    split_ifs at h ⊢
    exact ⟨h, rfl⟩
  | some info =>
    simp only at h ⊢
    split_ifs at h ⊢
    · simp at h
    · simp [DeviceStateReceiver.settleScreen] at h
    · simp [DeviceStateReceiver.settleScreen] at h
    · simp [DeviceStateReceiver.settleScreen] at h
    · exact ⟨h, rfl⟩

lemma networkStateChange_callback (info : Option NetworkInfo) (sendusr1 : Bool) :
    (p.networkStateChange now info sendusr1).thread.mPauseCallback = p.thread.mPauseCallback := by
  unfold Phone.networkStateChange
  cases info with
  | none => simp only; split_ifs <;> rfl
  | some info => simp only; split_ifs <;> simp

/-- While the network is given up, a step that leaves it so and says something says pause. -/
lemma network_step {e : Event} (hcb : p.thread.mPauseCallback = true) (he : Enabled p e)
    (h : p.receiver.network = .disconnected → p.Paused)
    (hn : (DeviceState.handle now p e).receiver.network = .disconnected) :
    (DeviceState.handle now p e).Paused := by
  cases e with
  | accept => exact (h hn).of_issued rfl
  | register info sendusr1 =>
    simp [Enabled, hcb] at he
  | hold waittime =>
    simp only [DeviceState.handle, handleHold] at hn ⊢
    split_ifs at hn ⊢
    · exact (h hn).of_issued rfl
    · exact (h hn).of_issued rfl
  | resumeHold =>
    simp only [DeviceState.handle, Phone.resumeHold] at hn ⊢
    split_ifs at hn ⊢
    · exact (h (by simpa using hn)).of_issued (by simp)
    · exact (h hn).of_issued rfl
  | userPause pause =>
    simp only [DeviceState.handle, Phone.userPause] at hn ⊢
    split_ifs at hn ⊢ with h1 h2
    · exact paused_pause _
    · simp only [resume_receiver] at hn
      simp [DeviceStateReceiver.shouldBeConnected, hn] at h2
    · exact paused_pause _
  | screenOff pref =>
    simp only [DeviceState.handle, Phone.screenOff] at hn ⊢
    split_ifs at hn ⊢
    · exact (h hn).of_issued rfl
    · exact (h hn).of_issued rfl
    · exact h hn
  | screenOn =>
    simp only [DeviceState.handle, Phone.screenOn] at hn ⊢
    split_ifs at hn ⊢ with h1 h2
    · simp only [resume_receiver] at hn
      exact absurd (by simp [DeviceStateReceiver.shouldBeConnected, hn]) h1
    · exact paused_pause _
    · exact (h hn).of_issued rfl
  | networkStateChange info sendusr1 =>
    obtain ⟨hp, hi⟩ := networkStateChange_network hn
    exact (h hp).of_issued hi
  | delayDisconnect =>
    simp only [DeviceState.handle, Phone.delayDisconnect] at hn ⊢
    split_ifs at hn ⊢
    · exact paused_pause _
    · exact (h hn).of_issued rfl
  | updateByteCount diffIn diffOut =>
    simp only [DeviceState.handle, Phone.updateByteCount] at hn ⊢
    split_ifs at hn ⊢
    · exact h hn
    · exact paused_pause _
    · exact (h hn).of_issued rfl

/-- The callback stays installed. -/
lemma callback_step {e : Event} (hcb : p.thread.mPauseCallback = true) :
    (DeviceState.handle now p e).thread.mPauseCallback = true := by
  cases e with
  | accept => exact hcb
  | register info sendusr1 => exact networkStateChange_callback info sendusr1
  | hold waittime => simp only [DeviceState.handle, handleHold]; split_ifs <;> exact hcb
  | resumeHold => simp only [DeviceState.handle, Phone.resumeHold]; split_ifs <;> simpa using hcb
  | userPause pause => simp only [DeviceState.handle, Phone.userPause]; split_ifs <;> simpa using hcb
  | screenOff pref => simp only [DeviceState.handle, Phone.screenOff]; split_ifs <;> exact hcb
  | screenOn => simp only [DeviceState.handle, Phone.screenOn]; split_ifs <;> simpa using hcb
  | networkStateChange info sendusr1 => exact (networkStateChange_callback info sendusr1).trans hcb
  | delayDisconnect =>
    simp only [DeviceState.handle, Phone.delayDisconnect]; split_ifs <;> simpa using hcb
  | updateByteCount diffIn diffOut =>
    simp only [DeviceState.handle, Phone.updateByteCount]; split_ifs <;> simpa using hcb

/-- **One step** keeps what holds once a network has been connected. -/
theorem Connected.handle {e : Event} (h : Connected p) (he : Enabled p e) :
    Connected (handle now p e) where
  callback := callback_step h.callback
  user := h.user.handle
  network := network_step h.callback he h.network

/-- Once a network is reported as connected, the network is not given up. -/
lemma connected_of_networkStateChange {info : NetworkInfo} (sendusr1 : Bool)
    (hcb : p.thread.mPauseCallback = true) (hu : UserPaused p) (hc : info.connected = true) :
    Connected (p.networkStateChange now (some info) sendusr1) where
  callback := (networkStateChange_callback _ _).trans hcb
  user := hu.networkStateChange
  network hn := by
    exfalso
    unfold Phone.networkStateChange at hn
    simp only [hc, if_true] at hn
    split_ifs at hn
    · simp at hn
    · simp [DeviceStateReceiver.settleScreen] at hn
    · simp [DeviceStateReceiver.settleScreen] at hn
    · simp [DeviceStateReceiver.settleScreen] at hn

/-! ### The handlers that settle the screen -/

lemma pausesScreen_of_screen {e : Event}
    (h : (DeviceState.handle now p e).receiver.screen = p.receiver.screen) :
    PausesScreen p (now, e) :=
  fun hs hq => absurd (h.symm.trans hq) hs

/-- A handler that calls nothing settles the screen rightly only where the VPN is paused. -/
lemma pausesScreen_silent {e : Event} (hs : p.receiver.screen ≠ .disconnected)
    (hq : (DeviceState.handle now p e).receiver.screen = .disconnected)
    (hi : (DeviceState.handle now p e).issued = p.issued) :
    PausesScreen p (now, e) ↔ p.Paused := by
  constructor
  · intro h
    rcases h hs hq with ⟨l, hl, i, hmem, -⟩ | h
    · rw [hi] at hl
      obtain rfl : l = [] := by simpa using hl
      simp at hmem
    · exact h
  · exact fun h _ _ => .inr h

lemma pausesScreen_networkStateChange {info : Option NetworkInfo} {sendusr1 : Bool} :
    PausesScreen p (now, .networkStateChange info sendusr1) ↔
      ¬ SettlesUnpaused p (.networkStateChange info sendusr1) := by
  cases info with
  | none =>
    refine iff_of_true (pausesScreen_of_screen ?_) not_false
    simp only [DeviceState.handle, Phone.networkStateChange]
    split_ifs <;> rfl
  | some info =>
    by_cases hpend : p.receiver.screen = .pendingDisconnect
    · have hs : p.receiver.screen ≠ .disconnected := by simp [hpend]
      by_cases hc : info.connected = true
      · by_cases hsame : p.receiver.network = .pendingDisconnect ∧ p.receiver.sameNetwork info = true
        · refine iff_of_true (pausesScreen_of_screen ?_) fun h => h.2.2.2 hsame
          simp [DeviceState.handle, Phone.networkStateChange, hc, hsame]
        · have hoff : ¬ (p.receiver.screen = .shouldBeConnected ∧
              p.receiver.userpause = .shouldBeConnected) := by simp [hpend]
          have hstep := networkStateChange_paused now sendusr1 hc hsame hoff
          rw [pausesScreen_silent hs (by simp [DeviceState.handle, hstep,
            DeviceStateReceiver.settleScreen, hpend]) (by rw [DeviceState.handle, hstep])]
          constructor
          · exact fun hp h => h.2.2.1 hp
          · intro h
            by_contra hp
            exact h ⟨hc, hpend, hp, hsame⟩
      · refine iff_of_true (pausesScreen_of_screen ?_) fun h => hc h.1
        simp [DeviceState.handle, Phone.networkStateChange, hc]
    · refine iff_of_true (pausesScreen_of_screen ?_) fun h => hpend h.2.1
      simp only [DeviceState.handle, Phone.networkStateChange]
      split_ifs <;> simp [DeviceStateReceiver.settleScreen, hpend]

lemma pausesScreen_screenOff {pref : Bool} (h : Connected p) :
    PausesScreen p (now, .screenOff pref) ↔ ¬ SettlesUnpaused p (.screenOff pref) := by
  cases pref with
  | false => exact iff_of_true (pausesScreen_of_screen rfl) fun hb => by simp [SettlesUnpaused] at hb
  | true =>
    by_cases hs : p.receiver.screen = .disconnected
    · exact iff_of_true (fun hp => absurd hs hp) fun hb => hb.2.1 hs
    by_cases hoff : p.receiver.network = .disconnected ∨ p.receiver.userpause = .disconnected
    · have hstep : (DeviceState.handle now p (.screenOff true)).receiver.screen = .disconnected := by
        simp [DeviceState.handle, Phone.screenOff, DeviceStateReceiver.fillTrafficData, hoff]
      have hi : (DeviceState.handle now p (.screenOff true)).issued = p.issued := rfl
      rw [pausesScreen_silent hs hstep hi]
      constructor
      · rintro hp ⟨-, -, -, hl⟩
        simp [Phone.Paused, hl, Request.isPause] at hp
      · intro hb
        rcases hoff with hn | hu
        · exact h.network hn
        · refine (h.user hu).resolve_right fun hl => hb ⟨rfl, hs, hu, hl⟩
    · refine iff_of_true (fun _ hq => ?_) fun hb => hoff (.inr hb.2.2.1)
      simp [DeviceState.handle, Phone.screenOff, DeviceStateReceiver.fillTrafficData, hoff] at hq

/-- **One step**: a handler settles the screen rightly unless it settles that of a VPN that is
not paused. -/
theorem pausesScreen_iff {e : Event} (h : Connected p) (he : Enabled p e) :
    PausesScreen p (now, e) ↔ ¬ SettlesUnpaused p e := by
  cases e with
  | accept => exact iff_of_true (pausesScreen_of_screen rfl) not_false
  | register info sendusr1 => simp [Enabled, h.callback] at he
  | hold waittime =>
    refine iff_of_true (pausesScreen_of_screen ?_) not_false
    simp only [DeviceState.handle, handleHold]
    split_ifs <;> rfl
  | resumeHold =>
    refine iff_of_true (pausesScreen_of_screen ?_) not_false
    simp only [DeviceState.handle, Phone.resumeHold]
    split_ifs <;> simp
  | userPause pause =>
    refine iff_of_true (pausesScreen_of_screen ?_) not_false
    simp only [DeviceState.handle, Phone.userPause]
    split_ifs <;> simp
  | screenOff pref => exact pausesScreen_screenOff h
  | screenOn =>
    refine iff_of_true (fun _ hq => ?_) not_false
    simp only [DeviceState.handle, Phone.screenOn] at hq
    split_ifs at hq <;> simp at hq
  | networkStateChange info sendusr1 => exact pausesScreen_networkStateChange
  | delayDisconnect =>
    refine iff_of_true (fun hs hq => ?_) not_false
    simp only [DeviceState.handle, Phone.delayDisconnect] at hq ⊢
    split_ifs at hq ⊢
    · exact .inl (callsPause_pause _ rfl)
    · exact absurd hq hs
  | updateByteCount diffIn diffOut =>
    refine iff_of_true (fun hs hq => ?_) not_false
    simp only [DeviceState.handle, Phone.updateByteCount] at hq ⊢
    split_ifs at hq ⊢
    · exact absurd hq hs
    · exact .inl (callsPause_pause _ rfl)
    · exact absurd hq hs

end Invariant

/-- A network is reported as connected. -/
def Connects : Event → Prop
  | .register (some info) _ => info.connected = true
  | .networkStateChange (some info) _ => info.connected = true
  | _ => False

lemma Connects.connected {p q : Phone} {now : ℤ} {e : Event} (hc : Connects e)
    (hu : UserPaused p) (hq : step p (now, e) = some q) : Connected q := by
  obtain ⟨he, rfl⟩ := step_eq_some.mp hq
  cases e with
  | register info sendusr1 =>
    cases info with
    | none => exact absurd hc not_false
    | some info =>
      exact connected_of_networkStateChange sendusr1 rfl
        (userPaused_of_user (by simp [DeviceStateReceiver.new])) hc
  | networkStateChange info sendusr1 =>
    cases info with
    | none => exact absurd hc not_false
    | some info => exact connected_of_networkStateChange sendusr1 he hu hc
  | _ => exact absurd hc not_false

lemma userPaused_reaches {C : Phone → Event → Prop} {p : Phone} (h : Reaches C p) :
    UserPaused p := by
  refine Runs.invariant (I := UserPaused) ?_ ?_ h
  · exact userPaused_of_user (by simp [Phone.start, DeviceStateReceiver.new])
  · rintro u v - hu ⟨now, -, -⟩
    exact hu.handle

/-- **Pausing for the screen is carried out**: along a run that starts when a network has been
connected, every handler that takes the screen to be disconnected pauses the VPN or finds it
paused, exactly if none settles the screen of a VPN that is not paused. -/
theorem screen_pause_carried_out {p q : Phone} {first : ℤ × Event}
    (hp : Reaches (fun _ _ => True) p) (hc : Connects first.2) (hq : step p first = some q)
    (es : List (ℤ × Event)) :
    Runs.Avoids step (fun p e => ¬ PausesScreen p e) q es ↔
      Runs.Avoids step (fun p e => SettlesUnpaused p e.2) q es := by
  refine Runs.avoids_congr (I := Connected) ?_ ?_ (hc.connected (userPaused_reaches hp) hq) es
  · rintro p ⟨now, e⟩ q h hq
    obtain ⟨he, rfl⟩ := step_eq_some.mp hq
    exact h.handle he
  · rintro p ⟨now, e⟩ q h hq
    obtain ⟨he, rfl⟩ := step_eq_some.mp hq
    rw [pausesScreen_iff h he, not_not]

lemma avoids_cons {B : Phone → ℤ × Event → Prop} {p : Phone} {now : ℤ} {e : Event}
    {es : List (ℤ × Event)} : Runs.Avoids step B p ((now, e) :: es) ↔
      (Enabled p e → ¬ B p (now, e) ∧ Runs.Avoids step B (handle now p e) es) := by
  constructor
  · exact fun h he => h _ (step_eq_some.mpr ⟨he, rfl⟩)
  · intro h t ht
    obtain ⟨he, rfl⟩ := step_eq_some.mp ht
    exact h he

/-- The screen goes off, and the VPN is paused when the traffic has stopped. -/
theorem screen_pause_carried_out_idle :
    Runs.Avoids step (fun p e => ¬ PausesScreen p e) (run .start [(0, .register (some wifi) true)])
      [(1, .screenOff true), (70000, .updateByteCount 0 0)] := by
  have hconnects : Connects (.register (some wifi) true) := rfl
  have hstart : step .start (0, .register (some wifi) true) =
      some (run .start [(0, .register (some wifi) true)]) := rfl
  refine (screen_pause_carried_out .refl hconnects hstart _).mpr ?_
  rw [avoids_cons, avoids_cons]
  refine fun _ => ⟨?_, fun _ => ⟨not_false, trivial⟩⟩
  rintro ⟨-, -, hu, -⟩
  exact absurd hu (by decide)

/-- The screen goes off, and the device is on another network before the traffic has stopped. -/
def screenSwitch : List (ℤ × Event) :=
  [(1, .screenOff true), (2, .networkStateChange (some mobile) true)]

theorem screenSwitch_unpaused :
    ¬ ∀ (p q : Phone) (first : ℤ × Event), Reaches (fun _ _ => True) p → Connects first.2 →
      step p first = some q →
        ∀ es, Runs.Avoids step (fun p e => ¬ PausesScreen p e) q es := by
  intro h
  have hrun := h .start (run .start [(0, .register (some wifi) true)])
    (0, .register (some wifi) true) .refl rfl rfl screenSwitch
  rw [screenSwitch, avoids_cons] at hrun
  have hlast := (avoids_cons.mp (hrun (by decide)).2 (by decide)).1
  refine hlast fun hp => ?_
  have hscreen := hp (by decide) (by decide)
  rcases hscreen with ⟨l, hl, i, hi, -⟩ | hpaused
  · have hsilent : (handle 2 (handle 1 (run .start [(0, .register (some wifi) true)])
        (.screenOff true)) (.networkStateChange (some mobile) true)).issued =
        (handle 1 (run .start [(0, .register (some wifi) true)]) (.screenOff true)).issued := rfl
    rw [hsilent, List.self_eq_append_right] at hl
    simp [hl] at hi
  · exact absurd hpaused (by unfold Phone.Paused; decide)

end BuludTechVPN.DeviceState
