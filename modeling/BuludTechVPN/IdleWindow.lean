import BuludTechVPN.ScreenPause
import Mathlib.Algebra.Order.BigOperators.Group.List

/-!
The rule that pauses the VPN while the screen is off: the window of traffic that
`updateByteCount` looks at, over a whole run.

The rule is kept in a list of data points that is never cleared. A screen-off adds a point of the
size of the limit, so that the limit is not undercut before that point has left the window.
-/

namespace BuludTechVPN.DeviceState

open JavaLang Phone DeviceStateReceiver

/-- The window of time, in milliseconds. -/
def windowMillis : ℤ := trafficWindow * 1000

/-- The sum of the data of points. -/
def traffic (l : List Datapoint) : ℤ := (l.map Datapoint.data).sum

/-! ### What a run reports -/

/-- The state after an event. -/
def after (p : Phone) (e : ℤ × Event) : Phone := handle e.1 p e.2

/-- The points that an event adds to the list. -/
def addedPoints (p : Phone) : ℤ × Event → List Datapoint
  | (now, .screenOff true) => [⟨now, trafficLimit⟩]
  | (now, .updateByteCount diffIn diffOut) =>
    if p.receiver.screen = .pendingDisconnect then [⟨now, diffIn + diffOut⟩] else []
  | _ => []

/-- The bytes that an event reports while the disconnect of the screen is pending. -/
def pendingBytes (p : Phone) : ℤ × Event → List Datapoint
  | (now, .updateByteCount diffIn diffOut) =>
    if p.receiver.screen = .pendingDisconnect then [⟨now, diffIn + diffOut⟩] else []
  | _ => []

/-- The time of an event that sets a disconnect of the screen pending. -/
def pendingSet (p : Phone) : ℤ × Event → List ℤ
  | (now, .screenOff true) =>
    if (after p (now, .screenOff true)).receiver.screen = .pendingDisconnect then [now] else []
  | _ => []

/-- The differences of an event are not negative. -/
def Event.NonNegative : Event → Prop
  | .updateByteCount diffIn diffOut => 0 ≤ diffIn ∧ 0 ≤ diffOut
  | _ => True

/-! ### The window -/

section Window

variable {l removed : List Datapoint} {c : ℤ}

/-- The points that have left the window at `c` are a beginning of the list. -/
lemma exists_expired (l : List Datapoint) (c : ℤ) : ∃ expired,
    l = expired ++ l.dropWhile (fun d => d.timestamp ≤ c) ∧ ∀ d ∈ expired, d.timestamp ≤ c := by
  refine ⟨l.takeWhile fun d => d.timestamp ≤ c, List.takeWhile_append_dropWhile.symm, ?_⟩
  intro d hd
  simpa using List.mem_takeWhile_imp hd

/-- A list that ends inside the window is not emptied. -/
lemma dropWhile_ne_nil (l : List Datapoint) {d : Datapoint} (h : c < d.timestamp) :
    (l ++ [d]).dropWhile (fun d => d.timestamp ≤ c) ≠ [] := by
  intro hnil
  rw [List.dropWhile_eq_nil_iff] at hnil
  have hd := hnil d (List.mem_append_right _ (List.mem_singleton_self d))
  rw [decide_eq_true_eq] at hd
  omega

lemma data_le_traffic {d : Datapoint} (hl : ∀ d ∈ l, 0 ≤ d.data) (hd : d ∈ l) :
    d.data ≤ traffic l :=
  List.single_le_sum (by simpa using hl) _ (List.mem_map_of_mem hd)

/-- What is inside the window weighs no more than what is left of the list. -/
lemma traffic_filter_le {inside : List Datapoint} (hin : inside.Sublist (removed ++ l))
    (hremoved : ∀ d ∈ removed, d.timestamp ≤ c) (hl : ∀ d ∈ l, 0 ≤ d.data) :
    traffic (inside.filter fun d => c < d.timestamp) ≤ traffic l := by
  have hnone : (removed.filter fun d => c < d.timestamp) = [] := by
    rw [List.filter_eq_nil_iff]
    intro d hd
    have := hremoved d hd
    simp only [decide_eq_true_eq]
    omega
  have hsub : (inside.filter fun d => c < d.timestamp).Sublist l := by
    refine (hin.filter _).trans ?_
    rw [List.filter_append, hnone, List.nil_append]
    exact List.filter_sublist
  exact (hsub.map _).sum_le_sum (by simpa using hl)

end Window

/-- What a report of bytes leaves of the list. -/
def leftOver (p : Phone) (now bytes : ℤ) : List Datapoint :=
  (p.receiver.trafficdata ++ ([⟨now, bytes⟩] : List Datapoint)).dropWhile
    fun d => d.timestamp ≤ now - windowMillis

/-- A report of bytes at the end of a run settles the screen. -/
def SettlesScreen (es : List (ℤ × Event)) (now diffIn diffOut : ℤ) : Prop :=
  (run .start es).receiver.screen = .pendingDisconnect ∧
    ((run .start es).updateByteCount now diffIn diffOut).receiver.screen = .disconnected

/-- **The rule**: the screen is settled only if the latest screen-off is a window ago and the
bytes reported since then are below the limit, and the list always keeps the newest point. -/
structure WindowHonoured (es : List (ℤ × Event)) (now diffIn diffOut : ℤ) : Prop where
  waited : SettlesScreen es now diffIn diffOut →
    ∃ t, (Runs.gather after pendingSet .start es).getLast? = some t ∧ t + windowMillis ≤ now
  idle : SettlesScreen es now diffIn diffOut →
    traffic ((Runs.gather after pendingBytes .start
      (es ++ [(now, .updateByteCount diffIn diffOut)])).filter
        fun d => now - windowMillis < d.timestamp) < trafficLimit
  not_emptied : (run .start es).receiver.screen = .pendingDisconnect →
    ((run .start es).updateByteCount now diffIn diffOut).receiver.trafficdata ≠ []

/-! ### What the list is along a run -/

/-- The list is what has been added since the receiver was installed, less a beginning that has
left the window; and a pending disconnect has been set by a screen-off. -/
structure Windowed (now : ℤ) (hist : List Datapoint) (offs : List ℤ) (p : Phone) : Prop where
  kept : ∃ removed, hist = removed ++ p.receiver.trafficdata ∧
    ∀ d ∈ removed, d.timestamp ≤ now - windowMillis
  pending : p.receiver.screen = .pendingDisconnect → offs ≠ []
  limit : ∀ t ∈ offs, ⟨t, trafficLimit⟩ ∈ hist
  installed : p.thread.mPauseCallback = false → hist = []

section Run

variable {p q : Phone} {now clock : ℤ} {hist : List Datapoint} {offs : List ℤ}

lemma Windowed.mono (h : Windowed clock hist offs p) (hc : clock ≤ now) :
    Windowed now hist offs p where
  kept := by
    obtain ⟨removed, hr, hold⟩ := h.kept
    refine ⟨removed, hr, fun d hd => ?_⟩
    have := hold d hd
    omega
  pending := h.pending
  limit := h.limit
  installed := h.installed

/-- A step that leaves the list alone and sets nothing pending. -/
lemma Windowed.of_same (h : Windowed now hist offs p)
    (ht : q.receiver.trafficdata = p.receiver.trafficdata)
    (hs : q.receiver.screen = .pendingDisconnect → p.receiver.screen = .pendingDisconnect)
    (hcb : q.thread.mPauseCallback = p.thread.mPauseCallback) : Windowed now hist offs q where
  kept := by
    rw [ht]
    exact h.kept
  pending hq := h.pending (hs hq)
  limit := h.limit
  installed hq := h.installed (hcb ▸ hq)

/-- What the other handlers leave alone. -/
structure Untouched (p q : Phone) : Prop where
  trafficdata : q.receiver.trafficdata = p.receiver.trafficdata
  screen : q.receiver.screen = .pendingDisconnect → p.receiver.screen = .pendingDisconnect
  callback : q.thread.mPauseCallback = p.thread.mPauseCallback

lemma settleScreen_pending {r : DeviceStateReceiver} : r.settleScreen.screen ≠ .pendingDisconnect := by
  unfold settleScreen
  simp only
  split_ifs with h
  · decide
  · exact h

lemma untouched_networkStateChange (info : Option NetworkInfo) (sendusr1 : Bool) :
    Untouched p (p.networkStateChange now info sendusr1) := by
  have hcb : (p.networkStateChange now info sendusr1).thread.mPauseCallback =
      p.thread.mPauseCallback := networkStateChange_callback info sendusr1
  unfold Phone.networkStateChange at hcb ⊢
  cases info with
  | none =>
    simp only at hcb ⊢
    split_ifs at hcb ⊢
    · exact ⟨rfl, id, hcb⟩
    · exact ⟨rfl, id, hcb⟩
  | some info =>
    simp only at hcb ⊢
    split_ifs at hcb ⊢
    · exact ⟨by rw [networkChange_receiver], by rw [networkChange_receiver]; exact id, hcb⟩
    · refine ⟨by rw [networkChange_receiver]; rfl, fun hq => ?_, hcb⟩
      rw [networkChange_receiver] at hq
      exact absurd hq settleScreen_pending
    · refine ⟨by rw [resume_receiver]; rfl, fun hq => ?_, hcb⟩
      rw [resume_receiver] at hq
      exact absurd hq settleScreen_pending
    · exact ⟨rfl, fun hq => absurd hq settleScreen_pending, hcb⟩
    · exact ⟨rfl, id, hcb⟩

/-- **The other handlers** neither add to the list nor set a disconnect of the screen pending. -/
lemma untouched_handle {e : Event} (hr : ∀ info sendusr1, e ≠ .register info sendusr1)
    (ho : e ≠ .screenOff true) (hu : ∀ diffIn diffOut, e ≠ .updateByteCount diffIn diffOut) :
    Untouched p (handle now p e) := by
  cases e with
  | accept => exact ⟨rfl, id, rfl⟩
  | register info sendusr1 => exact absurd rfl (hr info sendusr1)
  | hold waittime =>
    simp only [handle, handleHold]
    split_ifs
    · exact ⟨rfl, id, rfl⟩
    · exact ⟨rfl, id, rfl⟩
  | resumeHold =>
    simp only [handle, Phone.resumeHold]
    split_ifs
    · exact ⟨by simp, by simp, by simp⟩
    · exact ⟨rfl, id, rfl⟩
  | userPause pause =>
    simp only [handle, Phone.userPause]
    split_ifs <;> exact ⟨by simp, by simp, by simp⟩
  | screenOff pref =>
    obtain rfl : pref = false := by
      cases pref with
      | false => rfl
      | true => exact absurd rfl ho
    exact ⟨rfl, id, rfl⟩
  | screenOn =>
    simp only [handle, Phone.screenOn]
    split_ifs <;> exact ⟨by simp, by simp, by simp⟩
  | networkStateChange info sendusr1 => exact untouched_networkStateChange info sendusr1
  | delayDisconnect =>
    simp only [handle, Phone.delayDisconnect]
    split_ifs
    · refine ⟨by simp [settleScreen], fun hq => ?_, by simp⟩
      rw [pause_receiver] at hq
      exact absurd hq settleScreen_pending
    · exact ⟨rfl, id, rfl⟩
  | updateByteCount diffIn diffOut => exact absurd rfl (hu diffIn diffOut)

/-- A screen-off with the preference on. -/
lemma windowed_screenOff (h : Windowed now hist offs p) (he : Enabled p (.screenOff true)) :
    Windowed now (hist ++ addedPoints p (now, .screenOff true))
      (offs ++ pendingSet p (now, .screenOff true)) (handle now p (.screenOff true)) where
  kept := by
    obtain ⟨removed, hr, hold⟩ := h.kept
    refine ⟨removed, ?_, hold⟩
    have htd : (handle now p (.screenOff true)).receiver.trafficdata =
        p.receiver.trafficdata ++ [⟨now, trafficLimit⟩] := by
      by_cases hoff : p.receiver.network = .disconnected ∨ p.receiver.userpause = .disconnected
      · simp [handle, Phone.screenOff, fillTrafficData, hoff]
      · simp [handle, Phone.screenOff, fillTrafficData, hoff]
    rw [htd, addedPoints, hr, List.append_assoc]
  pending hq := by
    have hset : pendingSet p (now, .screenOff true) = [now] := if_pos hq
    rw [hset]
    exact List.append_ne_nil_of_right_ne_nil _ (List.cons_ne_nil _ _)
  limit := by
    intro t ht
    rcases List.mem_append.mp ht with ht | ht
    · exact List.mem_append_left _ (h.limit t ht)
    · rw [pendingSet] at ht
      split_ifs at ht
      · obtain rfl := List.mem_singleton.mp ht
        exact List.mem_append_right _ (List.mem_singleton_self _)
      · cases ht
  installed hq := by
    have hcb : p.thread.mPauseCallback = true := he
    rw [callback_step hcb] at hq
    cases hq

/-- What a report of bytes does while the disconnect of the screen is pending. -/
lemma updateByteCount_trafficdata {diffIn diffOut : ℤ}
    (hs : p.receiver.screen = .pendingDisconnect) :
    (p.updateByteCount now diffIn diffOut).receiver.trafficdata =
      leftOver p now (diffIn + diffOut) := by
  unfold Phone.updateByteCount
  rw [if_neg (not_not.mpr hs)]
  simp only
  split_ifs
  · rw [pause_receiver]
    rfl
  · rfl

lemma traffic_of_settled {diffIn diffOut : ℤ} (hs : p.receiver.screen = .pendingDisconnect)
    (hd : (p.updateByteCount now diffIn diffOut).receiver.screen = .disconnected) :
    traffic (leftOver p now (diffIn + diffOut)) < trafficLimit := by
  unfold Phone.updateByteCount at hd
  rw [if_neg (not_not.mpr hs)] at hd
  simp only at hd
  split_ifs at hd with hlt
  · exact hlt
  · rw [hs] at hd
    cases hd

/-- Bytes that are reported. -/
lemma windowed_updateByteCount {diffIn diffOut : ℤ} (h : Windowed now hist offs p)
    (he : Enabled p (.updateByteCount diffIn diffOut)) :
    Windowed now (hist ++ addedPoints p (now, .updateByteCount diffIn diffOut)) offs
      (handle now p (.updateByteCount diffIn diffOut)) := by
  have hcb : p.thread.mPauseCallback = true := he
  by_cases hs : p.receiver.screen = .pendingDisconnect
  · rw [addedPoints, if_pos hs]
    obtain ⟨removed, hr, hold⟩ := h.kept
    obtain ⟨expired, hexp, hgone⟩ := exists_expired
      (p.receiver.trafficdata ++ ([⟨now, diffIn + diffOut⟩] : List Datapoint)) (now - windowMillis)
    have htd : (handle now p (.updateByteCount diffIn diffOut)).receiver.trafficdata =
        leftOver p now (diffIn + diffOut) := updateByteCount_trafficdata hs
    refine ⟨⟨removed ++ expired, ?_, ?_⟩, fun _ => h.pending hs, fun t ht => ?_, fun hq => ?_⟩
    · rw [htd, leftOver, List.append_assoc, ← hexp, hr, List.append_assoc]
    · exact List.forall_mem_append.mpr ⟨hold, hgone⟩
    · exact List.mem_append_left _ (h.limit t ht)
    · rw [callback_step hcb] at hq
      cases hq
  · have hstep : handle now p (.updateByteCount diffIn diffOut) = p := if_pos hs
    rw [hstep, addedPoints, if_neg hs, List.append_nil]
    exact h

/-- **One step** at a later time keeps the list a window of what has been added. -/
theorem Windowed.step {e : Event} (h : Windowed clock hist offs p) (hc : clock ≤ now)
    (he : Enabled p e) : Windowed now (hist ++ addedPoints p (now, e))
      (offs ++ pendingSet p (now, e)) (handle now p e) := by
  have hnow := h.mono hc
  have hother (hu : Untouched p (handle now p e)) (ha : addedPoints p (now, e) = [])
      (hp : pendingSet p (now, e) = []) : Windowed now (hist ++ addedPoints p (now, e))
        (offs ++ pendingSet p (now, e)) (handle now p e) := by
    rw [ha, hp, List.append_nil, List.append_nil]
    exact hnow.of_same hu.trafficdata hu.screen hu.callback
  cases e with
  | screenOff pref =>
    cases pref with
    | true => exact windowed_screenOff hnow he
    | false => exact hother (untouched_handle nofun nofun nofun) rfl rfl
  | updateByteCount diffIn diffOut =>
    rw [pendingSet, List.append_nil]
    · exact windowed_updateByteCount hnow he
    · nofun
  | register info sendusr1 =>
    have hnil : hist = [] := h.installed he
    obtain ⟨removed, hr, -⟩ := h.kept
    have hoffs : offs = [] := by
      rw [List.eq_nil_iff_forall_not_mem]
      intro t ht
      have hm := h.limit t ht
      rw [hnil] at hm
      cases hm
    let new : Phone :=
      { p with receiver := .new, thread := { p.thread with mPauseCallback := true } }
    have hnew : Windowed now [] [] new :=
      ⟨⟨[], rfl, nofun⟩, nofun, nofun, fun _ => rfl⟩
    have hu : Untouched new (new.networkStateChange now info sendusr1) :=
      untouched_networkStateChange info sendusr1
    rw [hnil, hoffs]
    exact hnew.of_same hu.trafficdata hu.screen hu.callback
  | accept => exact hother (untouched_handle nofun nofun nofun) rfl rfl
  | hold waittime => exact hother (untouched_handle nofun nofun nofun) rfl rfl
  | resumeHold => exact hother (untouched_handle nofun nofun nofun) rfl rfl
  | userPause pause => exact hother (untouched_handle nofun nofun nofun) rfl rfl
  | screenOn => exact hother (untouched_handle nofun nofun nofun) rfl rfl
  | networkStateChange info sendusr1 => exact hother (untouched_handle nofun nofun nofun) rfl rfl
  | delayDisconnect => exact hother (untouched_handle nofun nofun nofun) rfl rfl

/-- **A whole run** keeps it. -/
theorem Windowed.run {es : List (ℤ × Event)} (h : Windowed clock hist offs p)
    (ha : Allowed (fun _ _ => True) p es)
    (hc : (clock :: (es.map Prod.fst ++ [now])).Pairwise (· ≤ ·)) :
    Windowed now (hist ++ Runs.gather after addedPoints p es)
      (offs ++ Runs.gather after pendingSet p es) (run p es) := by
  induction es generalizing clock hist offs p with
  | nil =>
    rw [Runs.gather, Runs.gather, List.append_nil, List.append_nil]
    exact h.mono ((List.pairwise_cons.mp hc).1 now (List.mem_singleton_self _))
  | cons x es ih =>
    obtain ⟨t, e⟩ := x
    obtain ⟨he, -, ha⟩ := ha
    obtain ⟨hle, hc⟩ := List.pairwise_cons.mp hc
    have hstep := h.step (hle t List.mem_cons_self) he
    rw [Runs.gather, Runs.gather, ← List.append_assoc, ← List.append_assoc]
    exact ih hstep ha hc

lemma windowed_start (c : ℤ) : Windowed c [] [] .start :=
  ⟨⟨[], rfl, nofun⟩, nofun, nofun, fun _ => rfl⟩

/-- The list at the end of a run from the start. -/
lemma windowed_of_run {es : List (ℤ × Event)} (ha : Allowed (fun _ _ => True) .start es)
    (hc : (es.map Prod.fst ++ [now]).Pairwise (· ≤ ·)) :
    Windowed now (Runs.gather after addedPoints .start es)
      (Runs.gather after pendingSet .start es) (DeviceState.run .start es) := by
  cases es with
  | nil => exact windowed_start now
  | cons x es =>
    refine (windowed_start x.1).run ha (List.pairwise_cons.mpr ⟨fun t ht => ?_, hc⟩)
    rcases List.mem_cons.mp ht with rfl | ht
    · exact le_rfl
    · exact (List.pairwise_cons.mp hc).1 t ht

end Run

/-! ### The rule -/

lemma run_eq_foldl (p : Phone) (es : List (ℤ × Event)) : run p es = es.foldl after p := by
  induction es generalizing p with
  | nil => rfl
  | cons x es ih => exact ih _

lemma addedPoints_nonneg {e : ℤ × Event} (h : e.2.NonNegative) (p : Phone) :
    ∀ d ∈ addedPoints p e, 0 ≤ d.data := by
  intro d hd
  unfold addedPoints at hd
  split at hd
  · obtain rfl := List.mem_singleton.mp hd
    show 0 ≤ trafficLimit
    decide
  · split_ifs at hd
    · obtain rfl := List.mem_singleton.mp hd
      exact add_nonneg h.1 h.2
    · cases hd
  · cases hd

lemma pendingBytes_sublist (p : Phone) (e : ℤ × Event) :
    (pendingBytes p e).Sublist (addedPoints p e) := by
  unfold pendingBytes addedPoints
  split
  · exact .refl _
  · exact List.nil_sublist _

lemma windowMillis_pos : 0 < windowMillis := by decide

/-- Everything that has been added when bytes are reported is out of the window or still in the
list. -/
lemma exists_gone {es : List (ℤ × Event)} {now diffIn diffOut : ℤ}
    (hrun : Allowed (fun _ _ => True) .start es)
    (hclock : (es.map Prod.fst ++ [now]).Pairwise (· ≤ ·))
    (hs : (run .start es).receiver.screen = .pendingDisconnect) :
    ∃ gone, Runs.gather after addedPoints .start (es ++ [(now, .updateByteCount diffIn diffOut)]) =
        gone ++ leftOver (run .start es) now (diffIn + diffOut) ∧
      ∀ d ∈ gone, d.timestamp ≤ now - windowMillis := by
  obtain ⟨removed, hhist, hold⟩ := (windowed_of_run hrun hclock).kept
  obtain ⟨expired, hexp, hgone⟩ := exists_expired
    ((run .start es).receiver.trafficdata ++ ([⟨now, diffIn + diffOut⟩] : List Datapoint))
    (now - windowMillis)
  refine ⟨removed ++ expired, ?_, List.forall_mem_append.mpr ⟨hold, hgone⟩⟩
  rw [Runs.gather_append, Runs.gather_singleton, ← run_eq_foldl, addedPoints, if_pos hs, hhist,
    List.append_assoc, List.append_assoc, leftOver, ← hexp]

/-- A screen that goes off with little traffic before. -/
def screenWentOff : List (ℤ × Event) :=
  [(0, .register (some wifi) true), (1000, .screenOff true), (30000, .updateByteCount 40000 20000)]

end BuludTechVPN.DeviceState
