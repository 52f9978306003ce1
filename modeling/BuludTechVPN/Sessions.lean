import BuludTechVPN.Runs

/-!
Successive sessions of `OpenVPNService`: starting one while the process of another still runs,
and what the end of a process thread leaves behind.

A session is known by its number, and each of its parts carries it. `startOpenVPN` runs in a
thread of its own, statement by statement, while process threads end and the main thread runs
what was posted to it. A start that fails is not among the events, and the process thread is an
`OpenVPNThread`.
-/

namespace BuludTechVPN.Sessions

open Runs

/-- Where `startOpenVPN` stands. -/
inductive Phase
  /-- `mStarting` is set, the management was asked to stop the old process -/
  | stopping
  /-- the old thread was interrupted, `mProcessLock` is held -/
  | forcing
  | released
  /-- `mStarting` is reset -/
  | stopped
  /-- `mManagement` is set -/
  | managed
  /-- `mOpenVPNThread` is set -/
  | opened
  /-- `mProcessThread` is set and started -/
  | installed
  deriving DecidableEq, Repr

structure Service where
  mStarting : Bool
  mManagement : Option ℕ
  mOpenVPNThread : Option ℕ
  mProcessThread : Option ℕ
  mDeviceStateReceiver : Option ℕ
  mNotificationAlwaysVisible : Bool
  /-- The session that is being started, and how far. -/
  starter : Option (ℕ × Phase)
  /-- The registrations posted to the main thread. -/
  posted : List ℕ
  /-- The sessions whose process threads run. -/
  running : List ℕ
  /-- The number of sessions so far. -/
  sessions : ℕ
  /-- The session that last began to install its threads. -/
  current : ℕ
  /-- `stopSelf` was called since then. -/
  stopSelf : Bool
  deriving DecidableEq, Repr

inductive Event
  | startOpenVPN
  | proceed
  | mainLooper
  | processDied (session : ℕ)
  deriving DecidableEq, Repr

namespace Service

/-- The next statements of `startOpenVPN`. -/
def proceed (s : Service) : Option Service :=
  match s.starter with
  | none => none
  | some (k, .stopping) => some { s with starter := some (k, .forcing) }
  | some (k, .forcing) => some { s with starter := some (k, .released) }
  | some (k, .released) => some { s with mStarting := false, starter := some (k, .stopped) }
  | some (k, .stopped) => some { s with mManagement := some k, starter := some (k, .managed) }
  | some (k, .managed) =>
    some { s with mOpenVPNThread := some k, starter := some (k, .opened), current := k,
                  stopSelf := false }
  | some (k, .opened) =>
    some { s with mProcessThread := some k, running := k :: s.running,
                  starter := some (k, .installed) }
  | some (k, .installed) => some { s with posted := s.posted ++ [k], starter := none }

/-- `mProcessLock` is held while `forceStopOpenVpnProcess` waits. -/
def locked (s : Service) : Bool :=
  match s.starter with
  | some (_, .forcing) => true
  | _ => false

def endVpnService (s : Service) : Service :=
  let s := { s with mProcessThread := none, mDeviceStateReceiver := none, mOpenVPNThread := none }
  if !s.mStarting && !s.mNotificationAlwaysVisible then { s with stopSelf := true } else s

def processDied (s : Service) (i : ℕ) : Option Service :=
  if i ∈ s.running ∧ s.locked = false then
    some { s with running := s.running.filter (· ≠ i) }.endVpnService
  else none

/-- The posted runnable replaces the device state receiver. -/
def mainLooper (s : Service) : Option Service :=
  match s.posted with
  | [] => none
  | k :: posted => some { s with mDeviceStateReceiver := some k, posted }

def startOpenVPN (s : Service) : Option Service :=
  match s.starter with
  | none => some { s with mStarting := true, starter := some (s.sessions + 1, .stopping),
                          sessions := s.sessions + 1 }
  | some _ => none

def step (s : Service) : Event → Option Service
  | .startOpenVPN => s.startOpenVPN
  | .proceed => s.proceed
  | .mainLooper => s.mainLooper
  | .processDied i => s.processDied i

def start (mNotificationAlwaysVisible : Bool) : Service :=
  ⟨false, none, none, none, none, mNotificationAlwaysVisible, none, [], [], 0, 0, false⟩

/-- The current session is about to start its process thread, or that thread runs. -/
def Live (s : Service) : Prop := s.current ∈ s.running ∨ s.starter = some (s.current, .opened)

/-- The receiver of the current session is registered, or will be. -/
def Registers (s : Service) : Prop :=
  s.mDeviceStateReceiver = some s.current ∨ s.current ∈ s.posted ∨
    s.starter = some (s.current, .installed)

/-- What belongs to the current session while it lives. -/
structure Intact (s : Service) : Prop where
  openVPNThread : s.Live → s.mOpenVPNThread = some s.current
  processThread : s.current ∈ s.running → s.mProcessThread = some s.current
  receiver : s.current ∈ s.running → s.Registers
  stopSelf : s.Live → s.stopSelf = false

/-- The process thread of a replaced session ends while the session that replaced it lives. -/
def LateDeath (s : Service) : Event → Prop
  | .processDied i => i ≠ s.current ∧ s.Live
  | _ => False

/-! ### Runs without late deaths -/

/-- Has the session begun to install its threads? -/
def installing : Phase → Bool
  | .opened | .installed => true
  | _ => false

structure Inv (s : Service) : Prop where
  openVPNThread : s.Live → s.mOpenVPNThread = some s.current
  processThread : s.current ∈ s.running → s.mProcessThread = some s.current
  stopSelf : s.Live → s.stopSelf = false
  registers : s.current ∈ s.running → s.starter = some (s.current, .installed) ∨
    s.posted.getLast? = some s.current ∨
      s.posted = [] ∧ s.mDeviceStateReceiver = some s.current
  running_le : ∀ i ∈ s.running, i ≤ s.current
  current_le : s.current ≤ s.sessions
  starter : ∀ k ph, s.starter = some (k, ph) →
    k ≤ s.sessions ∧ if installing ph then s.current = k else s.current < k
  opened : s.starter = some (s.current, .opened) → s.current ∉ s.running

variable {s t : Service}

lemma Inv.intact (h : Inv s) : Intact s where
  openVPNThread := h.openVPNThread
  processThread := h.processThread
  stopSelf := h.stopSelf
  receiver hr := by
    rcases h.registers hr with h1 | h1 | ⟨-, h1⟩
    · exact .inr (.inr h1)
    · exact .inr (.inl (List.mem_of_getLast? h1))
    · exact .inl h1

@[simp] lemma endVpnService_running : s.endVpnService.running = s.running := by
  unfold endVpnService; dsimp only; split_ifs <;> rfl

@[simp] lemma endVpnService_current : s.endVpnService.current = s.current := by
  unfold endVpnService; dsimp only; split_ifs <;> rfl

@[simp] lemma endVpnService_starter : s.endVpnService.starter = s.starter := by
  unfold endVpnService; dsimp only; split_ifs <;> rfl

@[simp] lemma endVpnService_sessions : s.endVpnService.sessions = s.sessions := by
  unfold endVpnService; dsimp only; split_ifs <;> rfl

@[simp] lemma endVpnService_openVPNThread : s.endVpnService.mOpenVPNThread = none := by
  unfold endVpnService; dsimp only; split_ifs <;> rfl

lemma inv_start (v : Bool) : Inv (start v) := by
  constructor <;> simp [start, Live]

lemma Inv.startOpenVPN (h : Inv s) (hs : s.startOpenVPN = some t) : Inv t := by
  unfold Service.startOpenVPN at hs
  split at hs
  · rename_i hn
    cases hs
    have hlive : s.Live ↔ s.current ∈ s.running := by simp [Live, hn]
    refine ⟨?_, h.processThread, ?_, ?_, h.running_le, h.current_le.trans (Nat.le_succ _), ?_, ?_⟩
    · intro hl; exact h.openVPNThread (hlive.mpr (by simpa [Live] using hl))
    · intro hl; exact h.stopSelf (hlive.mpr (by simpa [Live] using hl))
    · intro hr
      rcases h.registers hr with h1 | h1
      · simp [hn] at h1
      · exact .inr h1
    · intro k ph hk
      cases hk
      exact ⟨le_refl _, Nat.lt_succ_of_le h.current_le⟩
    · intro hk; simp at hk
  · cases hs

lemma Inv.mainLooper (h : Inv s) (hs : s.mainLooper = some t) : Inv t := by
  unfold Service.mainLooper at hs
  split at hs
  · cases hs
  · rename_i j posted hp
    cases hs
    refine ⟨h.openVPNThread, h.processThread, h.stopSelf, fun hr => ?_, h.running_le,
      h.current_le, h.starter, h.opened⟩
    rcases h.registers hr with h1 | h1 | ⟨h1, -⟩
    · exact .inl h1
    · rw [hp] at h1
      cases posted with
      | nil => exact .inr (.inr ⟨rfl, by simpa using h1⟩)
      | cons j' posted => exact .inr (.inl (by simpa using h1))
    · simp [hp] at h1

/-- Where no session lives, only the numbers matter. -/
lemma Inv.of_not_live (h : Inv s) (hdead : ¬ t.Live) (hr : ∀ i ∈ t.running, i ∈ s.running)
    (hc : t.current = s.current) (hn : t.sessions = s.sessions) (hst : t.starter = s.starter) :
    Inv t where
  openVPNThread hl := absurd hl hdead
  processThread hm := absurd (.inl hm) hdead
  stopSelf hl := absurd hl hdead
  registers hm := absurd (.inl hm) hdead
  running_le i hi := hc ▸ h.running_le i (hr i hi)
  current_le := by rw [hc, hn]; exact h.current_le
  starter k ph hk := by rw [hc, hn]; exact h.starter k ph (hst ▸ hk)
  opened ho := absurd (.inr ho) hdead

lemma Inv.processDied {i : ℕ} (h : Inv s) (hlate : ¬ LateDeath s (.processDied i))
    (hs : s.processDied i = some t) : Inv t := by
  unfold Service.processDied at hs
  split_ifs at hs with hi
  cases hs
  refine h.of_not_live ?_ (by simp +contextual) (by simp) (by simp) (by simp)
  -- what lived was the session that ended
  rintro (hm | ho)
  · simp only [endVpnService_running, endVpnService_current, List.mem_filter,
      decide_eq_true_eq] at hm
    exact hlate ⟨Ne.symm hm.2, .inl hm.1⟩
  · simp only [endVpnService_starter, endVpnService_current] at ho
    by_cases hne : i = s.current
    · exact h.opened ho (hne ▸ hi.1)
    · exact hlate ⟨hne, .inr ho⟩

/-- A statement that installs nothing. -/
lemma Inv.advance {k : ℕ} {ph ph' : Phase} (h : Inv s) (hk : s.starter = some (k, ph))
    (hph : installing ph = false) (hph' : installing ph' = false) :
    Inv { s with starter := some (k, ph') } := by
  have hlive : s.current ∈ s.running ∨ some (k, ph') = some (s.current, .opened) → s.Live := by
    rintro (hl | hl)
    · exact .inl hl
    · rw [(Prod.mk.inj (Option.some.inj hl)).2] at hph'; cases hph'
  refine ⟨fun hl => h.openVPNThread (hlive hl), h.processThread, fun hl => h.stopSelf (hlive hl),
    fun hr => ?_, h.running_le, h.current_le, fun k' ph'' hk' => ?_, fun ho => ?_⟩
  · rcases h.registers hr with h1 | h1
    · rw [hk] at h1
      rw [(Prod.mk.inj (Option.some.inj h1)).2] at hph; cases hph
    · exact .inr h1
  · cases hk'
    have := h.starter k ph hk
    rw [hph] at this
    rw [hph']
    exact this
  · rw [(Prod.mk.inj (Option.some.inj ho)).2] at hph'; cases hph'

lemma Inv.proceed (h : Inv s) (hs : s.proceed = some t) : Inv t := by
  unfold Service.proceed at hs
  split at hs
  case h_1 => cases hs
  case h_2 hk => cases hs; exact h.advance hk rfl rfl
  case h_3 hk => cases hs; exact h.advance hk rfl rfl
  case h_4 hk =>
    cases hs
    have h1 : Inv { s with starter := some (_, .stopped) } := h.advance hk rfl rfl
    exact ⟨h1.1, h1.2, h1.3, h1.4, h1.5, h1.6, h1.7, h1.8⟩
  case h_5 hk =>
    cases hs
    have h1 : Inv { s with starter := some (_, .managed) } := h.advance hk rfl rfl
    exact ⟨h1.1, h1.2, h1.3, h1.4, h1.5, h1.6, h1.7, h1.8⟩
  case h_6 k hk =>
    cases hs
    obtain ⟨hle, hlt⟩ := h.starter k .managed hk
    have hnew : k ∉ s.running := fun hm => absurd (h.running_le k hm) (not_le.mpr hlt)
    exact ⟨fun _ => rfl, fun hm => absurd hm hnew, fun _ => rfl, fun hm => absurd hm hnew,
      fun i hi => (h.running_le i hi).trans (le_of_lt hlt), hle,
      fun k' ph hk' => by cases hk'; exact ⟨hle, rfl⟩, fun _ => hnew⟩
  case h_7 k hk =>
    cases hs
    obtain ⟨hle, rfl⟩ := h.starter k .opened hk
    refine ⟨fun _ => h.openVPNThread (.inr hk), fun _ => rfl, fun _ => h.stopSelf (.inr hk),
      fun _ => .inl rfl, fun i hi => ?_, h.current_le, fun k' ph hk' => ?_, fun ho => by cases ho⟩
    · rcases List.mem_cons.mp hi with rfl | hi
      · exact le_refl _
      · exact h.running_le i hi
    · cases hk'; exact ⟨hle, rfl⟩
  case h_8 k hk =>
    cases hs
    obtain ⟨hle, rfl⟩ := h.starter k .installed hk
    have hlive : s.current ∈ s.running ∨ none = some (s.current, Phase.opened) → s.Live := by
      rintro (hl | hl)
      · exact .inl hl
      · cases hl
    exact ⟨fun hl => h.openVPNThread (hlive hl), h.processThread, fun hl => h.stopSelf (hlive hl),
      fun _ => .inr (.inl (by simp)), h.running_le, h.current_le, fun k' ph hk' => (by cases hk'),
      fun ho => by cases ho⟩

lemma Inv.step {e : Event} (h : Inv s) (hlate : ¬ LateDeath s e) (hs : s.step e = some t) :
    Inv t := by
  cases e with
  | startOpenVPN => exact h.startOpenVPN hs
  | proceed => exact h.proceed hs
  | mainLooper => exact h.mainLooper hs
  | processDied i => exact h.processDied hlate hs

lemma not_intact_of_lateDeath {e : Event} (hlate : LateDeath s e) (hs : s.step e = some t) :
    ¬ Intact t := by
  cases e with
  | processDied i =>
    intro h
    obtain ⟨hne, hl⟩ := hlate
    simp only [Service.step, Service.processDied] at hs
    split_ifs at hs
    cases hs
    have hl' : Live { s with running := s.running.filter (· ≠ i) }.endVpnService := by
      rcases hl with hl | hl
      · exact .inl (by simpa using ⟨hl, Ne.symm hne⟩)
      · exact .inr (by simpa using hl)
    have := h.openVPNThread hl'
    simp at this
  | _ => exact absurd hlate not_false

end Service

end BuludTechVPN.Sessions
