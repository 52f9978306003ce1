import BuludTechVPN.JavaLang
import BuludTechVPN.Runs
import Mathlib.Data.List.Count

/-!
The listeners of `VpnStatus` that `OpenVPNService` registers: itself at every start command, and
a new `DeviceStateReceiver` for every connection.

Listeners are compared as objects. Other parts of the program register and leave at any time.
-/

namespace BuludTechVPN.ByteCountListeners

open JavaLang Runs

inductive Listener
  | openVPNService
  | deviceStateReceiver (id : ℕ)
  | other (id : ℕ)
  deriving DecidableEq, Repr

/-- The actions that the service knows. -/
inductive Action
  | disconnectVpn
  | pauseVpn
  | resumeVpn
  | startService
  | startServiceSticky
  deriving DecidableEq, Repr

structure Intent where
  action : Option Action
  alwaysShowNotification : Bool
  profileUUID : Option Text
  deriving DecidableEq, Repr

/-- What the settings and the `ProfileManager` answer. A profile stands for its UUID. -/
structure Answers where
  showClosingConfirmDialog : Bool
  get : Text → Option Text
  lastConnectedProfile : Option Text
  alwaysOnVPN : Option Text

/-- What a start command goes on to do. -/
inductive Reply
  | stopVPN
  | confirmDisconnect
  | userPause (shouldBePaused : Bool)
  | nothing
  | redeliverIntent
  | stopSelf
  | startOpenVPN (profile : Text)
  deriving DecidableEq, Repr

/-- The lists of `VpnStatus`, and what the service keeps. -/
structure Service where
  stateListener : List Listener
  byteCountListener : List Listener
  mDeviceStateReceiver : Option ℕ
  /-- The next receiver is a new object. -/
  receivers : ℕ
  mNotificationAlwaysVisible : Bool
  mStarting : Bool
  deriving DecidableEq, Repr

/-! ### `VpnStatus` -/

namespace Service

def addByteCountListener (s : Service) (bcl : Listener) : Service :=
  { s with byteCountListener := s.byteCountListener ++ [bcl] }

def removeByteCountListener (s : Service) (bcl : Listener) : Service :=
  { s with byteCountListener := s.byteCountListener.erase bcl }

def addStateListener (s : Service) (sl : Listener) : Service :=
  if sl ∈ s.stateListener then s else { s with stateListener := s.stateListener ++ [sl] }

def removeStateListener (s : Service) (sl : Listener) : Service :=
  { s with stateListener := s.stateListener.erase sl }

/-- The listeners that `updateByteCount` calls, one after the other. -/
def updateByteCount (s : Service) : List Listener := s.byteCountListener

/-! ### `OpenVPNService` -/

def registerDeviceStateReceiver (s : Service) : Service :=
  { s with
    mDeviceStateReceiver := some s.receivers, receivers := s.receivers + 1 }.addByteCountListener
      (.deviceStateReceiver s.receivers)

def unregisterDeviceStateReceiver (s : Service) : Service :=
  match s.mDeviceStateReceiver with
  | none => s
  | some id =>
    { s.removeByteCountListener (.deviceStateReceiver id) with mDeviceStateReceiver := none }

/-- What `startOpenVPN` posts to the main thread. -/
def replaceReceiver (s : Service) : Service :=
  s.unregisterDeviceStateReceiver.registerDeviceStateReceiver

def reply (s : Service) (a : Answers) (intent : Option Intent) : Call Reply :=
  match intent.bind Intent.action with
  | some .disconnectVpn => .ok (if a.showClosingConfirmDialog then .confirmDisconnect else .stopVPN)
  | some .pauseVpn => .ok (if s.mDeviceStateReceiver.isSome then .userPause true else .nothing)
  | some .resumeVpn => .ok (if s.mDeviceStateReceiver.isSome then .userPause false else .nothing)
  | some .startService => .ok .nothing
  | some .startServiceSticky => .ok .redeliverIntent
  | none =>
    match intent.bind Intent.profileUUID with
    | some profileUUID => .startOpenVPN <$> nonNull (a.get profileUUID)
    | none =>
      match a.lastConnectedProfile.or a.alwaysOnVPN with
      | none => .ok .stopSelf
      | some profile => .ok (.startOpenVPN profile)

/-- `onStartCommand`: the service is registered before the intent is looked at. -/
def onStartCommand (s : Service) (a : Answers) (intent : Option Intent) : Service × Call Reply :=
  let s := { s with
    mNotificationAlwaysVisible :=
      s.mNotificationAlwaysVisible || intent.any Intent.alwaysShowNotification }
  let s := (s.addStateListener .openVPNService).addByteCountListener .openVPNService
  (s, s.reply a intent)

def endVpnService (s : Service) : Service :=
  let s := (s.removeByteCountListener .openVPNService).unregisterDeviceStateReceiver
  if s.mStarting = false ∧ s.mNotificationAlwaysVisible = false then
    s.removeStateListener .openVPNService
  else s

end Service

/-! ### Runs -/

inductive Event
  | startCommand (a : Answers) (intent : Option Intent)
  | endVpnService
  | updateByteCount
  /-- What `startOpenVPN` does in its thread and posts to the main one. -/
  | mStarting (starting : Bool)
  | replaceReceiver
  /-- What other parts of the program do. -/
  | addOther (id : ℕ)
  | removeOther (id : ℕ)

def Event.isStart : Event → Bool
  | startCommand _ _ => true
  | _ => false

def Event.isEnd : Event → Bool
  | endVpnService => true
  | _ => false

def Service.step (s : Service) : Event → Service
  | .startCommand a intent => (s.onStartCommand a intent).1
  | .endVpnService => s.endVpnService
  | .updateByteCount => s
  | .mStarting starting => { s with mStarting := starting }
  | .replaceReceiver => s.replaceReceiver
  | .addOther id => s.addByteCountListener (.other id)
  | .removeOther id => s.removeByteCountListener (.other id)

/-- The service, and whether its session has ended since the last start command. -/
structure History where
  service : Service
  ended : Bool

def History.next (h : History) (e : Event) : History where
  service := h.service.step e
  ended := e.isEnd || (h.ended && !e.isStart)

/-- The service is registered for byte counts at most once, and not after its session. -/
def RegisteredOnce (h : History) : Prop :=
  h.service.updateByteCount.count .openVPNService ≤ 1 ∧
    (h.ended = true → .openVPNService ∉ h.service.updateByteCount)

/-- The session ends before the next start command. -/
def EndsFirst (events : List Event) : Prop :=
  ∀ mid e post, events = mid ++ e :: post → e.isStart = true → ∃ f ∈ mid, f.isEnd = true

/-- Between two start commands the session ends. -/
def EndsBetween (events : List Event) : Prop :=
  ∀ pre e post, events = pre ++ e :: post → e.isStart = true → EndsFirst post

/-! ### What a step does to the registrations -/

variable {s : Service} {e : Event} {h : History} {events : List Event}

lemma count_unregister :
    s.unregisterDeviceStateReceiver.byteCountListener.count .openVPNService =
      s.byteCountListener.count .openVPNService := by
  unfold Service.unregisterDeviceStateReceiver
  cases s.mDeviceStateReceiver with
  | none => rfl
  | some id => exact List.count_erase_of_ne (by simp)

lemma count_register :
    s.registerDeviceStateReceiver.byteCountListener.count .openVPNService =
      s.byteCountListener.count .openVPNService := by
  simp [Service.registerDeviceStateReceiver, Service.addByteCountListener]

lemma byteCountListener_addStateListener (sl : Listener) :
    (s.addStateListener sl).byteCountListener = s.byteCountListener := by
  unfold Service.addStateListener
  split_ifs <;> rfl

/-- A start command adds a registration, the end of a session removes one, and nothing else
changes their number. -/
lemma count_step : (s.step e).byteCountListener.count .openVPNService =
    if e.isStart then s.byteCountListener.count .openVPNService + 1
    else if e.isEnd then s.byteCountListener.count .openVPNService - 1
    else s.byteCountListener.count .openVPNService := by
  cases e with
  | startCommand a intent =>
    simp [Service.step, Service.onStartCommand, Service.addByteCountListener,
      byteCountListener_addStateListener, Event.isStart]
  | endVpnService =>
    have herase : (s.removeByteCountListener .openVPNService).byteCountListener.count
        .openVPNService = s.byteCountListener.count .openVPNService - 1 :=
      List.count_erase_self
    have hcount := (count_unregister (s := s.removeByteCountListener .openVPNService)).trans herase
    simp only [Service.step, Service.endVpnService, Event.isStart, Event.isEnd, if_true,
      Bool.false_eq_true, if_false]
    split_ifs
    · exact hcount
    · exact hcount
  | updateByteCount => rfl
  | mStarting starting => rfl
  | replaceReceiver =>
    simp [Service.step, Service.replaceReceiver, count_register, count_unregister, Event.isStart,
      Event.isEnd]
  | addOther id =>
    simp [Service.step, Service.addByteCountListener, Event.isStart, Event.isEnd]
  | removeOther id => exact List.count_erase_of_ne (by simp)

/-- The bad steps: a start command while the service is registered. -/
def StartsAgain (h : History) (e : Event) : Prop :=
  e.isStart = true ∧ .openVPNService ∈ h.service.byteCountListener

lemma registeredOnce_next (hone : RegisteredOnce h) (hnot : ¬ StartsAgain h e) :
    RegisteredOnce (h.next e) := by
  obtain ⟨hcount, hended⟩ := hone
  unfold RegisteredOnce Service.updateByteCount at *
  simp only [History.next, ← List.count_eq_zero, count_step] at hended ⊢
  cases hs : e.isStart with
  | true =>
    have hzero : h.service.byteCountListener.count .openVPNService = 0 :=
      List.count_eq_zero.2 fun hmem => hnot ⟨hs, hmem⟩
    have hend : e.isEnd = false := by cases e <;> simp_all [Event.isStart, Event.isEnd]
    simp [hzero, hend]
  | false =>
    cases e.isEnd with
    | true =>
      simp only [Bool.false_eq_true, if_false, if_true]
      omega
    | false => simpa using ⟨hcount, hended⟩

lemma not_registeredOnce_next (hbad : StartsAgain h e) : ¬ RegisteredOnce (h.next e) := by
  obtain ⟨hs, hmem⟩ := hbad
  rintro ⟨hcount, -⟩
  have hpos := List.count_pos_iff.2 hmem
  simp only [History.next, Service.updateByteCount, count_step, hs, if_true] at hcount
  omega

/-! ### Between start commands -/

lemma endsFirst_cons :
    EndsFirst (e :: events) ↔ e.isEnd = true ∨ (e.isStart = false ∧ EndsFirst events) := by
  constructor
  · intro h
    by_cases hend : e.isEnd = true
    · exact .inl hend
    · have hstart : e.isStart = false := by
        by_contra hs
        obtain ⟨f, hf, -⟩ := h [] e events rfl (by simpa using hs)
        cases hf
      refine .inr ⟨hstart, fun mid f post heq hf => ?_⟩
      obtain ⟨g, hg, hgend⟩ := h (e :: mid) f post (by rw [heq, List.cons_append]) hf
      rcases List.mem_cons.1 hg with rfl | hg
      · exact absurd hgend hend
      · exact ⟨g, hg, hgend⟩
  · intro h mid f post heq hf
    cases mid with
    | nil =>
      obtain ⟨rfl, -⟩ := List.cons.inj heq
      rcases h with hend | ⟨hstart, -⟩
      · cases e <;> simp_all [Event.isStart, Event.isEnd]
      · rw [hf] at hstart
        cases hstart
    | cons d mid =>
      obtain ⟨rfl, htail⟩ := List.cons.inj heq
      rcases h with hend | ⟨-, h⟩
      · exact ⟨e, List.mem_cons_self, hend⟩
      · obtain ⟨g, hg, hgend⟩ := h mid f post htail hf
        exact ⟨g, List.mem_cons_of_mem e hg, hgend⟩

lemma endsBetween_cons :
    EndsBetween (e :: events) ↔ (e.isStart = true → EndsFirst events) ∧ EndsBetween events := by
  constructor
  · intro h
    exact ⟨h [] e events rfl, fun pre f post heq => h (e :: pre) f post (by rw [heq]; rfl)⟩
  · rintro ⟨hfirst, h⟩ pre f post heq
    cases pre with
    | nil =>
      obtain ⟨rfl, rfl⟩ := List.cons.inj heq
      exact hfirst
    | cons g pre => exact h pre f post (List.cons.inj heq).2

lemma avoids_iff (hone : RegisteredOnce h) :
    Avoids (fun h e => some (History.next h e)) StartsAgain h events ↔ EndsBetween events ∧
      (.openVPNService ∈ h.service.byteCountListener → EndsFirst events) := by
  induction events generalizing h with
  | nil => simp [Avoids, EndsBetween, EndsFirst]
  | cons e events ih =>
    simp only [Avoids, Option.some.injEq, forall_eq', endsBetween_cons, endsFirst_cons]
    by_cases hbad : StartsAgain h e
    · have hend : e.isEnd = false := by
        have := hbad.1
        cases e <;> simp_all [Event.isStart, Event.isEnd]
      simp [hbad, hbad.1, hbad.2, hend]
    · have hnext := registeredOnce_next hone hbad
      rw [ih hnext, ← List.count_pos_iff, ← List.count_pos_iff, History.next, count_step]
      have hle : h.service.byteCountListener.count .openVPNService ≤ 1 := hone.1
      cases hs : e.isStart with
      | true =>
        have hzero : h.service.byteCountListener.count .openVPNService = 0 :=
          List.count_eq_zero.2 fun hmem => hbad ⟨hs, hmem⟩
        simp [hbad, hzero, and_comm]
      | false =>
        cases e.isEnd with
        | true => simp [hbad]; omega
        | false => simp [hbad]

/-- **The service is registered at most once** all along a run exactly if the session ends
between any two start commands of it. -/
theorem registeredOnce_iff (hs : .openVPNService ∉ s.byteCountListener) (events : List Event) :
    Along (fun h e => some (History.next h e)) RegisteredOnce ⟨s, false⟩ events ↔
      EndsBetween events := by
  have hone : RegisteredOnce ⟨s, false⟩ :=
    ⟨by simp [Service.updateByteCount, List.count_eq_zero.2 hs], by simp⟩
  have hexact : Along (fun h e => some (History.next h e)) RegisteredOnce ⟨s, false⟩ events ↔
      Avoids (fun h e => some (History.next h e)) StartsAgain ⟨s, false⟩ events :=
    along_iff_avoids (I := RegisteredOnce) (fun _ h => h)
      (fun h e t hone hnot ht => Option.some.inj ht ▸ registeredOnce_next hone hnot)
      (fun h e t _ hbad ht => Option.some.inj ht ▸ not_registeredOnce_next hbad) hone events
  rw [hexact, avoids_iff hone]
  exact and_iff_left fun hmem => absurd hmem hs

/-- The service before it was first started. -/
def created : Service where
  stateListener := []
  byteCountListener := []
  mDeviceStateReceiver := none
  receivers := 0
  mNotificationAlwaysVisible := false
  mStarting := false

/-- A profile is at hand. -/
def someProfile : Answers where
  showClosingConfirmDialog := false
  get profileUUID := some profileUUID
  lastConnectedProfile := none
  alwaysOnVPN := none

def connect : Event := .startCommand someProfile (some ⟨none, false, some ['p']⟩)
def pause : Event := .startCommand someProfile (some ⟨some .pauseVpn, false, none⟩)

/-- One session, in which counts are updated. -/
theorem registeredOnce_session :
    Along (fun h e => some (History.next h e)) RegisteredOnce ⟨created, false⟩
        [connect, .replaceReceiver, .updateByteCount, .endVpnService] ↔
      EndsBetween [connect, .replaceReceiver, .updateByteCount, .endVpnService] :=
  registeredOnce_iff (s := created) List.not_mem_nil _

/-- A pause registers the service again, and the end of the session leaves it registered. -/
theorem not_registeredOnce :
    ¬ ∀ events, Along (fun h e => some (History.next h e)) RegisteredOnce ⟨created, false⟩
      events := by
  intro h
  obtain ⟨-, h1⟩ := h [connect, pause, .endVpnService]
  obtain ⟨-, h2⟩ := h1 _ rfl
  obtain ⟨⟨hcount, -⟩, -⟩ := h2 _ rfl
  exact absurd hcount (by decide)

/-! ### The listeners for states -/

lemma count_addStateListener (h : s.stateListener.count .openVPNService ≤ 1) (sl : Listener) :
    (s.addStateListener sl).stateListener.count .openVPNService ≤ 1 := by
  unfold Service.addStateListener
  split_ifs with hmem
  · exact h
  · by_cases hsl : sl = .openVPNService
    · have hzero := List.count_eq_zero.2 (hsl ▸ hmem)
      simp [hsl, hzero]
    · simpa [hsl] using h

lemma stateListener_unregister :
    s.unregisterDeviceStateReceiver.stateListener = s.stateListener := by
  unfold Service.unregisterDeviceStateReceiver
  cases s.mDeviceStateReceiver <;> rfl

lemma stateListener_step (h : s.stateListener.count .openVPNService ≤ 1) :
    (s.step e).stateListener.count .openVPNService ≤ 1 := by
  cases e with
  | startCommand a intent =>
    exact count_addStateListener (s := { s with mNotificationAlwaysVisible :=
      s.mNotificationAlwaysVisible || intent.any Intent.alwaysShowNotification }) h _
  | endVpnService =>
    have hsame := stateListener_unregister (s := s.removeByteCountListener .openVPNService)
    simp only [Service.step, Service.endVpnService]
    split_ifs
    · refine (List.erase_sublist.count_le _).trans ?_
      rw [hsame]
      exact h
    · rw [hsame]
      exact h
  | updateByteCount => exact h
  | mStarting starting => exact h
  | replaceReceiver =>
    show s.unregisterDeviceStateReceiver.stateListener.count .openVPNService ≤ 1
    rw [stateListener_unregister]
    exact h
  | addOther id => exact h
  | removeOther id => exact h

/-- **For states the service is registered at most once** in every run, since that list is searched
before it is added to. -/
theorem stateListener_once (h : s.stateListener.count .openVPNService ≤ 1) (events : List Event) :
    (events.foldl Service.step s).stateListener.count .openVPNService ≤ 1 := by
  induction events generalizing s with
  | nil => exact h
  | cons e events ih => exact ih (stateListener_step h)

end BuludTechVPN.ByteCountListeners
