import BuludTechVPN.LogPipe
import BuludTechVPN.VpnStatus
import Mathlib.Logic.Function.Basic
import Mathlib.Logic.Relation

/-!
`OpenVPNStatusService` and the `StatusListener`s of other processes: how the state of the VPN process
comes to the processes that show it.

The service is told of every change, posts it to its handler, and the handler passes it on to the
callbacks that are registered, by calls that do not wait. `registerStatusCallback` runs in a thread
of its own, statement by statement. Processes die and come back at any time.
-/

namespace BuludTechVPN.Status

open JavaLang LogCache LogPipe Relation

/-- The process of the VPN, with the status service. -/
structure Server where
  status : VpnStatus
  /-- The service is there: `onCreate` has run. -/
  created : Bool
  mLastUpdateMessage : Option UpdateMessage
  /-- What is posted to `mHandler`. -/
  queue : List Message
  mCallbacks : List ℕ
  /-- `mCallbacks.kill()` was called: the list takes no callback any more. -/
  killed : Bool

/-- Where a process is with the connection to the service. -/
inductive ClientPhase
  | idle
  /-- It has the profile that is connected, and the traffic. -/
  | bound
  /-- `registerStatusCallback` has the log. -/
  | copied (logbuffer : List LogItem)
  /-- It has sent the state. -/
  | updated (logbuffer : List LogItem)
  | registered
  deriving DecidableEq

/-- A process that shows the state. -/
structure Client where
  status : VpnStatus
  phase : ClientPhase
  /-- The calls of its callback that are still to come. -/
  calls : List Message
  /-- The items that are still to be read from the pipe. -/
  pipe : List LogItem

structure System where
  server : Server
  client : ℕ → Client

/-- A process that starts, the device being described in its log. -/
def Server.fresh (information : LogItem) : Server :=
  ⟨.fresh information, false, none, [], [], false⟩

def Client.fresh (information : LogItem) : Client := ⟨.fresh information, .idle, [], []⟩

def System.start (information : LogItem) : System :=
  ⟨.fresh information, fun _ => .fresh information⟩

inductive Event
  /-- The VPN process changes its state, logs a line, counts bytes or connects a profile. -/
  | perform (now : ℤ) (m : Message)
  | clearLog (information : LogItem)
  | onCreate (now : ℤ)
  | onDestroy
  | handleMessage
  /-- `getLastConnectedVPN` and `getTrafficHistory` -/
  | bind (i : ℕ)
  | getlogbuffer (i : ℕ)
  | sendUpdate (i : ℕ)
  | register (i : ℕ)
  | readPipe (i : ℕ)
  | callback (now : ℤ) (i : ℕ)
  /-- A process that shows the state dies, and may come back. -/
  | clientDies (i : ℕ) (information : LogItem)
  /-- The process of the VPN dies, and comes back. -/
  | serverDies (information : LogItem)
  deriving DecidableEq

/-- What the listeners are told reaches the service, if it is there. -/
def Server.hear (v : Server) (ms : List Message) : Server :=
  if v.created then
    { v with
      queue := v.queue ++ ms
      mLastUpdateMessage := ms.foldl (fun last m => m.state.or last) v.mLastUpdateMessage }
  else v

/-- What `addByteCountListener` and `addStateListener` tell the service. -/
def Server.greeting (now : ℤ) (v : Server) : List Message :=
  let diff := v.status.trafficHistory.getLastDiff now none
  [.updateByteCount diff.getIn diff.getOut, .updateStateString v.status.last]

def System.setClient (s : System) (i : ℕ) (c : Client) : System :=
  { s with client := Function.update s.client i c }

variable (D : Utf8.Decoder)

def step (s : System) : Event → Option System
  | .perform now m =>
    let done := s.server.status.perform now m
    some { s with server := { s.server with status := done.1 }.hear done.2 }
  | .clearLog information =>
    let done := s.server.status.clearLog information
    some { s with server := { s.server with status := done.1 }.hear done.2 }
  | .onCreate now =>
    if s.server.created then none
    else some { s with server := { s.server with created := true }.hear (s.server.greeting now) }
  | .onDestroy =>
    if s.server.created then
      some { s with server := { s.server with created := false, mCallbacks := [], killed := true } }
    else none
  | .handleMessage =>
    match s.server.queue with
    | [] => none
    | m :: queue => some
      ⟨{ s.server with queue }, fun i =>
        if i ∈ s.server.mCallbacks then
          { s.client i with calls := (s.client i).calls ++ [m] }
        else s.client i⟩
  | .bind i =>
    if s.server.created ∧ (s.client i).phase = .idle then
      some (s.setClient i { s.client i with
        phase := .bound
        status := { (s.client i).status with
          mLastConnectedVPNUUID := s.server.status.mLastConnectedVPNUUID
          trafficHistory := s.server.status.trafficHistory } })
    else none
  | .getlogbuffer i =>
    if (s.client i).phase = .bound then
      some (s.setClient i { s.client i with phase := .copied s.server.status.logbuffer })
    else none
  | .sendUpdate i =>
    match (s.client i).phase with
    | .copied logbuffer => some (s.setClient i { s.client i with
        phase := .updated logbuffer
        calls := (s.client i).calls ++
          (s.server.mLastUpdateMessage.map Message.updateStateString).toList })
    | _ => none
  | .register i =>
    match (s.client i).phase with
    | .updated logbuffer => some
      { s.setClient i { s.client i with
          phase := .registered, pipe := (readLog D (pushLogs logbuffer).1).1 } with
        server := { s.server with
          mCallbacks :=
            if s.server.killed ∨ i ∈ s.server.mCallbacks then s.server.mCallbacks
            else s.server.mCallbacks ++ [i] } }
    | _ => none
  | .readPipe i =>
    match (s.client i).pipe with
    | [] => none
    | li :: pipe => some (s.setClient i { s.client i with
        status := ((s.client i).status.newLogItem li).1, pipe })
  | .callback now i =>
    match (s.client i).calls with
    | [] => none
    | m :: calls => some (s.setClient i { s.client i with
        status := ((s.client i).status.perform now m).1, calls })
  | .clientDies i information => some
    { s.setClient i (.fresh information) with
      server := { s.server with mCallbacks := s.server.mCallbacks.filter (· ≠ i) } }
  | .serverDies information => some
    ⟨.fresh information, fun i => { s.client i with phase := .idle, pipe := [] }⟩

/-- A step by an event that is not a bad one. -/
def StepAvoiding (B : System → Event → Prop) (s t : System) : Prop :=
  ∃ e, ¬ B s e ∧ step D s e = some t

/-- The state after some events, if all of them were possible and none was a bad one. -/
def runEvents (B : System → Event → Prop) [∀ s e, Decidable (B s e)] (s : System) :
    List Event → Option System
  | [] => some s
  | e :: es => if B s e then none else (step D s e).bind fun t => runEvents B t es

variable {D} in
lemma steps_of_runEvents {B : System → Event → Prop} [∀ s e, Decidable (B s e)] {s t : System}
    {es : List Event} (h : runEvents D B s es = some t) : ReflTransGen (StepAvoiding D B) s t := by
  induction es generalizing s with
  | nil =>
    obtain rfl := Option.some.inj h
    exact .refl
  | cons e es ih =>
    rw [runEvents] at h
    split_ifs at h with hB
    obtain ⟨u, hu, h⟩ := Option.bind_eq_some_iff.mp h
    exact .head ⟨e, hB, hu⟩ (ih h)

/-- Everything that was posted has come to the process, and it has read the log. -/
structure Settled (s : System) (i : ℕ) : Prop where
  registered : i ∈ s.server.mCallbacks
  queue : s.server.queue = []
  calls : (s.client i).calls = []
  pipe : (s.client i).pipe = []

instance (s : System) (i : ℕ) : Decidable (Settled s i) :=
  decidable_of_iff (i ∈ s.server.mCallbacks ∧ s.server.queue = [] ∧ (s.client i).calls = [] ∧
    (s.client i).pipe = []) ⟨fun h => ⟨h.1, h.2.1, h.2.2.1, h.2.2.2⟩, fun h => ⟨h.1, h.2, h.3, h.4⟩⟩

end BuludTechVPN.Status
