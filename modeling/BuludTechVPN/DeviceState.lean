import BuludTechVPN.JavaLang
import Mathlib.Logic.Relation

/-!
`DeviceStateReceiver` and the part of `OpenVpnManagementThread` that holds and releases an
OpenVPN process, as one system.

The handlers run one at a time. What the receiver asks of the management thread and what the
thread writes to the management socket is recorded together with the state it was done in.
-/

namespace BuludTechVPN.DeviceState

open JavaLang

/-! ### The two parties -/

inductive ConnectState
  | shouldBeConnected
  | pendingDisconnect
  | disconnected
  deriving DecidableEq, Repr

inductive PauseReason
  | noNetwork
  | userPause
  | screenOff
  deriving DecidableEq, Repr

/-- What the receiver reads of an `android.net.NetworkInfo`. -/
structure NetworkInfo where
  type : ℤ
  extraInfo : Option Text
  connected : Bool
  deriving DecidableEq, Repr

structure Datapoint where
  timestamp : ℤ
  data : ℤ
  deriving DecidableEq, Repr

/-- `mDisconnectHandler` counts the delayed disconnects that are pending. -/
structure DeviceStateReceiver where
  lastNetwork : ℤ
  network : ConnectState
  screen : ConnectState
  userpause : ConnectState
  lastConnectedNetwork : Option NetworkInfo
  trafficdata : List Datapoint
  mDisconnectHandler : ℕ
  deriving DecidableEq, Repr

/-- `mResumeHandler` counts the delayed resumes that are pending, `mSocket` says whether the
process has connected and `mPauseCallback` whether a receiver is installed. -/
structure ManagementThread where
  mSocket : Bool
  mWaitingForRelease : Bool
  mLastHoldRelease : ℤ
  lastPauseReason : PauseReason
  mPauseCallback : Bool
  mResumeHandler : ℕ
  deriving DecidableEq, Repr

inductive Request
  | pause (reason : PauseReason)
  | resume
  | networkChange (sameNetwork : Bool)
  deriving DecidableEq, Repr

namespace DeviceStateReceiver

/-- `new DeviceStateReceiver(..)`. -/
def new : DeviceStateReceiver where
  lastNetwork := -1
  network := .disconnected
  screen := .shouldBeConnected
  userpause := .shouldBeConnected
  lastConnectedNetwork := none
  trafficdata := []
  mDisconnectHandler := 0

def trafficWindow : ℤ := 60
def trafficLimit : ℤ := 64 * 1024

def shouldBeConnected (r : DeviceStateReceiver) : Bool :=
  r.screen = .shouldBeConnected ∧ r.userpause = .shouldBeConnected ∧ r.network = .shouldBeConnected

def getPauseReason (r : DeviceStateReceiver) : PauseReason :=
  if r.userpause = .disconnected then .userPause
  else if r.screen = .disconnected then .screenOff
  else if r.network = .disconnected then .noNetwork
  else .userPause

def fillTrafficData (now : ℤ) (r : DeviceStateReceiver) : DeviceStateReceiver :=
  { r with trafficdata := r.trafficdata ++ [⟨now, trafficLimit⟩] }

/-- A disconnect that the screen has pending is carried out. -/
def settleScreen (r : DeviceStateReceiver) : DeviceStateReceiver :=
  { r with screen := if r.screen = .pendingDisconnect then .disconnected else r.screen }

/-- The network the device reports is the one it was last connected to. -/
def sameNetwork (r : DeviceStateReceiver) (networkInfo : NetworkInfo) : Bool :=
  match r.lastConnectedNetwork with
  | none => false
  | some last => last.type = networkInfo.type ∧ last.extraInfo = networkInfo.extraInfo

end DeviceStateReceiver

/-- `new OpenVpnManagementThread(..)`. -/
def ManagementThread.new : ManagementThread where
  mSocket := false
  mWaitingForRelease := false
  mLastHoldRelease := 0
  lastPauseReason := .noNetwork
  mPauseCallback := false
  mResumeHandler := 0

/-- A command on the management socket, and whether the VPN should have been running then. -/
structure Write where
  command : Text
  shouldBeRunning : Bool
  receiver : DeviceStateReceiver
  deriving DecidableEq

/-- A request of the receiver, and the receiver that made it. -/
structure Issue where
  request : Request
  receiver : DeviceStateReceiver
  deriving DecidableEq

structure Phone where
  receiver : DeviceStateReceiver
  thread : ManagementThread
  written : List Write
  issued : List Issue
  deriving DecidableEq

namespace Phone

/-! ### The management thread -/

def shouldBeRunning (p : Phone) : Bool := p.thread.mPauseCallback && p.receiver.shouldBeConnected

/-- `managmentCommand`: nothing is written before the process has connected. -/
def managmentCommand (cmd : Text) (p : Phone) : Phone :=
  if p.thread.mSocket then
    { p with written := p.written ++ [⟨cmd, p.shouldBeRunning, p.receiver⟩] }
  else p

def holdRelease : Text := "hold release\n".toList
def bytecount : Text := "bytecount 2\n".toList
def stateOn : Text := "state on\n".toList
def signalSigusr1 : Text := "signal SIGUSR1\n".toList
def networkChangeCmd : Text := "network-change\n".toList

/-- `releaseHoldCmd`: a release within 5 s of the last one sleeps for 3 s first. -/
def releaseHoldCmd (now : ℤ) (p : Phone) : Phone :=
  let released := if now - p.thread.mLastHoldRelease < 5000 then now + 3000 else now
  let p : Phone := { p with thread := { p.thread with
    mResumeHandler := 0, mWaitingForRelease := false, mLastHoldRelease := released } }
  ((p.managmentCommand holdRelease).managmentCommand bytecount).managmentCommand stateOn

def releaseHold (now : ℤ) (p : Phone) : Phone :=
  if p.thread.mWaitingForRelease then p.releaseHoldCmd now else p

/-- `handleHold`, with the waiting time of the `>HOLD` line; it delays the release only. -/
def handleHold (_waittime : ℤ) (p : Phone) : Phone :=
  let p : Phone := { p with thread := { p.thread with mWaitingForRelease := true } }
  if p.shouldBeRunning then
    { p with thread := { p.thread with mResumeHandler := p.thread.mResumeHandler + 1 } }
  else p

/-- `mResumeHoldRunnable` runs. -/
def resumeHold (now : ℤ) (p : Phone) : Phone :=
  let p : Phone := { p with thread := { p.thread with mResumeHandler := p.thread.mResumeHandler - 1 } }
  if p.shouldBeRunning then p.releaseHoldCmd now else p

def signalusr1 (p : Phone) : Phone :=
  let p : Phone := { p with thread := { p.thread with mResumeHandler := 0 } }
  if p.thread.mWaitingForRelease then p else p.managmentCommand signalSigusr1

/-- The receiver makes a request. -/
def issue (request : Request) (p : Phone) : Phone :=
  { p with issued := p.issued ++ [⟨request, p.receiver⟩] }

/-- `OpenVpnManagementThread.pause`, requested by the receiver. -/
def pause (reason : PauseReason) (p : Phone) : Phone :=
  let p := p.issue (.pause reason)
  let p : Phone := { p with thread := { p.thread with lastPauseReason := reason } }
  p.signalusr1

/-- `OpenVpnManagementThread.resume`, requested by the receiver. -/
def resume (now : ℤ) (p : Phone) : Phone :=
  let p := (p.issue .resume).releaseHold now
  { p with thread := { p.thread with lastPauseReason := .noNetwork } }

/-- `OpenVpnManagementThread.networkChange`, requested by the receiver. -/
def networkChange (now : ℤ) (samenetwork : Bool) (p : Phone) : Phone :=
  let p := p.issue (.networkChange samenetwork)
  if p.thread.mWaitingForRelease then p.releaseHold now else p.managmentCommand networkChangeCmd

/-! ### The receiver -/

/-- `mDelayDisconnectRunnable` runs. -/
def delayDisconnect (p : Phone) : Phone :=
  let p : Phone := { p with receiver := { p.receiver with
    mDisconnectHandler := p.receiver.mDisconnectHandler - 1 } }
  if p.receiver.network = .pendingDisconnect then
    let r : DeviceStateReceiver := { p.receiver with network := .disconnected }
    let p : Phone := { p with receiver := r.settleScreen }
    p.pause p.receiver.getPauseReason
  else p

def updateByteCount (now diffIn diffOut : ℤ) (p : Phone) : Phone :=
  if p.receiver.screen ≠ .pendingDisconnect then p
  else
    let added : List Datapoint := p.receiver.trafficdata ++ [⟨now, diffIn + diffOut⟩]
    let trafficdata := added.dropWhile fun dp =>
      dp.timestamp ≤ now - DeviceStateReceiver.trafficWindow * 1000
    let windowtraffic := (trafficdata.map Datapoint.data).sum
    let p : Phone := { p with receiver := { p.receiver with trafficdata := trafficdata } }
    if windowtraffic < DeviceStateReceiver.trafficLimit then
      let p : Phone := { p with receiver := { p.receiver with screen := .disconnected } }
      p.pause p.receiver.getPauseReason
    else p

def userPause (now : ℤ) (pause : Bool) (p : Phone) : Phone :=
  if pause then
    let p : Phone := { p with receiver := { p.receiver with userpause := .disconnected } }
    p.pause p.receiver.getPauseReason
  else
    let wereConnected := p.receiver.shouldBeConnected
    let p : Phone := { p with receiver := { p.receiver with userpause := .shouldBeConnected } }
    if p.receiver.shouldBeConnected && !wereConnected then p.resume now
    else p.pause p.receiver.getPauseReason

/-- `onReceive` of `ACTION_SCREEN_OFF`. -/
def screenOff (now : ℤ) (screenOffPause : Bool) (p : Phone) : Phone :=
  if screenOffPause then
    let r : DeviceStateReceiver := { p.receiver with screen := .pendingDisconnect }
    let r := r.fillTrafficData now
    { p with receiver :=
      if r.network = .disconnected ∨ r.userpause = .disconnected then
        { r with screen := .disconnected }
      else r }
  else p

/-- `onReceive` of `ACTION_SCREEN_ON`. -/
def screenOn (now : ℤ) (p : Phone) : Phone :=
  let connected := p.receiver.shouldBeConnected
  let p : Phone := { p with receiver := { p.receiver with
    screen := .shouldBeConnected, mDisconnectHandler := 0 } }
  if p.receiver.shouldBeConnected ≠ connected then p.resume now
  else if !p.receiver.shouldBeConnected then p.pause p.receiver.getPauseReason
  else p

/-- `networkStateChange`, with the active network of the device and the preference
`netchangereconnect`. -/
def networkStateChange (now : ℤ) (networkInfo : Option NetworkInfo) (sendusr1 : Bool)
    (p : Phone) : Phone :=
  match networkInfo with
  | some info =>
    if info.connected then
      let pendingDisconnect : Bool := p.receiver.network = .pendingDisconnect
      let sameNetwork := p.receiver.sameNetwork info
      let p : Phone := { p with receiver := { p.receiver with network := .shouldBeConnected } }
      if pendingDisconnect && sameNetwork then
        -- same network, the connection still stands
        let p : Phone := { p with receiver := { p.receiver with mDisconnectHandler := 0 } }
        p.networkChange now true
      else
        -- another network, or the connection is no longer established
        let p : Phone := { p with receiver := p.receiver.settleScreen }
        let p :=
          if p.receiver.shouldBeConnected then
            let p : Phone := { p with receiver := { p.receiver with mDisconnectHandler := 0 } }
            if pendingDisconnect || !sameNetwork then p.networkChange now sameNetwork
            else p.resume now
          else p
        { p with receiver := { p.receiver with
          lastNetwork := info.type, lastConnectedNetwork := some info } }
    else p
  | none =>
    let p : Phone := { p with receiver := { p.receiver with lastNetwork := -1 } }
    if sendusr1 then
      { p with receiver := { p.receiver with
        network := .pendingDisconnect
        mDisconnectHandler := p.receiver.mDisconnectHandler + 1 } }
    else p

end Phone

/-! ### The system -/

inductive Event
  | accept
  | register (networkInfo : Option NetworkInfo) (sendusr1 : Bool)
  | hold (waittime : ℤ)
  | resumeHold
  | userPause (pause : Bool)
  | screenOff (screenOffPause : Bool)
  | screenOn
  | networkStateChange (networkInfo : Option NetworkInfo) (sendusr1 : Bool)
  | delayDisconnect
  | updateByteCount (diffIn diffOut : ℤ)
  deriving DecidableEq, Repr

/-- The process connects once, the receiver is installed once, and a delayed callback runs only
while it is pending. -/
def Enabled (p : Phone) : Event → Prop
  | .accept => p.thread.mSocket = false
  | .register _ _ => p.thread.mPauseCallback = false
  | .hold _ => p.thread.mSocket = true
  | .resumeHold => 0 < p.thread.mResumeHandler
  | .delayDisconnect => p.thread.mPauseCallback = true ∧ 0 < p.receiver.mDisconnectHandler
  | _ => p.thread.mPauseCallback = true

/-- What the system does at the time `now` on an event. -/
def handle (now : ℤ) (p : Phone) : Event → Phone
  | .accept => { p with thread := { p.thread with mSocket := true } }
  | .register networkInfo sendusr1 =>
    let p : Phone :=
      { p with receiver := .new, thread := { p.thread with mPauseCallback := true } }
    p.networkStateChange now networkInfo sendusr1
  | .hold waittime => p.handleHold waittime
  | .resumeHold => p.resumeHold now
  | .userPause pause => p.userPause now pause
  | .screenOff screenOffPause => p.screenOff now screenOffPause
  | .screenOn => p.screenOn now
  | .networkStateChange networkInfo sendusr1 => p.networkStateChange now networkInfo sendusr1
  | .delayDisconnect => p.delayDisconnect
  | .updateByteCount diffIn diffOut => p.updateByteCount now diffIn diffOut

/-- A step of the system on an event that meets `C`. -/
inductive Step (C : Phone → Event → Prop) : Phone → Phone → Prop
  | mk {p : Phone} {e : Event} (now : ℤ) (he : Enabled p e) (hc : C p e) : Step C p (handle now p e)

def Phone.start : Phone := ⟨.new, .new, [], []⟩

/-- `p` is reached from the start by steps that all meet `C`. -/
def Reaches (C : Phone → Event → Prop) (p : Phone) : Prop :=
  Relation.ReflTransGen (Step C) .start p

/-! ### Running the system -/

instance (p : Phone) (e : Event) : Decidable (Enabled p e) := by
  cases e <;> unfold Enabled <;> infer_instance

def run (p : Phone) : List (ℤ × Event) → Phone
  | [] => p
  | (now, e) :: es => run (handle now p e) es

/-- Each of the events is enabled in its turn and meets `C`. -/
def Allowed (C : Phone → Event → Prop) (p : Phone) : List (ℤ × Event) → Prop
  | [] => True
  | (now, e) :: es => Enabled p e ∧ C p e ∧ Allowed C (handle now p e) es

lemma reaches_run {C : Phone → Event → Prop} {p : Phone} (hp : Reaches C p) :
    ∀ es, Allowed C p es → Reaches C (run p es)
  | [], _ => hp
  | (now, _) :: es, h => reaches_run (hp.tail ⟨now, h.1, h.2.1⟩) es h.2.2

/-- The system as a partial step: an event that is not enabled does not happen. -/
def step (p : Phone) : ℤ × Event → Option Phone
  | (now, e) => if Enabled p e then some (handle now p e) else none

lemma step_eq_some {p q : Phone} {now : ℤ} {e : Event} :
    step p (now, e) = some q ↔ Enabled p e ∧ handle now p e = q := by
  simp [step]

end BuludTechVPN.DeviceState
