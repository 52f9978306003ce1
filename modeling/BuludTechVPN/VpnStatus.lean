import BuludTechVPN.LogFileHandler
import BuludTechVPN.ProcessLog
import BuludTechVPN.TrafficHistory

/-!
`VpnStatus`: the state of the connection, the log and the traffic that a process knows of, and
what its listeners are told.
-/

namespace BuludTechVPN.Status

open JavaLang LogCache ProcessLog LogFileHandler Traffic

inductive ConnectionStatus
  | connected
  | vpnPaused
  | connectingServerReplied
  | connectingNoServerReplyYet
  | noNetwork
  | notConnected
  | start
  | authFailed
  | waitingForUserInput
  | unknownLevel
  deriving DecidableEq, Repr

/-- The name of the level. -/
def ConnectionStatus.toText : ConnectionStatus → Text
  | connected => "LEVEL_CONNECTED".toList
  | vpnPaused => "LEVEL_VPNPAUSED".toList
  | connectingServerReplied => "LEVEL_CONNECTING_SERVER_REPLIED".toList
  | connectingNoServerReplyYet => "LEVEL_CONNECTING_NO_SERVER_REPLY_YET".toList
  | noNetwork => "LEVEL_NONETWORK".toList
  | notConnected => "LEVEL_NOTCONNECTED".toList
  | start => "LEVEL_START".toList
  | authFailed => "LEVEL_AUTH_FAILED".toList
  | waitingForUserInput => "LEVEL_WAITING_FOR_USER_INPUT".toList
  | unknownLevel => "UNKNOWN_LEVEL".toList

/-- The resources of `R.string` that a state is shown with. -/
inductive StateString
  | connecting
  | wait
  | auth
  | getConfig
  | assignIp
  | addRoutes
  | connected
  | disconnected
  | reconnecting
  | exiting
  | resolve
  | tcpConnect
  | disconnecting
  | unknownState
  | noprocess
  | nonetwork
  | screenoff
  | userpause
  | authFailed
  | waitconnectretry
  | other (resId : ℤ)
  deriving DecidableEq, Repr

/-- A state, as `updateStateString` is given it. -/
structure UpdateMessage where
  state : Text
  logmessage : Text
  resId : StateString
  level : ConnectionStatus
  deriving DecidableEq, Repr

def getLocalizedState (state : Text) : StateString :=
  if state = "CONNECTING".toList then .connecting
  else if state = "WAIT".toList then .wait
  else if state = "AUTH".toList then .auth
  else if state = "GET_CONFIG".toList then .getConfig
  else if state = "ASSIGN_IP".toList then .assignIp
  else if state = "ADD_ROUTES".toList then .addRoutes
  else if state = "CONNECTED".toList then .connected
  else if state = "DISCONNECTED".toList then .disconnected
  else if state = "RECONNECTING".toList then .reconnecting
  else if state = "EXITING".toList then .exiting
  else if state = "RESOLVE".toList then .resolve
  else if state = "TCP_CONNECT".toList then .tcpConnect
  else if state = "Disconnecting".toList then .disconnecting
  else .unknownState

def getLevel (state : Text) : ConnectionStatus :=
  if state ∈ ["CONNECTING", "WAIT", "RECONNECTING", "RESOLVE", "TCP_CONNECT"].map String.toList then
    .connectingNoServerReplyYet
  else if state ∈ ["AUTH", "GET_CONFIG", "ASSIGN_IP", "ADD_ROUTES"].map String.toList then
    .connectingServerReplied
  else if state = "CONNECTED".toList then .connected
  else if state ∈ ["DISCONNECTED", "EXITING"].map String.toList then .notConnected
  else .unknownLevel

/-- `updateStateString(state, msg)`, as the call that it makes. -/
def localized (state msg : Text) : UpdateMessage :=
  ⟨state, msg, getLocalizedState state, getLevel state⟩

/-- What a listener is told, or `VpnStatus` is asked to do. -/
inductive Message
  | newLogItem (logItem : LogItem)
  | updateStateString (um : UpdateMessage)
  | updateByteCount (inBytes outBytes : ℤ)
  | connectedVPN (uuid : Option Text)
  deriving DecidableEq, Repr

/-- The state that is told of. -/
def Message.state : Message → Option UpdateMessage
  | updateStateString um => some um
  | _ => none

/-- The profile that is told of. -/
def Message.uuid : Message → Option (Option Text)
  | connectedVPN uuid => some uuid
  | _ => none

/-- The line of the log that is told of. -/
def Message.logItem : Message → Option LogItem
  | newLogItem logItem => some logItem
  | _ => none

structure VpnStatus where
  /-- `mLaststate`, `mLaststatemsg`, `mLastStateresid` and `mLastLevel`. -/
  last : UpdateMessage
  mLastConnectedVPNUUID : Option Text
  logbuffer : List LogItem
  trafficHistory : TrafficHistory
  /-- The items that a log listener has been told of. -/
  told : List LogItem
  deriving DecidableEq, Repr

/-- The states that are ignored while the VPN is connected. -/
def isNoise (state : Text) : Prop := state = "WAIT".toList ∨ state = "AUTH".toList

instance (state : Text) : Decidable (isNoise state) := inferInstanceAs (Decidable (_ ∨ _))

/-- A state that is ignored after another. -/
def Ignored (last um : UpdateMessage) : Prop := last.level = .connected ∧ isNoise um.state

instance (last um : UpdateMessage) : Decidable (Ignored last um) :=
  inferInstanceAs (Decidable (_ ∧ _))

/-- `(%s->%s): %s`, of a state. -/
def UpdateMessage.describe (um : UpdateMessage) : Text :=
  '(' :: um.state ++ "->".toList ++ um.level.toText ++ "): ".toList ++ um.logmessage

/-- The end of `newLogItem`. -/
def trimLog (logbuffer : List LogItem) : List LogItem :=
  if MAXLOGENTRIES + MAXLOGENTRIES / 2 < logbuffer.length then
    logbuffer.drop (logbuffer.length - MAXLOGENTRIES)
  else logbuffer

namespace VpnStatus

variable (now : ℤ) (s : VpnStatus)

def newLogItem (logItem : LogItem) : VpnStatus × List Message :=
  ({ s with logbuffer := trimLog (s.logbuffer ++ [logItem]), told := s.told ++ [logItem] },
    [.newLogItem logItem])

def logDebug (msg : Text) : VpnStatus × List Message :=
  s.newLogItem (item (BitVec.ofInt 64 now) .debug (-1) msg)

def updateStateString (um : UpdateMessage) : VpnStatus × List Message :=
  if Ignored s.last um then
    s.logDebug now ("Ignoring OpenVPN Status in CONNECTED state ".toList ++ um.describe)
  else
    let logged := { s with last := um }.logDebug now ("New OpenVPN Status ".toList ++ um.describe)
    (logged.1, .updateStateString um :: logged.2)

def setConnectedVPNProfile (uuid : Option Text) : VpnStatus × List Message :=
  ({ s with mLastConnectedVPNUUID := uuid }, [.connectedVPN uuid])

def updateByteCount (inBytes outBytes : ℤ) : VpnStatus × List Message :=
  ({ s with trafficHistory := (s.trafficHistory.add ⟨inBytes, outBytes, now⟩).1 },
    [.updateByteCount inBytes outBytes])

/-- A call, with what the listeners are told of it. -/
def perform : Message → VpnStatus × List Message
  | .newLogItem logItem => s.newLogItem logItem
  | .updateStateString um => s.updateStateString now um
  | .updateByteCount inBytes outBytes => s.updateByteCount now inBytes outBytes
  | .connectedVPN uuid => s.setConnectedVPNProfile uuid

/-- `clearLog`, the line that describes the device being logged at its end. -/
def clearLog (information : LogItem) : VpnStatus × List Message :=
  { s with logbuffer := [] }.newLogItem information

/-- The class is loaded: a line describes the device, and nobody listens. -/
def fresh (information : LogItem) : VpnStatus :=
  ⟨⟨"NOPROCESS".toList, [], .noprocess, .notConnected⟩, none, [information], .new, []⟩

end VpnStatus

/-! ### States and levels -/

variable {now : ℤ} {s : VpnStatus} {m : Message} {um : UpdateMessage}

/-- What a listener does with a state: it ignores the same ones. -/
def receive (last um : UpdateMessage) : UpdateMessage := if Ignored last um then last else um

lemma receive_eq (last um : UpdateMessage) : receive last um = um ∨ receive last um = last := by
  unfold receive
  split_ifs
  · exact .inr rfl
  · exact .inl rfl

lemma receive_self (um : UpdateMessage) : receive um um = um := by
  unfold receive
  split_ifs
  · rfl
  · rfl

lemma receive_of_not {last : UpdateMessage} (h : ¬ Ignored last um) : receive last um = um :=
  if_neg h

@[simp] lemma perform_updateStateString_last :
    (s.perform now (.updateStateString um)).1.last = receive s.last um := by
  simp only [VpnStatus.perform, VpnStatus.updateStateString, receive]
  split_ifs
  · rfl
  · rfl

/-- Only a state changes the state. -/
lemma perform_last (h : ∀ um, m ≠ .updateStateString um) : (s.perform now m).1.last = s.last := by
  cases m with
  | newLogItem logItem => rfl
  | updateStateString um => exact absurd rfl (h um)
  | updateByteCount inBytes outBytes => rfl
  | connectedVPN uuid => rfl

end BuludTechVPN.Status
