import BuludTechVPN.DeviceState
import BuludTechVPN.PasswordCache
import BuludTechVPN.TunCycles
import BuludTechVPN.VpnStatus

/-!
`OpenVpnManagementThread`: what it does with a line that OpenVPN writes to the management socket.

A line reports something, or it asks for something and OpenVPN waits for the answer. The thread
passes on what is reported, hands the settings to the service, and answers. Descriptors arrive
beside the lines and are taken in turn.
-/

namespace BuludTechVPN.Management

open JavaLang LogCache ProcessLog Status Passwords

abbrev FileDescriptor := ℕ

/-! ### Texts -/

/-- `split` at a character, with the limit `n + 1`. -/
def splitUpTo (c : Char) : ℕ → Text → List Text
  | 0, s => [s]
  | n + 1, s =>
    if c ∈ s then s.takeWhile (· ≠ c) :: splitUpTo c n (s.dropWhile (· ≠ c)).tail else [s]

/-- What stands between the first two apostrophes, and what follows them. -/
def quoted (argument : Text) : Call (Text × Text) :=
  match splitUpTo '\x27' 2 argument with
  | [_, needed, args] => .ok (needed, args)
  | _ => .error .stringIndexOutOfBounds

/-- `Arrays.toString`. -/
def arrayText (parts : List Text) : Text := '[' :: ", ".toList.intercalate parts ++ [']']

/-! ### The thread and what it finds -/

/-- What a command finds outside of the thread. -/
structure Moment where
  now : ℤ
  device : Tun.Device
  /-- The host and the port of the proxy that `detectProxy` finds. -/
  detectProxy : Option (Text × ℤ)
  proxy_line : ∀ proxy ∈ detectProxy, '\n' ∉ proxy.1
  getSignedData : Text → Call (Option Text)
  /-- A signature is Base64 without line ends. -/
  signature_line : ∀ b64data signed, getSignedData b64data = .ok (some signed) → '\n' ∉ signed
  protect : FileDescriptor → Bool
  /-- Whether the descriptor of a tun device can be sent. -/
  sendsDescriptors : Bool
  /-- The item that an exception is logged as. -/
  exceptionItem : Text → LogItem
  usingProxy : BitVec 32
  stateWaitconnectretry : BitVec 32
  password : ℤ

structure Session where
  phone : DeviceState.Phone
  mOpenVPNService : Tun.Service
  mProfile : Passwords.VpnProfile
  passwordCache : Option PasswordCache
  mFDList : List FileDescriptor
  /-- The descriptors that were protected and closed. -/
  closed : List FileDescriptor
  /-- The tun devices that were sent. -/
  tuns : List Tun.Builder
  mShuttingDown : Bool
  /-- What `VpnStatus` was told. -/
  told : List Message

/-- The item of a message that is a resource. -/
def resourceItem (now : ℤ) (level : LogLevel) (resId : BitVec 32) (args : List Arg) : LogItem :=
  ⟨some args, none, resId, some level, BitVec.ofInt 64 now, BitVec.ofInt 32 (-1)⟩

/-- `updateStatePause`, as the call that it makes. -/
def pauseMessage : DeviceState.PauseReason → UpdateMessage
  | .noNetwork => ⟨"NONETWORK".toList, [], .nonetwork, .noNetwork⟩
  | .screenOff => ⟨"SCREENOFF".toList, [], .screenoff, .vpnPaused⟩
  | .userPause => ⟨"USERPAUSE".toList, [], .userpause, .vpnPaused⟩

def needok (needed status : Text) : Text :=
  "needok '".toList ++ needed ++ "' ".toList ++ status ++ "\n".toList

namespace Session

variable (m : Moment) (argument needed extra : Text) (s : Session)

def tell (message : Message) : Session := { s with told := s.told ++ [message] }

/-- A line of the log that is a text. -/
def log (level : LogLevel) (message : Text) : Session :=
  s.tell (.newLogItem (item (BitVec.ofInt 64 m.now) level (-1) message))

def managmentCommand (cmd : Text) : Session := { s with phone := s.phone.managmentCommand cmd }

/-- `stopOpenVPN`, as it concerns this thread: it closes the socket. -/
def stopOpenVPN : Session :=
  let s := s.managmentCommand "signal SIGINT\n".toList
  { s with phone := { s.phone with thread := { s.phone.thread with mSocket := false } } }

/-! ### Reports -/

def levelOf (flag : Text) : LogLevel :=
  if flag = "I".toList then .info
  else if flag = "W".toList then .warning
  else if flag = "D".toList then .verbose
  else if flag = "F".toList then .error
  else .info

def processLogMessage : Call Session := do
  let args := splitUpTo ',' 3 argument
  let level := levelOf (← arrayGet args 1)
  let ovpnlevel := (← parseInt (← arrayGet args 2)) % 16
  let msg ← arrayGet args 3
  let ovpnlevel :=
    if startsWith msg "MANAGEMENT: CMD".toList then max 4 ovpnlevel else ovpnlevel
  return s.tell (.newLogItem (item (BitVec.ofInt 64 m.now) level ovpnlevel msg))

def processState : Call Session := do
  let args := splitUpTo ',' 2 argument
  let currentstate ← arrayGet args 1
  let message ← arrayGet args 2
  return s.tell (.updateStateString
    (localized currentstate (if message = ",,".toList then [] else message)))

def processByteCount : Call Session :=
  match splitUpTo ',' 1 argument with
  | [inBytes, outBytes] => do
    return s.tell (.updateByteCount (← parseLong inBytes) (← parseLong outBytes))
  | _ => .error .stringIndexOutOfBounds

def handleHold : Call Session := do
  let waittime ← parseInt (← arrayGet (splitAt (· = ':') argument) 1)
  let s := { s with phone := s.phone.handleHold waittime }
  if s.phone.shouldBeRunning then
    let s := if 1 < waittime then
        s.tell (.updateStateString ⟨"CONNECTRETRY".toList, showInt waittime, .waitconnectretry,
          .connectingNoServerReplyYet⟩)
      else s
    let level : LogLevel := if 5 < waittime then .info else .debug
    return s.tell (.newLogItem (resourceItem m.now level m.stateWaitconnectretry
      [.string (showInt waittime)]))
  else
    return s.tell (.updateStateString (pauseMessage s.phone.thread.lastPauseReason))

/-! ### Queries -/

def processProxyCMD : Session :=
  let args := splitUpTo ',' 2 argument
  let proxyaddr := if args[1]? = some "UDP".toList then none else m.detectProxy
  match proxyaddr with
  | some (host, port) =>
    (s.tell (.newLogItem (resourceItem m.now .info m.usingProxy
      [.string host, .integer (BitVec.ofInt 32 port)]))).managmentCommand
        ("proxy HTTP ".toList ++ host ++ " ".toList ++ showInt port ++ "\n".toList)
  | none => s.managmentCommand "proxy NONE\n".toList

def protectFileDescriptor (fd : FileDescriptor) : Session :=
  let s := if m.protect fd then s else s.log m .warning "Could not protect VPN socket".toList
  { s with closed := s.closed ++ [fd] }

/-- `mFDList.pollFirst()`. -/
def pollFirst : Option FileDescriptor × Session :=
  (s.mFDList.head?, { s with mFDList := s.mFDList.tail })

/-- `protectFileDescriptor` of `null` fails with an exception that is logged. -/
def protectFirst : Session :=
  match s.pollFirst with
  | (some fd, s) => s.protectFileDescriptor m fd
  | (none, s) =>
    s.tell (.newLogItem (m.exceptionItem "Failed to retrieve fd from socket (null)".toList))

/-- Whether the tun device was sent, with the answer. -/
def sendTunFD : Call (Session × Bool) := do
  if extra ≠ "tun".toList then
    return (s.log m .error ("Device type ".toList ++ extra ++
      " requested, but only tun is possible with the Android API, sorry!".toList), false)
  else
    let (mOpenVPNService, opened) ← s.mOpenVPNService.openTun m.device
    let s := { s with mOpenVPNService := mOpenVPNService }
    if opened.returned then
      if m.sendsDescriptors then
        let s := { s with tuns := s.tuns ++ opened.established.toList }
        return (s.managmentCommand (needok needed "ok".toList), true)
      else
        return (s.tell (.newLogItem (m.exceptionItem "Could not send fd over socket".toList)), false)
    else return (s, false)

end Session

/-- What OpenVPN can need. -/
inductive Need
  | protectfd
  | dnsserver
  | dns6server
  | dnsdomain
  | route
  | route6
  | ifconfig
  | ifconfig6
  | persistTunAction
  | opentun
  deriving DecidableEq, Repr

namespace Need

def name : Need → Text
  | protectfd => "PROTECTFD".toList
  | dnsserver => "DNSSERVER".toList
  | dns6server => "DNS6SERVER".toList
  | dnsdomain => "DNSDOMAIN".toList
  | route => "ROUTE".toList
  | route6 => "ROUTE6".toList
  | ifconfig => "IFCONFIG".toList
  | ifconfig6 => "IFCONFIG6".toList
  | persistTunAction => "PERSIST_TUN_ACTION".toList
  | opentun => "OPENTUN".toList

def all : List Need :=
  [protectfd, dnsserver, dns6server, dnsdomain, route, route6, ifconfig, ifconfig6,
    persistTunAction, opentun]

def ofName (needed : Text) : Option Need := all.find? fun n => n.name = needed

end Need

/-- The kinds of lines that begin with `>`. -/
inductive Notice
  | info
  | password
  | hold
  | needOk
  | bytecount
  | state
  | proxy
  | log
  | rsaSign
  deriving DecidableEq, Repr

namespace Notice

def name : Notice → Text
  | info => "INFO".toList
  | password => "PASSWORD".toList
  | hold => "HOLD".toList
  | needOk => "NEED-OK".toList
  | bytecount => "BYTECOUNT".toList
  | state => "STATE".toList
  | proxy => "PROXY".toList
  | log => "LOG".toList
  | rsaSign => "RSA_SIGN".toList

def all : List Notice :=
  [info, password, hold, needOk, bytecount, state, proxy, log, rsaSign]

def ofName (cmd : Text) : Option Notice := all.find? fun n => n.name = cmd

end Notice

namespace Session

variable (m : Moment) (argument needed extra : Text) (s : Session)

/-- The service takes a setting. -/
def set (setting : Tun.Setting) : Call Session := do
  return { s with mOpenVPNService := ← s.mOpenVPNService.push m.device setting }

def processRoute : Call Session :=
  match splitAt (· = ' ') extra with
  | [dest, mask, gateway, _, device] => s.set m (.addRoute dest mask gateway (some device))
  | dest :: mask :: gateway :: _ => s.set m (.addRoute dest mask gateway none)
  | routeparts => .ok (s.log m .error
      ("Unrecognized ROUTE cmd:".toList ++ arrayText routeparts ++ " | ".toList ++ argument))

def processRoute6 : Call Session := do
  let routeparts := splitAt (· = ' ') extra
  s.set m (.addRoutev6 (← arrayGet routeparts 0) (some (← arrayGet routeparts 1)))

def processIfconfig : Call Session := do
  let ifconfigparts := splitAt (· = ' ') extra
  let mtu ← parseInt (← arrayGet ifconfigparts 2)
  s.set m (.setLocalIP (← arrayGet ifconfigparts 0) (← arrayGet ifconfigparts 1) mtu
    (← arrayGet ifconfigparts 3))

/-- What is needed is done, and the status of the answer, none if it was sent already. -/
def meet : Need → Call (Session × Option Text)
  | .protectfd => .ok (s.protectFirst m, some "ok".toList)
  | .dnsserver | .dns6server => do return (← s.set m (.addDNS extra), some "ok".toList)
  | .dnsdomain => do return (← s.set m (.setDomain extra), some "ok".toList)
  | .route => do return (← s.processRoute m argument extra, some "ok".toList)
  | .route6 => do return (← s.processRoute6 m extra, some "ok".toList)
  | .ifconfig => do return (← s.processIfconfig m extra, some "ok".toList)
  | .ifconfig6 => do return (← s.set m (.setLocalIPv6 extra), some "ok".toList)
  | .persistTunAction => .ok (s, some (s.mOpenVPNService.getTunReopenStatus m.device))
  | .opentun => do
    let (s, sent) ← s.sendTunFD m needed extra
    return (s, if sent then none else some "cancel".toList)

def processNeedCommand : Call Session := do
  let (needed, _) ← quoted argument
  let extra ← arrayGet (splitUpTo ':' 1 argument) 1
  match Need.ofName needed with
  | none => return s
  | some n =>
    let (s, status) ← s.meet m argument needed extra n
    match status with
    | none => return s
    | some status => return s.managmentCommand (needok needed status)

/-! ### Passwords -/

/-- `%s` of a reference. -/
def textOf (t : Option Text) : Text := t.getD "null".toList

/-- The password that is asked for, none if there is none. -/
def findPassword : Session × Option Text :=
  if needed = "Private Key".toList then
    let got := s.mProfile.getPasswordPrivateKey s.passwordCache
    ({ s with passwordCache := some got.2 }, got.1)
  else if needed = "Auth".toList then
    let got := s.mProfile.getPasswordAuth s.passwordCache
    let s := { s with passwordCache := some got.2 }
    (s.managmentCommand ("username '".toList ++ needed ++ "' ".toList ++
      textOf (s.mProfile.mUsername.map VpnProfile.openVpnEscape) ++ "\n".toList), got.1)
  else (s, none)

def requestInputFromUser : Session :=
  s.tell (.updateStateString ⟨"NEED".toList, "need ".toList ++ needed, .other m.password,
    .waitingForUserInput⟩)

def processPWCommand : Session :=
  match quoted argument with
  | .error _ =>
    s.log m .error ("Could not parse management Password command: ".toList ++ argument)
  | .ok (needed, args) =>
    if startsWith argument "Verification Failed".toList then
      s.tell (.updateStateString ⟨"AUTH_FAILED".toList, needed ++ args, .authFailed, .authFailed⟩)
    else
      match s.findPassword needed with
      | (s, some pw) => s.managmentCommand
          ("password '".toList ++ needed ++ "' ".toList ++ VpnProfile.openVpnEscape pw ++ "\n".toList)
      | (s, none) => (s.requestInputFromUser m needed).log m .error
          ("Openvpn requires Authentication type '".toList ++ needed ++
            "' but no password/key information available".toList)

def processSignCommand (b64data : Text) : Call Session := do
  let s' := s.managmentCommand "rsa-sig\n".toList
  match ← m.getSignedData b64data with
  | none => return (s'.managmentCommand "\nEND\n".toList).stopOpenVPN
  | some signed => return (s'.managmentCommand signed).managmentCommand "\nEND\n".toList

/-! ### Lines -/

def processNotice : Notice → Call Session
  | .info => .ok s
  | .password => .ok (s.processPWCommand m argument)
  | .hold => s.handleHold m argument
  | .needOk => s.processNeedCommand m argument
  | .bytecount => s.processByteCount argument
  | .state => if s.mShuttingDown then .ok s else s.processState argument
  | .proxy => .ok (s.processProxyCMD m argument)
  | .log => s.processLogMessage m argument
  | .rsaSign => s.processSignCommand m argument

def processCommand (command : Text) : Call Session := do
  if startsWith command ">".toList ∧ contains command ":".toList then
    let parts := splitUpTo ':' 1 command
    let cmd ← substring (← arrayGet parts 0) 1
    let argument ← arrayGet parts 1
    match Notice.ofName cmd with
    | some n => s.processNotice m argument n
    | none => return s.log m .warning ("MGMT: Got unrecognized command".toList ++ command)
  else if startsWith command "SUCCESS:".toList then return s
  else if startsWith command "PROTECTFD: ".toList then
    match s.pollFirst with
    | (some fd, s) => return s.protectFileDescriptor m fd
    | (none, s) => return s
  else
    return s.log m .warning ("MGMT: Got unrecognized line from management:".toList ++ command)

end Session

/-! ### The thread at work -/

/-- What happens to the thread: descriptors and lines arrive, the receiver of the device state and
the phone do what they do in between, the user enters a password, and the VPN is stopped. -/
inductive Event
  | receive (fds : List FileDescriptor)
  | command (m : Moment) (command : Text)
  | device (now : ℤ) (event : DeviceState.Event)
  | setCachedPassword (uuid : Text) (type : ℤ) (password : Option Text)
  | stopVPN (stopSucceed : Bool)

namespace Session

def next (s : Session) : Event → Call Session
  | .receive fds => .ok { s with mFDList := s.mFDList ++ fds }
  | .command m command => s.processCommand m command
  | .device now event => .ok { s with phone := DeviceState.handle now s.phone event }
  | .setCachedPassword uuid type password =>
    .ok { s with passwordCache := some (setCachedPassword s.passwordCache uuid type password) }
  | .stopVPN stopSucceed =>
    let s := s.stopOpenVPN
    .ok { s with mShuttingDown := s.mShuttingDown || stopSucceed }

def run (s : Session) (es : List Event) : Call Session := es.foldlM next s

/-- All that was written to the socket. -/
def output (s : Session) : Text := s.phone.written.flatMap fun w => w.command

end Session

end BuludTechVPN.Management
