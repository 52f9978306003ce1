import BuludTechVPN.Cidr
import BuludTechVPN.Stages
import BuludTechVPN.VpnProfile

/-!
`ConfigParser.convertProfile`: the profile of a parsed configuration.

The conversion is the list of its stages, in the order the source has them. A stage takes the
options it is about out of the map and stores them in the profile.
-/

namespace BuludTechVPN.ConvertProfile

open JavaLang ParseConfig VpnProfile

/-! ### Options of the map -/

def wrongArity (option : Text) (args minarg maxarg : ℕ) : Text :=
  "Option ".toList ++ option ++ " has ".toList ++ showInt args ++
    " parameters, expected between ".toList ++ showInt minarg ++ " and ".toList ++ showInt maxarg

/-- `getAllOption`: the lines of an option, which leaves the map. There are none where the
source returns null. -/
def getAllOption (option : Text) (minarg maxarg : ℕ) (options : Options) :
    Call (List (List Text) × Options) :=
  match (options.get option).find? fun l => l.length < minarg + 1 || maxarg + 1 < l.length with
  | some l => .error (.configParse (wrongArity option (l.length - 1) minarg maxarg))
  | none => .ok (options.get option, options.remove option)

/-- `getOption`: the last line of an option. -/
def getOption (option : Text) (minarg maxarg : ℕ) (options : Options) :
    Call (Option (List Text) × Options) := do
  let (args, options) ← getAllOption option minarg maxarg options
  return (args.getLast?, options)

/-! ### Options that are written back as text -/

/-- `ignoreOptionsWithArg`. -/
def ignoreOptionsWithArg : List (List Text) :=
  [["setenv".toList, "IV_GUI_VER".toList],
   ["setenv".toList, "IV_OPENVPN_GUI_VERSION".toList],
   ["engine".toList, "dynamic".toList],
   ["setenv".toList, "CLIENT_CERT".toList]]

def ignoreThisOption (option : List Text) : Bool :=
  ignoreOptionsWithArg.any fun ignoreOption => ignoreOption.isPrefixOf option

/-- An option line, or the inline file that it was. -/
def optionString (optionsline : List Text) : Text :=
  if ignoreThisOption optionsline then []
  else
    match optionsline with
    | [name, file] =>
      if name = "extra-certs".toList ∨ name = "http-proxy-user-pass".toList then
        insertFileData name (some file)
      else optionsline.flatMap (fun arg => openVpnEscape arg ++ [' ']) ++ ['\n']
    | _ => optionsline.flatMap (fun arg => openVpnEscape arg ++ [' ']) ++ ['\n']

def getOptionStrings (option : List (List Text)) : Text := option.flatMap optionString

/-! ### Connections -/

def isUdpProto (proto : Text) : Call Bool :=
  if proto = "udp".toList ∨ proto = "udp4".toList ∨ proto = "udp6".toList then .ok true
  else if proto = "tcp-client".toList ∨ proto = "tcp".toList ∨ proto = "tcp4".toList ∨
      endsWith proto "tcp4-client".toList ∨ proto = "tcp6".toList ∨
      endsWith proto "tcp6-client".toList then .ok false
  else .error (.configParse ("Unsupported option to --proto ".toList ++ proto))

/-- A number of an option, whose parse the option answers with an error of its own. What the
platform says of the exception is left out of the text. -/
def integerArgument (arg message : Text) : Call ℤ :=
  match parseInt arg with
  | .error .numberFormat => .error (.configParse message)
  | r => r

def timeoutMessage (arg : Text) : Text :=
  "Argument to connect-timeout (".toList ++ arg ++ ") must to be an integer: ".toList

def portOption (conn : Connection) : Option (List Text) → Call Connection
  | none => .ok conn
  | some port => return { conn with mServerPort := ← arrayGet port 1 }

def protoOption (conn : Connection) : Option (List Text) → Call Connection
  | none => .ok conn
  | some proto => return { conn with mUseUdp := ← isUdpProto (← arrayGet proto 1) }

def connectTimeoutOption (conn : Connection) : Option (List Text) → Call Connection
  | none => .ok conn
  | some connectTimeout => do
    let arg ← arrayGet connectTimeout 1
    return { conn with mConnectTimeout := ← integerArgument arg (timeoutMessage arg) }

/-- The connection of a `remote`: each case of the `switch` falls through to the next. -/
def remoteConnection (conn : Connection) : List Text → Call Connection
  | [_, name, port, proto] => do
    return { conn with mUseUdp := ← isUdpProto proto, mServerPort := port, mServerName := name }
  | [_, name, port] => .ok { conn with mServerPort := port, mServerName := name }
  | [_, name] => .ok { conn with mServerName := name }
  | _ => .ok conn

/-- What a block keeps of the options that are not about its connection. -/
def customConfiguration (order : KeyOrder Text) (connDefault : Option Connection)
    (options : Options) (conn : Connection) : Connection :=
  match connDefault with
  | none => conn
  | some _ =>
    let custom := conn.mCustomConfiguration ++ (options.values order).flatMap getOptionStrings
    { conn with
      mCustomConfiguration := custom
      mUseCustomConfig := conn.mUseCustomConfig || custom ≠ [] }

def parseConnectionOptions (order : KeyOrder Text) (connDefault : Option Connection)
    (options : Options) : Call ((Connection × List Connection) × Options) := do
  let conn := connDefault.getD {}
  let (port, options) ← getOption "port".toList 1 1 options
  let conn ← portOption conn port
  let (rport, options) ← getOption "rport".toList 1 1 options
  let conn ← portOption conn rport
  let (proto, options) ← getOption "proto".toList 1 1 options
  let conn ← protoOption conn proto
  let (connectTimeout, options) ← getOption "connect-timeout".toList 1 1 options
  let conn ← connectTimeoutOption conn connectTimeout
  let (remotes, options) ← getAllOption "remote".toList 1 3 options
  let conn := customConfiguration order connDefault options conn
  return ((conn, ← remotes.mapM (remoteConnection conn)), options)

/-- `parseConnection`: a block is a configuration of its own. -/
def parseConnection (order : KeyOrder Text) (connection : Text) (defaultValues : Connection) :
    Call (Connection × List Connection) := do
  let p ← parseConfig (← substring connection inlineTag.length)
  return (← parseConnectionOptions order (some defaultValues) p.options).1

/-! ### Stages -/

/-- What `convertProfile` works on: the profile, the options that are left, and the two things
it notes on the way. -/
structure Import where
  np : VpnProfile
  options : Options
  noauthtypeset : Bool := true
  authUserPassFile : Option Text := none
  deriving DecidableEq, Repr

abbrev Stage := Import → Call Import

def useLast (s : Import) (use : Import → List Text → Call Import) :
    Option (List Text) × Options → Call Import
  | (none, _) => .ok s
  | (some args, options) => use { s with options := options } args

def useAll (s : Import) (use : Import → List (List Text) → Call Import) :
    List (List Text) × Options → Call Import
  | ([], _) => .ok s
  | (lines, options) => use { s with options := options } lines

/-- The stage of an option that counts once: its last line. -/
def onOption (option : Text) (minarg maxarg : ℕ) (use : Import → List Text → Call Import) :
    Stage := fun s => getOption option minarg maxarg s.options >>= useLast s use

/-- The stage of an option whose lines all count. -/
def onAllOption (option : Text) (minarg maxarg : ℕ)
    (use : Import → List (List Text) → Call Import) : Stage :=
  fun s => getAllOption option minarg maxarg s.options >>= useAll s use

/-- The stage of an option that sets something by being there. -/
def onFlag (option : Text) (minarg maxarg : ℕ) (set : VpnProfile → VpnProfile) : Stage :=
  onOption option minarg maxarg fun s _ => return { s with np := set s.np }

/-- The stage of an option whose argument is stored. -/
def onArgument (option : Text) (set : VpnProfile → Text → VpnProfile) : Stage :=
  onOption option 1 1 fun s args => return { s with np := set s.np (← arrayGet args 1) }

def client : Stage := fun s =>
  if s.options.get "client".toList ≠ [] ∨ s.options.get "pull".toList ≠ [] then
    .ok { s with
      np := { s.np with mUsePull := true }
      options := (s.options.remove "pull".toList).remove "client".toList }
  else .ok s

def secret : Stage := onOption "secret".toList 1 2 fun s secret => do
  return { s with
    noauthtypeset := false
    np := { s.np with
      mAuthenticationType := .statickeys
      mUseTLSAuth := true
      mTLSAuthFilename := some (← arrayGet secret 1)
      mTLSAuthDirection := secret[2]?.getD s.np.mTLSAuthDirection } }

def netmaskMessage (netmask : Text) : Text :=
  "Could not parse netmask of route ".toList ++ netmask

/-- A route with the handlers of `ArrayIndexOutOfBoundsException` and `NumberFormatException`. -/
def routeCidr (net netmask : Text) : Call Cidr.CIDRIP :=
  match Cidr.ofMask net netmask with
  | .error .arrayIndexOutOfBounds | .error .numberFormat =>
    .error (.configParse (netmaskMessage netmask))
  | r => r

def routeNetmask (route : List Text) : Text := route[2]?.getD "255.255.255.255".toList
def routeGateway (route : List Text) : Text := route[3]?.getD "vpn_gateway".toList

/-- The routes and the excluded routes, each with a blank behind it. -/
def addRoute (acc : Text × Text) (route : List Text) : Call (Text × Text) := do
  let cidr ← routeCidr (← arrayGet route 1) (routeNetmask route)
  return if routeGateway route = "net_gateway".toList then (acc.1, acc.2 ++ cidr.toString ++ [' '])
    else (acc.1 ++ cidr.toString ++ [' '], acc.2)

def route : Stage := onAllOption "route".toList 1 4 fun s routes => do
  let (routeopt, routeExcluded) ← routes.foldlM addRoute ([], [])
  return { s with np := { s.np with
    mCustomRoutes := some routeopt, mExcludedRoutes := some routeExcluded } }

def routeIpv6 : Stage := onAllOption "route-ipv6".toList 1 4 fun s routesV6 => do
  let nets ← routesV6.mapM (arrayGet · 1)
  return { s with np := { s.np with mCustomRoutesv6 := nets.flatMap (· ++ [' ']) } }

def routeNopull : Stage :=
  onFlag "route-nopull".toList 1 1 fun np => { np with mRoutenopull := true }

def tlsAuthLine (np : VpnProfile) (tlsauth : List Text) : Call VpnProfile := do
  let file ← arrayGet tlsauth 1
  let np := if file = "[inline]".toList then np
    else { np with mTLSAuthFilename := some file, mUseTLSAuth := true }
  return { np with mTLSAuthDirection := tlsauth[2]?.getD np.mTLSAuthDirection }

def tlsAuth : Stage := onAllOption "tls-auth".toList 1 2 fun s tlsauthoptions => do
  return { s with np := ← tlsauthoptions.foldlM tlsAuthLine s.np }

def keyDirection : Stage :=
  onArgument "key-direction".toList fun np arg => { np with mTLSAuthDirection := arg }

def tlsCrypt : Stage := onArgument "tls-crypt".toList fun np arg =>
  { np with
    mUseTLSAuth := true
    mTLSAuthFilename := some arg
    mTLSAuthDirection := "tls-crypt".toList }

def redirectWord (np : VpnProfile) (word : Text) : VpnProfile :=
  if word = "block-local".toList then { np with mAllowLocalLAN := false }
  else if word = "unblock-local".toList then { np with mAllowLocalLAN := true }
  else if word = "!ipv4".toList then np
  else if word = "ipv6".toList then { np with mUseDefaultRoutev6 := true }
  else np

/-- `checkRedirectParameters`, which only looks at the words of a default route. -/
def checkRedirectParameters (np : VpnProfile) (defgw : List (List Text)) (defaultRoute : Bool) :
    VpnProfile :=
  if defaultRoute then
    let words := defgw.flatMap (·.drop 1)
    let np := words.foldl redirectWord np
    if "!ipv4".toList ∈ words then np else { np with mUseDefaultRoute := true }
  else np

def redirectGateway : Stage := onAllOption "redirect-gateway".toList 0 7 fun s defgw =>
  return { s with np := checkRedirectParameters s.np defgw true }

def redirectPrivate : Stage := onAllOption "redirect-private".toList 0 5 fun s redirectPrivate =>
  return { s with np := checkRedirectParameters s.np redirectPrivate false }

def onlyTun : Text :=
  "Sorry. Only tun mode is supported. See the FAQ for more detail".toList

/-- The device a pair of `dev` and `dev-type` lines asks for. -/
def checkTun (dev devtype : Option (List Text)) : Call Bool :=
  match dev, devtype with
  | none, none => .ok true
  | some dev, none => return startsWith (← arrayGet dev 1) "tun".toList
  | none, some devtype => return (← arrayGet devtype 1) = "tun".toList
  | some dev, some devtype => do
    return (← arrayGet devtype 1) = "tun".toList || startsWith (← arrayGet dev 1) "tun".toList

def dev : Stage := fun s => do
  let (dev, options) ← getOption "dev".toList 1 1 s.options
  let (devtype, options) ← getOption "dev-type".toList 1 1 options
  if ← checkTun dev devtype then return { s with options := options }
  else throw (.configParse onlyTun)

def mssfixMessage : Text := "Argument to --mssfix has to be an integer".toList
def mtuMessage : Text := "Argument to --tun-mtu has to be an integer".toList

/-- `mssfix`; without an argument the default of OpenVPN. -/
def mssfix : Stage := onOption "mssfix".toList 0 1 fun s mssfix =>
  match mssfix[1]? with
  | some arg => do
    return { s with np := { s.np with mMssFix := ← integerArgument arg mssfixMessage } }
  | none => return { s with np := { s.np with mMssFix := 1450 } }

def mtu : Stage := onOption "mtu".toList 1 1 fun s tunmtu => do
  return { s with np := { s.np with
    mTunMtu := ← integerArgument (← arrayGet tunmtu 1) mtuMessage } }

def modeMessage : Text := "Invalid mode for --mode specified, need p2p".toList

def mode : Stage := onOption "mode".toList 1 1 fun s mode => do
  if (← arrayGet mode 1) = "p2p".toList then return s else throw (.configParse modeMessage)

def dhcpLine (np : VpnProfile) (dhcpoption : List Text) : Call VpnProfile := do
  let type ← arrayGet dhcpoption 1
  let arg ← arrayGet dhcpoption 2
  return if type = "DOMAIN".toList then { np with mSearchDomain := arg }
    else if type = "DNS".toList then
      if np.mDNS1 = "8.8.8.8".toList then { np with mOverrideDNS := true, mDNS1 := arg }
      else { np with mOverrideDNS := true, mDNS2 := arg }
    else np

def dhcpOption : Stage := onAllOption "dhcp-option".toList 2 2 fun s dhcpoptions => do
  return { s with np := ← dhcpoptions.foldlM dhcpLine s.np }

def ifconfigMessage : Text := "Could not pase ifconfig IP address: ".toList

/-- An address with the handler of `NumberFormatException`, the only one here. -/
def ifconfigCidr (ip mask : Text) : Call Cidr.CIDRIP :=
  match Cidr.ofMask ip mask with
  | .error .numberFormat => .error (.configParse ifconfigMessage)
  | r => r

def ifconfig : Stage := onOption "ifconfig".toList 2 2 fun s ifconfig => do
  let cidr ← ifconfigCidr (← arrayGet ifconfig 1) (← arrayGet ifconfig 2)
  return { s with np := { s.np with mIPv4Address := some cidr.toString } }

def remoteRandomHostname : Stage :=
  onFlag "remote-random-hostname".toList 0 0 fun np => { np with mUseRandomHostname := true }

def float : Stage := onFlag "float".toList 0 0 fun np => { np with mUseFloat := true }

def compLzo : Stage := onFlag "comp-lzo".toList 0 1 fun np => { np with mUseLzo := true }

def cipher : Stage := onArgument "cipher".toList fun np arg => { np with mCipher := arg }

def auth : Stage := onArgument "auth".toList fun np arg => { np with mAuth := arg }

def ca : Stage := onArgument "ca".toList fun np arg => { np with mCaFilename := some arg }

def cert : Stage := onOption "cert".toList 1 1 fun s cert => do
  return { s with
    noauthtypeset := false
    np := { s.np with
      mClientCertFilename := some (← arrayGet cert 1)
      mAuthenticationType := .certificates } }

def key : Stage := onArgument "key".toList fun np arg => { np with mClientKeyFilename := some arg }

def pkcs12 : Stage := onOption "pkcs12".toList 1 1 fun s pkcs12 => do
  return { s with
    noauthtypeset := false
    np := { s.np with
      mPKCS12Filename := some (← arrayGet pkcs12 1)
      mAuthenticationType := .keystore } }

def cryptoapicert : Stage := onOption "cryptoapicert".toList 1 1 fun s _ =>
  return { s with noauthtypeset := false, np := { s.np with mAuthenticationType := .keystore } }

/-- `tls-remote`, the check of OpenVPN 2.2, with the two options that change it. -/
def tlsRemote : Stage := fun s => do
  let (compatnames, options) ← getOption "compat-names".toList 1 2 s.options
  let (nonameremapping, options) ← getOption "no-name-remapping".toList 1 1 options
  let (tlsremote, options) ← getOption "tls-remote".toList 1 1 options
  match tlsremote with
  | none => return { s with options := options }
  | some tlsremote =>
    return { s with
      options := options
      np := { s.np with
        mRemoteCN := ← arrayGet tlsremote 1
        mCheckRemoteCN := true
        mX509AuthType :=
          if compatnames.any (2 < ·.length) || nonameremapping.isSome then
            .tlsremoteCompatNoremapping
          else .tlsremote } }

def x509Type : Option Text → Call X509Verify
  | none => .ok .tlsremoteDn
  | some type =>
    if type = "name".toList then .ok .tlsremoteRdn
    else if type = "subject".toList then .ok .tlsremoteDn
    else if type = "name-prefix".toList then .ok .tlsremoteRdnPrefix
    else .error (.configParse ("Unknown parameter to verify-x509-name: ".toList ++ type))

def verifyX509Name : Stage := onOption "verify-x509-name".toList 1 2 fun s verifyx509name => do
  return { s with np := { s.np with
    mRemoteCN := ← arrayGet verifyx509name 1
    mCheckRemoteCN := true
    mX509AuthType := ← x509Type verifyx509name[2]? } }

def x509UsernameField : Stage :=
  onArgument "x509-username-field".toList fun np arg => { np with mx509UsernameField := some arg }

def verb : Stage := onArgument "verb".toList fun np arg => { np with mVerb := arg }

def nobind : Stage := onFlag "nobind".toList 0 0 fun np => { np with mNobind := true }

def persistTun : Stage := onFlag "persist-tun".toList 0 0 fun np => { np with mPersistTun := true }

def pushPeerInfo : Stage :=
  onFlag "push-peer-info".toList 0 0 fun np => { np with mPushPeerInfo := true }

def connectRetry : Stage := onOption "connect-retry".toList 1 2 fun s connectretry => do
  return { s with np := { s.np with
    mConnectRetry := ← arrayGet connectretry 1
    mConnectRetryMaxTime := connectretry[2]?.getD s.np.mConnectRetryMaxTime } }

def connectRetryMax : Stage :=
  onArgument "connect-retry-max".toList fun np arg => { np with mConnectRetryMax := arg }

/-- `remote-cert-tls`: the first line decides; the lines of another one are kept as options,
under a name of their own. -/
def remoteCertTls : Stage := onAllOption "remote-cert-tls".toList 1 1 fun s remotetls => do
  if (← arrayGet (← arrayGet remotetls 0) 1) = "server".toList then
    return { s with np := { s.np with mExpectTLSCert := true } }
  else return { s with options := s.options.put "remotetls".toList remotetls }

/-- `useEmbbedUserAuth`. -/
def useEmbbedUserAuth (np : VpnProfile) (inlinedata : Text) : VpnProfile :=
  match splitAt (· = '\n') (getEmbeddedContent inlinedata) with
  | username :: password :: _ => { np with mUsername := some username, mPassword := password }
  | _ => np

def userAuthType (noauthtypeset : Bool) : AuthenticationType → AuthenticationType
  | .certificates => if noauthtypeset then .userpass else .userpassCertificates
  | .keystore => if noauthtypeset then .userpass else .userpassKeystore
  | type => if noauthtypeset then .userpass else type

def authUserPass : Stage := onOption "auth-user-pass".toList 0 1 fun s authuser =>
  let np := { s.np with
    mAuthenticationType := userAuthType s.noauthtypeset s.np.mAuthenticationType }
  match authuser[1]? with
  | none => return { s with np := np }
  | some file =>
    return { s with
      authUserPassFile := if startsWith file inlineTag then s.authUserPassFile else some file
      np := useEmbbedUserAuth { np with mUsername := none } file }

/-- `auth-retry`. The text of the error asks for an argument that the arity rules out. -/
def authRetry : Stage := onOption "auth-retry".toList 1 1 fun s authretry => do
  let arg ← arrayGet authretry 1
  if arg = "none".toList then return { s with np := { s.np with mAuthRetry := .noneForget } }
  else if arg = "nointeract".toList ∨ arg = "interact".toList then
    return { s with np := { s.np with mAuthRetry := .nointeract } }
  else throw (.configParse ("Unknown parameter to auth-retry: ".toList ++ (← arrayGet authretry 2)))

/-- `TextUtils.join`. -/
def join (delimiter : Text) (tokens : List Text) : Text := delimiter.intercalate tokens

def crlVerify : Stage := onOption "crl-verify".toList 1 2 fun s crlfile => do
  if crlfile[2]? = some "dir".toList then
    return { s with np := { s.np with
      mCustomConfigOptions := s.np.mCustomConfigOptions ++ join [' '] crlfile ++ ['\n'] } }
  else return { s with np := { s.np with mCrlFilename := some (← arrayGet crlfile 1) } }

def remoteAndBlock : Text := "Using a <connection> block and --remote is not allowed.".toList
def oneRemote : Text := "A <connection> block must have exactly one remote".toList

/-- The connection of a block, which must have exactly one. -/
def blockConnection (order : KeyOrder Text) (defaultValues : Connection) (conn : List Text) :
    Call Connection := do
  match (← parseConnection order (← arrayGet conn 1) defaultValues).2 with
  | [connection] => return connection
  | _ => throw (.configParse oneRemote)

/-- The connections of the blocks; each block is a map of its own. -/
def blockConnections (orders : ℕ → KeyOrder Text) (defaultValues : Connection) :
    ℕ → List (List Text) → Call (List Connection)
  | _, [] => .ok []
  | connIndex, conn :: blocks => do
    let connection ← blockConnection (orders connIndex) defaultValues conn
    return connection :: (← blockConnections orders defaultValues (connIndex + 1) blocks)

/-- The connections outside of blocks, or those of the blocks. -/
def allConnections (orders : ℕ → KeyOrder Text) (conns : Connection × List Connection)
    (connectionBlocks : List (List Text)) : Call (List Connection) :=
  if conns.2 ≠ [] ∧ connectionBlocks ≠ [] then .error (.configParse remoteAndBlock)
  else if connectionBlocks = [] then .ok conns.2
  else blockConnections orders conns.1 1 connectionBlocks

def connections (orders : ℕ → KeyOrder Text) : Stage := fun s => do
  let (conns, options) ← parseConnectionOptions (orders 0) none s.options
  let (connectionBlocks, options) ← getAllOption "connection".toList 1 1 options
  let mConnections ← allConnections orders conns connectionBlocks
  return { s with options := options, np := { s.np with mConnections := mConnections } }

def remoteRandom : Stage :=
  onFlag "remote-random".toList 0 0 fun np => { np with mRemoteRandom := true }

def protoForceMessage (proto : Text) : Text :=
  "Unknown protocol ".toList ++ proto ++ " in proto-force".toList

def protoToDisable (proto : Text) : Call Bool :=
  if proto = "udp".toList then .ok true
  else if proto = "tcp".toList then .ok false
  else .error (.configParse (protoForceMessage proto))

def disableProto (disableUDP : Bool) (conn : Connection) : Connection :=
  if conn.mUseUdp = disableUDP then { conn with mEnabled := false } else conn

def protoForce : Stage := onOption "proto-force".toList 1 1 fun s protoforce => do
  let disableUDP ← protoToDisable (← arrayGet protoforce 1)
  return { s with np := { s.np with
    mConnections := s.np.mConnections.map (disableProto disableUDP) } }

/-- The value an access server gives for a name, behind the name itself. -/
def metaValue (metaOptions : Multimap Text (List Text)) (name : Text) : Option Text :=
  (metaOptions.get name).getLast?.bind (·[1]?)

/-- `OpenVPN Access Server extra`. -/
def accessServerExtra (metaOptions : Multimap Text (List Text)) : Stage := fun s =>
  return { s with np := { s.np with
    mName := (metaValue metaOptions "FRIENDLY_NAME".toList).getD s.np.mName
    mUsername := (metaValue metaOptions "USERNAME".toList).or s.np.mUsername } }

def unsupportedOptions : List Text := ["config".toList, "tls-server".toList]

def ignoreOptions : List Text :=
  ["tls-client", "askpass", "auth-nocache", "up", "down", "route-up", "ipchange", "route-up",
   "route-pre-down", "auth-user-pass-verify", "block-outside-dns", "dhcp-release", "dhcp-renew",
   "dh", "group", "allow-recursive-routing", "ip-win32", "management-hold", "management",
   "management-client", "management-query-remote", "management-query-passwords",
   "management-query-proxy", "management-external-key", "management-forget-disconnect",
   "management-signal", "management-log-cache", "management-up-down", "management-client-user",
   "management-client-group", "pause-exit", "plugin", "machine-readable-output", "persist-key",
   "push", "register-dns", "route-delay", "route-gateway", "route-metric", "route-method",
   "status", "script-security", "show-net-up", "suppress-timestamps", "tmp-dir", "tun-ipv6",
   "topology", "user", "win-sys"].map String.toList

def unsupportedMessage (option : Text) : Text :=
  "Unsupported Option ".toList ++ option ++ " encountered in config file. Aborting".toList

def customHeader : Text :=
  "# These options found in the config file do not map to config settings:\n".toList

/-- The options that are left are written back, below a comment. -/
def keepCustomOptions (order : KeyOrder Text) (np : VpnProfile) (options : Options) : VpnProfile :=
  if options = [] then np
  else
    { np with
      mCustomConfigOptions := customHeader ++ np.mCustomConfigOptions ++
        (options.values order).flatMap getOptionStrings
      mUseCustomConfig := true }

def checkIgnoreAndInvalidOptions (order : KeyOrder Text) : Stage := fun s =>
  match unsupportedOptions.find? fun option => s.options.get option ≠ [] with
  | some option => .error (.configParse (unsupportedMessage option))
  | none =>
    let options := ignoreOptions.foldl Multimap.remove s.options
    .ok { s with options := options, np := keepCustomOptions order s.np options }

def fixup : Stage := fun s =>
  if s.np.mRemoteCN = s.np.mServerName then .ok { s with np := { s.np with mRemoteCN := [] } }
  else .ok s

/-! ### The conversion -/

/-- The stages of `convertProfile`. -/
def stages (orders : ℕ → KeyOrder Text) (metaOptions : Multimap Text (List Text)) : List Stage :=
  [client, secret, route, routeIpv6, routeNopull, tlsAuth, keyDirection, tlsCrypt,
   redirectGateway, redirectPrivate, dev, mssfix, mtu, mode, dhcpOption, ifconfig,
   remoteRandomHostname, float, compLzo, cipher, auth, ca, cert, key, pkcs12, cryptoapicert,
   tlsRemote, verifyX509Name, x509UsernameField, verb, nobind, persistTun, pushPeerInfo,
   connectRetry, connectRetryMax, remoteCertTls, authUserPass, authRetry, crlVerify,
   connections orders, remoteRandom, protoForce, accessServerExtra metaOptions,
   checkIgnoreAndInvalidOptions (orders 0), fixup]

def convertedProfile : Text := "converted Profile".toList

/-- What the conversion starts from. -/
def ConfigParser.start (p : ConfigParser) : Import :=
  { np := (VpnProfile.new convertedProfile).clearDefaults, options := p.options }

/-- `ConfigParser.convertProfile`, with all it leaves behind. -/
def convertProfile (orders : ℕ → KeyOrder Text) (p : ConfigParser) : Call Import :=
  Stages.inTurn (stages orders p.metaOptions) (ConfigParser.start p)

/-- `parseConfig` and then `convertProfile`. -/
def importConfig (orders : ℕ → KeyOrder Text) (text : Text) : Call Import :=
  parseConfig text >>= convertProfile orders

end BuludTechVPN.ConvertProfile
