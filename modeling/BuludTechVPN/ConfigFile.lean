import BuludTechVPN.ConvertProfile

/-!
`VpnProfile.getConfigFile`: the configuration that is handed to OpenVPN.

The text is kept in its pieces, each one line or one block. What the device and the keystore
contribute is a `Platform`.
-/

namespace BuludTechVPN

open JavaLang ParseConfig VpnProfile

/-- What `getConfigFile` asks the device for. -/
structure Platform where
  configForOvpn3 : Bool
  cacheDir : Text
  versionEnvString : Text
  versionString : Text
  /-- The certificates of the keystore: of the authority, the chain and of the client. -/
  keyStoreCertificates : Option (Text × Option Text × Text)
  keychainAccess : Text
  jellyBean : Bool
  jellyKeystoreAlphanumericBug : Text
  usesystemproxy : Bool

namespace Connection

def remoteLine (c : Connection) : Text :=
  "remote ".toList ++ c.mServerName ++ ' ' :: c.mServerPort ++
    if c.mUseUdp then " udp\n".toList else " tcp-client\n".toList

def timeoutLine (c : Connection) : Text :=
  if c.mConnectTimeout = 0 then []
  else " connect-timeout  ".toList ++ showInt c.mConnectTimeout ++ ['\n']

def isOnlyRemote (c : Connection) : Bool := c.mCustomConfiguration = [] || !c.mUseCustomConfig

def customLines (c : Connection) : Text :=
  if c.isOnlyRemote then [] else c.mCustomConfiguration ++ ['\n']

def getConnectionBlock (c : Connection) : Text := c.remoteLine ++ c.timeoutLine ++ c.customLines

end Connection

namespace VpnProfile

/-! ### Routes -/

/-- `cidrToIPAndNetmask`, none for null. -/
def cidrToIPAndNetmask (route : Text) : Option Text :=
  let parts := splitAt (· = '/') route
  let parts := if parts.length = 1 then splitAt (· = '/') (route ++ "/32".toList) else parts
  match parts with
  | [ip, len] =>
    match parseInt len with
    | .ok len =>
      if len < 0 ∨ 32 < len then none
      else some (ip ++ "  ".toList ++ Cidr.dotted (2 ^ 32 - 2 ^ (32 - len).toNat))
    | .error _ => none
  | _ => none

/-- The pieces of a text with blanks between them. -/
def words (routes : Text) : List Text :=
  (splitAt (fun c => c = '\n' || c = ' ' || c = '\t') routes).filter (· ≠ [])

/-- The routes up to the first one that has no netmask. -/
def netmasks : List Text → List Text
  | [] => []
  | route :: routes =>
    match cidrToIPAndNetmask route with
    | none => []
    | some cidrroute => cidrroute :: netmasks routes

def getCustomRoutes (routes : Option Text) : List Text := netmasks (words (routes.getD []))

def getCustomRoutesv6 (routes : Text) : List Text := words routes

/-! ### The sections of the file -/

def isUserPWAuth (p : VpnProfile) : Bool :=
  match p.mAuthenticationType with
  | .userpass | .userpassCertificates | .userpassKeystore | .userpassPkcs12 => true
  | _ => false

def useTLSClient (p : VpnProfile) : Bool := p.mAuthenticationType ≠ .statickeys

/-- A piece that is there under a condition. -/
def piece (b : Bool) (t : Text) : List Text := if b then [t] else []

def managementLines (pf : Platform) : List Text :=
  ["# Enables connection to GUI\n".toList,
   "management ".toList ++ pf.cacheDir ++ "/mgmtsocket unix\n".toList,
   "management-client\n".toList,
   "management-query-passwords\n".toList,
   "management-hold\n\n".toList] ++
  piece (!pf.configForOvpn3)
    ("setenv IV_GUI_VER ".toList ++ openVpnEscape pf.versionEnvString ++ " \n".toList) ++
  piece (!pf.configForOvpn3)
    ("setenv IV_PLAT_VER ".toList ++ openVpnEscape pf.versionString ++ "\n".toList) ++
  ["machine-readable-output\n".toList,
   "allow-recursive-routing\n".toList,
   "ifconfig-nowarn\n".toList]

def clientLine (p : VpnProfile) : List Text :=
  if p.useTLSClient && p.mUsePull then ["client\n".toList]
  else if p.mUsePull then ["pull\n".toList]
  else piece p.useTLSClient "tls-client\n".toList

/-- The retries; an empty field counts as its default. -/
def connectRetryLines (p : VpnProfile) : List Text :=
  let mConnectRetry := if p.mConnectRetry = [] then "2".toList else p.mConnectRetry
  let mConnectRetryMaxTime :=
    if p.mConnectRetryMaxTime = [] then "300".toList else p.mConnectRetryMaxTime
  ["verb 4\n".toList] ++
  piece (p.mConnectRetryMax ≠ "-1".toList)
    ("connect-retry-max ".toList ++ p.mConnectRetryMax ++ ['\n']) ++
  ["connect-retry ".toList ++ mConnectRetry ++ ' ' :: mConnectRetryMaxTime ++ ['\n'],
   "resolv-retry 60\n".toList,
   "dev tun\n".toList]

/-- The connections fit into lines outside of blocks. A single one always does. -/
def canUsePlainRemotes (p : VpnProfile) : Bool :=
  p.mConnections.length = 1 || p.mConnections.all Connection.isOnlyRemote

def remoteLines (p : VpnProfile) : List Text :=
  match p.mConnections with
  | [conn] => [conn.getConnectionBlock]
  | conns =>
    piece p.mRemoteRandom "remote-random\n".toList ++
    if p.canUsePlainRemotes then
      (conns.filter Connection.mEnabled).map Connection.getConnectionBlock
    else []

/-- `mAlias.matches("^[a-zA-Z0-9]$")`. -/
def isAlphanumeric (mAlias : Text) : Bool :=
  match mAlias with
  | [c] => ('a' ≤ c && c ≤ 'z') || ('A' ≤ c && c ≤ 'Z') || ('0' ≤ c && c ≤ '9')
  | _ => false

def keychainLines (pf : Platform) (p : VpnProfile) : Call (List Text) :=
  match pf.keyStoreCertificates with
  | some (ca, extra, cert) =>
    .ok (["### From Keystore ####\n".toList, inlineBlock "ca".toList ca] ++
      (extra.map (inlineBlock "extra-certs".toList)).toList ++
      [inlineBlock "cert".toList cert, "management-external-key\n".toList])
  | none =>
    if pf.jellyBean then do
      let mAlias ← nonNull p.mAlias
      return ["### From Keystore ####\n".toList, pf.keychainAccess ++ ['\n']] ++
        piece (!isAlphanumeric mAlias) (pf.jellyKeystoreAlphanumericBug ++ ['\n'])
    else .ok ["### From Keystore ####\n".toList, pf.keychainAccess ++ ['\n']]

/-- What the authentication type writes behind its `auth-user-pass`. -/
def credentialLines (pf : Platform) (p : VpnProfile) : Call (List Text) :=
  match p.mAuthenticationType with
  | .userpassCertificates | .certificates =>
    .ok [insertFileData "ca".toList p.mCaFilename,
      insertFileData "key".toList p.mClientKeyFilename,
      insertFileData "cert".toList p.mClientCertFilename]
  | .userpassPkcs12 | .pkcs12 => .ok [insertFileData "pkcs12".toList p.mPKCS12Filename]
  | .userpassKeystore | .keystore =>
    if pf.configForOvpn3 then .ok [] else keychainLines pf p
  | .userpass => .ok [insertFileData "ca".toList p.mCaFilename]
  | .statickeys => .ok []

def authenticationLines (pf : Platform) (p : VpnProfile) : Call (List Text) := do
  let credentials ← credentialLines pf p
  -- the authentication type is compared with a constant of `mAuthRetry`, and the line has no end
  return piece p.isUserPWAuth "auth-user-pass\n".toList ++ credentials ++
    piece (p.isUserPWAuth && p.mAuthenticationType.value = AuthRetry.nointeract.value)
      "auth-retry nointeract".toList

def tlsAuthLines (p : VpnProfile) : List Text :=
  if p.mUseTLSAuth then
    let useTlsCrypt := p.mTLSAuthDirection = "tls-crypt".toList
    let entry :=
      if p.mAuthenticationType = .statickeys then "secret".toList
      else if useTlsCrypt then "tls-crypt".toList
      else "tls-auth".toList
    insertFileData entry p.mTLSAuthFilename ::
      piece (p.mTLSAuthDirection ≠ [] && !useTlsCrypt)
        ("key-direction ".toList ++ p.mTLSAuthDirection ++ ['\n'])
  else []

def keyLines (p : VpnProfile) : List Text :=
  piece (p.mCrlFilename.any (· ≠ [])) (insertFileData "crl-verify".toList p.mCrlFilename) ++
  piece p.mUseLzo "comp-lzo\n".toList ++ p.tlsAuthLines

/-- The addresses of the tunnel; a missing netmask is written as a null reference is. -/
def addressLines (p : VpnProfile) : List Text :=
  if p.mUsePull then []
  else
    ((p.mIPv4Address.filter (· ≠ [])).map fun a =>
      "ifconfig ".toList ++ (cidrToIPAndNetmask a).getD "null".toList ++ ['\n']).toList ++
    ((p.mIPv6Address.filter (· ≠ [])).map fun a =>
      "ifconfig-ipv6 ".toList ++ a ++ ['\n']).toList

def routeLines (p : VpnProfile) : List Text :=
  piece (p.mUsePull && p.mRoutenopull) "route-nopull\n".toList ++
  piece p.mUseDefaultRoutev6 "route-ipv6 ::/0\n".toList ++
  (if p.mUseDefaultRoute then ["route 0.0.0.0 0.0.0.0 vpn_gateway\n".toList]
  else
    (getCustomRoutes p.mCustomRoutes).map
      (fun route => "route ".toList ++ route ++ " vpn_gateway\n".toList) ++
    (getCustomRoutes p.mExcludedRoutes).map
      (fun route => "route ".toList ++ route ++ " net_gateway\n".toList)) ++
  if p.mUseDefaultRoutev6 then []
  else (getCustomRoutesv6 p.mCustomRoutesv6).map
    (fun route => "route-ipv6 ".toList ++ route ++ ['\n'])

def dnsLine (dns : Text) : List Text :=
  piece (dns ≠ []) ((if ':' ∈ dns then "dhcp-option DNS6 ".toList
    else "dhcp-option DNS ".toList) ++ dns ++ ['\n'])

def dhcpLines (p : VpnProfile) : List Text :=
  if p.mOverrideDNS || !p.mUsePull then
    dnsLine p.mDNS1 ++ dnsLine p.mDNS2 ++
    piece (p.mSearchDomain ≠ []) ("dhcp-option DOMAIN ".toList ++ p.mSearchDomain ++ ['\n'])
  else []

def linkLines (p : VpnProfile) : List Text :=
  (if p.mMssFix = 0 then []
  else if p.mMssFix = 1450 then ["mssfix\n".toList]
  else ["mssfix ".toList ++ showInt p.mMssFix ++ ['\n']]) ++
  piece (48 ≤ p.mTunMtu && p.mTunMtu ≠ 1500)
    ("tun-mtu ".toList ++ showInt p.mTunMtu ++ ['\n']) ++
  piece p.mNobind "nobind\n".toList

/-- The check of the name, which is that of the first server where no name is given. -/
def nameLines (p : VpnProfile) : Call (List Text) :=
  if p.mRemoteCN = [] then do
    let conn ← arrayGet p.mConnections 0
    return ["verify-x509-name ".toList ++ openVpnEscape conn.mServerName ++ " name\n".toList]
  else
    let name := openVpnEscape p.mRemoteCN
    .ok (match p.mX509AuthType with
      | .tlsremoteCompatNoremapping =>
        ["compat-names no-remapping\n".toList, "tls-remote ".toList ++ name ++ ['\n']]
      | .tlsremote => ["tls-remote ".toList ++ name ++ ['\n']]
      | .tlsremoteRdn => ["verify-x509-name ".toList ++ name ++ " name\n".toList]
      | .tlsremoteRdnPrefix => ["verify-x509-name ".toList ++ name ++ " name-prefix\n".toList]
      | .tlsremoteDn => ["verify-x509-name ".toList ++ name ++ ['\n']])

def usernameFieldLine (p : VpnProfile) : List Text :=
  ((p.mx509UsernameField.filter (· ≠ [])).map fun f =>
    "x509-username-field ".toList ++ openVpnEscape f ++ ['\n']).toList

def peerLines (p : VpnProfile) : Call (List Text) :=
  if p.mAuthenticationType = .statickeys then .ok []
  else if p.mCheckRemoteCN then do
    return (← p.nameLines) ++ p.usernameFieldLine ++
      piece p.mExpectTLSCert "remote-cert-tls server\n".toList
  else .ok (piece p.mExpectTLSCert "remote-cert-tls server\n".toList)

def settingLines (pf : Platform) (p : VpnProfile) : List Text :=
  piece (p.mCipher ≠ []) ("cipher ".toList ++ p.mCipher ++ ['\n']) ++
  piece (p.mAuth ≠ []) ("auth ".toList ++ p.mAuth ++ ['\n']) ++
  piece p.mUseRandomHostname "#my favorite options :)\nremote-random-hostname\n".toList ++
  piece p.mUseFloat "float\n".toList ++
  piece p.mPersistTun ("persist-tun\n".toList ++
    "# persist-tun also enables pre resolving to avoid DNS resolve problem\n".toList ++
    "preresolve\n".toList) ++
  piece p.mPushPeerInfo "push-peer-info\n".toList ++
  piece pf.usesystemproxy "# Use system proxy setting\nmanagement-query-proxy\n".toList

def customLines (p : VpnProfile) : List Text :=
  if p.mUseCustomConfig then
    ["# Custom configuration options\n".toList, "# You are on your on own here :)\n".toList,
     p.mCustomConfigOptions, ['\n']]
  else []

def blocksComment : Text :=
  ("# Connection Options are at the end to allow global options " ++
    "(and global custom options) to influence connection blocks\n").toList

def connectionBlock (conn : Connection) : Text :=
  "<connection>\n".toList ++ conn.getConnectionBlock ++ "</connection>\n".toList

def blockLines (p : VpnProfile) : List Text :=
  if p.canUsePlainRemotes then []
  else blocksComment :: (p.mConnections.filter Connection.mEnabled).map connectionBlock

/-- The pieces of the file, in their order. -/
def configPieces (pf : Platform) (p : VpnProfile) : Call (List Text) := do
  let authentication ← authenticationLines pf p
  let peer ← p.peerLines
  return managementLines pf ++ p.clientLine ++ p.connectRetryLines ++ p.remoteLines ++
    authentication ++ p.keyLines ++ p.addressLines ++ p.routeLines ++ p.dhcpLines ++
    p.linkLines ++ peer ++ settingLines pf p ++ p.customLines ++ p.blockLines

def getConfigFile (pf : Platform) (p : VpnProfile) : Call Text :=
  List.flatten <$> configPieces pf p

end VpnProfile

end BuludTechVPN
