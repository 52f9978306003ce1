import BuludTechVPN.ParseConfig

/-!
`VpnProfile` and `Connection`: what an import stores, and the texts a stored file or argument
is written as.
-/

namespace BuludTechVPN

open JavaLang ParseConfig

/-- `VpnProfile.mAuthenticationType`. -/
inductive AuthenticationType
  | certificates
  | pkcs12
  | keystore
  | userpass
  | statickeys
  | userpassCertificates
  | userpassPkcs12
  | userpassKeystore
  deriving DecidableEq, Repr

/-- The value of the constant. -/
def AuthenticationType.value : AuthenticationType → ℕ
  | certificates => 0
  | pkcs12 => 1
  | keystore => 2
  | userpass => 3
  | statickeys => 4
  | userpassCertificates => 5
  | userpassPkcs12 => 6
  | userpassKeystore => 7

/-- `VpnProfile.mX509AuthType`. -/
inductive X509Verify
  | tlsremote
  | tlsremoteCompatNoremapping
  | tlsremoteDn
  | tlsremoteRdn
  | tlsremoteRdnPrefix
  deriving DecidableEq, Repr

/-- `VpnProfile.mAuthRetry`. -/
inductive AuthRetry
  | noneForget
  | noneKeep
  | nointeract
  | interact
  deriving DecidableEq, Repr

/-- The value of the constant. -/
def AuthRetry.value : AuthRetry → ℕ
  | noneForget => 0
  | noneKeep => 1
  | nointeract => 2
  | interact => 3

structure Connection where
  mServerName : Text := "openvpn.example.com".toList
  mServerPort : Text := "1194".toList
  mUseUdp : Bool := true
  mCustomConfiguration : Text := []
  mUseCustomConfig : Bool := false
  mEnabled : Bool := true
  mConnectTimeout : ℤ := 0
  deriving DecidableEq, Repr

structure VpnProfile where
  mAuthenticationType : AuthenticationType := .keystore
  mName : Text
  mAlias : Option Text := none
  mClientCertFilename : Option Text := none
  mTLSAuthDirection : Text := []
  mTLSAuthFilename : Option Text := none
  mClientKeyFilename : Option Text := none
  mCaFilename : Option Text := none
  mUseLzo : Bool := true
  mPKCS12Filename : Option Text := none
  mUseTLSAuth : Bool := false
  mDNS1 : Text := "8.8.8.8".toList
  mDNS2 : Text := "8.8.4.4".toList
  mIPv4Address : Option Text := none
  mIPv6Address : Option Text := none
  mOverrideDNS : Bool := false
  mSearchDomain : Text := "blinkt.de".toList
  mUseDefaultRoute : Bool := true
  mUsePull : Bool := true
  mCustomRoutes : Option Text := none
  mCheckRemoteCN : Bool := true
  mExpectTLSCert : Bool := false
  mRemoteCN : Text := []
  mPassword : Text := []
  mUsername : Option Text := some []
  mRoutenopull : Bool := false
  mUseRandomHostname : Bool := false
  mUseFloat : Bool := false
  mUseCustomConfig : Bool := false
  mCustomConfigOptions : Text := []
  mVerb : Text := "1".toList
  mCipher : Text := []
  mNobind : Bool := false
  mUseDefaultRoutev6 : Bool := true
  mCustomRoutesv6 : Text := []
  mPersistTun : Bool := false
  mConnectRetryMax : Text := "-1".toList
  mConnectRetry : Text := "2".toList
  mConnectRetryMaxTime : Text := "300".toList
  mAuth : Text := []
  mX509AuthType : X509Verify := .tlsremoteRdn
  mx509UsernameField : Option Text := none
  mAllowLocalLAN : Bool := false
  mExcludedRoutes : Option Text := none
  mMssFix : ℤ := 0
  mConnections : List Connection := [{}]
  mRemoteRandom : Bool := false
  mCrlFilename : Option Text := none
  mAuthRetry : AuthRetry := .noneForget
  mTunMtu : ℤ := 0
  mPushPeerInfo : Bool := false
  mServerName : Text := "openvpn.example.com".toList
  deriving DecidableEq, Repr

namespace VpnProfile

/-- `new VpnProfile(name)`. -/
def new (name : Text) : VpnProfile := { mName := name }

def clearDefaults (np : VpnProfile) : VpnProfile :=
  { np with
    mServerName := "unknown".toList
    mUsePull := false
    mUseLzo := false
    mUseDefaultRoute := false
    mUseDefaultRoutev6 := false
    mExpectTLSCert := false
    mCheckRemoteCN := false
    mPersistTun := false
    mAllowLocalLAN := true
    mPushPeerInfo := false
    mMssFix := 0 }

/-! ### Arguments and files in a configuration -/

/-- The text between the quotes of an escaped argument. -/
def escapeChars (unescaped : Text) : Text :=
  replaceChar (replaceChar (replaceChar unescaped '\\' "\\\\".toList) '"' "\\\"".toList)
    '\n' "\\n".toList

def openVpnEscape (unescaped : Text) : Text :=
  let escapedString := escapeChars unescaped
  if escapedString = unescaped ∧ ' ' ∉ escapedString ∧ '#' ∉ escapedString ∧
      ';' ∉ escapedString ∧ escapedString ≠ [] then unescaped
  else '"' :: escapedString ++ ['"']

/-- `VpnProfile.DISPLAYNAME_TAG`. -/
def displaynameTag : Text := "[[NAME]]".toList

def isEmbedded (data : Text) : Bool := startsWith data inlineTag || startsWith data displaynameTag

/-- What follows the first `INLINE_TAG`. -/
def getEmbeddedContent (data : Text) : Text :=
  match data.tails.find? (startsWith · inlineTag) with
  | some t => t.drop inlineTag.length
  | none => data

def fileMissing : Text := " file missing in config profile\n".toList

/-- An inline file between its tags. -/
def inlineBlock (cfgentry content : Text) : Text :=
  '<' :: cfgentry ++ ">\n".toList ++ content ++ "\n".toList ++ endtag cfgentry ++ "\n".toList

def insertFileData (cfgentry : Text) : Option Text → Text
  | none => cfgentry ++ fileMissing
  | some filedata =>
    if isEmbedded filedata then inlineBlock cfgentry (getEmbeddedContent filedata)
    else cfgentry ++ ' ' :: openVpnEscape filedata ++ ['\n']

end VpnProfile

end BuludTechVPN
