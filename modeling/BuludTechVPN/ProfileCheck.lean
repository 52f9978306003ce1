import BuludTechVPN.ConfigFile

/-!
`VpnProfile.checkProfile`, and what it says about the custom routes in the file that is written.
-/

namespace BuludTechVPN

open JavaLang ParseConfig VpnProfile

/-- What `checkProfile` returns, by the name of the string. -/
inductive CheckResult
  | noKeystoreCertSelected
  | noCaCertSelected
  | deprecatedTlsRemote
  | ipv4FormatError
  | customRouteFormatError
  | missingTlsauth
  | missingCertificates
  | missingCaCertificate
  | remoteNoServerSelected
  | noErrorFound
  deriving DecidableEq, Repr

namespace VpnProfile

/-- `TextUtils.isEmpty`. -/
def isEmpty (t : Option Text) : Bool := t.getD [] = []

def usesKeystore (p : VpnProfile) : Bool :=
  p.mAuthenticationType = .keystore || p.mAuthenticationType = .userpassKeystore

def usesCertificates (p : VpnProfile) : Bool :=
  p.mAuthenticationType = .certificates || p.mAuthenticationType = .userpassCertificates

/-- `checkProfile`. -/
def checkProfile (p : VpnProfile) : CheckResult :=
  if p.usesKeystore && p.mAlias.isNone then .noKeystoreCertSelected
  else if p.usesCertificates && isEmpty p.mCaFilename then .noCaCertSelected
  else if p.mCheckRemoteCN && p.mX509AuthType = .tlsremote then .deprecatedTlsRemote
  else if (!p.mUsePull || p.mAuthenticationType = .statickeys) &&
      (p.mIPv4Address.bind cidrToIPAndNetmask).isNone then .ipv4FormatError
  else if !p.mUseDefaultRoute && !isEmpty p.mCustomRoutes &&
      (getCustomRoutes p.mCustomRoutes).length = 0 then .customRouteFormatError
  else if !p.mUseDefaultRoute && !isEmpty p.mExcludedRoutes &&
      (getCustomRoutes p.mExcludedRoutes).length = 0 then .customRouteFormatError
  else if p.mUseTLSAuth && isEmpty p.mTLSAuthFilename then .missingTlsauth
  else if p.usesCertificates && (isEmpty p.mClientCertFilename || isEmpty p.mClientKeyFilename) then
    .missingCertificates
  else if p.usesCertificates && isEmpty p.mCaFilename then .missingCaCertificate
  else if !p.mConnections.any Connection.mEnabled then .remoteNoServerSelected
  else .noErrorFound

/-- The line of a route: its address and netmask, and the gateway that it goes to. -/
def IsRouteLine (gateway : Text) (route line : Text) : Prop :=
  ∃ cidrroute, cidrToIPAndNetmask route = some cidrroute ∧
    line = "route ".toList ++ cidrroute ++ gateway

/-- The custom routes and then the excluded ones have each a line of their own in the file, in
their order. -/
def RoutesWritten (pf : Platform) (p : VpnProfile) : Prop :=
  ∃ pre custom excluded post,
    configPieces pf p = .ok (pre ++ (custom ++ excluded) ++ post) ∧
      List.Forall₂ (IsRouteLine " vpn_gateway\n".toList) (words (p.mCustomRoutes.getD [])) custom ∧
      List.Forall₂ (IsRouteLine " net_gateway\n".toList) (words (p.mExcludedRoutes.getD []))
        excluded

variable {p : VpnProfile}

/-! ### What a checked profile has -/

/-- The client certificate is taken from the keystore only if there is one. -/
lemma mAlias_of_check (h : p.checkProfile = .noErrorFound) (hk : p.usesKeystore = true) :
    ∃ mAlias, p.mAlias = some mAlias := by
  unfold checkProfile at h
  split_ifs at h with hnone
  rw [hk, Bool.true_and, Option.isNone_iff_eq_none] at hnone
  exact Option.ne_none_iff_exists'.mp hnone

/-- There is a server. -/
lemma mConnections_of_check (h : p.checkProfile = .noErrorFound) :
    ∃ conn conns, p.mConnections = conn :: conns := by
  match hc : p.mConnections with
  | conn :: conns => exact ⟨conn, conns, rfl⟩
  | [] =>
    unfold checkProfile at h
    rw [hc] at h
    split_ifs at h with _ _ _ _ _ _ _ _ hany
    exact absurd rfl hany

/-- **A checked profile is written**: its generator stops at no missing field. -/
theorem configPieces_of_check (pf : Platform) (h : p.checkProfile = .noErrorFound) :
    ∃ pre post, configPieces pf p = .ok (pre ++ p.routeLines ++ post) := by
  have hkeychain : p.usesKeystore = true → ∃ lines, keychainLines pf p = .ok lines := by
    intro hk
    obtain ⟨mAlias, ha⟩ := mAlias_of_check h hk
    unfold keychainLines
    split
    · exact ⟨_, rfl⟩
    · rw [ha]
      split_ifs
      · exact ⟨_, rfl⟩
      · exact ⟨_, rfl⟩
  have hcredentials : ∃ lines, credentialLines pf p = .ok lines := by
    unfold credentialLines
    cases htype : p.mAuthenticationType with
    | keystore | userpassKeystore =>
      simp only
      split_ifs
      · exact ⟨_, rfl⟩
      · exact hkeychain (by simp [usesKeystore, htype])
    | certificates | userpassCertificates | pkcs12 | userpassPkcs12 | userpass | statickeys =>
      exact ⟨_, rfl⟩
  have hname : ∃ lines, p.nameLines = .ok lines := by
    obtain ⟨conn, conns, hc⟩ := mConnections_of_check h
    unfold nameLines
    split_ifs
    · rw [hc]
      exact ⟨_, rfl⟩
    · exact ⟨_, rfl⟩
  have hpeer : ∃ lines, p.peerLines = .ok lines := by
    obtain ⟨lines, hlines⟩ := hname
    unfold peerLines
    split_ifs
    · exact ⟨_, rfl⟩
    · rw [hlines]
      exact ⟨_, rfl⟩
    · exact ⟨_, rfl⟩
  obtain ⟨credentials, hc⟩ := hcredentials
  obtain ⟨peer, hp⟩ := hpeer
  have hauth : ∃ lines, authenticationLines pf p = .ok lines := by
    unfold authenticationLines
    rw [hc]
    exact ⟨_, rfl⟩
  obtain ⟨authentication, ha⟩ := hauth
  refine ⟨managementLines pf ++ p.clientLine ++ p.connectRetryLines ++ p.remoteLines ++
    authentication ++ p.keyLines ++ p.addressLines, p.dhcpLines ++ (p.linkLines ++ (peer ++
    (settingLines pf p ++ (p.customLines ++ p.blockLines)))), ?_⟩
  unfold configPieces
  rw [ha, hp]
  simp only [bind, Except.bind, pure, Except.pure, List.append_assoc]

/-! ### The routes -/

/-- Routes that all have a netmask are kept, one for one. -/
lemma forall₂_netmasks {routes : List Text} (h : ∀ r ∈ routes, (cidrToIPAndNetmask r).isSome) :
    List.Forall₂ (fun r cidrroute => cidrToIPAndNetmask r = some cidrroute) routes
      (netmasks routes) := by
  induction routes with
  | nil => exact .nil
  | cons r routes ih =>
    obtain ⟨cidrroute, hr⟩ := Option.isSome_iff_exists.mp (h r List.mem_cons_self)
    rw [netmasks, hr]
    exact .cons hr (ih fun r hm => h r (List.mem_cons_of_mem _ hm))

/-- The lines that the routes are written as. -/
lemma forall₂_routeLine {routes : List Text} (h : ∀ r ∈ routes, (cidrToIPAndNetmask r).isSome)
    (gateway : Text) : List.Forall₂ (IsRouteLine gateway) routes
      ((netmasks routes).map fun route => "route ".toList ++ route ++ gateway) := by
  rw [List.forall₂_map_right_iff]
  refine (forall₂_netmasks h).imp ?_
  intro r cidrroute hr
  exact ⟨cidrroute, hr, rfl⟩

/-- A route that has a line has a netmask. -/
lemma isSome_of_routeLine {routes lines : List Text} {gateway : Text}
    (h : List.Forall₂ (IsRouteLine gateway) routes lines) :
    ∀ r ∈ routes, (cidrToIPAndNetmask r).isSome := by
  intro r hr
  induction h with
  | nil => cases hr
  | cons hline _ ih =>
    obtain ⟨cidrroute, hc, -⟩ := hline
    rcases List.mem_cons.mp hr with rfl | hr
    · exact Option.isSome_iff_exists.mpr ⟨cidrroute, hc⟩
    · exact ih hr

/-- **The check and the generator** agree exactly on the profiles all of whose routes have a
netmask: the check looks at the first route of a list only. -/
theorem routes_written_iff (pf : Platform) (h : p.checkProfile = .noErrorFound)
    (hroute : p.mUseDefaultRoute = false) :
    RoutesWritten pf p ↔ ∀ r ∈ words (p.mCustomRoutes.getD []) ++ words (p.mExcludedRoutes.getD []),
      (cidrToIPAndNetmask r).isSome := by
  rw [List.forall_mem_append]
  constructor
  · rintro ⟨pre, custom, excluded, post, -, hcustom, hexcluded⟩
    exact ⟨isSome_of_routeLine hcustom, isSome_of_routeLine hexcluded⟩
  · rintro ⟨hcustom, hexcluded⟩
    obtain ⟨pre, post, hpieces⟩ := configPieces_of_check pf h
    obtain ⟨pre', post', hlines⟩ : ∃ pre' post', p.routeLines = pre' ++
        ((netmasks (words (p.mCustomRoutes.getD []))).map
            (fun route => "route ".toList ++ route ++ " vpn_gateway\n".toList) ++
          (netmasks (words (p.mExcludedRoutes.getD []))).map
            (fun route => "route ".toList ++ route ++ " net_gateway\n".toList)) ++ post' := by
      rw [routeLines, hroute, if_neg Bool.false_ne_true]
      exact ⟨_, _, rfl⟩
    refine ⟨pre ++ pre', _, _, post' ++ post, ?_, forall₂_routeLine hcustom _,
      forall₂_routeLine hexcluded _⟩
    rw [hpieces, hlines]
    simp only [List.append_assoc]

/-- A device on which nothing is set. -/
def plainPlatform : Platform where
  configForOvpn3 := false
  cacheDir := "/cache".toList
  versionEnvString := "de.blinkt.openvpn".toList
  versionString := "28".toList
  keyStoreCertificates := none
  keychainAccess := []
  jellyBean := false
  jellyKeystoreAlphanumericBug := []
  usesystemproxy := false

/-- A profile with a password, and these custom routes. -/
def routedProfile (routes : Text) : VpnProfile :=
  { mName := "office".toList, mAuthenticationType := .userpass, mUseDefaultRoute := false,
    mCustomRoutes := some routes }

/-- Two routes that are both written. -/
theorem routes_written_iff_two :
    RoutesWritten plainPlatform (routedProfile "10.0.0.0/8 192.168.1.1".toList) ↔
      ∀ r ∈ words "10.0.0.0/8 192.168.1.1".toList ++ words [], (cidrToIPAndNetmask r).isSome :=
  routes_written_iff plainPlatform (p := routedProfile "10.0.0.0/8 192.168.1.1".toList)
    (by decide) rfl

/-- A slip in one route drops the route behind it, and the check does not see it. -/
theorem route_dropped_unseen : ¬ ∀ (pf : Platform) (p : VpnProfile),
    p.checkProfile = .noErrorFound → p.mUseDefaultRoute = false → RoutesWritten pf p := by
  intro h
  obtain ⟨_, _, _, _, -, hcustom, -⟩ :=
    h plainPlatform (routedProfile "10.0.0.0/8 172.16.0.0/33 192.168.1.1".toList) (by decide) rfl
  have hslip := isSome_of_routeLine hcustom "172.16.0.0/33".toList (by decide)
  exact absurd hslip (by decide)

end VpnProfile

end BuludTechVPN
