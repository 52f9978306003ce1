import BuludTechVPN.RouteList

/-!
`OpenVPNService`: the settings that the management thread collects, and the tun device that is
opened with them.

The fields hold what was pushed since `openTun` last reset them. A cycle is a sequence of
settings, and then either `getTunReopenStatus` lets OpenVPN keep its tun device, or `openTun`
opens one. What the service asks of the phone is a `Device`, and may differ from cycle to
cycle.
-/

namespace BuludTechVPN.Tun

open JavaLang Cidr Space

/-! ### The phone -/

inductive InetAddress
  | inet4
  | inet6 (address : List UInt8)

/-- A local network interface as `getIfconfig` lists it. -/
structure Interface where
  intf : Option Text
  ipAddr : Option Text
  netMask : Option Text

/-- A listed address and its mask are written so that `CIDRIP` reads them. -/
def Interface.Readable (i : Interface) : Prop :=
  ∀ ipAddr netMask, i.ipAddr = some ipAddr → i.netMask = some netMask →
    (∃ c, ofMask ipAddr netMask = .ok c) ∧ ∃ n, getInt ipAddr = .ok n

structure Device where
  sdkInt : ℤ
  release : Text
  brand : Text
  packageName : Text
  /-- The first address of a host name, none if the name is unknown. -/
  getAllByName : Text → Option InetAddress
  getIfconfig : List Interface
  readable : ∀ i ∈ getIfconfig, i.Readable
  queue : PriorityQueue
  /-- The arguments that `addAddress`, `addRoute` and `addDnsServer` do not reject. -/
  acceptsAddress : Text → ℤ → Bool
  acceptsRoute : Text → ℤ → Bool
  acceptsDns : Text → Bool
  isInstalled : Text → Bool
  /-- Whether `establish` returns a descriptor. -/
  establishes : Bool

def lollipop : ℤ := 21

/-- `VpnService.Builder`: what it was told. -/
structure Builder where
  families : Bool := false
  addresses : List (Text × ℤ) := []
  dnsServers : List Text := []
  searchDomains : List Text := []
  routes : List (Text × ℤ) := []
  mtu : Option ℤ := none
  allowed : List Text := []
  disallowed : List Text := []
  session : List Text := []

namespace Builder

variable (d : Device)

def addAddress (b : Builder) (address : Text) (prefixLength : ℤ) : Call Builder :=
  if d.acceptsAddress address prefixLength then
    .ok { b with addresses := b.addresses ++ [(address, prefixLength)] }
  else .error .illegalArgument

def addDnsServer (b : Builder) (dns : Text) : Call Builder :=
  if d.acceptsDns dns then .ok { b with dnsServers := b.dnsServers ++ [dns] }
  else .error .illegalArgument

def addRoute (b : Builder) (address : Text) (prefixLength : ℤ) : Call Builder :=
  if d.acceptsRoute address prefixLength then
    .ok { b with routes := b.routes ++ [(address, prefixLength)] }
  else .error .illegalArgument

def setMtu (b : Builder) (mtu : ℤ) : Call Builder :=
  if mtu ≤ 0 then .error .illegalArgument else .ok { b with mtu := some mtu }

end Builder

/-! ### The service -/

structure VpnProfile where
  mName : Text
  mAllowLocalLAN : Bool
  /-- In the order in which the set is iterated. -/
  mAllowedAppsVpn : List Text
  mAllowedAppsVpnAreDisallowed : Bool

structure Service where
  mProfile : VpnProfile
  mDnslist : List Text
  mRoutes : Routes true
  mRoutesv6 : Routes false
  mLocalIP : Option CIDRIP
  mLocalIPv6 : Option Text
  mDomain : Option Text
  mMtu : ℤ
  mRemoteGW : Option Text
  mLastTunCfg : Option Text

/-- A service to which nothing was pushed yet. -/
def Service.fresh (mProfile : VpnProfile) : Service :=
  ⟨mProfile, [], .empty, .empty, none, none, none, 0, none, none⟩

namespace Service

variable (d : Device) (s : Service)

/-! ### Settings -/

def addDNS (dns : Text) : Service := { s with mDnslist := s.mDnslist ++ [dns] }

def setDomain (domain : Text) : Service :=
  match s.mDomain with
  | none => { s with mDomain := some domain }
  | some _ => s

def isAndroidTunDevice (device : Option Text) : Bool :=
  match device with
  | none => false
  | some device => startsWith device "tun".toList || device = "(null)".toList ||
      device = "vpnservice-tun".toList

def addRoute (dest mask gateway : Text) (device : Option Text) : Call Service := do
  let route ← ofMask dest mask
  let included := isAndroidTunDevice device
  let gatewayIP ← IpAddress.ofCIDRIP ⟨gateway, 32⟩ false
  match s.mLocalIP with
  | none => return s
  | some mLocalIP =>
    let localNet ← IpAddress.ofCIDRIP mLocalIP true
    let included := included || localNet.containsNet gatewayIP ||
      (gateway = "255.255.255.255".toList || some gateway = s.mRemoteGW)
    let (route, _) ← route.normalise
    return { s with mRoutes := ← s.mRoutes.addIP route included }

def addRoutev6 (network : Text) (device : Option Text) : Call Service := do
  let v6parts := splitAt (· = '/') network
  let included := isAndroidTunDevice device
  match d.getAllByName (← arrayGet v6parts 0) with
  | none => return s
  | some .inet4 => .error .classCast
  | some (.inet6 ip) =>
    let mask ← parseInt (← arrayGet v6parts 1)
    return { s with mRoutesv6 := s.mRoutesv6.addIPv6 ip mask included }

/-- The prefix length, where the second argument is no netmask: that of a small net if it is an
address next to the own one. -/
def prefixLength (mLocalIP : CIDRIP) (netmask mode : Text) : Call ℤ := do
  let netMaskAsInt ← getInt netmask
  if mLocalIP.len = 32 ∧ netmask ≠ "255.255.255.255".toList then
    let (masklen, mask) := if mode = "net30".toList then (30, 4) else (31, 2)
    let ip ← getInt mLocalIP.mIp
    return if netMaskAsInt - netMaskAsInt % mask = ip - ip % mask then masklen else 32
  else return mLocalIP.len

/-- Lollipop does not route to the network of the interface by itself. -/
def addInterfaceRoute (mRoutes : Routes true) (mLocalIP : CIDRIP) : Call (Routes true) := do
  if mLocalIP.len ≤ 31 ∧ d.sdkInt ≥ lollipop then
    let (interfaceRoute, _) ← mLocalIP.normalise
    mRoutes.addIP interfaceRoute true
  else return mRoutes

def setLocalIP (loc netmask : Text) (mtu : ℤ) (mode : Text) : Call Service := do
  let mLocalIP ← ofMask loc netmask
  let mLocalIP := { mLocalIP with len := ← prefixLength mLocalIP netmask mode }
  let mRoutes ← addInterfaceRoute d s.mRoutes mLocalIP
  return { s with mLocalIP := some mLocalIP, mMtu := mtu, mRoutes := mRoutes,
                  mRemoteGW := some netmask }

def setLocalIPv6 (ipv6addr : Text) : Service := { s with mLocalIPv6 := some ipv6addr }

end Service

/-- What OpenVPN pushes, with the arguments of the method that takes it. -/
inductive Setting
  | setLocalIP (loc netmask : Text) (mtu : ℤ) (mode : Text)
  | setLocalIPv6 (ipv6addr : Text)
  | addRoute (dest mask gateway : Text) (device : Option Text)
  | addRoutev6 (network : Text) (device : Option Text)
  | addDNS (dns : Text)
  | setDomain (domain : Text)

namespace Service

variable (d : Device) (s : Service)

def push (s : Service) : Setting → Call Service
  | .setLocalIP loc netmask mtu mode => s.setLocalIP d loc netmask mtu mode
  | .setLocalIPv6 ipv6addr => .ok (s.setLocalIPv6 ipv6addr)
  | .addRoute dest mask gateway device => s.addRoute dest mask gateway device
  | .addRoutev6 network device => s.addRoutev6 d network device
  | .addDNS dns => .ok (s.addDNS dns)
  | .setDomain domain => .ok (s.setDomain domain)

/-! ### The configuration as a text -/

/-- `TextUtils.join`. -/
def join (delimiter : Text) (tokens : List Text) : Text := delimiter.intercalate tokens

def bar : Text := "|".toList

def joinNetworks {v : Bool} (routes : Routes v) (included : Bool) : Text :=
  join bar ((routes.getNetworks included).map IpAddress.toString)

def getTunConfigString : Text :=
  "TUNCFG UNQIUE STRING ips:".toList ++
    (s.mLocalIP.elim [] CIDRIP.toString) ++ s.mLocalIPv6.getD [] ++
    "routes: ".toList ++ joinNetworks s.mRoutes true ++ joinNetworks s.mRoutesv6 true ++
    "excl. routes:".toList ++ joinNetworks s.mRoutes false ++ joinNetworks s.mRoutesv6 false ++
    "dns: ".toList ++ join bar s.mDnslist ++
    "domain: ".toList ++ s.mDomain.getD "null".toList ++ "mtu: ".toList ++ showInt s.mMtu

/-- The KitKat releases with the bugs that are worked around. -/
def isOldKitkat : Bool :=
  d.sdkInt = kitkat && !startsWith d.release "4.4.3".toList && !startsWith d.release "4.4.4".toList
    && !startsWith d.release "4.4.5".toList && !startsWith d.release "4.4.6".toList

def getTunReopenStatus : Text :=
  if some s.getTunConfigString = s.mLastTunCfg then "NOACTION".toList
  else if isOldKitkat d then "OPEN_AFTER_CLOSE".toList
  else "OPEN_BEFORE_CLOSE".toList

/-! ### Opening the tun device -/

/-- The body of the loop of `addLocalNetworksToRoutes`. -/
def addLocalNetwork (mAllowLocalLAN : Bool) (mLocalIP : CIDRIP) (mRoutes : Routes true)
    (i : Interface) : Call (Routes true) :=
  match i.intf, i.ipAddr, i.netMask with
  | some intf, some ipAddr, some netMask => do
    if intf = "lo".toList ∨ startsWith intf "tun".toList ∨ startsWith intf "rmnet".toList ∨
        ipAddr = mLocalIP.mIp then
      return mRoutes
    else if d.sdkInt < kitkat ∧ ¬ mAllowLocalLAN then
      mRoutes.addIPSplit (← ofMask ipAddr netMask) true
    else if d.sdkInt ≥ kitkat ∧ mAllowLocalLAN then
      mRoutes.addIP (← ofMask ipAddr netMask) false
    else return mRoutes
  | _, _, _ => .ok mRoutes

def addLocalNetworksToRoutes (mLocalIP : CIDRIP) : Call Service := do
  let mRoutes ← d.getIfconfig.foldlM (addLocalNetwork d s.mProfile.mAllowLocalLAN mLocalIP) s.mRoutes
  return { s with mRoutes := mRoutes }

/-- An exception of the class `IllegalArgumentException`. -/
def isIllegalArgument (e : Abrupt) : Bool := e = .illegalArgument || e = .numberFormat

/-- The IPv6 address and its prefix length. -/
def ipv6parts (mLocalIPv6 : Text) : Call (Text × ℤ) := do
  let ipv6parts := splitAt (· = '/') mLocalIPv6
  return (← arrayGet ipv6parts 0, ← parseInt (← arrayGet ipv6parts 1))

/-- The attempt to add the IPv6 address; where it fails with an `IllegalArgumentException`, none. -/
def addIPv6Address (b : Builder) (mLocalIPv6 : Text) : Call (Option Builder) :=
  match ipv6parts mLocalIPv6 >>= fun a => b.addAddress d a.1 a.2 with
  | .ok b => .ok (some b)
  | .error e => if isIllegalArgument e then .ok none else .error e

/-- `try { .. } catch (IllegalArgumentException)` around one call of the builder. -/
def unlessRejected (b : Builder) (call : Call Builder) : Builder :=
  match call with
  | .ok b => b
  | .error _ => b

/-- The route to the first DNS server that Samsung devices need. -/
def samsungRoute (dns : List Text) (positiveIPv4Routes : List IpAddress) : List IpAddress :=
  match dns with
  | [] => []
  | dns :: _ =>
    match IpAddress.ofCIDRIP ⟨dns, 32⟩ true with
    | .error _ => []
    | .ok dnsServer =>
      if positiveIPv4Routes.any fun net => net.containsNet dnsServer then [] else [dnsServer]

/-- 224.0.0.0/3. -/
def multicastRange : IpAddress := ⟨3758096384, 3, true, true⟩

/-- The routes that the builder is given, in order. -/
def routes : List (Text × ℤ) :=
  let positiveIPv4Routes := s.mRoutes.getPositiveIPList d.sdkInt d.queue
  let positiveIPv6Routes := s.mRoutesv6.getPositiveIPList d.sdkInt d.queue
  let positiveIPv4Routes :=
    if d.brand = "samsung".toList ∧ d.sdkInt ≥ lollipop then
      positiveIPv4Routes ++ samsungRoute s.mDnslist positiveIPv4Routes
    else positiveIPv4Routes
  (positiveIPv4Routes.filter fun route => !multicastRange.containsNet route).map
      (fun route => (route.getIPv4Address, route.networkMask)) ++
    positiveIPv6Routes.map fun route6 => (route6.getIPv6Address, route6.networkMask)

/-- The loop of `setAllowedVpnPackages` over the packages that are still to come. Removing one
makes the iterator fail, unless it was the last. -/
def allowPackages : List Text → VpnProfile × Builder → Call (VpnProfile × Builder)
  | [], pb => .ok pb
  | pkg :: pkgs, (p, b) =>
    if d.isInstalled pkg then
      if p.mAllowedAppsVpnAreDisallowed then
        allowPackages pkgs (p, { b with disallowed := b.disallowed ++ [pkg] })
      else allowPackages pkgs (p, { b with allowed := b.allowed ++ [pkg] })
    else if pkgs = [] then
      .ok ({ p with mAllowedAppsVpn := p.mAllowedAppsVpn.erase pkg }, b)
    else .error .concurrentModification

/-- `setAllowedVpnPackages`, which is only called from Lollipop on. -/
def setAllowedVpnPackages (p : VpnProfile) (b : Builder) : Call (VpnProfile × Builder) := do
  if d.sdkInt ≥ lollipop then
    let (p, b) ← allowPackages d p.mAllowedAppsVpn (p, b)
    if ¬ p.mAllowedAppsVpnAreDisallowed ∧ b.allowed = [] ∧ d.isInstalled d.packageName then
      return (p, { b with allowed := [d.packageName] })
    else return (p, b)
  else return (p, b)

/-- The MTU that the builder is given. -/
def tunMtu : ℤ := if isOldKitkat d ∧ s.mMtu < 1280 then 1280 else s.mMtu

/-- What `openTun` did: the builder on which it called `establish`, none if it returned before,
and whether it returned a descriptor. -/
structure Opened where
  established : Option Builder
  returned : Bool

/-- What follows once the addresses are set. -/
def finishTun (b : Builder) : Call (Service × Opened) := do
  let b := s.mDnslist.foldl (fun b dns => unlessRejected b (b.addDnsServer d dns)) b
  let b ← b.setMtu (s.tunMtu d)
  let b := (s.routes d).foldl (fun b r => unlessRejected b (b.addRoute d r.1 r.2)) b
  let b := { b with searchDomains := s.mDomain.toList }
  -- the log line takes the fields of `mLocalIP` without asking whether it is set
  let mLocalIP ← nonNull s.mLocalIP
  let (p, b) ← setAllowedVpnPackages d s.mProfile b
  let b := { b with session := s.mProfile.mName :: mLocalIP.toString :: s.mLocalIPv6.toList }
  return ({ Service.fresh p with mMtu := s.mMtu, mRemoteGW := s.mRemoteGW,
                                 mLastTunCfg := some s.getTunConfigString }, ⟨some b, d.establishes⟩)

/-- The local networks are added if there is an IPv4 address. -/
def withLocalNetworks : Call Service :=
  match s.mLocalIP with
  | none => .ok s
  | some mLocalIP => s.addLocalNetworksToRoutes d mLocalIP

/-- The builder with the local addresses, none where it rejects one. -/
def addAddresses (b : Builder) : Call (Option Builder) :=
  let withIPv4 : Option Builder :=
    match s.mLocalIP with
    | none => some b
    | some mLocalIP => (b.addAddress d mLocalIP.mIp mLocalIP.len).toOption
  match withIPv4, s.mLocalIPv6 with
  | none, _ => .ok none
  | some b, none => .ok (some b)
  | some b, some mLocalIPv6 => addIPv6Address d b mLocalIPv6

def openTun : Call (Service × Opened) := do
  let b : Builder := { families := d.sdkInt ≥ lollipop ∧ s.mProfile.mAllowLocalLAN }
  if s.mLocalIP = none ∧ s.mLocalIPv6 = none then return (s, ⟨none, false⟩)
  else
    let s ← s.withLocalNetworks d
    match ← s.addAddresses d b with
    | none => return (s, ⟨none, false⟩)
    | some b => s.finishTun d b

end Service

end BuludTechVPN.Tun
