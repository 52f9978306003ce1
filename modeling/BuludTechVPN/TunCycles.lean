import BuludTechVPN.TunConfig

/-!
Cycles of settings and tun devices.

Between two cycles the fields for the settings should be empty again. Only `openTun` resets
them, and only if it comes as far as that; a cycle that ends in any other way leaves its
settings to the next one.
-/

namespace BuludTechVPN.Tun

open JavaLang Cidr Space

variable {d : Device} {s t u f : Service} {settings : List Setting} {p : VpnProfile}

/-! ### Runs -/

/-- How a cycle ends: OpenVPN keeps its tun device, or asks for a new one. -/
inductive Exit
  | noAction
  | openTun

def Service.pushAll (d : Device) (s : Service) (settings : List Setting) : Call Service :=
  settings.foldlM (fun s x => s.push d x) s

/-- The states between the cycles of a run all of whose cycles end as `C` allows. -/
inductive Reaches (C : Device → Service → Exit → Prop) (p : VpnProfile) : Service → Prop
  | start : Reaches C p (.fresh p)
  | noAction {d : Device} {s t : Service} {settings : List Setting} (h : Reaches C p s)
      (hpush : s.pushAll d settings = .ok t) (hc : C d t .noAction)
      (hstatus : t.getTunReopenStatus d = "NOACTION".toList) : Reaches C p t
  | openTun {d : Device} {s t u : Service} {o : Service.Opened} {settings : List Setting}
      (h : Reaches C p s) (hpush : s.pushAll d settings = .ok t) (hc : C d t .openTun)
      (hopen : t.openTun d = .ok (u, o)) : Reaches C p u

/-! ### What the builder is given -/

/-- What the claims about a tun device are about. -/
structure Given where
  addresses : List (Text × ℤ)
  dnsServers : List Text
  searchDomains : List Text
  routes : List (Text × ℤ)

def Builder.given (b : Builder) : Given := ⟨b.addresses, b.dnsServers, b.searchDomains, b.routes⟩

/-- What the settings in the fields ask for, less what the builder rejects. -/
def Service.given (d : Device) (s : Service) : Given where
  addresses := (s.mLocalIP.toList.map fun ip => (ip.mIp, ip.len)) ++
    s.mLocalIPv6.toList.flatMap fun ip => (Service.ipv6parts ip).toOption.toList
  dnsServers := s.mDnslist.filter d.acceptsDns
  searchDomains := s.mDomain.toList
  routes := (s.routes d).filter fun r => d.acceptsRoute r.1 r.2

/-- No setting is stored. -/
structure Service.Unset (s : Service) : Prop where
  mDnslist : s.mDnslist = []
  mRoutes : s.mRoutes = .empty
  mRoutesv6 : s.mRoutesv6 = .empty
  mLocalIP : s.mLocalIP = none
  mLocalIPv6 : s.mLocalIPv6 = none
  mDomain : s.mDomain = none

/-- `openTun` has what it needs to come to its end. -/
structure Opens (d : Device) (t : Service) : Prop where
  ip : ∃ ip, t.mLocalIP = some ip ∧ d.acceptsAddress ip.mIp ip.len = true
  ip6 : ∀ ip6, t.mLocalIPv6 = some ip6 →
    ∃ a, Service.ipv6parts ip6 = .ok a ∧ d.acceptsAddress a.1 a.2 = true
  mtu : 0 < t.tunMtu d
  apps : d.sdkInt ≥ lollipop → ∀ pkg ∈ t.mProfile.mAllowedAppsVpn.dropLast, d.isInstalled pkg = true

/-- The cycle does not leave settings behind. -/
def Harmless (d : Device) (t : Service) : Exit → Prop
  | .noAction => t.Unset
  | .openTun => t.Unset ∨ Opens d t

/-! ### Equal settings -/

/-- Two services hold the same settings. Their MTU and their remote gateway are only settings
once there is an IPv4 address, with which they are set. -/
structure Agree (s f : Service) : Prop where
  mProfile : s.mProfile = f.mProfile
  mDnslist : s.mDnslist = f.mDnslist
  mRoutes : s.mRoutes = f.mRoutes
  mRoutesv6 : s.mRoutesv6 = f.mRoutesv6
  mLocalIP : s.mLocalIP = f.mLocalIP
  mLocalIPv6 : s.mLocalIPv6 = f.mLocalIPv6
  mDomain : s.mDomain = f.mDomain
  mRemoteGW : s.mLocalIP ≠ none → s.mRemoteGW = f.mRemoteGW

lemma Service.Unset.agree (h : s.Unset) : Agree s (.fresh s.mProfile) where
  mProfile := rfl
  mDnslist := h.mDnslist
  mRoutes := h.mRoutes
  mRoutesv6 := h.mRoutesv6
  mLocalIP := h.mLocalIP
  mLocalIPv6 := h.mLocalIPv6
  mDomain := h.mDomain
  mRemoteGW hne := absurd h.mLocalIP hne

lemma Agree.setDomain (h : Agree s f) (domain : Text) :
    Agree (s.setDomain domain) (f.setDomain domain) := by
  unfold Service.setDomain
  rw [← h.mDomain]
  cases s.mDomain with
  | none => exact ⟨h.mProfile, h.mDnslist, h.mRoutes, h.mRoutesv6, h.mLocalIP, h.mLocalIPv6, rfl,
      h.mRemoteGW⟩
  | some _ => exact h

lemma Agree.setLocalIP {loc netmask mode : Text} {mtu : ℤ} (h : Agree s f)
    (hp : s.setLocalIP d loc netmask mtu mode = .ok t) :
    ∃ t', f.setLocalIP d loc netmask mtu mode = .ok t' ∧ Agree t t' := by
  unfold Service.setLocalIP at hp ⊢
  simp only [bind_eq_ok] at hp ⊢
  obtain ⟨ip, hip, len, hlen, routes, hroutes, ht⟩ := hp
  cases ht
  exact ⟨_, ⟨ip, hip, len, hlen, routes, h.mRoutes ▸ hroutes, rfl⟩,
    ⟨h.mProfile, h.mDnslist, rfl, h.mRoutesv6, rfl, h.mLocalIPv6, h.mDomain, fun _ => rfl⟩⟩

lemma Agree.addRoute {dest mask gateway : Text} {device : Option Text} (h : Agree s f)
    (hp : s.addRoute dest mask gateway device = .ok t) :
    ∃ t', f.addRoute dest mask gateway device = .ok t' ∧ Agree t t' := by
  unfold Service.addRoute at hp ⊢
  simp only [bind_eq_ok] at hp ⊢
  obtain ⟨route, hroute, gatewayIP, hgw, hp⟩ := hp
  rw [← h.mLocalIP]
  cases hip : s.mLocalIP with
  | none =>
    rw [hip] at hp
    cases hp
    exact ⟨f, ⟨route, hroute, gatewayIP, hgw, rfl⟩, h⟩
  | some ip =>
    have hgw' := h.mRemoteGW (by simp [hip])
    simp only [hip, bind_eq_ok] at hp
    obtain ⟨localNet, hnet, ⟨route', b⟩, hnorm, routes, hroutes, ht⟩ := hp
    cases ht
    refine ⟨{ f with mRoutes := routes, mLocalIP := some ip },
      ⟨route, hroute, gatewayIP, hgw, ?_⟩, ⟨h.mProfile, h.mDnslist, rfl, h.mRoutesv6, rfl, h.mLocalIPv6, h.mDomain,
        fun _ => hgw'⟩⟩
    rw [hgw', h.mRoutes] at hroutes
    simp only [bind_eq_ok]
    exact ⟨localNet, hnet, (route', b), hnorm, routes, hroutes, rfl⟩

lemma Agree.addRoutev6 {network : Text} {device : Option Text} (h : Agree s f)
    (hp : s.addRoutev6 d network device = .ok t) :
    ∃ t', f.addRoutev6 d network device = .ok t' ∧ Agree t t' := by
  unfold Service.addRoutev6 at hp ⊢
  simp only [bind_eq_ok] at hp ⊢
  obtain ⟨host, hhost, hp⟩ := hp
  cases hname : d.getAllByName host with
  | none =>
    rw [hname] at hp
    cases hp
    exact ⟨f, ⟨host, hhost, by rw [hname]; rfl⟩, h⟩
  | some a =>
    cases a with
    | inet4 => simp [hname] at hp
    | inet6 ip =>
      simp only [hname, bind_eq_ok] at hp
      obtain ⟨part, hpart, mask, hmask, ht⟩ := hp
      cases ht
      refine ⟨{ f with mRoutesv6 := f.mRoutesv6.addIPv6 ip mask (Service.isAndroidTunDevice device) },
        ⟨host, hhost, ?_⟩, ⟨h.mProfile, h.mDnslist, h.mRoutes, by rw [h.mRoutesv6], h.mLocalIP,
          h.mLocalIPv6, h.mDomain, h.mRemoteGW⟩⟩
      simp only [hname, bind_eq_ok]
      exact ⟨part, hpart, mask, hmask, rfl⟩

/-- **One setting**: services that agree take it alike and agree again. -/
theorem Agree.push {x : Setting} (h : Agree s f) (hp : s.push d x = .ok t) :
    ∃ t', f.push d x = .ok t' ∧ Agree t t' := by
  cases x with
  | setLocalIP loc netmask mtu mode => exact h.setLocalIP hp
  | addRoute dest mask gateway device => exact h.addRoute hp
  | addRoutev6 network device => exact h.addRoutev6 hp
  | setLocalIPv6 ipv6addr =>
    cases hp
    exact ⟨_, rfl, h.mProfile, h.mDnslist, h.mRoutes, h.mRoutesv6, h.mLocalIP, rfl, h.mDomain,
      h.mRemoteGW⟩
  | addDNS dns =>
    cases hp
    exact ⟨_, rfl, h.mProfile, by simp [Service.addDNS, h.mDnslist], h.mRoutes, h.mRoutesv6,
      h.mLocalIP, h.mLocalIPv6, h.mDomain, h.mRemoteGW⟩
  | setDomain domain =>
    cases hp
    exact ⟨_, rfl, h.setDomain domain⟩

theorem Agree.pushAll (h : Agree s f) (hp : s.pushAll d settings = .ok t) :
    ∃ t', f.pushAll d settings = .ok t' ∧ Agree t t' := by
  unfold Service.pushAll at hp ⊢
  induction settings generalizing s f with
  | nil => cases hp; exact ⟨f, rfl, h⟩
  | cons x settings ih =>
    rw [List.foldlM_cons, bind_eq_ok] at hp
    obtain ⟨s', hx, hp⟩ := hp
    obtain ⟨f', hf, hag⟩ := h.push hx
    obtain ⟨t', ht, hag'⟩ := ih hag hp
    exact ⟨t', by rw [List.foldlM_cons, hf]; exact ht, hag'⟩

/-! ### Opening the tun device -/

lemma addLocalNetwork_ok {i : Interface} (hi : i.Readable) (lan : Bool) (ip : CIDRIP)
    (routes : Routes true) : ∃ r, Service.addLocalNetwork d lan ip routes i = .ok r := by
  unfold Service.addLocalNetwork
  split
  · next intf ipAddr netMask _ hip hmask =>
    obtain ⟨⟨c, hc⟩, n, hn⟩ := hi ipAddr netMask hip hmask
    have hn' : getInt c.mIp = .ok n := by rw [ofMask_mIp hc, hn]
    split_ifs
    · exact ⟨routes, rfl⟩
    · rw [hc]
      exact ⟨_, bind_eq_ok.mpr ⟨c, rfl, bind_eq_ok.mpr ⟨n, hn', rfl⟩⟩⟩
    · rw [hc]
      exact ⟨_, bind_eq_ok.mpr ⟨c, rfl, bind_eq_ok.mpr ⟨n, hn', rfl⟩⟩⟩
    · exact ⟨routes, rfl⟩
  · exact ⟨routes, rfl⟩

/-- The local networks are added without an exception, and nothing else changes. -/
lemma withLocalNetworks_ok (d : Device) (s : Service) :
    ∃ routes, s.withLocalNetworks d = .ok { s with mRoutes := routes } := by
  unfold Service.withLocalNetworks
  split
  · exact ⟨s.mRoutes, rfl⟩
  · next ip hip =>
    have key : ∀ (is : List Interface) (routes : Routes true), (∀ i ∈ is, i.Readable) →
        ∃ r, is.foldlM (Service.addLocalNetwork d s.mProfile.mAllowLocalLAN ip) routes = .ok r := by
      intro is
      induction is with
      | nil => exact fun routes _ => ⟨routes, rfl⟩
      | cons i is ih =>
        intro routes hr
        obtain ⟨r, h⟩ := addLocalNetwork_ok (d := d) (hr i List.mem_cons_self)
          s.mProfile.mAllowLocalLAN ip routes
        obtain ⟨r', h'⟩ := ih r fun j hj => hr j (List.mem_cons_of_mem _ hj)
        exact ⟨r', by rw [List.foldlM_cons, h]; exact h'⟩
    obtain ⟨routes, h⟩ := key d.getIfconfig s.mRoutes d.readable
    exact ⟨routes, bind_eq_ok.mpr ⟨routes, h, rfl⟩⟩

/-- Services that agree ask for the same, local networks included. -/
lemma Agree.given (h : Agree s f) (hs : s.withLocalNetworks d = .ok t) :
    ∃ t', f.withLocalNetworks d = .ok t' ∧ t'.given d = t.given d := by
  have hroutes : ∀ routes, ({ s with mRoutes := routes } : Service).given d =
      ({ f with mRoutes := routes } : Service).given d := fun routes => by
    simp only [Service.given, Service.routes, h.mLocalIP, h.mLocalIPv6, h.mDnslist, h.mDomain,
      h.mRoutesv6]
  unfold Service.withLocalNetworks at hs ⊢
  rw [← h.mLocalIP]
  cases hip : s.mLocalIP with
  | none =>
    rw [hip] at hs
    cases hs
    refine ⟨f, rfl, ?_⟩
    have := hroutes s.mRoutes
    conv at this => rhs; rw [h.mRoutes]
    exact this.symm
  | some ip =>
    rw [hip] at hs
    unfold Service.addLocalNetworksToRoutes at hs ⊢
    simp only [bind_eq_ok] at hs ⊢
    obtain ⟨routes, hr, ht⟩ := hs
    cases ht
    rw [h.mProfile, h.mRoutes] at hr
    exact ⟨_, ⟨routes, hr, rfl⟩, (hroutes routes).symm⟩

lemma foldl_addDnsServer (l : List Text) (b : Builder) :
    l.foldl (fun b dns => Service.unlessRejected b (b.addDnsServer d dns)) b =
      { b with dnsServers := b.dnsServers ++ l.filter d.acceptsDns } := by
  induction l generalizing b with
  | nil => simp
  | cons dns l ih =>
    rw [List.foldl_cons, ih, List.filter_cons]
    unfold Builder.addDnsServer
    split_ifs <;> simp [Service.unlessRejected]

lemma foldl_addRoute (l : List (Text × ℤ)) (b : Builder) :
    l.foldl (fun b r => Service.unlessRejected b (b.addRoute d r.1 r.2)) b =
      { b with routes := b.routes ++ l.filter fun r => d.acceptsRoute r.1 r.2 } := by
  induction l generalizing b with
  | nil => simp
  | cons r l ih =>
    rw [List.foldl_cons, ih, List.filter_cons]
    unfold Builder.addRoute
    split_ifs <;> simp [Service.unlessRejected]

/-- The packages are no part of what is given, and if only the last one is missing, the loop
over them ends. -/
lemma allowPackages_ok (pkgs : List Text) (h : ∀ pkg ∈ pkgs.dropLast, d.isInstalled pkg = true)
    (p : VpnProfile) (b : Builder) :
    ∃ q b', Service.allowPackages d pkgs (p, b) = .ok (q, b') ∧ b'.given = b.given := by
  induction pkgs generalizing p b with
  | nil => exact ⟨p, b, rfl, rfl⟩
  | cons pkg pkgs ih =>
    rw [Service.allowPackages]
    by_cases hi : d.isInstalled pkg = true
    · have h' : ∀ x ∈ pkgs.dropLast, d.isInstalled x = true := fun x hx =>
        h x (by cases pkgs with
          | nil => simp at hx
          | cons y l => exact List.mem_cons_of_mem _ hx)
      rw [if_pos hi]
      split_ifs <;> exact ih h' _ _
    · cases pkgs with
      | nil => exact ⟨_, _, by rw [if_neg hi, if_pos rfl], rfl⟩
      | cons y l => exact absurd (h pkg (by simp)) hi

lemma setAllowedVpnPackages_ok (p : VpnProfile) (b : Builder) (h : d.sdkInt ≥ lollipop →
    ∀ pkg ∈ p.mAllowedAppsVpn.dropLast, d.isInstalled pkg = true) :
    ∃ q b', Service.setAllowedVpnPackages d p b = .ok (q, b') ∧ b'.given = b.given := by
  unfold Service.setAllowedVpnPackages
  split_ifs with hsdk
  · obtain ⟨q, b', hp, hb⟩ := allowPackages_ok p.mAllowedAppsVpn (h hsdk) p b
    rw [hp]
    simp only [bind_eq_ok]
    by_cases hself : ¬ q.mAllowedAppsVpnAreDisallowed = true ∧ b'.allowed = [] ∧
        d.isInstalled d.packageName = true
    · exact ⟨q, { b' with allowed := [d.packageName] }, ⟨_, rfl, by rw [if_pos hself]; rfl⟩, hb⟩
    · exact ⟨q, b', ⟨_, rfl, by rw [if_neg hself]; rfl⟩, hb⟩
  · exact ⟨p, b, rfl, rfl⟩

/-- **The end of `openTun`**: with the addresses set it reaches `establish`, gives the builder
what the fields ask for, and resets them. -/
lemma finishTun_ok {ip : CIDRIP} (hip : s.mLocalIP = some ip) (hmtu : 0 < s.tunMtu d)
    (happs : d.sdkInt ≥ lollipop → ∀ pkg ∈ s.mProfile.mAllowedAppsVpn.dropLast,
      d.isInstalled pkg = true) {b : Builder} (hdns : b.dnsServers = []) (hroutes : b.routes = []) :
    ∃ u b', s.finishTun d b = .ok (u, ⟨some b', d.establishes⟩) ∧ u.Unset ∧
      b'.given = { s.given d with addresses := b.addresses } := by
  unfold Service.finishTun
  simp only [foldl_addDnsServer, foldl_addRoute, Builder.setMtu, if_neg (not_le.mpr hmtu), hip,
    bind_eq_ok]
  obtain ⟨q, b', hp, hb⟩ := setAllowedVpnPackages_ok (d := d) s.mProfile
    ⟨b.families, b.addresses, b.dnsServers ++ s.mDnslist.filter d.acceptsDns, s.mDomain.toList,
      b.routes ++ (s.routes d).filter fun r => d.acceptsRoute r.1 r.2, some (s.tunMtu d), b.allowed,
      b.disallowed, b.session⟩ happs
  refine ⟨_, _, ⟨_, rfl, ip, rfl, (q, b'), hp, rfl⟩, ⟨rfl, rfl, rfl, rfl, rfl, rfl⟩, ?_⟩
  refine hb.trans ?_
  simp [Builder.given, Service.given, hdns, hroutes]

lemma addAddresses_ok {ip : CIDRIP} (hip : s.mLocalIP = some ip)
    (hacc : d.acceptsAddress ip.mIp ip.len = true)
    (hip6 : ∀ ip6, s.mLocalIPv6 = some ip6 →
      ∃ a, Service.ipv6parts ip6 = .ok a ∧ d.acceptsAddress a.1 a.2 = true) (b : Builder) :
    s.addAddresses d b = .ok (some { b with addresses := b.addresses ++ (s.given d).addresses }) := by
  have h4 : b.addAddress d ip.mIp ip.len =
      .ok { b with addresses := b.addresses ++ [(ip.mIp, ip.len)] } := by
    simp [Builder.addAddress, hacc]
  unfold Service.addAddresses
  simp only [hip, h4, Except.toOption]
  cases h6 : s.mLocalIPv6 with
  | none => simp [Service.given, hip, h6]
  | some ip6 =>
    obtain ⟨a, ha, hacc6⟩ := hip6 ip6 h6
    simp [Service.addIPv6Address, ha, Builder.addAddress, hacc6, Service.given, hip, h6, bind,
      Except.bind, Except.toOption]

/-- `openTun` on a service that has what it needs. -/
theorem openTun_of_opens (h : Opens d t) : ∃ l u b, t.withLocalNetworks d = .ok l ∧
    t.openTun d = .ok (u, ⟨some b, d.establishes⟩) ∧ u.Unset ∧ b.given = l.given d := by
  obtain ⟨ip, hip, hacc⟩ := h.ip
  obtain ⟨routes, hl⟩ := withLocalNetworks_ok d t
  have hne : ¬ (t.mLocalIP = none ∧ t.mLocalIPv6 = none) := by simp [hip]
  -- the local networks only change the routes
  have hfin := fun b => finishTun_ok (d := d) (s := { t with mRoutes := routes }) hip h.mtu h.apps
    (b := b)
  have hadd := addAddresses_ok (d := d) (s := { t with mRoutes := routes }) hip hacc h.ip6
  obtain ⟨u, b, hb, hu, hgiven⟩ := hfin
    { families := d.sdkInt ≥ lollipop ∧ t.mProfile.mAllowLocalLAN,
      addresses := (({ t with mRoutes := routes } : Service).given d).addresses } rfl rfl
  refine ⟨_, u, b, hl, ?_, hu, hgiven⟩
  unfold Service.openTun
  simp only [if_neg hne, bind_eq_ok]
  exact ⟨_, hl, _, hadd _, hb⟩

lemma allowPackages_eq_ok {pkgs : List Text} {pb r : VpnProfile × Builder}
    (h : Service.allowPackages d pkgs pb = .ok r) :
    ∀ pkg ∈ pkgs.dropLast, d.isInstalled pkg = true := by
  induction pkgs generalizing pb with
  | nil => simp
  | cons pkg pkgs ih =>
    obtain ⟨p, b⟩ := pb
    rw [Service.allowPackages] at h
    cases pkgs with
    | nil => simp
    | cons y l =>
      by_cases hi : d.isInstalled pkg = true
      · have h' : ∀ x ∈ (y :: l).dropLast, d.isInstalled x = true := by
          rw [if_pos hi] at h
          split_ifs at h <;> exact ih h
        intro x hx
        rcases List.mem_cons.mp hx with rfl | hx
        · exact hi
        · exact h' x hx
      · simp [hi] at h

lemma finishTun_eq_ok {b : Builder} {o : Service.Opened} (h : s.finishTun d b = .ok (u, o)) :
    0 < s.tunMtu d ∧ s.mLocalIP ≠ none ∧ (d.sdkInt ≥ lollipop →
      ∀ pkg ∈ s.mProfile.mAllowedAppsVpn.dropLast, d.isInstalled pkg = true) := by
  unfold Service.finishTun at h
  simp only [foldl_addDnsServer, foldl_addRoute, bind_eq_ok] at h
  obtain ⟨b', hmtu, ip, hip, ⟨q, b''⟩, happs, -⟩ := h
  refine ⟨?_, fun hn => by simp [hn, nonNull] at hip, fun hsdk => ?_⟩
  · unfold Builder.setMtu at hmtu
    split_ifs at hmtu with h0
    exact not_le.mp h0
  · unfold Service.setAllowedVpnPackages at happs
    rw [if_pos hsdk, bind_eq_ok] at happs
    obtain ⟨r, hr, -⟩ := happs
    exact allowPackages_eq_ok hr

lemma addAddresses_eq_some {ip : CIDRIP} {b b' : Builder} (hip : s.mLocalIP = some ip)
    (h : s.addAddresses d b = .ok (some b')) : d.acceptsAddress ip.mIp ip.len = true ∧
      ∀ ip6, s.mLocalIPv6 = some ip6 →
        ∃ a, Service.ipv6parts ip6 = .ok a ∧ d.acceptsAddress a.1 a.2 = true := by
  unfold Service.addAddresses at h
  simp only [hip, Builder.addAddress] at h
  by_cases hacc : d.acceptsAddress ip.mIp ip.len = true
  · refine ⟨hacc, fun ip6 hip6 => ?_⟩
    simp only [hacc, hip6, Except.toOption, if_true] at h
    unfold Service.addIPv6Address at h
    split at h
    · next b₁ hb =>
      obtain ⟨a, ha, hadd⟩ := bind_eq_ok.mp hb
      refine ⟨a, ha, ?_⟩
      unfold Builder.addAddress at hadd
      split_ifs at hadd with hacc6
      exact hacc6
    · split_ifs at h
      cases h
  · simp [hacc, Except.toOption] at h

/-- **When a device is opened**: `openTun` reaches `establish` exactly if there is an IPv4
address, both addresses are accepted, the MTU is positive, and no package is missing but the
last. -/
theorem establishes_iff : (∃ u b r, t.openTun d = .ok (u, ⟨some b, r⟩)) ↔ Opens d t := by
  constructor
  · rintro ⟨u, b, r, h⟩
    obtain ⟨routes, hl⟩ := withLocalNetworks_ok d t
    unfold Service.openTun at h
    split_ifs at h with hnone
    · cases h
    · simp only [bind_eq_ok, hl, Except.ok.injEq, exists_eq_left'] at h
      obtain ⟨ob, hadd, h⟩ := h
      cases ob with
      | none => cases h
      | some b₁ =>
        obtain ⟨hmtu, hip, happs⟩ := finishTun_eq_ok h
        obtain ⟨ip, hip⟩ := Option.ne_none_iff_exists'.mp hip
        obtain ⟨hacc, hip6⟩ := addAddresses_eq_some hip hadd
        exact ⟨⟨ip, hip, hacc⟩, hip6, hmtu, happs⟩
  · intro h
    obtain ⟨l, u, b, -, hok, -⟩ := openTun_of_opens h
    exact ⟨u, b, d.establishes, hok⟩

/-- Without an address `openTun` returns at once. -/
lemma openTun_of_unset (h : t.Unset) : t.openTun d = .ok (t, ⟨none, false⟩) := by
  unfold Service.openTun
  rw [if_pos ⟨h.mLocalIP, h.mLocalIPv6⟩]
  rfl

/-! ### The runs -/

/-- **Nothing is left**: after harmless cycles no setting is stored. -/
theorem unset_of_reaches (h : Reaches Harmless p s) : s.Unset := by
  induction h with
  | start => exact ⟨rfl, rfl, rfl, rfl, rfl, rfl⟩
  | noAction _ _ hc => exact hc
  | openTun _ _ hc hopen =>
    rcases hc with hc | hc
    · rw [openTun_of_unset hc] at hopen
      cases hopen
      exact hc
    · obtain ⟨l, u', b, -, hok, hu, -⟩ := openTun_of_opens hc
      rw [hok] at hopen
      cases hopen
      exact hu

def Service.HasAddress (t : Service) : Prop := t.mLocalIP ≠ none ∨ t.mLocalIPv6 ≠ none

/-- `openTun`, called after the settings have been pushed to `s`, reaches `establish`, and its
builder has what those settings ask for when pushed to a service that has none stored. -/
def Isolated (d : Device) (s : Service) (settings : List Setting) : Prop :=
  ∃ t u b, s.pushAll d settings = .ok t ∧ t.openTun d = .ok (u, ⟨some b, d.establishes⟩) ∧
    ∃ t' l, (Service.fresh s.mProfile).pushAll d settings = .ok t' ∧
      t'.withLocalNetworks d = .ok l ∧ b.given = l.given d

/-- A phone that accepts everything. -/
def anyPhone : Device where
  sdkInt := 19
  release := "4.4.4".toList
  brand := "google".toList
  packageName := "tk.usagis2.BuludTechVPN".toList
  getAllByName _ := none
  getIfconfig := []
  readable := by simp
  queue := .first
  acceptsAddress _ _ := true
  acceptsRoute _ _ := true
  acceptsDns _ := true
  isInstalled _ := true
  establishes := true

def anyProfile : VpnProfile := ⟨"office".toList, false, [], true⟩

/-- The settings of a connection with the DNS server `dns`. -/
def pushed (dns : String) : List Setting :=
  [.setLocalIP "10.8.0.6".toList "255.255.255.0".toList 1500 "subnet".toList, .addDNS dns.toList]

/-- What is stored with the DNS servers `dns`. -/
def stored (dns : List String) (mLastTunCfg : Option Text) : Service :=
  { Service.fresh anyProfile with
    mLocalIP := some ⟨"10.8.0.6".toList, 24⟩
    mMtu := 1500
    mRemoteGW := some "255.255.255.0".toList
    mDnslist := dns.map String.toList
    mLastTunCfg := mLastTunCfg }

lemma stored_opens (dns : List String) (mLastTunCfg : Option Text) :
    Opens anyPhone (stored dns mLastTunCfg) :=
  ⟨⟨_, rfl, rfl⟩, by simp [stored, Service.fresh], by
    show 0 < if Service.isOldKitkat anyPhone = true ∧ _ then (1280 : ℤ) else 1500
    split_ifs <;> decide, fun h => absurd h (by decide)⟩

lemma stored_local (dns : List String) (mLastTunCfg : Option Text) :
    (stored dns mLastTunCfg).withLocalNetworks anyPhone = .ok (stored dns mLastTunCfg) := rfl

end BuludTechVPN.Tun
