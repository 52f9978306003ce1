import BuludTechVPN.AddressText
import BuludTechVPN.SweepRanges
import BuludTechVPN.TunCycles

/-!
The routes that `openTun` hands to the builder, as texts: whether the text of a network is an
address at all, and whether it is the first address of the network.
-/

namespace BuludTechVPN.HandedRoutes

open JavaLang Cidr Space IpAddress AddressText Tun

/-- The text that the network is handed over as is an address, the first one of the network. -/
def Denotes (x : IpAddress) : Prop :=
  ∃ n : ℕ, (if x.isV4 then readIPv4 x.getIPv4Address else readIPv6 x.getIPv6Address) = some n ∧
    (n : ℤ) = x.getFirstAddress

/-- No host bit is set in the address that the network keeps. -/
def Clear (x : IpAddress) : Prop := x.netAddress = x.getFirstAddress

/-- The network begins with an IPv4 address, or with an IPv6 address that is `::` or has a first
group other than zero. -/
def Writable (x : IpAddress) : Prop :=
  if x.isV4 then 0 ≤ x.getFirstAddress ∧ x.getFirstAddress < 2 ^ 32
  else x.getFirstAddress = 0 ∨ 2 ^ 112 ≤ x.getFirstAddress ∧ x.getFirstAddress < 2 ^ 128

/-! ### One network -/

section Text

variable {x : IpAddress}

lemma first_le_netAddress (x : IpAddress) : x.getFirstAddress ≤ x.netAddress := by
  rw [getFirstAddress_eq]
  exact Blocks.low_le _ _

/-- A network behind an address that no network of its family spans begins behind it as well. -/
lemma le_first {w : ℕ} (hb : x.bits ≤ w) (h : (2 : ℤ) ^ w ≤ x.netAddress) :
    (2 : ℤ) ^ w ≤ x.getFirstAddress := by
  rw [getFirstAddress_eq, Blocks.low_eq_mul]
  obtain ⟨q, hq⟩ := pow_dvd_pow (2 : ℤ) hb
  rw [hq] at h ⊢
  have hp := Blocks.two_pow_pos x.bits
  have hle : q ≤ x.netAddress / 2 ^ x.bits := by
    rw [Int.le_ediv_iff_mul_le hp, mul_comm]
    exact h
  exact Int.mul_le_mul_of_nonneg_left hle hp.le

lemma denotes_iff_v4 (hv : x.isV4 = true) (hmask : 0 ≤ x.networkMask) :
    Denotes x ↔ Clear x ∧ Writable x := by
  have hbits : x.bits ≤ 32 := by
    have hw : x.width = 32 := by rw [width, hv]; rfl
    unfold bits numBits
    omega
  have hle := first_le_netAddress x
  unfold Denotes Clear Writable
  simp only [hv, if_true]
  constructor
  · rintro ⟨n, hread, hn⟩
    have hlt := readIPv4_lt hread
    have h32 : x.netAddress < 2 ^ 32 := by
      by_contra hge
      have := le_first hbits (not_lt.mp hge)
      omega
    rw [readIPv4_self (by omega) h32] at hread
    have := Option.some.inj hread
    omega
  · rintro ⟨hclear, h0, h32⟩
    refine ⟨_, readIPv4_self (by omega) (by omega), ?_⟩
    omega

lemma denotes_iff_v6 (hv : x.isV4 = false) (hmask : 0 ≤ x.networkMask) :
    Denotes x ↔ Clear x ∧ Writable x := by
  have hbits : x.bits ≤ 128 := by
    have hw : x.width = 128 := by rw [width, hv]; rfl
    unfold bits numBits
    omega
  have hle := first_le_netAddress x
  unfold Denotes Clear Writable
  simp only [hv, Bool.false_eq_true, if_false]
  constructor
  · rintro ⟨n, hread, hn⟩
    have hlt := readIPv6_lt hread
    obtain ⟨a, ha⟩ := Int.eq_ofNat_of_zero_le (show 0 ≤ x.netAddress by omega)
    have h128 : x.netAddress < 2 ^ 128 := by
      by_contra hge
      have := le_first hbits (not_lt.mp hge)
      omega
    unfold getIPv6Address at hread
    rw [ha, Int.toNat_natCast] at hread
    by_cases hself : a = 0 ∨ 2 ^ 112 ≤ a ∧ a < 2 ^ 128
    · rw [readIPv6_self hself] at hread
      have := Option.some.inj hread
      omega
    · have := lt_of_readIPv6 (by omega) (by omega) hread
      omega
  · rintro ⟨hclear, hw⟩
    refine ⟨x.netAddress.toNat, readIPv6_self (by omega), ?_⟩
    omega

/-- **The text of one network**: it is the first address exactly for a network that keeps no host
bits and begins with an address that can be written. -/
theorem denotes_iff (hmask : 0 ≤ x.networkMask) : Denotes x ↔ Clear x ∧ Writable x := by
  cases hv : x.isV4 with
  | true => exact denotes_iff_v4 hv hmask
  | false => exact denotes_iff_v6 hv hmask

lemma clear_of_dvd (h : (2 : ℤ) ^ x.bits ∣ x.netAddress) : Clear x := by
  have hp := Blocks.two_pow_pos x.bits
  rw [Clear, getFirstAddress_eq, Blocks.low_unique h le_rfl (by omega)]

/-- Splitting clears the host bits. -/
lemma clear_split (x : IpAddress) : Clear x.split.1 ∧ Clear x.split.2 := by
  constructor
  · exact (split_first_eq x).symm
  · exact (split_second_first x).symm

end Text

/-! ### The calls that collect routes -/

inductive RouteCall
  | push (x : Setting)
  /-- `addRoute(CIDRIP)` -/
  | addCidrRoute (route : CIDRIP)
  /-- `setLocalIP(CIDRIP)` -/
  | setLocalCidr (cdrip : CIDRIP)
  | addLocalNetworksToRoutes

/-- One call, on the phone as it is then. -/
def call (d : Device) (s : Service) : RouteCall → Call Service
  | .push x => s.push d x
  | .addCidrRoute route => do return { s with mRoutes := ← s.mRoutes.addIP route true }
  | .setLocalCidr cdrip => .ok { s with mLocalIP := some cdrip }
  | .addLocalNetworksToRoutes => s.withLocalNetworks d

def callAll (s : Service) (calls : List (Device × RouteCall)) : Call Service :=
  calls.foldlM (fun s c => call c.1 s c.2) s

/-- The network that `addRoutev6` stores, if it stores one. -/
def networkV6 (d : Device) (network : Text) (device : Option Text) : Call (Option IpAddress) := do
  let v6parts := splitAt (· = '/') network
  match d.getAllByName (← arrayGet v6parts 0) with
  | some (.inet6 ip) =>
    let mask ← parseInt (← arrayGet v6parts 1)
    return some (ofInet6Address ip mask (Service.isAndroidTunDevice device))
  | _ => return none

/-- The call stores the network with the address that it was given, host bits and all. -/
def RouteCall.Stores (d : Device) (x : IpAddress) : RouteCall → Prop
  | .addCidrRoute route => ofCIDRIP route true = .ok x
  | .push (.addRoutev6 network device) => networkV6 d network device = .ok (some x)
  | _ => False

/-- A prefix length that the call is given is one of the family. -/
def RouteCall.InRange (d : Device) : RouteCall → Prop
  | .addCidrRoute route => 0 ≤ route.len ∧ route.len ≤ 32
  | .push (.addRoutev6 network device) => ∀ x, networkV6 d network device = .ok (some x) →
      0 ≤ x.networkMask ∧ x.networkMask ≤ 128
  | _ => True

/-- The networks of both families that routes are made of. -/
def networks (s : Service) : List IpAddress := s.mRoutes.mIpAddresses ++ s.mRoutesv6.mIpAddresses

/-- The networks that `openTun` takes from `getPositiveIPList`. -/
def positiveIPLists (d : Device) (s : Service) : List IpAddress :=
  s.mRoutes.getPositiveIPList d.sdkInt d.queue ++ s.mRoutesv6.getPositiveIPList d.sdkInt d.queue

/-! ### What each call stores -/

section Calls

variable {d : Device} {s t : Service} {x : IpAddress}

/-- A network with a prefix length that no family exceeds from below, and without host bits unless
it is excluded. -/
def Sound (x : IpAddress) : Prop := 0 ≤ x.networkMask ∧ (x.included = true → Clear x)

lemma sound_of_dvd {n len : ℤ} {included : Bool} (h0 : 0 ≤ len)
    (h : (2 : ℤ) ^ (32 - len).toNat ∣ n) : Sound ⟨n, len, included, true⟩ :=
  ⟨h0, fun _ => clear_of_dvd h⟩

lemma mem_addIP {M R : Routes true} {c : CIDRIP} {included : Bool}
    (h : M.addIP c included = .ok R) : ∃ n, getInt c.mIp = .ok n ∧
      ∀ x ∈ R.mIpAddresses, x = ⟨n, c.len, included, true⟩ ∨ x ∈ M.mIpAddresses := by
  obtain ⟨n, hn, h⟩ := bind_eq_ok.mp h
  obtain rfl := Except.ok.inj h
  exact ⟨n, hn, fun x hx => mem_of_mem_treeAdd hx⟩

lemma mem_addIP_normalise {M R : Routes true} {c c' : CIDRIP} {changed included : Bool}
    (hnorm : c.normalise = .ok (c', changed)) (h0 : 0 ≤ c.len) (h32 : c.len ≤ 32)
    (h : M.addIP c' included = .ok R) : ∀ x ∈ R.mIpAddresses, Sound x ∨ x ∈ M.mIpAddresses := by
  obtain ⟨n, hn, hmem⟩ := mem_addIP h
  obtain ⟨hlen, m, hm, hdvd⟩ := normalise_spec hnorm h0 h32
  obtain rfl := Except.ok.inj (hn.symm.trans hm)
  intro x hx
  refine (hmem x hx).imp_left ?_
  rintro rfl
  rw [hlen]
  exact sound_of_dvd h0 hdvd

lemma mem_addIPSplit {M R : Routes true} {c : CIDRIP} {included : Bool} (h0 : 0 ≤ c.len)
    (h : M.addIPSplit c included = .ok R) :
    ∀ x ∈ R.mIpAddresses, Sound x ∨ x ∈ M.mIpAddresses := by
  obtain ⟨n, -, h⟩ := bind_eq_ok.mp h
  obtain rfl := Except.ok.inj h
  intro x hx
  have hmask := split_mask ⟨n, c.len, included, true⟩
  have hclear := clear_split ⟨n, c.len, included, true⟩
  rcases mem_of_mem_treeAdd hx with rfl | hx
  · exact .inl ⟨by simp only [hmask]; omega, fun _ => hclear.2⟩
  · rcases mem_of_mem_treeAdd hx with rfl | hx
    · exact .inl ⟨by simp only [hmask]; omega, fun _ => hclear.1⟩
    · exact .inr hx

lemma mem_addRoute {dest mask gateway : Text} {device : Option Text}
    (h : s.addRoute dest mask gateway device = .ok t) :
    ∀ x ∈ networks t, Sound x ∨ x ∈ networks s := by
  unfold Service.addRoute at h
  simp only [bind_eq_ok] at h
  obtain ⟨route, hroute, gatewayIP, -, h⟩ := h
  cases hip : s.mLocalIP with
  | none =>
    rw [hip] at h
    cases h
    exact fun x hx => .inr hx
  | some ip =>
    simp only [hip, bind_eq_ok] at h
    obtain ⟨localNet, -, ⟨route', changed⟩, hnorm, routes, hroutes, ht⟩ := h
    cases ht
    have hlen := ofMask_len hroute
    intro x hx
    rcases List.mem_append.mp hx with hx | hx
    · refine (mem_addIP_normalise hnorm hlen.1 hlen.2 hroutes x hx).imp_right fun hx => ?_
      exact List.mem_append_left _ hx
    · exact .inr (List.mem_append_right _ hx)

lemma mem_setLocalIP {loc netmask mode : Text} {mtu : ℤ}
    (h : s.setLocalIP d loc netmask mtu mode = .ok t) :
    ∀ x ∈ networks t, Sound x ∨ x ∈ networks s := by
  unfold Service.setLocalIP at h
  simp only [bind_eq_ok] at h
  obtain ⟨ip, hip, len, hlen, routes, hroutes, ht⟩ := h
  cases ht
  have hrange : 0 ≤ len ∧ len ≤ 32 := by
    have hip := ofMask_len hip
    obtain ⟨n, -, h⟩ := bind_eq_ok.mp hlen
    have hlens : ∀ q : ℤ × ℤ, q = (if mode = "net30".toList then (30, 4) else (31, 2)) →
        0 ≤ q.1 ∧ q.1 ≤ 32 := by
      rintro q rfl
      split_ifs <;> simp
    split at h
    next =>
      obtain ⟨m, -, h⟩ := bind_eq_ok.mp h
      obtain rfl := Except.ok.inj h
      have hq := hlens _ rfl
      split
      · exact hq
      · omega
    next =>
      obtain rfl := Except.ok.inj h
      exact hip
  intro x hx
  rcases List.mem_append.mp hx with hx | hx
  · unfold Service.addInterfaceRoute at hroutes
    split at hroutes
    next =>
      obtain ⟨⟨route, changed⟩, hnorm, hroutes⟩ := bind_eq_ok.mp hroutes
      refine (mem_addIP_normalise hnorm hrange.1 hrange.2 hroutes x hx).imp_right fun hx => ?_
      exact List.mem_append_left _ hx
    next =>
      obtain rfl := Except.ok.inj hroutes
      exact .inr (List.mem_append_left _ hx)
  · exact .inr (List.mem_append_right _ hx)

lemma mem_addRoutev6 {network : Text} {device : Option Text}
    (h : s.addRoutev6 d network device = .ok t) :
    ∀ x ∈ networks t, networkV6 d network device = .ok (some x) ∨ x ∈ networks s := by
  unfold Service.addRoutev6 at h
  simp only [bind_eq_ok] at h
  obtain ⟨host, hhost, h⟩ := h
  cases hname : d.getAllByName host with
  | none =>
    rw [hname] at h
    cases h
    exact fun x hx => .inr hx
  | some a =>
    cases a with
    | inet4 => simp [hname] at h
    | inet6 ip =>
      simp only [hname, bind_eq_ok] at h
      obtain ⟨part, hpart, mask, hmask, ht⟩ := h
      cases ht
      intro x hx
      rcases List.mem_append.mp hx with hx | hx
      · exact .inr (List.mem_append_left _ hx)
      · rcases mem_of_mem_treeAdd hx with rfl | hx
        · left
          simp only [networkV6, bind_eq_ok]
          refine ⟨host, hhost, ?_⟩
          simp only [hname, bind_eq_ok]
          exact ⟨part, hpart, mask, hmask, rfl⟩
        · exact .inr (List.mem_append_right _ hx)

lemma mem_addLocalNetwork {lan : Bool} {ip : CIDRIP} {M R : Routes true} {i : Interface}
    (h : Service.addLocalNetwork d lan ip M i = .ok R) :
    ∀ x ∈ R.mIpAddresses, Sound x ∨ x ∈ M.mIpAddresses := by
  have hsame : ∀ {R : Routes true}, (.ok M : Call (Routes true)) = .ok R →
      ∀ x ∈ R.mIpAddresses, Sound x ∨ x ∈ M.mIpAddresses := fun h x hx =>
    .inr (Except.ok.inj h ▸ hx)
  unfold Service.addLocalNetwork at h
  split at h
  · split_ifs at h
    · exact hsame h
    · obtain ⟨c, hc, h⟩ := bind_eq_ok.mp h
      exact mem_addIPSplit (ofMask_len hc).1 h
    · obtain ⟨c, hc, h⟩ := bind_eq_ok.mp h
      obtain ⟨n, -, hmem⟩ := mem_addIP h
      intro x hx
      refine (hmem x hx).imp_left ?_
      rintro rfl
      exact ⟨(ofMask_len hc).1, by simp⟩
    · exact hsame h
  · exact hsame h

lemma mem_withLocalNetworks (h : s.withLocalNetworks d = .ok t) :
    ∀ x ∈ networks t, Sound x ∨ x ∈ networks s := by
  have hfold : ∀ (lan : Bool) (ip : CIDRIP) (l : List Interface) (M R : Routes true),
      l.foldlM (Service.addLocalNetwork d lan ip) M = .ok R →
        ∀ x ∈ R.mIpAddresses, Sound x ∨ x ∈ M.mIpAddresses := by
    intro lan ip l
    induction l with
    | nil =>
      intro M R h x hx
      exact .inr (Except.ok.inj h ▸ hx)
    | cons i l ih =>
      intro M R h x hx
      rw [List.foldlM_cons] at h
      obtain ⟨M', hM, h⟩ := bind_eq_ok.mp h
      rcases ih M' R h x hx with hx | hx
      · exact .inl hx
      · exact mem_addLocalNetwork hM x hx
  unfold Service.withLocalNetworks at h
  split at h
  next =>
    obtain rfl := Except.ok.inj h
    exact fun x hx => .inr hx
  next ip =>
    obtain ⟨R, hR, h⟩ := bind_eq_ok.mp h
    obtain rfl := Except.ok.inj h
    intro x hx
    rcases List.mem_append.mp hx with hx | hx
    · exact (hfold _ _ _ _ _ hR x hx).imp_right (List.mem_append_left _)
    · exact .inr (List.mem_append_right _ hx)

/-- **One call**: what it puts among the networks is sound, or stored by it as it was given. -/
theorem mem_call {c : RouteCall} (h : call d s c = .ok t) :
    ∀ x ∈ networks t, (Sound x ∨ c.Stores d x) ∨ x ∈ networks s := by
  have hsame : networks t = networks s → ∀ x ∈ networks t, (Sound x ∨ c.Stores d x) ∨
      x ∈ networks s := fun h x hx => .inr (h ▸ hx)
  cases c with
  | push y =>
    cases y with
    | setLocalIP loc netmask mtu mode =>
      exact fun x hx => (mem_setLocalIP h x hx).imp_left .inl
    | addRoute dest mask gateway device =>
      exact fun x hx => (mem_addRoute h x hx).imp_left .inl
    | addRoutev6 network device =>
      exact fun x hx => (mem_addRoutev6 h x hx).imp_left .inr
    | setLocalIPv6 ipv6addr =>
      cases h
      exact hsame rfl
    | addDNS dns =>
      cases h
      exact hsame rfl
    | setDomain domain =>
      cases h
      refine hsame ?_
      unfold Service.setDomain
      split <;> rfl
  | addCidrRoute route =>
    obtain ⟨R, hR, h⟩ := bind_eq_ok.mp h
    obtain rfl := Except.ok.inj h
    obtain ⟨n, hn, hmem⟩ := mem_addIP hR
    intro x hx
    rcases List.mem_append.mp hx with hx | hx
    · rcases hmem x hx with rfl | hx
      · exact .inl (.inr (bind_eq_ok.mpr ⟨n, hn, rfl⟩))
      · exact .inr (List.mem_append_left _ hx)
    · exact .inr (List.mem_append_right _ hx)
  | setLocalCidr cdrip =>
    cases h
    exact hsame rfl
  | addLocalNetworksToRoutes => exact fun x hx => (mem_withLocalNetworks h x hx).imp_left .inl

/-- **All calls**: the networks are sound, or stored by a call as they were given. -/
theorem mem_callAll {calls : List (Device × RouteCall)} (h : callAll s calls = .ok t) :
    ∀ x ∈ networks t, (Sound x ∨ ∃ c ∈ calls, c.2.Stores c.1 x) ∨ x ∈ networks s := by
  unfold callAll at h
  induction calls generalizing s with
  | nil =>
    obtain rfl := Except.ok.inj h
    exact fun x hx => .inr hx
  | cons c calls ih =>
    rw [List.foldlM_cons] at h
    obtain ⟨u, hu, h⟩ := bind_eq_ok.mp h
    intro x hx
    rcases ih h x hx with (hx | ⟨e, he, hx⟩) | hx
    · exact .inl (.inl hx)
    · exact .inl (.inr ⟨e, List.mem_cons_of_mem _ he, hx⟩)
    · rcases mem_call hu x hx with (hx | hx) | hx
      · exact .inl (.inl hx)
      · exact .inl (.inr ⟨c, List.mem_cons_self, hx⟩)
      · exact .inr hx

lemma mask_of_stores {c : RouteCall} (hr : c.InRange d) (h : c.Stores d x) :
    0 ≤ x.networkMask := by
  cases c with
  | push y =>
    cases y with
    | addRoutev6 network device => exact (hr x h).1
    | _ => cases h
  | addCidrRoute route =>
    obtain ⟨n, -, h⟩ := bind_eq_ok.mp h
    obtain rfl := Except.ok.inj h
    exact hr.1
  | _ => cases h

end Calls

/-! ### The lists -/

lemma mem_getPositiveIPList {v : Bool} {M : Routes v} {sdkInt : ℤ} {q : PriorityQueue}
    {x : IpAddress} (h : x ∈ M.getPositiveIPList sdkInt q) :
    x.included = true ∧ (x ∈ M.generateIPList q ∨ x ∈ M.mIpAddresses) := by
  unfold Routes.getPositiveIPList at h
  simp only at h
  split at h
  · rcases List.mem_append.mp h with h | h
    · obtain ⟨hx, hinc⟩ := List.mem_filter.mp h
      exact ⟨hinc, .inl hx⟩
    · obtain ⟨hx, hinc⟩ := List.mem_filter.mp h
      simp only [Bool.and_eq_true] at hinc
      exact ⟨hinc.1.1, .inr hx⟩
  · obtain ⟨hx, hinc⟩ := List.mem_filter.mp h
    exact ⟨hinc, .inl hx⟩

/-- A network of the list is one of the set, or a half of another and without host bits. -/
lemma list_spec {v : Bool} {M : Routes v} {sdkInt : ℤ} {q : PriorityQueue} {x : IpAddress}
    (hM : ∀ y ∈ M.mIpAddresses, 0 ≤ y.networkMask) (h : x ∈ M.getPositiveIPList sdkInt q) :
    x.included = true ∧ 0 ≤ x.networkMask ∧ (x ∈ M.mIpAddresses ∨ Clear x) := by
  obtain ⟨hinc, h⟩ := mem_getPositiveIPList h
  refine ⟨hinc, ?_⟩
  rcases h with h | h
  · have hsplit : ∀ y, 0 ≤ y.networkMask ∧ (y ∈ M.mIpAddresses ∨ Clear y) →
        (0 ≤ y.split.1.networkMask ∧ (y.split.1 ∈ M.mIpAddresses ∨ Clear y.split.1)) ∧
          0 ≤ y.split.2.networkMask ∧ (y.split.2 ∈ M.mIpAddresses ∨ Clear y.split.2) := by
      rintro y ⟨h0, -⟩
      have hmask := split_mask y
      have hclear := clear_split y
      exact ⟨⟨by omega, .inr hclear.1⟩, by omega, .inr hclear.2⟩
    exact forall_generates hsplit M.family (fun y hy => ⟨hM y hy, .inl hy⟩)
      (generateIPList_generates q M) x h
  · exact ⟨hM x h, .inl h⟩

/-- **The Texts of Routes**: after any calls with prefix lengths of the family, the text of a
network of the lists is the first address of the network exactly if no `addRoute(CIDRIP)` and no
`addRoutev6` stored that network with host bits, and it begins with an IPv4 address, or with an
IPv6 address that is `::` or has a first group other than zero. -/
theorem denotes_iff_clear (p : VpnProfile) (calls : List (Device × RouteCall))
    (hrange : ∀ c ∈ calls, c.2.InRange c.1) (s : Service)
    (hs : callAll (.fresh p) calls = .ok s) (d : Device) (x : IpAddress)
    (hx : x ∈ positiveIPLists d s) :
    Denotes x ↔ (∀ c ∈ calls, c.2.Stores c.1 x → Clear x) ∧ Writable x := by
  have hmem : ∀ y ∈ networks s, Sound y ∨ ∃ c ∈ calls, c.2.Stores c.1 y := fun y hy =>
    (mem_callAll hs y hy).resolve_right (by
      simp [networks, Service.fresh, Routes.empty])
  have hmask : ∀ y ∈ networks s, 0 ≤ y.networkMask := fun y hy => by
    rcases hmem y hy with h | ⟨c, hc, h⟩
    · exact h.1
    · exact mask_of_stores (hrange c hc) h
  obtain ⟨hinc, h0, hor⟩ :
      x.included = true ∧ 0 ≤ x.networkMask ∧ (x ∈ networks s ∨ Clear x) := by
    rcases List.mem_append.mp hx with hx | hx
    · have := list_spec (fun y hy => hmask y (List.mem_append_left _ hy)) hx
      exact ⟨this.1, this.2.1, this.2.2.imp_left (List.mem_append_left _)⟩
    · have := list_spec (fun y hy => hmask y (List.mem_append_right _ hy)) hx
      exact ⟨this.1, this.2.1, this.2.2.imp_left (List.mem_append_right _)⟩
  rw [denotes_iff h0]
  refine and_congr_left fun _ => ⟨fun h _ _ _ => h, fun h => ?_⟩
  rcases hor with hor | hclear
  · rcases hmem x hor with hsound | ⟨c, hc, hst⟩
    · exact hsound.2 hinc
    · exact h c hc hst
  · exact hclear

/-! ### A single route -/

/-- A single network is the whole list. -/
lemma generateIPList_single {v : Bool} {M : Routes v} {x : IpAddress} (q : PriorityQueue)
    (h : M.mIpAddresses = [x]) : M.generateIPList q = [x] := by
  have hpolls : polls [x] = [(some x, [])] := by
    simp [polls, (compareTo_eq_zero_iff.mpr ⟨rfl, rfl⟩).le]
  obtain ⟨r, networks, hr, ht⟩ := generateIPList_generates q M
  have hmem : ⟨none, networks, M.generateIPList q⟩ ∈
      ([⟨some x, [], []⟩, ⟨none, [], [x]⟩] : List Sweep) :=
    mem_states (by simp [h, hpolls]) (by simp [successors, polls, loopBody, treeAdd]) hr ht
  have hend : networks = [] ∧ M.generateIPList q = [x] := by simpa using hmem
  exact hend.2

/-- A phone on which every name is that of one IPv6 address. -/
def phoneWith (address : List UInt8) : Device :=
  { anyPhone with getAllByName := fun _ => some (.inet6 address) }

/-- The service with one IPv6 route. -/
def withRoute (address : List UInt8) (mask : ℤ) : Service :=
  { Service.fresh anyProfile with mRoutesv6 := Routes.empty.addIPv6 address mask true }

lemma mem_positiveIPLists (address : List UInt8) (mask : ℤ) (d : Device) (hd : kitkat ≤ d.sdkInt) :
    ofInet6Address address mask true ∈ positiveIPLists d (withRoute address mask) := by
  refine List.mem_append_right _ ?_
  have hlist : (withRoute address mask).mRoutesv6.generateIPList d.queue =
      [ofInet6Address address mask true] := generateIPList_single _ rfl
  unfold Routes.getPositiveIPList
  rw [if_neg (not_lt.mpr hd), hlist]
  simp [ofInet6Address]

/-- The bytes of 2001:db8::. -/
def documentation : List UInt8 := [0x20, 0x01, 0x0d, 0xb8, 0, 0, 0, 0, 0, 0, 0, 0, 0, 0, 0, 0]

/-- The bytes of ::1. -/
def loopback : List UInt8 := [0, 0, 0, 0, 0, 0, 0, 0, 0, 0, 0, 0, 0, 0, 0, 1]

/-- 2001:db8::/32 is handed over as it is. -/
theorem documentation_denotes : Denotes (ofInet6Address documentation 32 true) := by
  refine (denotes_iff_clear anyProfile
    [(phoneWith documentation, .push (.addRoutev6 "2001:db8::/32".toList (some "tun0".toList)))]
    ?_ (withRoute documentation 32) rfl anyPhone _ (mem_positiveIPLists _ _ _ (by decide))).mpr
    ⟨fun _ _ _ => ?_, ?_⟩
  · intro c hc
    obtain rfl := List.mem_singleton.mp hc
    intro y hy
    obtain rfl := Option.some.inj (Except.ok.inj hy)
    decide
  · exact clear_of_dvd (by decide)
  · have hclear : Clear (ofInet6Address documentation 32 true) := clear_of_dvd (by decide)
    unfold Writable
    rw [← hclear]
    decide

/-- ::1/128 is handed over as `1`, which is no address. -/
theorem loopback_not_denoted : ¬ ∀ (p : VpnProfile) (calls : List (Device × RouteCall))
    (s : Service), (∀ c ∈ calls, c.2.InRange c.1) → callAll (.fresh p) calls = .ok s →
      ∀ (d : Device), ∀ x ∈ positiveIPLists d s, Denotes x := by
  intro h
  obtain ⟨n, hread, -⟩ := h anyProfile
    [(phoneWith loopback, .push (.addRoutev6 "::1/128".toList (some "tun0".toList)))]
    (withRoute loopback 128) (by
      intro c hc
      obtain rfl := List.mem_singleton.mp hc
      intro y hy
      obtain rfl := Option.some.inj (Except.ok.inj hy)
      decide) rfl anyPhone _ (mem_positiveIPLists _ _ _ (by decide))
  have htext : ipv6Groups 1 none true = some ['1'] := by
    rw [ipv6Groups, ipv6Groups]
    rfl
  have hone : (ofInet6Address loopback 128 true).getIPv6Address = ['1'] := by
    unfold getIPv6Address
    rw [show (ofInet6Address loopback 128 true).netAddress.toNat = 1 from rfl, htext]
    rfl
  have hnone : readIPv6 ['1'] = none := by decide
  rw [show (ofInet6Address loopback 128 true).isV4 = false from rfl, hone,
    if_neg Bool.false_ne_true, hnone] at hread
  cases hread

end BuludTechVPN.HandedRoutes
