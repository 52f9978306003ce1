import BuludTechVPN.SweepTermination

/-!
The networks of one family, and the list of routes that `NetworkSpace` makes of them.

Since every sweep of networks of one family ends, `generateIPList` is a function of the set and
of the order in which a priority queue hands out networks that compare equal.
-/

namespace BuludTechVPN.Space

open JavaLang Cidr IpAddress

variable {v : Bool} {M : List IpAddress} {x y : IpAddress}

/-! ### Sets of networks of one family -/

lemma mem_of_mem_treeAdd (h : y ∈ treeAdd M x) : y = x ∨ y ∈ M := by
  induction M with
  | nil => simpa [treeAdd] using h
  | cons z M ih =>
    rw [treeAdd] at h
    split_ifs at h
    · simpa using h
    · exact Or.inr h
    · rcases List.mem_cons.mp h with rfl | h
      · exact Or.inr List.mem_cons_self
      · exact (ih h).imp_right (List.mem_cons_of_mem _)

lemma sorted_treeAdd (h : M.Pairwise fun x y => x.compareTo y < 0) :
    (treeAdd M x).Pairwise fun x y => x.compareTo y < 0 := by
  induction M with
  | nil => simp [treeAdd]
  | cons z M ih =>
    rw [List.pairwise_cons] at h
    rw [treeAdd]
    split_ifs with h1 h2
    · refine List.pairwise_cons.mpr ⟨fun y hy => ?_, List.pairwise_cons.mpr h⟩
      rcases List.mem_cons.mp hy with rfl | hy
      · exact h1
      · have := h.1 y hy
        rw [compareTo_neg_iff] at h1 this ⊢
        omega
    · exact List.pairwise_cons.mpr h
    · refine List.pairwise_cons.mpr ⟨fun y hy => ?_, ih h.2⟩
      rcases mem_of_mem_treeAdd hy with rfl | hy
      · rw [compareTo_neg_iff] at h1 ⊢
        have := compareTo_eq_zero_iff.not.mp h2
        omega
      · exact h.1 y hy

/-- A `NetworkSpace` that holds networks of one family only. -/
structure Routes (isV4 : Bool) extends NetworkSpace where
  family : ∀ x ∈ mIpAddresses, x.isV4 = isV4

namespace Routes

/-- `new NetworkSpace()`, and what `clear` leaves. -/
def empty : Routes v := ⟨⟨[], by simp⟩, by simp⟩

/-- `mIpAddresses.add`. -/
def add (s : Routes v) (x : IpAddress) (h : x.isV4 = v) : Routes v :=
  ⟨⟨treeAdd s.mIpAddresses x, sorted_treeAdd s.sorted⟩, fun y hy => by
    rcases mem_of_mem_treeAdd hy with rfl | hy
    · exact h
    · exact s.family y hy⟩

def addIP (s : Routes true) (cidrIp : CIDRIP) (included : Bool) : Call (Routes true) := do
  let netAddress ← getInt cidrIp.mIp
  return s.add ⟨netAddress, cidrIp.len, included, true⟩ rfl

def addIPSplit (s : Routes true) (cidrIp : CIDRIP) (included : Bool) : Call (Routes true) := do
  let netAddress ← getInt cidrIp.mIp
  let newIP : IpAddress := ⟨netAddress, cidrIp.len, included, true⟩
  return (s.add newIP.split.1 rfl).add newIP.split.2 rfl

def addIPv6 (s : Routes false) (address : List UInt8) (mask : ℤ) (included : Bool) : Routes false :=
  s.add (ofInet6Address address mask included) rfl

def getNetworks (s : Routes v) (included : Bool) : List IpAddress :=
  s.mIpAddresses.filter fun ip => ip.included = included

end Routes

/-! ### The sweep as a function -/

/-- The order in which a priority queue hands out its least elements. -/
structure PriorityQueue where
  poll : List IpAddress → Option IpAddress × List IpAddress
  isPoll : ∀ networks, Poll networks (poll networks).1 (poll networks).2

/-- The loop of `generateIPList`. -/
def sweepFrom (q : PriorityQueue) {w : ℤ} : {s : Sweep // Ordered w s} → List IpAddress
  | ⟨⟨none, _, ipsDone⟩, _⟩ => ipsDone
  | ⟨⟨some currentNet, networks, ipsDone⟩, h⟩ =>
    sweepFrom q ⟨loopBody currentNet (q.poll networks).1 (q.poll networks).2 ipsDone,
      (ordered_loopBody h rfl (q.isPoll networks)).1⟩
  termination_by s => variant s.1
  decreasing_by exact (ordered_loopBody h rfl (q.isPoll networks)).2

lemma sweepFrom_final (q : PriorityQueue) {w : ℤ} (s : {s : Sweep // Ordered w s}) :
    ∃ networks, Relation.ReflTransGen Round s.1 ⟨none, networks, sweepFrom q s⟩ := by
  fun_induction sweepFrom q s with
  | case1 networks ipsDone h => exact ⟨networks, .refl⟩
  | case2 currentNet networks ipsDone h ih =>
    obtain ⟨r, hr⟩ := ih
    exact ⟨r, .head (Round.mk (q.isPoll networks)) hr⟩

lemma Ordered.starts {s : Routes v} {first : Option IpAddress} {rest : List IpAddress}
    (h : Poll s.mIpAddresses first rest) : Ordered (if v then 32 else 128) ⟨first, rest, []⟩ := by
  have hwidth : ∀ x ∈ s.mIpAddresses, x.width = if v then 32 else 128 := fun x hx => by
    rw [IpAddress.width, s.family x hx]
  cases first with
  | none =>
    obtain rfl := poll_none h
    refine ⟨?_, ?_, ?_⟩ <;> simp [Sweep.pending]
  | some c =>
    refine ordered_next (fun x hx => hwidth x ?_) fun y hy => h.le y (h.mem_iff.mpr (Or.inr hy))
    exact h.mem_iff.mpr (List.mem_cons.mp hx)

/-- `generateIPList`. -/
def Routes.generateIPList (q : PriorityQueue) (s : Routes v) : List IpAddress :=
  sweepFrom q ⟨⟨(q.poll s.mIpAddresses).1, (q.poll s.mIpAddresses).2, []⟩,
    .starts (q.isPoll s.mIpAddresses)⟩

/-- **The function computes the sweep**: its result is one that the sweep of the set ends with. -/
theorem generateIPList_generates (q : PriorityQueue) (s : Routes v) :
    Generates s.toNetworkSpace (s.generateIPList q) := by
  obtain ⟨networks, h⟩ := sweepFrom_final q ⟨⟨(q.poll s.mIpAddresses).1,
    (q.poll s.mIpAddresses).2, []⟩, .starts (q.isPoll s.mIpAddresses)⟩
  exact ⟨_, networks, ⟨q.isPoll s.mIpAddresses⟩, h⟩

/-- The queue that hands out the first of its least elements. -/
def firstLeast (networks : List IpAddress) : Option IpAddress × List IpAddress :=
  match networks.find? fun x => networks.all fun y => x.compareTo y ≤ 0 with
  | some x => (some x, networks.erase x)
  | none => (none, [])

def PriorityQueue.first : PriorityQueue where
  poll := firstLeast
  isPoll networks := by
    obtain ⟨next, rest, h⟩ := exists_poll networks
    unfold firstLeast
    cases hf : networks.find? fun x => networks.all fun y => x.compareTo y ≤ 0 with
    | none =>
      cases h with
      | empty => exact .empty
      | least hx hle =>
        exact absurd (by simpa using hle) (List.find?_eq_none.mp hf _ hx)
    | some x =>
      have := List.find?_some hf
      exact .least (List.mem_of_find?_eq_some hf) (by simpa using this)

/-! ### Routes for the tun device -/

def kitkat : ℤ := 19

/-- `getPositiveIPList`. Before KitKat, included networks of the set that no excluded part of the
list lies in are added again, since they may overrule the local network. -/
def Routes.getPositiveIPList (sdkInt : ℤ) (q : PriorityQueue) (s : Routes v) : List IpAddress :=
  let ipsSorted := s.generateIPList q
  let ips := ipsSorted.filter fun ia => ia.included
  if sdkInt < kitkat then
    ips ++ s.mIpAddresses.filter fun origIp =>
      origIp.included && !(ipsSorted.any fun ia => origIp.compareTo ia = 0) &&
        !(ipsSorted.any fun calculatedIp =>
          !calculatedIp.included && origIp.containsNet calculatedIp)
  else ips

namespace IpAddress

/-- `getIPv4Address`: the remainders keep the sign of the address. -/
def getIPv4Address (x : IpAddress) : Text :=
  let ip := toLong x.netAddress
  showInt ((ip / 2 ^ 24).tmod 256) ++ '.' :: showInt ((ip / 2 ^ 16).tmod 256) ++
    '.' :: showInt ((ip / 2 ^ 8).tmod 256) ++ '.' :: showInt (ip.tmod 256)

/-- The groups of an IPv6 address from the last one on, `ipv6str` being those written. -/
def ipv6Groups (r : ℕ) (ipv6str : Option Text) (lastPart : Bool) : Option Text :=
  if r = 0 then ipv6str
  else
    let part := Nat.toDigits 16 (r % 0x10000)
    let written :=
      match ipv6str with
      | none =>
        if r % 0x10000 = 0 then none
        else if lastPart then some part else some (part ++ "::".toList)
      | some str => if lastPart then some part else some (part ++ ':' :: str)
    ipv6Groups (r / 0x10000) written false
  termination_by r

/-- `getIPv6Address`. -/
def getIPv6Address (x : IpAddress) : Text :=
  (ipv6Groups x.netAddress.toNat none true).getD "::".toList

/-- `ipAddress.toString`. -/
def toString (x : IpAddress) : Text :=
  (if x.isV4 then x.getIPv4Address else x.getIPv6Address) ++ '/' :: showInt x.networkMask

end IpAddress

end BuludTechVPN.Space
