import BuludTechVPN.Cidr
import BuludTechVPN.Blocks

/-!
`NetworkSpace`: sets of included and excluded networks, and the sweep that turns one into a
list of networks.

The sweep takes the networks from a priority queue. Which of two networks that compare equal
the queue hands out first is not determined, so polling is a relation and the sweep a
transition system; the body of the loop is a function of what was polled.
-/

namespace BuludTechVPN.Space

open JavaLang Cidr Blocks

/-! ### Networks -/

structure IpAddress where
  netAddress : ℤ
  networkMask : ℤ
  included : Bool
  isV4 : Bool
  deriving DecidableEq, Repr

/-- `new ipAddress(CIDRIP ip, boolean include)`. -/
def IpAddress.ofCIDRIP (ip : CIDRIP) (included : Bool) : Call IpAddress := do
  return ⟨← getInt ip.mIp, ip.len, included, true⟩

/-- `new ipAddress(Inet6Address address, int mask, boolean include)`. -/
def IpAddress.ofInet6Address (address : List UInt8) (mask : ℤ) (included : Bool) : IpAddress :=
  ⟨address.foldl (fun a b => a * 2 ^ 8 + b.toNat) 0, mask, included, false⟩

/-- `BigInteger.setBit`, on two's complement. -/
def setBit (a : ℤ) (i : ℕ) : ℤ := if a / 2 ^ i % 2 = 1 then a else a + 2 ^ i

/-- `BigInteger.clearBit`, on two's complement. -/
def clearBit (a : ℤ) (i : ℕ) : ℤ := if a / 2 ^ i % 2 = 1 then a - 2 ^ i else a

namespace IpAddress

/-- The bits of an address of the family. -/
def width (x : IpAddress) : ℤ := if x.isV4 then 32 else 128

def numBits (x : IpAddress) : ℤ := x.width - x.networkMask

def getMaskedAddress (x : IpAddress) (one : Bool) : ℤ :=
  (List.range x.numBits.toNat).foldl
    (fun numAddress i => if one then setBit numAddress i else clearBit numAddress i) x.netAddress

def getFirstAddress (x : IpAddress) : ℤ := x.getMaskedAddress false
def getLastAddress (x : IpAddress) : ℤ := x.getMaskedAddress true

/-- `ipAddress.compareTo`. -/
def compareTo (x another : IpAddress) : ℤ :=
  let comp := Int.sign (x.getFirstAddress - another.getFirstAddress)
  if comp ≠ 0 then comp
  else if x.networkMask > another.networkMask then -1
  else if another.networkMask = x.networkMask then 0
  else 1

/-- `ipAddress.equals`: the mark is ignored. -/
def equals (x on : IpAddress) : Bool :=
  x.networkMask = on.networkMask ∧ on.getFirstAddress = x.getFirstAddress

def split (x : IpAddress) : IpAddress × IpAddress :=
  let firstHalf : IpAddress := ⟨x.getFirstAddress, x.networkMask + 1, x.included, x.isV4⟩
  (firstHalf, ⟨firstHalf.getLastAddress + 1, x.networkMask + 1, x.included, x.isV4⟩)

def containsNet (x network : IpAddress) : Bool :=
  x.getFirstAddress ≤ network.getFirstAddress ∧ network.getLastAddress ≤ x.getLastAddress

end IpAddress

/-! ### Sets of networks -/

/-- `TreeSet.add`: an element equal to one of the set is dropped. -/
def treeAdd : List IpAddress → IpAddress → List IpAddress
  | [], x => [x]
  | y :: l, x =>
    if x.compareTo y < 0 then x :: y :: l
    else if x.compareTo y = 0 then y :: l
    else y :: treeAdd l x

/-- A `TreeSet<ipAddress>`, in its order. -/
structure NetworkSpace where
  mIpAddresses : List IpAddress
  sorted : mIpAddresses.Pairwise fun x y => x.compareTo y < 0

/-- `PriorityQueue.contains`. -/
def queueContains (networks : List IpAddress) (x : IpAddress) : Bool := networks.any x.equals

/-! ### The sweep -/

/-- `PriorityQueue.poll`: any of the least elements may come out. -/
inductive Poll : List IpAddress → Option IpAddress → List IpAddress → Prop
  | empty : Poll [] none []
  | least {networks : List IpAddress} {x : IpAddress} (hx : x ∈ networks)
      (hle : ∀ y ∈ networks, x.compareTo y ≤ 0) : Poll networks (some x) (networks.erase x)

structure Sweep where
  currentNet : Option IpAddress
  networks : List IpAddress
  ipsDone : List IpAddress
  deriving DecidableEq, Repr

/-- The first condition of the loop: `currentNet` ends before `nextNet` begins. -/
def isApart (currentNet : IpAddress) : Option IpAddress → Bool
  | none => true
  | some nextNet => currentNet.getLastAddress < nextNet.getFirstAddress

/-- The second condition: `currentNet` is the lower part of `nextNet`, or equal to it. -/
def startsInside (currentNet nextNet : IpAddress) : Bool :=
  currentNet.getFirstAddress = nextNet.getFirstAddress ∧
    currentNet.networkMask ≥ nextNet.networkMask

def pushUnlessContained (networks : List IpAddress) (x : IpAddress) : List IpAddress :=
  if queueContains networks x then networks else x :: networks

/-- The queue after `nextNet`, whose lower part `currentNet` is, has been split. -/
def splitNext (currentNet nextNet : IpAddress) (networks : List IpAddress) : List IpAddress :=
  let newNets := nextNet.split
  let networks := pushUnlessContained networks newNets.2
  if newNets.1.getLastAddress = currentNet.getLastAddress then networks
  else pushUnlessContained networks newNets.1

/-- The queue after `currentNet`, which `nextNet` lies in, has been split. -/
def splitCurrent (currentNet nextNet : IpAddress) (networks : List IpAddress) : List IpAddress :=
  let newNets := currentNet.split
  if newNets.2.networkMask = nextNet.networkMask then nextNet :: networks
  else nextNet :: newNets.2 :: networks

/-- The body of the loop, once `nextNet` has been polled and `networks` are left. -/
def loopBody (currentNet : IpAddress) (next : Option IpAddress)
    (networks ipsDone : List IpAddress) : Sweep :=
  match next with
  | none => ⟨none, networks, treeAdd ipsDone currentNet⟩
  | some nextNet =>
    if currentNet.getLastAddress < nextNet.getFirstAddress then
      ⟨some nextNet, networks, treeAdd ipsDone currentNet⟩
    else if startsInside currentNet nextNet then
      if currentNet.included = nextNet.included then ⟨some nextNet, networks, ipsDone⟩
      else ⟨some currentNet, splitNext currentNet nextNet networks, ipsDone⟩
    else
      if currentNet.included = nextNet.included then ⟨some currentNet, networks, ipsDone⟩
      else ⟨some currentNet.split.1, splitCurrent currentNet nextNet networks, ipsDone⟩

/-- One round of the loop of `generateIPList`. -/
inductive Round : Sweep → Sweep → Prop
  | mk {currentNet : IpAddress} {networks rest ipsDone : List IpAddress} {next : Option IpAddress}
      (h : Poll networks next rest) :
      Round ⟨some currentNet, networks, ipsDone⟩ (loopBody currentNet next rest ipsDone)

/-- The states in which the loop of `generateIPList` begins. -/
inductive Starts (s : NetworkSpace) : Sweep → Prop
  | mk {first : Option IpAddress} {rest : List IpAddress} (h : Poll s.mIpAddresses first rest) :
      Starts s ⟨first, rest, []⟩

/-- A run of `generateIPList` ends with the list `l`. -/
def Generates (s : NetworkSpace) (l : List IpAddress) : Prop :=
  ∃ s₀ networks, Starts s s₀ ∧ Relation.ReflTransGen Round s₀ ⟨none, networks, l⟩

/-! ### Running the sweep -/

/-- All that polling may give. -/
def polls (networks : List IpAddress) : List (Option IpAddress × List IpAddress) :=
  if networks = [] then [(none, [])]
  else (networks.filter fun x => networks.all fun y => x.compareTo y ≤ 0).map
    fun x => (some x, networks.erase x)

def successors (s : Sweep) : List Sweep :=
  match s.currentNet with
  | none => []
  | some currentNet => (polls s.networks).map fun p => loopBody currentNet p.1 p.2 s.ipsDone

lemma poll_iff {networks rest : List IpAddress} {next : Option IpAddress} :
    Poll networks next rest ↔ (next, rest) ∈ polls networks := by
  constructor
  · rintro (_ | ⟨hx, hle⟩)
    · simp [polls]
    · have hne : networks ≠ [] := List.ne_nil_of_mem hx
      simpa [polls, hne, hx] using hle
  · intro h
    unfold polls at h
    split_ifs at h with hne
    · simp only [List.mem_singleton, Prod.mk.injEq] at h
      obtain ⟨rfl, rfl⟩ := h
      exact hne ▸ .empty
    · simp only [List.mem_map, List.mem_filter, List.all_eq_true, decide_eq_true_eq,
        Prod.mk.injEq] at h
      obtain ⟨x, ⟨hx, hle⟩, rfl, rfl⟩ := h
      exact .least hx hle

lemma round_iff {s t : Sweep} : Round s t ↔ t ∈ successors s := by
  constructor
  · rintro ⟨h⟩
    exact List.mem_map_of_mem (poll_iff.mp h)
  · obtain ⟨_ | c, q, done⟩ := s
    · simp [successors]
    · intro h
      obtain ⟨⟨next, rest⟩, hp, rfl⟩ := List.mem_map.mp h
      exact ⟨poll_iff.mpr hp⟩

lemma starts_iff {s : NetworkSpace} {t : Sweep} : Starts s t ↔
    ∃ p ∈ polls s.mIpAddresses, t = ⟨p.1, p.2, []⟩ := by
  constructor
  · rintro ⟨h⟩
    exact ⟨_, poll_iff.mp h, rfl⟩
  · rintro ⟨p, hp, rfl⟩
    exact ⟨poll_iff.mpr hp⟩

end BuludTechVPN.Space
