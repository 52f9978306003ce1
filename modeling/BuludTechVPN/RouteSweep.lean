import BuludTechVPN.SweepInvariant
import BuludTechVPN.SweepTermination

/-!
What the sweep of `generateIPList` computes: from a set of networks in whose sweep no round
goes wrong, the longest-prefix matches of that set.
-/

namespace BuludTechVPN.Space

open IpAddress Relation

/-! ### The sweep as a whole -/

/-- Every run of `generateIPList` ends, and with a list that includes and excludes each address
as the longest prefix of the set does. -/
def ImplementsLongestPrefix (s : NetworkSpace) : Prop :=
  (∀ r, Starts s r → Runs.Terminates Round r) ∧ (∃ l, Generates s l) ∧
    ∀ l, Generates s l → ∀ a,
      ((∃ x ∈ l, x.included = true ∧ x.Contains a) ↔
        ∃ N, Longest s.mIpAddresses a N ∧ N.included = true) ∧
      ((∃ x ∈ l, x.included = false ∧ x.Contains a) ↔
        ∃ N, Longest s.mIpAddresses a N ∧ N.included = false)

lemma coherent_mIpAddresses (s : NetworkSpace) : Coherent s.mIpAddresses := by
  intro x hx y hy
  have hpair : ∀ {x y : IpAddress}, x.compareTo y < 0 →
      ¬ (x.networkMask = y.networkMask ∧ x.getFirstAddress = y.getFirstAddress) := fun h => by
    rw [compareTo_neg_iff] at h
    omega
  refine List.Pairwise.forall_of_forall_of_flip (R := fun x y : IpAddress =>
    x.networkMask = y.networkMask → x.getFirstAddress = y.getFirstAddress →
      x.included = y.included) (fun _ _ _ _ => rfl) ?_ ?_ hx hy
  · exact s.sorted.imp fun h hm hf => absurd ⟨hm, hf⟩ (hpair h)
  · exact s.sorted.imp fun h hm hf => absurd ⟨hm.symm, hf.symm⟩ (hpair h)

lemma inv_starts {s : NetworkSpace} {r : Sweep} (hv : ∀ x ∈ s.mIpAddresses, x.Valid v)
    (h : Starts s r) : Inv v s.mIpAddresses r := by
  have hF : Faithful v s.mIpAddresses s.mIpAddresses [] :=
    ⟨hv, coherent_mIpAddresses s, by simp, by simp⟩
  obtain @⟨first, rest, hp⟩ := h
  cases first with
  | none =>
    have hnil : s.mIpAddresses = [] ∧ rest = [] := by
      rw [poll_iff, polls] at hp
      split_ifs at hp with h <;> simp at hp
      exact ⟨h, hp⟩
    exact ⟨hF.congr (by simp [Sweep.pending, hnil]), by simp, fun _ => hnil.2⟩
  | some c =>
    refine ⟨hF.congr fun x => by simp [Sweep.pending, hp.mem_iff], ?_, by simp⟩
    intro c' hc' y hy
    obtain rfl : c = c' := by simpa using hc'
    exact hp.le y (hp.mem_iff.mpr (Or.inr hy))

/-- A list of states that holds the starts of a sweep and is closed under its rounds holds every
state of the sweep. -/
lemma mem_states {s : NetworkSpace} {states : List Sweep} {r t : Sweep}
    (hstart : ∀ p ∈ polls s.mIpAddresses, (⟨p.1, p.2, []⟩ : Sweep) ∈ states)
    (hstep : ∀ u ∈ states, ∀ w ∈ successors u, w ∈ states) (hr : Starts s r)
    (ht : ReflTransGen Round r t) : t ∈ states := by
  refine Runs.invariant ?_ (fun u w _ hu huw => hstep u hu w (round_iff.mp huw)) ht
  obtain ⟨p, hp, rfl⟩ := starts_iff.mp hr
  exact hstart p hp

/-- 10.0.0.0/31 through the tunnel, 10.0.0.1 past it. -/
def hostException : NetworkSpace where
  mIpAddresses := [⟨167772160, 31, true, true⟩, ⟨167772161, 32, false, true⟩]
  sorted := by decide

/-- The states of the sweep of `hostException`. -/
def hostExceptionStates : List Sweep :=
  [⟨some ⟨167772160, 31, true, true⟩, [⟨167772161, 32, false, true⟩], []⟩,
   ⟨some ⟨167772160, 32, true, true⟩, [⟨167772161, 32, false, true⟩], []⟩,
   ⟨some ⟨167772161, 32, false, true⟩, [], [⟨167772160, 32, true, true⟩]⟩,
   ⟨none, [], [⟨167772160, 32, true, true⟩, ⟨167772161, 32, false, true⟩]⟩]

/-- 10.0.0.0/30 through the tunnel, its upper half past it, and of that half the first address
through the tunnel again. -/
def nestedException : NetworkSpace where
  mIpAddresses := [⟨167772160, 30, true, true⟩, ⟨167772162, 32, true, true⟩,
    ⟨167772162, 31, false, true⟩]
  sorted := by decide

end BuludTechVPN.Space
