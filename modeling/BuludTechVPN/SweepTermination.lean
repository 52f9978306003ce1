import Mathlib.Algebra.BigOperators.Group.List.Basic
import Mathlib.Data.Prod.Lex
import BuludTechVPN.Runs
import BuludTechVPN.SweepInvariant

/-!
Every run of the sweep of `generateIPList` ends.

No assumption on the marks or the masks of the networks is made, only that they are of one
family. A round forgets a network, places one or replaces one by its halves; and where the
halves of a single address are again single addresses, the upper one is no longer in the way.
-/

namespace BuludTechVPN.Space

open IpAddress Relation

variable {v : Bool} {w : ℤ} {M R rest : List IpAddress} {c n x y : IpAddress}

/-! ### Halves -/

lemma split_bits (x : IpAddress) : x.split.1.bits = x.bits - 1 ∧ x.split.2.bits = x.bits - 1 := by
  have h1 := split_mask x
  have h2 : x.split.1.width = x.width ∧ x.split.2.width = x.width := ⟨rfl, rfl⟩
  unfold bits numBits
  omega

lemma last_eq_of_bits (h : x.bits = 0) : x.getLastAddress = x.getFirstAddress := by
  rw [last_eq_first, h]; simp

lemma split_first_eq (x : IpAddress) : x.split.1.getFirstAddress = x.getFirstAddress := by
  have hb : x.split.1.bits ≤ x.bits := by
    unfold bits numBits
    have : x.split.1.width = x.width := rfl
    have := (split_mask x).1
    omega
  rw [getFirstAddress_eq]
  show Blocks.low _ x.getFirstAddress = _
  rw [getFirstAddress_eq]
  exact Blocks.low_unique ((pow_dvd_pow 2 hb).trans (Blocks.dvd_low _ _)) le_rfl
    (by have := Blocks.two_pow_pos x.split.1.bits; omega)

/-- The upper half begins with the address after the lower one. -/
lemma split_second_first (x : IpAddress) :
    x.split.2.getFirstAddress = x.split.1.getLastAddress + 1 := by
  have hb : x.split.2.bits = x.split.1.bits := rfl
  have hl := last_eq_first x.split.1
  have hp := Blocks.two_pow_pos x.split.1.bits
  have hd : (2 : ℤ) ^ x.split.1.bits ∣ x.split.1.getFirstAddress := by
    rw [getFirstAddress_eq]; exact Blocks.dvd_low _ _
  rw [getFirstAddress_eq, hb]
  show Blocks.low _ (x.split.1.getLastAddress + 1) = _
  refine Blocks.low_unique ?_ le_rfl (by omega)
  rw [hl]
  have e2 : x.split.1.getFirstAddress + (2 ^ x.split.1.bits - 1) + 1 =
      x.split.1.getFirstAddress + 2 ^ x.split.1.bits := by ring
  rw [e2]
  exact Int.dvd_add hd (Int.dvd_refl _)

lemma split_first_lt (x : IpAddress) : x.getFirstAddress < x.split.2.getFirstAddress := by
  have e := split_first_eq x
  have hl := first_le_last x.split.1
  have := split_second_first x
  omega

/-! ### The variant -/

/-- The sum over the networks of a weight that more than halves with each split. -/
def weight (M : List IpAddress) : ℕ := (M.map fun x => 3 ^ x.bits).sum

@[simp] lemma weight_cons (x : IpAddress) (M : List IpAddress) :
    weight (x :: M) = 3 ^ x.bits + weight M := rfl

lemma weight_perm (h : M.Perm R) : weight M = weight R := (h.map _).sum_eq

lemma weight_push_le (M : List IpAddress) (x : IpAddress) :
    weight (pushUnlessContained M x) ≤ 3 ^ x.bits + weight M := by
  unfold pushUnlessContained
  split_ifs <;> simp

lemma weight_halves (h : x.bits ≠ 0) : 3 * 3 ^ (x.bits - 1) = 3 ^ x.bits := by
  rw [← pow_succ']
  congr 1
  omega

lemma weight_splitNext (h : n.bits ≠ 0) :
    weight (splitNext c n rest) < 3 ^ n.bits + weight rest := by
  have e1 := weight_push_le rest n.split.2
  have e2 := weight_push_le (pushUnlessContained rest n.split.2) n.split.1
  have e3 := weight_halves h
  have hpos : 0 < 3 ^ (n.bits - 1) := by positivity
  simp only [(split_bits n).1, (split_bits n).2] at e1 e2
  unfold splitNext
  simp only
  split_ifs <;> omega

lemma weight_splitCurrent (h : c.bits ≠ 0) :
    weight (c.split.1 :: splitCurrent c n rest) < 3 ^ c.bits + weight (n :: rest) := by
  have e3 := weight_halves h
  have hpos : 0 < 3 ^ (c.bits - 1) := by positivity
  unfold splitCurrent
  simp only
  split_ifs <;> simp only [weight_cons, (split_bits c).1, (split_bits c).2] <;> omega

/-- The queued networks that begin where `currentNet` does. -/
def atCurrent (s : Sweep) : ℕ :=
  s.networks.countP fun y => s.currentNet.any fun c => c.getFirstAddress = y.getFirstAddress

/-- What falls with each round. -/
def variant (s : Sweep) : ℕ ×ₗ ℕ := toLex (weight s.pending, atCurrent s)

lemma variant_lt {s t : Sweep} (h : weight t.pending < weight s.pending ∨
    weight t.pending = weight s.pending ∧ atCurrent t < atCurrent s) : variant t < variant s :=
  Prod.Lex.toLex_lt_toLex.mpr h

/-- The order of `currentNet` and the queue, as far as the halves put back keep it. -/
structure Ordered (w : ℤ) (s : Sweep) : Prop where
  width : ∀ x ∈ s.pending, x.width = w
  first : ∀ c, s.currentNet = some c → ∀ y ∈ s.networks, c.getFirstAddress ≤ y.getFirstAddress
  mask : ∀ c, s.currentNet = some c → ∀ y ∈ s.networks, y.getFirstAddress = c.getFirstAddress →
    y.networkMask ≤ c.networkMask + 1 ∧ (c.bits = 0 → y.networkMask ≤ c.networkMask)

lemma bits_eq_zero_of_le (hw : x.width = w) (hy : y.width = w)
    (h : x.networkMask ≤ y.networkMask) (hx : x.bits = 0) : y.bits = 0 := by
  unfold bits numBits at *
  omega

lemma Poll.perm (h : Poll M (some n) rest) : M.Perm (n :: rest) := by
  cases h with
  | least hx hle => exact List.perm_cons_erase hx

lemma poll_none (h : Poll M none rest) : rest = [] := by
  generalize hn : (none : Option IpAddress) = next at h
  cases h with
  | empty => rfl
  | least hx hle => simp at hn

/-- What the queue holds after `nextNet` has been split. -/
lemma mem_of_mem_splitNext (hy : y ∈ splitNext c n rest) : y ∈ rest ∨ y = n.split.2 ∨
    y = n.split.1 ∧ n.split.1.getLastAddress ≠ c.getLastAddress := by
  unfold splitNext at hy
  simp only at hy
  split_ifs at hy with hl
  · rcases mem_pushUnlessContained.mp hy with ⟨rfl, -⟩ | hy
    · exact Or.inr (Or.inl rfl)
    · exact Or.inl hy
  · rcases mem_pushUnlessContained.mp hy with ⟨rfl, -⟩ | hy
    · exact Or.inr (Or.inr ⟨rfl, hl⟩)
    · rcases mem_pushUnlessContained.mp hy with ⟨rfl, -⟩ | hy
      · exact Or.inr (Or.inl rfl)
      · exact Or.inl hy

lemma mem_of_mem_splitCurrent (hy : y ∈ splitCurrent c n rest) :
    y ∈ n :: rest ∨ y = c.split.2 := by
  unfold splitCurrent at hy
  simp only at hy
  split_ifs at hy <;> simp at hy ⊢ <;> tauto

/-- Where both networks are single addresses, the upper half alone is queued. -/
lemma splitNext_single (hc : c.bits = 0) (hn : n.bits = 0)
    (h : c.getFirstAddress = n.getFirstAddress) :
    splitNext c n rest = pushUnlessContained rest n.split.2 := by
  have h1 : n.split.1.bits = 0 := by have := (split_bits n).1; omega
  unfold splitNext
  simp only
  rw [if_pos]
  rw [last_eq_of_bits h1, last_eq_of_bits hc, split_first_eq, h]

/-! ### One round -/

section Round

variable {done : List IpAddress}

/-- `nextNet` takes the place of `currentNet`. -/
lemma ordered_next (hw : ∀ x ∈ n :: rest, x.width = w) (hle : ∀ y ∈ rest, n.compareTo y ≤ 0) :
    Ordered w ⟨some n, rest, done⟩ := by
  refine ⟨hw, ?_, ?_⟩ <;> rintro _ ⟨rfl⟩ y hy <;> have := compareTo_le_iff.mp (hle y hy)
  · omega
  · intro h
    omega

lemma weight_next (hp : Poll M (some n) rest) (l : List IpAddress) :
    weight (Sweep.pending ⟨some n, rest, l⟩) < weight (Sweep.pending ⟨some c, M, done⟩) := by
  have : 0 < 3 ^ c.bits := by positivity
  have e : weight M = weight (n :: rest) := weight_perm hp.perm
  simp only [Sweep.pending, Option.toList_some, List.cons_append, List.nil_append, weight_cons] at e ⊢
  omega

lemma Ordered.subset (h : Ordered w ⟨some c, M, done⟩) (hs : ∀ x ∈ R, x ∈ M) :
    Ordered w ⟨some c, R, done⟩ where
  width x hx := h.width x (by
    rcases List.mem_cons.mp hx with rfl | hx
    · exact List.mem_cons_self
    · exact List.mem_cons_of_mem _ (hs x hx))
  first c' hc y hy := h.first c' hc y (hs y hy)
  mask c' hc y hy := h.mask c' hc y (hs y hy)

/-- `nextNet` has been split. -/
lemma ordered_splitNext (h : Ordered w ⟨some c, M, done⟩) (hp : Poll M (some n) rest)
    (hin : startsInside c n = true) : Ordered w ⟨some c, splitNext c n rest, done⟩ := by
  have hn : n ∈ M := hp.mem_iff.mpr (Or.inl rfl)
  have hnw := h.width n (List.mem_cons_of_mem _ hn)
  have hcw := h.width c List.mem_cons_self
  have hm := split_mask n
  have hf1 := split_first_eq n
  have hf2 := split_first_lt n
  have hbits := (split_bits n).1
  simp only [startsInside, decide_eq_true_eq] at hin
  have hrest : ∀ y ∈ rest, y ∈ M := fun y hy => hp.mem_iff.mpr (Or.inr hy)
  refine ⟨fun x hx => ?_, ?_, ?_⟩
  · rcases List.mem_cons.mp hx with rfl | hx
    · exact hcw
    · rcases mem_of_mem_splitNext hx with hx | rfl | ⟨rfl, -⟩
      · exact h.width x (List.mem_cons_of_mem _ (hrest x hx))
      · exact hnw
      · exact hnw
  · rintro _ ⟨rfl⟩ y hy
    rcases mem_of_mem_splitNext hy with hy | rfl | ⟨rfl, -⟩
    · exact h.first c rfl y (hrest y hy)
    · omega
    · omega
  · rintro _ ⟨rfl⟩ y hy he
    rcases mem_of_mem_splitNext hy with hy | rfl | ⟨rfl, hl⟩
    · exact h.mask c rfl y (hrest y hy) he
    · omega
    · refine ⟨by omega, fun hc => ?_⟩
      by_contra hlt
      -- the masks are equal, so the half would be all of `currentNet`
      have hn0 := bits_eq_zero_of_le hcw hnw (by omega) hc
      exact hl (by rw [last_eq_of_bits (by omega), last_eq_of_bits hc, he])

/-- A lower half of `nextNet`, if queued at all, makes up for the network it was taken from; of
single addresses, one less begins where `currentNet` does. -/
lemma variant_splitNext (h : Ordered w ⟨some c, M, done⟩) (hp : Poll M (some n) rest)
    (hin : startsInside c n = true) :
    variant ⟨some c, splitNext c n rest, done⟩ < variant ⟨some c, M, done⟩ := by
  have e : weight M = weight (n :: rest) := weight_perm hp.perm
  have hn : n ∈ M := hp.mem_iff.mpr (Or.inl rfl)
  simp only [startsInside, decide_eq_true_eq] at hin
  refine variant_lt ?_
  simp only [Sweep.pending, Option.toList_some, List.cons_append, List.nil_append,
    weight_cons] at e ⊢
  by_cases h0 : n.bits = 0
  · have hc0 : c.bits = 0 := bits_eq_zero_of_le (h.width n (List.mem_cons_of_mem _ hn))
      (h.width c List.mem_cons_self) hin.2 h0
    rw [splitNext_single hc0 h0 hin.1]
    have hle := weight_push_le rest n.split.2
    rw [(split_bits n).2, h0] at hle
    have hlt : atCurrent ⟨some c, pushUnlessContained rest n.split.2, done⟩ <
        atCurrent ⟨some c, M, done⟩ := by
      have hf2 := split_first_lt n
      have hne : c.getFirstAddress ≠ n.split.2.getFirstAddress := by omega
      have hM : atCurrent ⟨some c, M, done⟩ = atCurrent ⟨some c, n :: rest, done⟩ :=
        hp.perm.countP_eq _
      rw [hM]
      unfold atCurrent pushUnlessContained
      split_ifs <;> simp [hin.1, hin.1 ▸ hne]
    simp only [h0] at e
    omega
  · have : weight (splitNext c n rest) < _ := weight_splitNext h0
    omega

/-- Only a network of more than one address has others inside. -/
lemma bits_of_inner {done : List IpAddress} (h : Ordered w ⟨some c, M, done⟩)
    (hp : Poll M (some n) rest) (hap : ¬ c.getLastAddress < n.getFirstAddress)
    (hin : startsInside c n = false) : c.bits ≠ 0 := by
  intro h0
  have hn : n ∈ M := hp.mem_iff.mpr (Or.inl rfl)
  have hle := h.first c rfl n hn
  rw [last_eq_of_bits h0] at hap
  have hf : n.getFirstAddress = c.getFirstAddress := by omega
  have := (h.mask c rfl n hn hf).2 h0
  simp only [startsInside, decide_eq_false_iff_not] at hin
  omega

/-- `currentNet` has been split. -/
lemma ordered_splitCurrent {done : List IpAddress} (h : Ordered w ⟨some c, M, done⟩)
    (hp : Poll M (some n) rest) : Ordered w ⟨some c.split.1, splitCurrent c n rest, done⟩ := by
  have hcw := h.width c List.mem_cons_self
  have hm := split_mask c
  have hf1 := split_first_eq c
  have hf2 := split_first_lt c
  have hsub : ∀ y ∈ n :: rest, y ∈ M := fun y hy => hp.mem_iff.mpr (List.mem_cons.mp hy)
  refine ⟨fun x hx => ?_, ?_, ?_⟩
  · rcases List.mem_cons.mp hx with rfl | hx
    · exact hcw
    · rcases mem_of_mem_splitCurrent hx with hx | rfl
      · exact h.width x (List.mem_cons_of_mem _ (hsub x hx))
      · exact hcw
  · rintro _ ⟨rfl⟩ y hy
    rcases mem_of_mem_splitCurrent hy with hy | rfl
    · have := h.first c rfl y (hsub y hy)
      omega
    · omega
  · rintro _ ⟨rfl⟩ y hy he
    rcases mem_of_mem_splitCurrent hy with hy | rfl
    · have := (h.mask c rfl y (hsub y hy) (by omega)).1
      omega
    · omega

/-- **The variant falls** with each round, which keeps the order. -/
theorem ordered_loopBody {s : Sweep} {next : Option IpAddress} (h : Ordered w s)
    (hs : s.currentNet = some c) (hp : Poll s.networks next rest) :
    Ordered w (loopBody c next rest s.ipsDone) ∧
      variant (loopBody c next rest s.ipsDone) < variant s := by
  obtain ⟨cur, q, done⟩ := s
  obtain rfl : cur = some c := hs
  cases next with
  | none =>
    cases hp
    exact ⟨by refine ⟨?_, ?_, ?_⟩ <;> simp [loopBody, Sweep.pending],
      variant_lt (Or.inl (by simp [loopBody, Sweep.pending, weight]))⟩
  | some n =>
    have hmem : ∀ x, x ∈ q ↔ x = n ∨ x ∈ rest := fun x => hp.mem_iff
    have hnext : ∀ l, Ordered w ⟨some n, rest, l⟩ := fun l => ordered_next
      (fun x hx => h.width x (List.mem_cons_of_mem _ ((hmem x).mpr (List.mem_cons.mp hx))))
      fun y hy => hp.le y ((hmem y).mpr (Or.inr hy))
    simp only [loopBody]
    split_ifs with h1 h2 h3 h4
    · exact ⟨hnext _, variant_lt (Or.inl (weight_next hp _))⟩
    · exact ⟨hnext _, variant_lt (Or.inl (weight_next hp _))⟩
    · exact ⟨ordered_splitNext h hp h2, variant_splitNext h hp h2⟩
    · refine ⟨h.subset fun x hx => (hmem x).mpr (Or.inr hx), variant_lt (Or.inl ?_)⟩
      have : 0 < 3 ^ n.bits := by positivity
      have e := weight_perm hp.perm
      simp only [Sweep.pending, Option.toList_some, List.cons_append, List.nil_append,
        weight_cons] at e ⊢
      omega
    · have hc0 := bits_of_inner h hp h1 (by simpa using h2)
      exact ⟨ordered_splitCurrent h hp, variant_lt (Or.inl (by
        have : weight (c.split.1 :: splitCurrent c n rest) < _ := weight_splitCurrent hc0
        have e := weight_perm hp.perm
        simp only [Sweep.pending, Option.toList_some, List.cons_append, List.nil_append,
          weight_cons] at e this ⊢
        omega))⟩

end Round

/-! ### Runs -/

lemma exists_poll (M : List IpAddress) : ∃ next rest, Poll M next rest := by
  have key : M ≠ [] → ∃ x ∈ M, ∀ y ∈ M, x.compareTo y ≤ 0 := by
    induction M with
    | nil => simp
    | cons z M ih =>
      intro _
      by_cases hM : M = []
      · exact ⟨z, by simp, by simp [hM, compareTo_le_iff]⟩
      · obtain ⟨x, hx, hle⟩ := ih hM
        by_cases hzx : z.compareTo x ≤ 0
        · refine ⟨z, by simp, fun y hy => ?_⟩
          rcases List.mem_cons.mp hy with rfl | hy
          · simp [compareTo_le_iff]
          · have h1 := compareTo_le_iff.mp (hle y hy)
            rw [compareTo_le_iff] at hzx ⊢
            omega
        · refine ⟨x, by simp [hx], fun y hy => ?_⟩
          rcases List.mem_cons.mp hy with rfl | hy
          · rw [compareTo_le_iff] at hzx ⊢
            omega
          · exact hle y hy
  by_cases hM : M = []
  · exact ⟨none, [], hM ▸ .empty⟩
  · obtain ⟨x, hx, hle⟩ := key hM
    exact ⟨some x, M.erase x, .least hx hle⟩

/-- A run that has not returned goes on, so one that ends has returned. -/
lemma exists_final {r : Sweep} (h : Runs.Terminates Round r) :
    ∃ t, ReflTransGen Round r t ∧ t.currentNet = none := by
  induction h with
  | intro r _ ih =>
    obtain ⟨_ | c, q, done⟩ := r
    · exact ⟨_, .refl, rfl⟩
    · obtain ⟨next, rest, hp⟩ := exists_poll q
      obtain ⟨t, ht, hn⟩ := ih _ (Round.mk hp)
      exact ⟨t, .head (Round.mk hp) ht, hn⟩

lemma ordered_starts {s : NetworkSpace} {r : Sweep} (hv : ∀ x ∈ s.mIpAddresses, x.isV4 = v)
    (h : Starts s r) : ∃ w, Ordered w r := by
  obtain @⟨first, rest, hp⟩ := h
  cases first with
  | none =>
    obtain rfl := poll_none hp
    exact ⟨0, by refine ⟨?_, ?_, ?_⟩ <;> simp [Sweep.pending]⟩
  | some c =>
    have hx : ∀ x ∈ c :: rest, x.isV4 = v := fun x hx =>
      hv x (hp.mem_iff.mpr (List.mem_cons.mp hx))
    refine ⟨c.width, ordered_next (fun x h => ?_) fun y hy => hp.le y (hp.mem_iff.mpr (Or.inr hy))⟩
    unfold width
    rw [hx x h, hx c List.mem_cons_self]

/-- **Every run ends**, whatever the marks and the masks and whichever least networks are
polled. -/
theorem sweep_terminates {s : NetworkSpace} {r : Sweep} (hv : ∀ x ∈ s.mIpAddresses, x.isV4 = v)
    (h : Starts s r) : Runs.Terminates Round r := by
  obtain ⟨w, hB⟩ := ordered_starts hv h
  refine Runs.terminates_of_measure (I := Ordered w) variant ?_ hB
  rintro t u hI ⟨hp⟩
  exact ordered_loopBody hI rfl hp

theorem exists_generates {s : NetworkSpace} (hv : ∀ x ∈ s.mIpAddresses, x.isV4 = v) :
    ∃ l, Generates s l := by
  obtain ⟨first, rest, hp⟩ := exists_poll s.mIpAddresses
  obtain ⟨⟨_, q, l⟩, ht, rfl⟩ := exists_final (sweep_terminates hv ⟨hp⟩)
  exact ⟨l, _, q, ⟨hp⟩, ht⟩

end BuludTechVPN.Space
