import BuludTechVPN.LongestPrefix

/-!
The invariant of the sweep of `generateIPList`.

As long as two of its branches are not entered in a state they do not handle, every round
leaves the longest-prefix matches of the placed and the pending networks together as they
are.
-/

namespace BuludTechVPN.Space

open IpAddress Relation

variable {v b : Bool} {S M R H done rest : List IpAddress} {c n x y z : IpAddress} {a : ℤ}

/-! ### The branches that lose a network -/

/-- The round enters the branch for a `nextNet` that lies inside `currentNet`. -/
def EntersInner (c n : IpAddress) : Prop :=
  n.getFirstAddress ≤ c.getLastAddress ∧ startsInside c n = false

/-- `nextNet` is ignored as a part of `currentNet` with the same mark, although a queued
network of the other mark begins where `nextNet` does and takes its place. -/
def IgnoresException (c n : IpAddress) (rest : List IpAddress) : Prop :=
  EntersInner c n ∧ c.included = n.included ∧
    ∃ y ∈ rest, y.getFirstAddress = n.getFirstAddress ∧ y.included ≠ n.included

/-- The upper half of `currentNet` is queued beside a network of the same range and the other
mark. -/
def DoublesUpperHalf (c n : IpAddress) (rest : List IpAddress) : Prop :=
  EntersInner c n ∧ c.included ≠ n.included ∧ c.split.2.networkMask ≠ n.networkMask ∧
    ∃ y ∈ rest, y.equals c.split.2 = true ∧ y.included ≠ c.included

/-- The next round from `s` does not go wrong, whichever least network is polled. -/
def Sound (s : Sweep) : Prop :=
  ∀ c n rest, s.currentNet = some c → Poll s.networks (some n) rest →
    ¬ IgnoresException c n rest ∧ ¬ DoublesUpperHalf c n rest

/-! ### What is placed and what is pending -/

/-- The networks the sweep still has to place. -/
def Sweep.pending (s : Sweep) : List IpAddress := s.currentNet.toList ++ s.networks

/-- The placed networks lie before the pending ones, and together they match as `S` does. -/
structure Faithful (v : Bool) (S M done : List IpAddress) : Prop where
  valid : ∀ x ∈ M, x.Valid v
  coherent : Coherent M
  before : ∀ d ∈ done, ∀ x ∈ M, d.getLastAddress < x.getFirstAddress
  answers : ∀ a b, (∃ d ∈ done, d.Contains a ∧ d.included = b) ∨ Mark M a b ↔ Mark S a b

lemma Coherent.subset (h : Coherent M) (hs : ∀ x ∈ R, x ∈ M) : Coherent R :=
  fun x hx y hy => h x (hs x hx) y (hs y hy)

lemma Faithful.congr (h : Faithful v S M done) (hm : ∀ x, x ∈ R ↔ x ∈ M) :
    Faithful v S R done where
  valid x hx := h.valid x ((hm x).mp hx)
  coherent := h.coherent.subset fun x hx => (hm x).mp hx
  before d hd x hx := h.before d hd x ((hm x).mp hx)
  answers a b := by rw [mark_congr hm]; exact h.answers a b

lemma mem_treeAdd (h : ∀ y ∈ done, y.getFirstAddress ≠ x.getFirstAddress) :
    y ∈ treeAdd done x ↔ y = x ∨ y ∈ done := by
  induction done with
  | nil => simp [treeAdd]
  | cons d done ih =>
    have hne : x.compareTo d ≠ 0 := fun e =>
      h d (by simp) (compareTo_eq_zero_iff.mp e).1.symm
    rw [treeAdd]
    split_ifs
    · simp
    · rw [List.mem_cons, ih fun y hy => h y (by simp [hy]), List.mem_cons]
      tauto

lemma Faithful.emit (h : Faithful v S (c :: R) done)
    (hc : ∀ y ∈ R, c.getLastAddress < y.getFirstAddress) : Faithful v S R (treeAdd done c) := by
  have hmem : ∀ y, y ∈ treeAdd done c ↔ y = c ∨ y ∈ done := fun y =>
    mem_treeAdd fun d hd => by
      have := h.before d hd c (by simp)
      have := first_le_last d
      omega
  refine ⟨fun x hx => h.valid x (by simp [hx]), h.coherent.subset fun x hx => by simp [hx],
    fun d hd x hx => ?_, fun a b => ?_⟩
  · rcases (hmem d).mp hd with rfl | hd
    · exact hc x hx
    · exact h.before d hd x (by simp [hx])
  · rw [← h.answers a b]
    by_cases hca : c.Contains a
    · have hR : ∀ y ∈ R, ¬ y.Contains a := fun y hy hya => by
        have := hc y hy
        have := hca.2
        have := hya.1
        omega
      have hnone : ¬ Mark R a b := fun ⟨y, hy, _⟩ => hR y hy.mem hy.contains
      rw [mark_cons_of_apart hR hca]
      simp only [hmem, hnone, or_false, exists_eq_or_imp, hca, true_and]
      exact or_comm
    · rw [mark_cons_of_not_contains hca]
      simp only [hmem, exists_eq_or_imp, hca, false_and, false_or]

lemma Faithful.drop (h : Faithful v S (x :: R) done) (hz : z ∈ R)
    (hxz : ∀ a, x.Contains a → z.Contains a)
    (hmark : ∀ y ∈ R, ∀ a, x.Contains a → y.Contains a → z.networkMask ≤ y.networkMask →
      y.networkMask ≤ x.networkMask → y.included = x.included) : Faithful v S R done where
  valid y hy := h.valid y (by simp [hy])
  coherent := h.coherent.subset fun y hy => by simp [hy]
  before d hd y hy := h.before d hd y (by simp [hy])
  answers a b := by rw [← h.answers a b, mark_drop hz hxz hmark]

lemma Faithful.split (h : Faithful v S (z :: R) done) (hlt : z.networkMask < z.width)
    (hH : Halves z R H) : Faithful v S (H ++ R) done := by
  have hz := h.valid z (by simp)
  have hR : ∀ y ∈ R, y.Valid v := fun y hy => h.valid y (by simp [hy])
  refine ⟨fun x hx => ?_, hH.coherent (h.coherent.subset fun y hy => by simp [hy]),
    fun d hd x hx => ?_, fun a b => by rw [← h.answers a b, mark_split hz hlt hR h.coherent hH]⟩
  · rcases List.mem_append.mp hx with hx | hx
    · exact hH.valid hz hlt hx
    · exact hR x hx
  · rcases List.mem_append.mp hx with hx | hx
    · have h1 := h.before d hd z (by simp)
      have h2 := hz.split_first hlt
      have h3 := Blocks.two_pow_pos z.split.1.bits
      rcases hH.sub x hx with rfl | rfl <;> omega
    · exact h.before d hd x (by simp [hx])

/-! ### The two splits -/

lemma queueContains_iff : queueContains M x = true ↔
    ∃ y ∈ M, y.networkMask = x.networkMask ∧ y.getFirstAddress = x.getFirstAddress := by
  simp only [queueContains, List.any_eq_true, equals_iff]
  constructor <;> rintro ⟨y, hy, h1, h2⟩ <;> exact ⟨y, hy, h1.symm, h2.symm⟩

lemma mem_pushUnlessContained : y ∈ pushUnlessContained M x ↔
    (y = x ∧ queueContains M x = false) ∨ y ∈ M := by
  unfold pushUnlessContained
  split_ifs with h <;> simp [h]

/-- The halves of `n` that `splitNext` queues. -/
def queuedHalves (c n : IpAddress) (rest : List IpAddress) : List IpAddress :=
  (if queueContains rest n.split.2 then [] else [n.split.2]) ++
    (if n.split.1.getLastAddress = c.getLastAddress ∨ queueContains rest n.split.1 then []
      else [n.split.1])

lemma mem_splitNext (hn : n.Valid v) (hlt : n.networkMask < n.width) :
    y ∈ splitNext c n rest ↔ y ∈ queuedHalves c n rest ++ rest := by
  have hq : queueContains (pushUnlessContained rest n.split.2) n.split.1 =
      queueContains rest n.split.1 := by
    rw [Bool.eq_iff_iff, queueContains_iff, queueContains_iff]
    simp only [mem_pushUnlessContained]
    constructor
    · rintro ⟨w, (⟨rfl, -⟩ | hw), hm, hf⟩
      · have h1 := hn.split_first hlt
        have h2 := Blocks.two_pow_pos n.split.1.bits
        omega
      · exact ⟨w, hw, hm, hf⟩
    · rintro ⟨w, hw, h⟩
      exact ⟨w, Or.inr hw, h⟩
  unfold splitNext queuedHalves
  by_cases h1 : n.split.1.getLastAddress = c.getLastAddress <;>
    by_cases h2 : queueContains rest n.split.1 = true <;>
    by_cases h3 : queueContains rest n.split.2 = true <;>
    (simp [h1, h2, h3, hq, mem_pushUnlessContained]; try tauto)

lemma queuedHalves_halves (hc : c.Valid v) (hn : n.Valid v) (hlt : n.networkMask < n.width)
    (hf : c.getFirstAddress = n.getFirstAddress) :
    Halves n (c :: rest) (queuedHalves c n rest) := by
  have hs := hn.split_first hlt
  have hp := Blocks.two_pow_pos n.split.1.bits
  have hv := hn.split hlt
  -- the half that ends with `c` has its range, since it begins with it as well
  have hlast : n.split.1.getLastAddress = c.getLastAddress ↔
      c.networkMask = n.split.1.networkMask := by
    have h1 := hc.bits_eq
    have h2 := hv.1.bits_eq
    have h3 := hc.width_eq hv.1
    rw [last_eq_first, last_eq_first, hs.1, hf]
    constructor
    · intro h
      have : c.bits = n.split.1.bits :=
        Nat.pow_right_injective le_rfl (by
          have : (2 : ℤ) ^ n.split.1.bits = 2 ^ c.bits := by omega
          exact_mod_cast this.symm)
      omega
    · intro h
      have : c.bits = n.split.1.bits := by omega
      rw [this]
  refine ⟨fun h hh => ?_, fun h hh => ?_, fun h hh y hy hm hyf => ?_⟩
  · simp only [queuedHalves, List.mem_append] at hh
    split_ifs at hh <;> simp at hh <;> tauto
  · rcases hh with rfl | rfl
    · by_cases h1 : n.split.1.getLastAddress = c.getLastAddress
      · exact Or.inr ⟨c, by simp, hlast.mp h1, by rw [hs.1, hf]⟩
      · by_cases h2 : queueContains rest n.split.1 = true
        · obtain ⟨w, hw, h⟩ := queueContains_iff.mp h2
          exact Or.inr ⟨w, by simp [hw], h⟩
        · left; simp [queuedHalves, h1, h2]
    · by_cases h2 : queueContains rest n.split.2 = true
      · obtain ⟨w, hw, h⟩ := queueContains_iff.mp h2
        exact Or.inr ⟨w, by simp [hw], h⟩
      · left; simp [queuedHalves, h2]
  · -- a queued half has a range that neither `c` nor the queue has
    exfalso
    simp only [queuedHalves, List.mem_append] at hh
    rcases hh with hh | hh
    · split_ifs at hh with hq
      · simp at hh
      · simp only [List.mem_singleton] at hh
        subst hh
        rcases List.mem_cons.mp hy with rfl | hy
        · omega
        · exact hq (queueContains_iff.mpr ⟨y, hy, hm, hyf⟩)
    · split_ifs at hh with hq
      · simp at hh
      · simp only [List.mem_singleton] at hh
        subst hh
        rcases List.mem_cons.mp hy with rfl | hy
        · exact hq (Or.inl (hlast.mpr hm))
        · exact hq (Or.inr (queueContains_iff.mpr ⟨y, hy, hm, hyf⟩))

/-- Where `n` begins inside `c` and after its first address, it lies in `c`. -/
lemma inner_mask_lt (hc : c.Valid v) (hn : n.Valid v) (hle : c.compareTo n ≤ 0)
    (hin : EntersInner c n) :
    c.getFirstAddress < n.getFirstAddress ∧ c.networkMask < n.networkMask := by
  obtain ⟨hlast, hs⟩ := hin
  have hlt : c.getFirstAddress < n.getFirstAddress := by
    rcases compareTo_le_iff.mp hle with h | ⟨h1, h2⟩
    · exact h
    · simp [startsInside, h1, h2] at hs
  refine ⟨hlt, not_le.mp fun h => ?_⟩
  have := (nested hn hc (contains_first n) ⟨hlt.le, hlast⟩ h).1
  omega

/-- The halves of `c` that take its place beside `n`. -/
def currentHalves (c n : IpAddress) : List IpAddress :=
  if c.split.2.networkMask = n.networkMask then [c.split.1] else [c.split.1, c.split.2]

lemma mem_splitCurrent :
    y ∈ c.split.1 :: splitCurrent c n rest ↔ y ∈ currentHalves c n ++ n :: rest := by
  unfold splitCurrent currentHalves
  by_cases h : c.split.2.networkMask = n.networkMask <;> simp [h]
  tauto

lemma currentHalves_halves (hc : c.Valid v) (hn : n.Valid v) (hlt : c.networkMask < c.width)
    (hle : ∀ y ∈ n :: rest, c.compareTo y ≤ 0) (hin : EntersInner c n)
    (hne : c.included ≠ n.included) (hd : ¬ DoublesUpperHalf c n rest) :
    Halves c (n :: rest) (currentHalves c n) := by
  have hs := hc.split_first hlt
  have hv := hc.split hlt
  obtain ⟨hf, hm⟩ := inner_mask_lt hc hn (hle n (by simp)) hin
  refine ⟨fun h hh => ?_, fun h hh => ?_, fun h hh y hy hym hyf => ?_⟩
  · unfold currentHalves at hh
    split_ifs at hh <;> simp at hh <;> tauto
  · rcases hh with rfl | rfl
    · left; unfold currentHalves; split_ifs <;> simp
    · by_cases he : c.split.2.networkMask = n.networkMask
      · refine Or.inr ⟨n, by simp, he.symm, ?_⟩
        rcases (hc.split_contains hlt).mp ⟨hf.le, hin.1⟩ with h | h
        · have := first_eq_of_mask_eq hn hv.1 (contains_first n) h he.symm
          omega
        · exact first_eq_of_mask_eq hn hv.2 (contains_first n) h he.symm
      · left; simp [currentHalves, he]
  · have hfirst : h = c.split.1 → y.included = c.included := by
      rintro rfl
      -- the least pending network is `c`, so none has the range of its lower half
      rcases compareTo_le_iff.mp (hle y hy) with h1 | ⟨h1, h2⟩
      · omega
      · have := c.split_mask; omega
    unfold currentHalves at hh
    split_ifs at hh with he
    · exact hfirst (by simpa using hh)
    · simp only [List.mem_cons, List.not_mem_nil, or_false] at hh
      rcases hh with hh | rfl
      · exact hfirst hh
      · rcases List.mem_cons.mp hy with rfl | hy
        · exact absurd hym.symm he
        · by_contra hyi
          exact hd ⟨hin, hne, he, y, hy, equals_iff.mpr ⟨hym, hyf⟩, hyi⟩

/-! ### The invariant of the sweep -/

structure Inv (v : Bool) (S : List IpAddress) (s : Sweep) : Prop where
  faithful : Faithful v S s.pending s.ipsDone
  least : ∀ c, s.currentNet = some c → ∀ y ∈ s.networks, c.compareTo y ≤ 0
  finished : s.currentNet = none → s.networks = []

lemma Poll.mem_iff (h : Poll M (some n) rest) : x ∈ M ↔ x = n ∨ x ∈ rest := by
  cases h with
  | least hx hle => rw [(List.perm_cons_erase hx).mem_iff, List.mem_cons]

lemma Poll.le (h : Poll M (some n) rest) : ∀ y ∈ M, n.compareTo y ≤ 0 := by
  cases h with
  | least hx hle => exact hle

/-- **One round**: a round that does not go wrong keeps the invariant. -/
theorem inv_loopBody {s : Sweep} {next : Option IpAddress} (hI : Inv v S s)
    (hs : s.currentNet = some c) (hp : Poll s.networks next rest) (hsound : Sound s) :
    Inv v S (loopBody c next rest s.ipsDone) := by
  obtain ⟨cur, q, done⟩ := s
  obtain rfl : cur = some c := hs
  obtain ⟨hF, hle, -⟩ := hI
  replace hle := hle c rfl
  cases next with
  | none =>
    cases hp
    exact ⟨(hF.emit (by simp)).congr (by simp [Sweep.pending, loopBody]), by simp [loopBody],
      by simp [loopBody]⟩
  | some n =>
    have hmem : ∀ x, x ∈ q ↔ x = n ∨ x ∈ rest := fun x => hp.mem_iff
    have hnle : ∀ y ∈ rest, n.compareTo y ≤ 0 := fun y hy => hp.le y ((hmem y).mpr (Or.inr hy))
    have hcle : ∀ y ∈ n :: rest, c.compareTo y ≤ 0 := fun y hy =>
      hle y ((hmem y).mpr (List.mem_cons.mp hy))
    have hcn : Faithful v S (c :: n :: rest) done :=
      hF.congr fun x => by simp [Sweep.pending, hmem]
    have hnc : Faithful v S (n :: c :: rest) done := hcn.congr fun x => by simp; tauto
    have hcv : c.Valid v := hcn.valid c (by simp)
    have hnv : n.Valid v := hcn.valid n (by simp)
    obtain ⟨hig, hdb⟩ := hsound c n rest rfl hp
    simp only [loopBody]
    split_ifs with h1 h2 h3 h4
    · -- `c` is apart from `n` and from all that follows
      refine ⟨(hcn.emit fun y hy => ?_).congr (by simp [Sweep.pending]), ?_, by simp⟩
      · rcases List.mem_cons.mp hy with rfl | hy
        · exact h1
        · have := compareTo_le_iff.mp (hnle y hy); omega
      · simpa using hnle
    · -- `c` is the lower part of `n`, with its mark
      simp only [startsInside, decide_eq_true_eq] at h2
      refine ⟨(hcn.drop (z := n) (by simp) (fun a ha => ?_) fun y hy a ha hya hm1 hm2 => ?_).congr
        (by simp [Sweep.pending]), by simpa using hnle, by simp⟩
      · refine contains_of_nested hnv hcv (a := c.getFirstAddress) ?_ (contains_first c) h2.2 ha
        rw [h2.1]; exact contains_first n
      · rcases List.mem_cons.mp hy with rfl | hy
        · exact h3.symm
        · have hyv : y.Valid v := hcn.valid y (by simp [hy])
          have h4 := (nested hyv hcv hya ha hm2).1
          rcases compareTo_le_iff.mp (hnle y hy) with h5 | ⟨h5, h6⟩
          · omega
          · rw [h3]
            exact hcn.coherent y (by simp [hy]) n (by simp) (by omega) h5.symm
    · -- `c` is the lower part of `n`, with the other mark
      simp only [startsInside, decide_eq_true_eq] at h2
      have hlt : n.networkMask < n.width := by
        have h4 := hcv.le_width
        have h5 := hcv.width_eq hnv
        have h6 : c.networkMask ≠ n.networkMask := fun e =>
          h3 (hcn.coherent c (by simp) n (by simp) e h2.1)
        omega
      have hs := hnv.split_first hlt
      have hm := n.split_mask
      have hp2 := Blocks.two_pow_pos n.split.1.bits
      refine ⟨(hnc.split hlt (queuedHalves_halves hcv hnv hlt h2.1)).congr fun x => ?_, ?_, by simp⟩
      · simp only [Sweep.pending, Option.toList_some, List.cons_append, List.nil_append,
          List.mem_cons, mem_splitNext hnv hlt, List.mem_append]
        tauto
      · intro c' hc' y hy
        obtain rfl : c = c' := by simpa using hc'
        rcases List.mem_append.mp ((mem_splitNext hnv hlt).mp hy) with hy | hy
        · have h6 : c.networkMask ≠ n.networkMask := fun e =>
            h3 (hcn.coherent c (by simp) n (by simp) e h2.1)
          rw [compareTo_le_iff]
          rcases (queuedHalves_halves hcv hnv hlt h2.1).sub y hy with rfl | rfl <;> omega
        · exact hcle y (by simp [hy])
    · -- `n` lies inside `c`, with its mark
      have hin : EntersInner c n := ⟨not_lt.mp h1, by simpa using h2⟩
      obtain ⟨hf, hm⟩ := inner_mask_lt hcv hnv (hcle n (by simp)) hin
      refine ⟨(hnc.drop (z := c) (by simp) (fun a ha => ?_) fun y hy a ha hya hm1 hm2 => ?_).congr
        (by simp [Sweep.pending]), ?_, by simp⟩
      · exact contains_of_nested hcv hnv ⟨hf.le, hin.1⟩ (contains_first n) hm.le ha
      · rcases List.mem_cons.mp hy with rfl | hy
        · exact h4
        · have hyv : y.Valid v := hcn.valid y (by simp [hy])
          have h5 := (nested hyv hnv hya ha hm2).1
          have h6 := compareTo_le_iff.mp (hnle y hy)
          by_contra hne
          exact hig ⟨hin, h4, y, hy, by omega, hne⟩
      · intro c' hc' y hy
        obtain rfl : c = c' := by simpa using hc'
        exact hcle y (by simp [hy])
    · -- `n` lies inside `c`, with the other mark
      have hin : EntersInner c n := ⟨not_lt.mp h1, by simpa using h2⟩
      obtain ⟨hf, hm⟩ := inner_mask_lt hcv hnv (hcle n (by simp)) hin
      have hlt : c.networkMask < c.width := by
        have h5 := hnv.le_width
        have h6 := hcv.width_eq hnv
        omega
      have hs := hcv.split_first hlt
      have hm' := c.split_mask
      have hp2 := Blocks.two_pow_pos c.split.1.bits
      have hH := currentHalves_halves hcv hnv hlt hcle hin h4 hdb
      refine ⟨(hcn.split hlt hH).congr fun x => mem_splitCurrent, ?_, by simp⟩
      intro c' hc' y hy
      obtain rfl : c.split.1 = c' := by simpa using hc'
      rw [compareTo_le_iff]
      have hy' : y ∈ currentHalves c n ++ n :: rest :=
        mem_splitCurrent.mp (List.mem_cons_of_mem _ hy)
      rcases List.mem_append.mp hy' with hy | hy
      · rcases hH.sub y hy with rfl | rfl <;> omega
      · have := compareTo_le_iff.mp (hcle y hy)
        omega

end BuludTechVPN.Space
