import BuludTechVPN.NetworkSpace

/-!
The range of a network: an aligned block of addresses.

Networks of one family are nested or disjoint, and splitting one gives its two halves.
-/

namespace BuludTechVPN.Space

open JavaLang Cidr Blocks

lemma foldl_clearBit (a : ℤ) (k : ℕ) : (List.range k).foldl clearBit a = low k a := by
  induction k with
  | zero => simp [low]
  | succ k ih =>
    rw [List.range_succ, List.foldl_append, ih, List.foldl_cons, List.foldl_nil, clearBit,
      low_eq_mul, Int.mul_ediv_cancel_left _ (two_pow_pos k).ne', low_eq_mul]
    have hq : a / 2 ^ (k + 1) = a / 2 ^ k / 2 := by
      rw [pow_succ, Int.ediv_ediv_of_nonneg (two_pow_pos k).le]
    rw [hq, pow_succ]
    split_ifs with h
    · have : a / 2 ^ k = 2 * (a / 2 ^ k / 2) + 1 := by omega
      calc 2 ^ k * (a / 2 ^ k) - 2 ^ k = 2 ^ k * (a / 2 ^ k - 1) := by ring
        _ = 2 ^ k * (2 * (a / 2 ^ k / 2)) := by congr 1; omega
        _ = _ := by ring
    · have : a / 2 ^ k = 2 * (a / 2 ^ k / 2) := by omega
      calc 2 ^ k * (a / 2 ^ k) = 2 ^ k * (2 * (a / 2 ^ k / 2)) := by rw [← this]
        _ = _ := by ring

lemma foldl_setBit (a : ℤ) (k : ℕ) : (List.range k).foldl setBit a = high k a := by
  induction k with
  | zero => simp [high, low]
  | succ k ih =>
    have hd : high k a / 2 ^ k = a / 2 ^ k := by
      have := two_pow_pos k
      rw [high, low_eq_mul, add_comm, Int.add_mul_ediv_left _ _ this.ne',
        Int.ediv_eq_zero_of_lt (by omega) (by omega), zero_add]
    rw [List.range_succ, List.foldl_append, ih, List.foldl_cons, List.foldl_nil, setBit, hd,
      high, high, low_eq_mul, low_eq_mul]
    have hq : a / 2 ^ (k + 1) = a / 2 ^ k / 2 := by
      rw [pow_succ, Int.ediv_ediv_of_nonneg (two_pow_pos k).le]
    rw [hq, pow_succ]
    split_ifs with h
    · have : a / 2 ^ k = 2 * (a / 2 ^ k / 2) + 1 := by omega
      calc 2 ^ k * (a / 2 ^ k) + (2 ^ k - 1)
          = 2 ^ k * (2 * (a / 2 ^ k / 2) + 1) + (2 ^ k - 1) := by rw [← this]
        _ = _ := by ring
    · have : a / 2 ^ k = 2 * (a / 2 ^ k / 2) := by omega
      calc 2 ^ k * (a / 2 ^ k) + (2 ^ k - 1) + 2 ^ k
          = 2 ^ k * (2 * (a / 2 ^ k / 2)) + (2 ^ k - 1) + 2 ^ k := by rw [← this]
        _ = _ := by ring

namespace IpAddress

/-- The host bits of a network, none when the mask is too long. -/
def bits (x : IpAddress) : ℕ := x.numBits.toNat

lemma getFirstAddress_eq (x : IpAddress) : x.getFirstAddress = low x.bits x.netAddress :=
  foldl_clearBit _ _

lemma getLastAddress_eq (x : IpAddress) : x.getLastAddress = high x.bits x.netAddress :=
  foldl_setBit _ _

/-- The address `a` lies in the network. -/
def Contains (x : IpAddress) (a : ℤ) : Prop := x.getFirstAddress ≤ a ∧ a ≤ x.getLastAddress

instance (x : IpAddress) (a : ℤ) : Decidable (x.Contains a) :=
  inferInstanceAs (Decidable (_ ∧ _))

lemma contains_iff {x : IpAddress} {a : ℤ} : x.Contains a ↔ low x.bits a = x.getFirstAddress := by
  rw [Contains, getFirstAddress_eq, getLastAddress_eq, low_eq_iff]

lemma contains_first (x : IpAddress) : x.Contains x.getFirstAddress := by
  rw [contains_iff, getFirstAddress_eq, low_low le_rfl]

lemma first_le_last (x : IpAddress) : x.getFirstAddress ≤ x.getLastAddress :=
  (contains_first x).2

lemma last_eq_first (x : IpAddress) : x.getLastAddress = x.getFirstAddress + (2 ^ x.bits - 1) := by
  rw [getFirstAddress_eq, getLastAddress_eq, high]

/-- A network of the family, with a mask the family has. -/
structure Valid (isV4 : Bool) (x : IpAddress) : Prop where
  family : x.isV4 = isV4
  nonneg : 0 ≤ x.networkMask
  le_width : x.networkMask ≤ x.width

variable {v : Bool} {x y z : IpAddress} {a : ℤ}

lemma Valid.bits_eq (hx : x.Valid v) : (x.bits : ℤ) = x.width - x.networkMask := by
  have := hx.le_width
  unfold bits numBits; omega

lemma Valid.width_eq (hx : x.Valid v) (hy : y.Valid v) : x.width = y.width := by
  unfold width; rw [hx.family, hy.family]

lemma Valid.mask_le_iff (hx : x.Valid v) (hy : y.Valid v) :
    x.networkMask ≤ y.networkMask ↔ y.bits ≤ x.bits := by
  have h1 := hx.bits_eq
  have h2 := hy.bits_eq
  have h3 := hx.width_eq hy
  omega

/-- Of two networks with a common address, the one with fewer host bits lies in the other. -/
lemma nested_of_bits (hb : y.bits ≤ x.bits) (hxa : x.Contains a) (hya : y.Contains a) :
    x.getFirstAddress ≤ y.getFirstAddress ∧ y.getLastAddress ≤ x.getLastAddress := by
  have ex := contains_iff.mp hxa
  have ey := contains_iff.mp hya
  have h1 := low_mono hb a
  have h2 := high_mono hb a
  rw [last_eq_first, last_eq_first, ← ex, ← ey]
  exact ⟨h1, h2⟩

/-- **Nesting**: of two networks with a common address, the one with the longer mask lies in
the other. -/
lemma nested (hx : x.Valid v) (hy : y.Valid v) (hxa : x.Contains a) (hya : y.Contains a)
    (h : x.networkMask ≤ y.networkMask) :
    x.getFirstAddress ≤ y.getFirstAddress ∧ y.getLastAddress ≤ x.getLastAddress :=
  nested_of_bits ((hx.mask_le_iff hy).mp h) hxa hya

lemma first_eq_of_mask_eq (hx : x.Valid v) (hy : y.Valid v) (hxa : x.Contains a)
    (hya : y.Contains a) (h : x.networkMask = y.networkMask) :
    x.getFirstAddress = y.getFirstAddress :=
  le_antisymm (nested hx hy hxa hya h.le).1 (nested hy hx hya hxa h.ge).1

lemma contains_of_nested (hx : x.Valid v) (hy : y.Valid v) (hxa : x.Contains a)
    (hya : y.Contains a) (h : x.networkMask ≤ y.networkMask) {b : ℤ} (hb : y.Contains b) :
    x.Contains b := by
  obtain ⟨h1, h2⟩ := nested hx hy hxa hya h
  exact ⟨h1.trans hb.1, hb.2.trans h2⟩

/-! ### Order and equality -/

lemma compareTo_neg_iff : x.compareTo y < 0 ↔ x.getFirstAddress < y.getFirstAddress ∨
    (x.getFirstAddress = y.getFirstAddress ∧ y.networkMask < x.networkMask) := by
  unfold compareTo
  rcases lt_trichotomy x.getFirstAddress y.getFirstAddress with h | h | h
  · have : Int.sign (x.getFirstAddress - y.getFirstAddress) = -1 :=
      Int.sign_eq_neg_one_of_neg (by omega)
    simp [this, h]
  · simp only [h, sub_self, Int.sign_zero, ne_eq, not_true_eq_false, if_false, lt_irrefl,
      true_and, false_or]
    split_ifs <;> omega
  · have : Int.sign (x.getFirstAddress - y.getFirstAddress) = 1 :=
      Int.sign_eq_one_of_pos (by omega)
    simp only [this]
    simp; omega

lemma compareTo_eq_zero_iff : x.compareTo y = 0 ↔
    x.getFirstAddress = y.getFirstAddress ∧ x.networkMask = y.networkMask := by
  unfold compareTo
  rcases lt_trichotomy x.getFirstAddress y.getFirstAddress with h | h | h
  · have : Int.sign (x.getFirstAddress - y.getFirstAddress) = -1 :=
      Int.sign_eq_neg_one_of_neg (by omega)
    simp only [this]
    simp; omega
  · simp only [h, sub_self, Int.sign_zero, ne_eq, not_true_eq_false, if_false, true_and]
    split_ifs <;> simp <;> omega
  · have : Int.sign (x.getFirstAddress - y.getFirstAddress) = 1 :=
      Int.sign_eq_one_of_pos (by omega)
    simp only [this]
    simp; omega

lemma compareTo_le_iff : x.compareTo y ≤ 0 ↔ x.getFirstAddress < y.getFirstAddress ∨
    (x.getFirstAddress = y.getFirstAddress ∧ y.networkMask ≤ x.networkMask) := by
  rw [le_iff_lt_or_eq, compareTo_neg_iff, compareTo_eq_zero_iff]
  omega

lemma equals_iff : x.equals y = true ↔
    x.networkMask = y.networkMask ∧ x.getFirstAddress = y.getFirstAddress := by
  unfold equals
  rw [decide_eq_true_iff, eq_comm (a := y.getFirstAddress)]

/-! ### Halves -/

lemma Valid.split (hx : x.Valid v) (h : x.networkMask < x.width) :
    x.split.1.Valid v ∧ x.split.2.Valid v := by
  have h0 := hx.nonneg
  have hf := hx.family
  have hn : 0 ≤ x.networkMask + 1 := by omega
  have hw : x.networkMask + 1 ≤ x.width := by omega
  exact ⟨⟨hf, hn, hw⟩, ⟨hf, hn, hw⟩⟩

lemma split_included (x : IpAddress) :
    x.split.1.included = x.included ∧ x.split.2.included = x.included := ⟨rfl, rfl⟩

lemma split_mask (x : IpAddress) : x.split.1.networkMask = x.networkMask + 1 ∧
    x.split.2.networkMask = x.networkMask + 1 := ⟨rfl, rfl⟩

lemma Valid.split_bits (hx : x.Valid v) (h : x.networkMask < x.width) :
    x.bits = x.split.1.bits + 1 ∧ x.split.2.bits = x.split.1.bits := by
  have h1 := hx.bits_eq
  have h2 := (hx.split h).1.bits_eq
  have h3 := (hx.split h).2.bits_eq
  have e : x.split.1.width = x.width ∧ x.split.2.width = x.width := ⟨rfl, rfl⟩
  have m := x.split_mask
  omega

lemma Valid.split_first (hx : x.Valid v) (h : x.networkMask < x.width) :
    x.split.1.getFirstAddress = x.getFirstAddress ∧
      x.split.2.getFirstAddress = x.getFirstAddress + 2 ^ x.split.1.bits := by
  obtain ⟨hb, hb'⟩ := hx.split_bits h
  have e1 : x.split.1.getFirstAddress = x.getFirstAddress := by
    rw [getFirstAddress_eq]
    show low _ x.getFirstAddress = _
    rw [getFirstAddress_eq]
    exact low_unique (((pow_dvd_pow 2 (by omega)).trans (dvd_low x.bits x.netAddress))) le_rfl
      (by have := two_pow_pos x.split.1.bits; omega)
  refine ⟨e1, ?_⟩
  have e2 : x.split.1.getLastAddress + 1 = x.getFirstAddress + 2 ^ x.split.1.bits := by
    rw [last_eq_first, e1]; ring
  rw [getFirstAddress_eq, hb']
  show low _ (x.split.1.getLastAddress + 1) = _
  rw [e2]
  have hd : (2 : ℤ) ^ x.split.1.bits ∣ x.getFirstAddress := by
    rw [getFirstAddress_eq]
    exact (pow_dvd_pow 2 (by omega)).trans (dvd_low x.bits x.netAddress)
  exact low_unique (Int.dvd_add hd (Int.dvd_refl _)) le_rfl
    (by have := two_pow_pos x.split.1.bits; omega)

lemma Valid.split_contains (hx : x.Valid v) (h : x.networkMask < x.width) :
    x.Contains a ↔ x.split.1.Contains a ∨ x.split.2.Contains a := by
  obtain ⟨hb, hb'⟩ := hx.split_bits h
  obtain ⟨h1, h2⟩ := hx.split_first h
  have hp := two_pow_pos x.split.1.bits
  have hpow : (2 : ℤ) ^ x.bits = 2 * 2 ^ x.split.1.bits := by rw [hb]; ring
  simp only [Contains, last_eq_first, h1, h2, hb', hpow]
  omega

lemma Valid.split_last (hx : x.Valid v) (h : x.networkMask < x.width) :
    x.split.1.getLastAddress < x.split.2.getFirstAddress ∧
      x.split.2.getLastAddress = x.getLastAddress := by
  obtain ⟨hb, hb'⟩ := hx.split_bits h
  obtain ⟨h1, h2⟩ := hx.split_first h
  have hp := two_pow_pos x.split.1.bits
  have hpow : (2 : ℤ) ^ x.bits = 2 * 2 ^ x.split.1.bits := by rw [hb]; ring
  simp only [last_eq_first, h1, h2, hb', hpow]
  omega

/-! ### The laminar family -/

/-- The number of the addresses of a network. -/
def size (x : IpAddress) : ℤ := x.getLastAddress - x.getFirstAddress + 1

lemma size_eq (x : IpAddress) : x.size = 2 ^ x.bits := by
  rw [size, last_eq_first]
  omega

/-- `containsNet` tells whether every address of the one network is one of the other. -/
lemma containsNet_iff : x.containsNet y = true ↔ ∀ a, y.Contains a → x.Contains a := by
  rw [containsNet, decide_eq_true_iff]
  constructor
  · rintro ⟨h1, h2⟩ a ⟨ha1, ha2⟩
    exact ⟨h1.trans ha1, ha2.trans h2⟩
  · intro h
    exact ⟨(h _ (contains_first y)).1, (h _ ⟨first_le_last y, le_rfl⟩).2⟩

/-- Networks are disjoint, or one of them has the other in it. -/
lemma disjoint_or_nested (hx : x.Valid v) (hy : y.Valid v) :
    (∀ a, ¬ (x.Contains a ∧ y.Contains a)) ∨ x.containsNet y = true ∨ y.containsNet x = true := by
  by_cases h : ∃ a, x.Contains a ∧ y.Contains a
  · obtain ⟨a, hxa, hya⟩ := h
    right
    rw [containsNet_iff, containsNet_iff]
    rcases le_total x.networkMask y.networkMask with hle | hle
    · exact .inl fun b => contains_of_nested hx hy hxa hya hle
    · exact .inr fun b => contains_of_nested hy hx hya hxa hle
  · exact .inl fun a ha => h ⟨a, ha⟩

/-- Two networks are the halves of another. -/
structure IsSplit (x lower upper : IpAddress) : Prop where
  mask : lower.networkMask = x.networkMask + 1 ∧ upper.networkMask = x.networkMask + 1
  included : lower.included = x.included ∧ upper.included = x.included
  family : lower.isV4 = x.isV4 ∧ upper.isV4 = x.isV4
  lower_first : lower.getLastAddress < upper.getFirstAddress
  half : 2 * lower.size = x.size ∧ 2 * upper.size = x.size
  range : ∀ a, x.Contains a ↔ lower.Contains a ∨ upper.Contains a

lemma Valid.isSplit (hx : x.Valid v) (h : x.networkMask < x.width) :
    IsSplit x x.split.1 x.split.2 := by
  obtain ⟨hb, hb'⟩ := hx.split_bits h
  refine ⟨x.split_mask, x.split_included, ⟨rfl, rfl⟩, (hx.split_last h).1, ?_,
    fun a => hx.split_contains h⟩
  rw [size_eq, size_eq, size_eq, hb', hb, pow_succ, mul_comm]
  exact ⟨rfl, rfl⟩

/-- **Networks form a laminar family and split exactly.** -/
theorem laminar (hx : x.Valid v) (hy : y.Valid v) :
    ((∀ a, ¬ (x.Contains a ∧ y.Contains a)) ∨ (∀ a, y.Contains a → x.Contains a) ∨
      ∀ a, x.Contains a → y.Contains a) ∧
      (x.containsNet y = true ↔ ∀ a, y.Contains a → x.Contains a) ∧
      (x.networkMask < x.width → IsSplit x x.split.1 x.split.2) := by
  refine ⟨?_, containsNet_iff, hx.isSplit⟩
  simpa only [containsNet_iff] using disjoint_or_nested hx hy

/-- The network of the loopback addresses lies in that of all addresses, which splits. -/
theorem laminar_loopback :
    let x : IpAddress := ⟨0, 0, true, true⟩
    let y : IpAddress := ⟨127 * 2 ^ 24 + 1, 8, false, true⟩
    ((∀ a, ¬ (x.Contains a ∧ y.Contains a)) ∨ (∀ a, y.Contains a → x.Contains a) ∨
      ∀ a, x.Contains a → y.Contains a) ∧
      (x.containsNet y = true ↔ ∀ a, y.Contains a → x.Contains a) ∧
      IsSplit x x.split.1 x.split.2 := by
  obtain ⟨h1, h2, h3⟩ := laminar (x := ⟨0, 0, true, true⟩) (y := ⟨127 * 2 ^ 24 + 1, 8, false, true⟩)
    (v := true) ⟨rfl, by decide, by decide⟩ ⟨rfl, by decide, by decide⟩
  exact ⟨h1, h2, h3 (by decide)⟩

end IpAddress

end BuludTechVPN.Space
