import Mathlib.Tactic.Ring
import Mathlib.Tactic.Linarith
import Mathlib.Algebra.Order.Ring.Int
import Mathlib.Data.Int.Bitwise

/-!
Aligned blocks of integers: the integers that agree above their lowest `k` bits.

Two aligned blocks that meet are nested, and the block an integer lies in is settled by its
size alone. Bits are those of two's complement, so negative integers are covered as well.
-/

namespace BuludTechVPN.Blocks

/-- The first integer of the block of size `2 ^ k` around `a`. -/
def low (k : ℕ) (a : ℤ) : ℤ := a - a % 2 ^ k

/-- The last integer of the block of size `2 ^ k` around `a`. -/
def high (k : ℕ) (a : ℤ) : ℤ := low k a + (2 ^ k - 1)

lemma two_pow_pos (k : ℕ) : (0 : ℤ) < 2 ^ k := by positivity

lemma low_le (k : ℕ) (a : ℤ) : low k a ≤ a := by
  have := Int.emod_nonneg a (two_pow_pos k).ne'
  unfold low; omega

lemma le_high (k : ℕ) (a : ℤ) : a ≤ high k a := by
  have := Int.emod_lt_of_pos a (two_pow_pos k)
  unfold high low; omega

lemma low_eq_mul (k : ℕ) (a : ℤ) : low k a = 2 ^ k * (a / 2 ^ k) := by
  have := Int.mul_ediv_add_emod a (2 ^ k)
  unfold low; omega

lemma dvd_low (k : ℕ) (a : ℤ) : (2 : ℤ) ^ k ∣ low k a := ⟨_, low_eq_mul k a⟩

/-- A multiple of `2 ^ k` within `2 ^ k` of `a` starts the block of `a`. -/
lemma low_unique {k : ℕ} {a m : ℤ} (hd : (2 : ℤ) ^ k ∣ m) (h1 : m ≤ a) (h2 : a ≤ m + (2 ^ k - 1)) :
    low k a = m := by
  obtain ⟨q, rfl⟩ := hd
  have hq : a / 2 ^ k = q := by
    rw [Int.ediv_eq_iff_of_pos (two_pow_pos k)]
    constructor
    · linarith [mul_comm ((2 : ℤ) ^ k) q]
    · nlinarith [mul_comm ((2 : ℤ) ^ k) q]
  rw [low_eq_mul, hq]

lemma low_low {j k : ℕ} (h : k ≤ j) (a : ℤ) : low j (low k a) = low j a := by
  have hdvd : (2 : ℤ) ^ k ∣ low j a := (pow_dvd_pow 2 h).trans (dvd_low j a)
  obtain ⟨q, hq⟩ := hdvd
  have ha : q ≤ a / 2 ^ k := by
    rw [Int.le_ediv_iff_mul_le (two_pow_pos k)]
    have := low_le j a
    rw [hq] at this; linarith [mul_comm ((2 : ℤ) ^ k) q]
  have hle : low j a ≤ low k a := by
    rw [hq, low_eq_mul]
    exact mul_le_mul_of_nonneg_left ha (two_pow_pos k).le
  refine low_unique (dvd_low j a) hle ?_
  exact (low_le k a).trans (le_high j a)

lemma low_mono {j k : ℕ} (h : k ≤ j) (a : ℤ) : low j a ≤ low k a := by
  rw [← low_low h a]; exact low_le j _

lemma high_mono {j k : ℕ} (h : k ≤ j) (a : ℤ) : high k a ≤ high j a := by
  -- the block of `high k a` is the block of `a`, for every size from `k` on
  have hb : low k (high k a) = low k a :=
    low_unique (dvd_low k a) (by have := two_pow_pos k; unfold high; omega) le_rfl
  have : low j (high k a) = low j a := by rw [← low_low h (high k a), hb, low_low h]
  have h2 := le_high j (high k a)
  unfold high at h2 ⊢
  rw [← this]
  unfold high
  exact h2

/-- Lying in a block is having the same first integer. -/
lemma low_eq_iff {k : ℕ} {a b : ℤ} : low k a = low k b ↔ low k b ≤ a ∧ a ≤ high k b := by
  constructor
  · intro h
    refine ⟨h ▸ low_le k a, ?_⟩
    have := le_high k a
    unfold high at this ⊢
    rwa [h] at this
  · rintro ⟨h1, h2⟩
    exact low_unique (dvd_low k b) h1 h2

/-- A block of the next size up is its two halves. -/
lemma low_succ_cases (k : ℕ) (a : ℤ) :
    low k a = low (k + 1) a ∨ low k a = low (k + 1) a + 2 ^ k := by
  have h1 : low (k + 1) a ≤ low k a := low_mono (Nat.le_succ k) a
  have h2 := (low_le k a).trans (le_high (k + 1) a)
  have hpow : (2 : ℤ) ^ (k + 1) = 2 * 2 ^ k := by ring
  obtain ⟨q, hq⟩ := dvd_low k a
  obtain ⟨p, hp⟩ := dvd_low (k + 1) a
  have hpos := two_pow_pos k
  unfold high at h2
  rw [hpow] at hp h2
  have e1 : low (k + 1) a = 2 ^ k * (2 * p) := by rw [hp]; ring
  rw [e1, hq] at h1 h2 ⊢
  have hlo : 2 * p ≤ q := le_of_mul_le_mul_left h1 hpos
  have hhi : q < 2 * p + 2 := by
    refine lt_of_mul_lt_mul_left (a := (2 : ℤ) ^ k) ?_ hpos.le
    have e2 : (2 : ℤ) ^ k * (2 * p + 2) = 2 ^ k * (2 * p) + 2 * 2 ^ k := by ring
    rw [e2]; omega
  have hcase : q = 2 * p ∨ q = 2 * p + 1 := by omega
  rcases hcase with rfl | rfl
  · exact Or.inl rfl
  · right; ring

end BuludTechVPN.Blocks
