import Mathlib.Data.List.Lex
import Mathlib.Data.Int.Basic
import Mathlib.Data.Set.Basic
import Mathlib.Order.OrderDual
import Mathlib.Tactic

/-!
Comparisons with values in `ℤ`: the order of a linear order as such a comparison, the laws that
a sort relies on, and that a comparison with the signs of a key obeys them.
-/

namespace BuludTechVPN.Comparison

/-- Below, equal or above, as a sign. -/
def order {K : Type*} [LinearOrder K] (a b : K) : ℤ := if a < b then -1 else if b < a then 1 else 0

section Order

variable {K : Type*} [LinearOrder K] {a b c : K}

lemma order_eq_neg_one : order a b = -1 ↔ a < b := by
  unfold order
  split
  · simp [*]
  · split <;> simp [*]

lemma order_eq_one : order a b = 1 ↔ b < a := by
  unfold order
  split
  · simp [le_of_lt ‹a < b›]
  · split <;> simp [*]

lemma order_eq_zero : order a b = 0 ↔ a = b := by
  unfold order
  split
  · simp [ne_of_lt ‹a < b›]
  · split
    · simp [ne_of_gt ‹b < a›]
    · simp [le_antisymm (not_lt.mp ‹¬ b < a›) (not_lt.mp ‹¬ a < b›)]

lemma order_swap (a b : K) : order b a = -order a b := by
  rcases lt_trichotomy a b with h | rfl | h
  · rw [order_eq_one.mpr h, order_eq_neg_one.mpr h, neg_neg]
  · rw [order_eq_zero.mpr rfl, neg_zero]
  · rw [order_eq_neg_one.mpr h, order_eq_one.mpr h]

lemma order_dual (a b : K) : order (OrderDual.toDual a) (OrderDual.toDual b) = order b a := rfl

/-- The order of the integers is the sign of the difference. -/
lemma sign_sub (m n : ℤ) : (m - n).sign = order m n := by
  rcases lt_trichotomy m n with h | rfl | h
  · rw [order_eq_neg_one.mpr h, Int.sign_eq_neg_one_of_neg (by omega)]
  · rw [order_eq_zero.mpr rfl, Int.sub_self, Int.sign_zero]
  · rw [order_eq_one.mpr h, Int.sign_eq_one_of_pos (by omega)]

lemma order_cons (s t : List K) :
    order (a :: s) (b :: t) = if a = b then order s t else order a b := by
  unfold order
  by_cases h : a = b
  · subst h
    simp only [List.cons_lt_cons_iff, lt_irrefl, false_or, true_and, if_true]
    split_ifs <;> rfl
  · simp only [List.cons_lt_cons_iff, h, Ne.symm h, false_and, or_false, if_false]

end Order

/-! ### What a sort relies on -/

section Laws

variable {V K : Type*} [LinearOrder K]

/-- The contract of a comparison over a set of values: signs are opposite both ways round, the
order is transitive, and values that tie compare alike with any third. -/
structure Lawful (cmp : V → V → ℤ) (S : Set V) : Prop where
  antisymm : ∀ v ∈ S, ∀ w ∈ S, (cmp v w).sign = -(cmp w v).sign
  trans : ∀ u ∈ S, ∀ v ∈ S, ∀ w ∈ S, 0 < cmp u v → 0 < cmp v w → 0 < cmp u w
  ties : ∀ u ∈ S, ∀ v ∈ S, ∀ w ∈ S, cmp u v = 0 → (cmp u w).sign = (cmp v w).sign

/-- The comparison has the signs of the order of a key. -/
def Follows (cmp : V → V → ℤ) (S : Set V) (key : V → K) : Prop :=
  ∀ v ∈ S, ∀ w ∈ S, (cmp v w).sign = order (key v) (key w)

variable {cmp : V → V → ℤ} {S : Set V} {key : V → K}

lemma Follows.pos_iff (h : Follows cmp S key) {v w : V} (hv : v ∈ S) (hw : w ∈ S) :
    0 < cmp v w ↔ key w < key v := by
  rw [← Int.sign_eq_one_iff_pos, h v hv w hw, order_eq_one]

lemma Follows.zero_iff (h : Follows cmp S key) {v w : V} (hv : v ∈ S) (hw : w ∈ S) :
    cmp v w = 0 ↔ key v = key w := by
  rw [← Int.sign_eq_zero_iff_zero, h v hv w hw, order_eq_zero]

lemma Follows.lawful (h : Follows cmp S key) : Lawful cmp S where
  antisymm v hv w hw := by rw [h v hv w hw, h w hw v hv, order_swap]
  trans u hu v hv w hw huv hvw := by
    rw [h.pos_iff hu hv] at huv
    rw [h.pos_iff hv hw] at hvw
    rw [h.pos_iff hu hw]
    exact hvw.trans huv
  ties u hu v hv w hw huv := by
    rw [h.zero_iff hu hv] at huv
    rw [h u hu w hw, h v hv w hw, huv]

/-- The comparison the other way round follows the key into the reversed order. -/
lemma Follows.reverse (h : Follows cmp S key) :
    Follows (fun v w => cmp w v) S (fun v => OrderDual.toDual (key v)) := by
  intro v hv w hw
  rw [order_dual]
  exact h w hw v hv

end Laws

end BuludTechVPN.Comparison
