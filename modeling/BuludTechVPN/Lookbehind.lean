import Mathlib.Data.List.Basic
import Mathlib.Tactic

/-!
Copying from behind: a text is continued with elements that stand a fixed distance before its end,
where the copy may run into what it has just written.

The text is kept with its end in front, so the distance is an index.
-/

namespace BuludTechVPN.Lookbehind

variable {α : Type*}

/-- A text, its end in front, with `n` more elements from `off` before the end. -/
def copyBack (off : ℕ) : ℕ → List α → Option (List α)
  | 0, out => some out
  | n + 1, out => out[off - 1]?.bind fun b => copyBack off n (b :: out)

variable {off n k : ℕ} {out out' x : List α}

lemma length_copyBack (h : copyBack off n out = some out') : out'.length = out.length + n := by
  induction n generalizing out with
  | zero =>
    cases h
    rfl
  | succ n ih =>
    obtain ⟨b, -, h⟩ := Option.bind_eq_some_iff.1 h
    rw [ih h, List.length_cons]
    omega

/-- A distance that does not reach behind the beginning can be copied from. -/
lemma exists_copyBack (hoff : off ≤ out.length) (hpos : 0 < off) (n : ℕ) :
    ∃ out', copyBack off n out = some out' := by
  induction n generalizing out with
  | zero => exact ⟨out, rfl⟩
  | succ n ih =>
    have hlt : off - 1 < out.length := by omega
    have hmore : off ≤ (out[off - 1] :: out).length := by
      rw [List.length_cons]
      omega
    obtain ⟨out', h⟩ := ih hmore
    refine ⟨out', ?_⟩
    rw [copyBack, List.getElem?_eq_getElem hlt]
    exact h

/-- **What was compared is copied**: elements of a text that repeat those a distance before them
are put behind what is there of it. -/
theorem copyBack_take (hpos : 0 < off) (hoff : off ≤ k) (hn : k + n ≤ x.length)
    (heq : ∀ j < n, x[k + j]? = x[k + j - off]?) :
    copyBack off n (x.take k).reverse = some (x.take (k + n)).reverse := by
  induction n generalizing k with
  | zero => rfl
  | succ n ih =>
    have hlen : (x.take k).length = k := by
      rw [List.length_take]
      omega
    have hget : (x.take k).reverse[off - 1]? = x[k]? := by
      have hrev : k - 1 - (off - 1) = k - off := by omega
      have hbefore : x[k]? = x[k - off]? := heq 0 (Nat.succ_pos n)
      rw [List.getElem?_reverse (by omega), hlen, hrev, List.getElem?_take_of_lt (by omega), hbefore]
    have hk : k < x.length := by omega
    have hcons : x[k] :: (x.take k).reverse = (x.take (k + 1)).reverse := by
      rw [List.take_succ_eq_append_getElem hk, List.reverse_append]
      rfl
    have hshift : ∀ j < n, x[k + 1 + j]? = x[k + 1 + j - off]? := fun j hj => by
      have hj' := heq (j + 1) (by omega)
      rwa [show k + (j + 1) = k + 1 + j by omega] at hj'
    rw [copyBack, hget, List.getElem?_eq_getElem hk, Option.bind_some, hcons,
      ih (by omega) (by omega) hshift]
    congr 3
    omega

end BuludTechVPN.Lookbehind
