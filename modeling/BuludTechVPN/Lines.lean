import Mathlib.Algebra.GroupWithZero.Nat
import Mathlib.Data.List.Basic

/-!
The lines of a text that arrives in pieces.

Lines end with a line feed or with a carriage return and a line feed. What follows the last
line feed is not yet a line: it is kept, and the next piece is appended to it.
-/

namespace BuludTechVPN.Lines

variable {t u x y l : List Char}

/-- A line without the carriage return it may end with. -/
def chomp : List Char → List Char
  | [] => []
  | ['\r'] => []
  | c :: t => c :: chomp t

/-- The lines that are complete. -/
def complete (t : List Char) : List (List Char) := (t.splitOn '\n').dropLast.map chomp

/-- What follows the last complete line. -/
def unterminated (t : List Char) : List Char := (t.splitOn '\n').getLast (List.splitOn_ne_nil _ _)

lemma complete_of_notMem (h : '\n' ∉ t) : complete t = [] := by
  simp [complete, List.splitOn_eq_singleton h]

lemma unterminated_of_notMem (h : '\n' ∉ t) : unterminated t = t := by
  simp [unterminated, List.splitOn_eq_singleton h]

lemma complete_line (h : '\n' ∉ l) : complete (l ++ '\n' :: t) = chomp l :: complete t := by
  simp [complete, List.splitOn_append_cons_self, List.splitOn_eq_singleton h,
    List.dropLast_cons_of_ne_nil (List.splitOn_ne_nil _ _)]

lemma unterminated_line (h : '\n' ∉ l) : unterminated (l ++ '\n' :: t) = unterminated t := by
  simp [unterminated, List.splitOn_append_cons_self, List.splitOn_eq_singleton h,
    List.getLast_cons (List.splitOn_ne_nil _ _)]

/-- A text without a line, or a line and a text after it. -/
lemma lines_induction {P : List Char → Prop} (last : ∀ t, '\n' ∉ t → P t)
    (line : ∀ l t, '\n' ∉ l → P t → P (l ++ '\n' :: t)) (t : List Char) : P t := by
  induction hn : t.length using Nat.strongRecOn generalizing t with
  | ind n ih =>
    by_cases h : '\n' ∈ t
    · obtain ⟨l, r, rfl, hl⟩ := List.eq_append_cons_of_mem h
      exact line l r hl (ih _ (by simp [← hn]; omega) r rfl)
    · exact last t h

lemma newline_notMem_unterminated (t : List Char) : '\n' ∉ unterminated t := by
  induction t using lines_induction with
  | last t h => rwa [unterminated_of_notMem h]
  | line l t h ih => rwa [unterminated_line h]

/-- **Lines of a text in two pieces**: those of the first piece, then those of the second one
with what was kept of the first before it. -/
theorem complete_append : complete (x ++ y) = complete x ++ complete (unterminated x ++ y) := by
  induction x using lines_induction with
  | last x h => simp [complete_of_notMem h, unterminated_of_notMem h]
  | line l x h ih =>
    rw [List.append_assoc, List.cons_append, complete_line h, complete_line h,
      unterminated_line h, ih, List.cons_append]

theorem unterminated_append : unterminated (x ++ y) = unterminated (unterminated x ++ y) := by
  induction x using lines_induction with
  | last x h => rw [unterminated_of_notMem h]
  | line l x h ih => rw [List.append_assoc, List.cons_append, unterminated_line h,
      unterminated_line h, ih]

/-! ### What the lines say of the text -/

/-- The characters that are in a line or kept, whichever way the lines end. -/
def inLine (t : List Char) : ℕ := t.countP fun c => c ∉ ['\n', '\r']

@[simp] lemma inLine_append : inLine (x ++ y) = inLine x + inLine y := List.countP_append

lemma inLine_chomp (l : List Char) : inLine (chomp l) = inLine l := by
  fun_induction chomp l with
  | case1 => rfl
  | case2 => rfl
  | case3 c t _ ih => rw [← List.singleton_append, inLine_append, ih, ← inLine_append,
      List.singleton_append]

lemma inLine_eq (t : List Char) :
    inLine t = ((complete t).map inLine).sum + inLine (unterminated t) := by
  induction t using lines_induction with
  | last t h => simp [complete_of_notMem h, unterminated_of_notMem h]
  | line l t h ih =>
    have hn : inLine ('\n' :: t) = inLine t := by simp [inLine]
    rw [complete_line h, unterminated_line h, inLine_append, hn, ih, List.map_cons,
      List.sum_cons, inLine_chomp, Nat.add_assoc]

end BuludTechVPN.Lines
