import Mathlib.Data.List.Basic
import Mathlib.Tactic.Basic

/-!
Patterns that are a sequence of character classes, each of them taken once or repeated, and how a
matcher that tries the longest repetition first and goes back takes a text apart.
-/

namespace BuludTechVPN.Patterns

variable {α : Type*}

/-- How often a piece takes a character: once, at least once, any number of times. -/
inductive Times
  | once
  | some
  | any
  deriving DecidableEq, Repr

structure Piece (α : Type*) where
  accepts : α → Bool
  times : Times

/-- The ways to take accepted characters, the longest one first, and what they leave. -/
def splits (p : α → Bool) : List α → List (List α × List α)
  | [] => [([], [])]
  | c :: s =>
    if p c then ((splits p s).map fun r => (c :: r.1, r.2)) ++ [([], c :: s)] else [([], c :: s)]

/-- The ways in which a piece takes a part of a text, in the order in which they are tried. -/
def Piece.take (p : Piece α) (s : List α) : List (List α × List α) :=
  match p.times with
  | .once =>
    match s with
    | [] => []
    | c :: s => if p.accepts c then [([c], s)] else []
  | .some => (splits p.accepts s).filter fun r => !r.1.isEmpty
  | .any => splits p.accepts s

/-- The ways to take a whole text apart. -/
def matchAll : List (Piece α) → List α → List (List (List α))
  | [], s => if s.isEmpty then [[]] else []
  | p :: ps, s => (p.take s).flatMap fun r => (matchAll ps r.2).map (r.1 :: ·)

/-- What each piece takes in the match that is found, none where there is no match. -/
def fullMatch (ps : List (Piece α)) (s : List α) : Option (List (List α)) := (matchAll ps s).head?

variable {p : α → Bool} {q : Piece α} {ps : List (Piece α)} {s t : List α}

/-! ### The match that is found -/

/-- The piece first tries to take `t` and to leave `s`. -/
def Prefers (q : Piece α) (t s : List α) : Prop := ∃ l, q.take (t ++ s) = (t, s) :: l

/-- A repetition goes as far as it can. -/
lemma splits_append (ht : ∀ c ∈ t, p c = true) (hs : ∀ c ∈ s.head?, p c = false) :
    ∃ l, splits p (t ++ s) = (t, s) :: l := by
  induction t with
  | nil =>
    cases s with
    | nil => exact ⟨[], rfl⟩
    | cons c s => exact ⟨[], if_neg (by simp [hs c rfl])⟩
  | cons c t ih =>
    rw [List.forall_mem_cons] at ht
    obtain ⟨l, hl⟩ := ih ht.2
    rw [List.cons_append, splits, if_pos ht.1, hl]
    exact ⟨_, rfl⟩

lemma prefers_any (ht : ∀ c ∈ t, p c = true) (hs : ∀ c ∈ s.head?, p c = false) :
    Prefers ⟨p, .any⟩ t s :=
  splits_append ht hs

lemma prefers_some (hne : t ≠ []) (ht : ∀ c ∈ t, p c = true) (hs : ∀ c ∈ s.head?, p c = false) :
    Prefers ⟨p, .some⟩ t s := by
  obtain ⟨l, hl⟩ := splits_append ht hs
  unfold Prefers Piece.take
  simp only [hl]
  exact ⟨_, List.filter_cons_of_pos (by simpa using hne)⟩

lemma prefers_once {c : α} (hc : p c = true) : Prefers ⟨p, .once⟩ [c] s := ⟨[], if_pos hc⟩

/-- A match in which each piece takes what it prefers is found before the others. -/
lemma fullMatch_cons {m : List (List α)} (hq : Prefers q t s) (hm : fullMatch ps s = some m) :
    fullMatch (q :: ps) (t ++ s) = some (t :: m) := by
  obtain ⟨l, hl⟩ := hq
  obtain ⟨ms, hms⟩ := List.head?_eq_some_iff.1 hm
  rw [fullMatch, matchAll, hl, List.flatMap_cons, hms]
  rfl

/-! ### No match -/

lemma mem_splits {r : List α × List α} (h : r ∈ splits p s) :
    s = r.1 ++ r.2 ∧ ∀ c ∈ r.1, p c = true := by
  induction s generalizing r with
  | nil =>
    rw [List.mem_singleton.1 h]
    simp
  | cons c s ih =>
    rw [splits] at h
    split_ifs at h with hc
    · rcases List.mem_append.1 h with h | h
      · obtain ⟨r', hr', rfl⟩ := List.mem_map.1 h
        obtain ⟨hs, hall⟩ := ih hr'
        exact ⟨congrArg (c :: ·) hs, List.forall_mem_cons.2 ⟨hc, hall⟩⟩
      · rw [List.mem_singleton.1 h]
        simp
    · rw [List.mem_singleton.1 h]
      simp

lemma mem_take {r : List α × List α} (h : r ∈ q.take s) :
    s = r.1 ++ r.2 ∧ ∀ c ∈ r.1, q.accepts c = true := by
  unfold Piece.take at h
  split at h
  · cases s with
    | nil => cases h
    | cons c s =>
      simp only at h
      split_ifs at h with hc
      · rw [List.mem_singleton.1 h]
        simpa using hc
      · cases h
  · exact mem_splits (List.mem_of_mem_filter h)
  · exact mem_splits h

/-- Each character of a text that is matched is accepted by some piece. -/
lemma accepts_of_mem_matchAll {m : List (List α)} (h : m ∈ matchAll ps s) :
    ∀ c ∈ s, ∃ q ∈ ps, q.accepts c = true := by
  induction ps generalizing s m with
  | nil =>
    rw [matchAll] at h
    split_ifs at h with hs
    · rw [List.isEmpty_iff.1 hs]
      simp
    · cases h
  | cons q ps ih =>
    rw [matchAll] at h
    obtain ⟨r, hr, h⟩ := List.mem_flatMap.1 h
    obtain ⟨m', hm', -⟩ := List.mem_map.1 h
    obtain ⟨rfl, hall⟩ := mem_take hr
    intro c hc
    rcases List.mem_append.1 hc with hc | hc
    · exact ⟨q, List.mem_cons_self, hall c hc⟩
    · obtain ⟨q', hq', hacc⟩ := ih hm' c hc
      exact ⟨q', List.mem_cons_of_mem q hq', hacc⟩

/-- **A character that no piece accepts** fails the match, wherever it stands. -/
theorem fullMatch_eq_none {c : α} (hc : c ∈ s) (h : ∀ q ∈ ps, q.accepts c = false) :
    fullMatch ps s = none := by
  rw [fullMatch, List.head?_eq_none_iff, List.eq_nil_iff_forall_not_mem]
  intro m hm
  obtain ⟨q, hq, hacc⟩ := accepts_of_mem_matchAll hm c hc
  rw [h q hq] at hacc
  cases hacc

end BuludTechVPN.Patterns
