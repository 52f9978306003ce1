import BuludTechVPN.JavaLang

/-!
How `ConfigParser` takes a text apart: the lines a `BufferedReader` returns, and the words of
one line, as `parseline` scans them.
-/

namespace BuludTechVPN.LineParser

open JavaLang

/-! ### Lines -/

/-- The lines of a text, as `BufferedReader.readLine` returns them one after the other. -/
def readLines : Text → List Text
  | [] => []
  | '\r' :: '\n' :: s => [] :: readLines s
  | '\r' :: s => [] :: readLines s
  | '\n' :: s => [] :: readLines s
  | c :: s =>
    match readLines s with
    | [] => [[c]]
    | l :: ls => (c :: l) :: ls

/-- A text without a line end. -/
def IsLine (l : Text) : Prop := '\n' ∉ l ∧ '\r' ∉ l

instance (l : Text) : Decidable (IsLine l) := inferInstanceAs (Decidable (_ ∧ _))

@[simp] lemma isLine_nil : IsLine [] := by simp [IsLine]

@[simp] lemma isLine_cons {c : Char} {l : Text} :
    IsLine (c :: l) ↔ c ≠ '\n' ∧ c ≠ '\r' ∧ IsLine l := by
  simp only [IsLine, List.mem_cons, not_or, ne_eq, eq_comm]
  tauto

@[simp] lemma isLine_append {l m : Text} : IsLine (l ++ m) ↔ IsLine l ∧ IsLine m := by
  simp only [IsLine, List.mem_append, not_or]
  tauto

lemma readLines_cons {c : Char} {s : Text} (h1 : c ≠ '\n') (h2 : c ≠ '\r') :
    readLines (c :: s) =
      match readLines s with
      | [] => [[c]]
      | l :: ls => (c :: l) :: ls := by
  rw [readLines.eq_5]
  · rintro s rfl; exact absurd rfl h2
  · exact h2
  · exact h1

/-- **A line is read whole**: whatever follows it is read as if it stood alone. -/
theorem readLines_line {l : Text} (h : IsLine l) (t : Text) :
    readLines (l ++ '\n' :: t) = l :: readLines t := by
  induction l with
  | nil => rw [List.nil_append, readLines]
  | cons c l ih =>
    obtain ⟨h1, h2, h⟩ := isLine_cons.1 h
    rw [List.cons_append, readLines_cons h1 h2, ih h]

lemma isLine_of_mem_readLines {t l : Text} (h : l ∈ readLines t) : IsLine l := by
  induction t using readLines.induct generalizing l with
  | case1 => simp [readLines] at h
  | case2 s ih =>
    rw [readLines, List.mem_cons] at h
    exact h.elim (by rintro rfl; simp) ih
  | case3 s hs ih =>
    rw [readLines.eq_3 _ hs, List.mem_cons] at h
    exact h.elim (by rintro rfl; simp) ih
  | case4 s ih =>
    rw [readLines, List.mem_cons] at h
    exact h.elim (by rintro rfl; simp) ih
  | case5 c s _ h2 h1 hs ih =>
    rw [readLines_cons h1 h2, hs, List.mem_singleton] at h
    subst h
    exact isLine_cons.2 ⟨h1, h2, isLine_nil⟩
  | case6 c s _ h2 h1 m ls hs ih =>
    rw [readLines_cons h1 h2, hs, List.mem_cons] at h
    rw [hs] at ih
    obtain rfl | h := h
    · exact isLine_cons.2 ⟨h1, h2, ih List.mem_cons_self⟩
    · exact ih (List.mem_cons_of_mem _ h)

/-! ### Words -/

/-- `Character.isWhitespace`. -/
def isWhitespace (c : Char) : Bool :=
  (0x9 ≤ c.toNat && c.toNat ≤ 0xD) || (0x1C ≤ c.toNat && c.toNat ≤ 0x20) || c.toNat = 0x1680 ||
    (0x2000 ≤ c.toNat && c.toNat ≤ 0x200A && c.toNat ≠ 0x2007) || c.toNat = 0x2028 ||
    c.toNat = 0x2029 || c.toNat = 0x205F || c.toNat = 0x3000

/-- `ConfigParser.space`. -/
def space (c : Char) : Bool := isWhitespace c || c = '\x00'

/-- `linestate`; a parameter that is `done` is added at once, and the state is `initial` again. -/
inductive LineState
  | initial
  | readinSingleQuote
  | readingQuoted
  | readingUnquoted
  deriving DecidableEq, Repr

/-- The variables of `parseline`. An `out` of zero stores nothing. -/
structure Scan where
  parameters : List Text
  state : LineState
  backslash : Bool
  out : Char
  currentarg : Text
  deriving DecidableEq, Repr

namespace Scan

def start : Scan := ⟨[], .initial, false, '\x00', []⟩

/-- The parameter is done. -/
def done (s : Scan) : Scan :=
  { s with
    parameters := s.parameters ++ [s.currentarg]
    state := .initial
    currentarg := []
    out := '\x00' }

/-- What a character does in the state the scan is in. -/
def read (s : Scan) (c : Char) : Scan :=
  match s.state with
  | .initial =>
    if space c then s
    else if !s.backslash && c = '"' then { s with state := .readingQuoted }
    else if !s.backslash && c = '\'' then { s with state := .readinSingleQuote }
    else { s with out := c, state := .readingUnquoted }
  | .readingUnquoted => if !s.backslash && space c then s.done else { s with out := c }
  | .readingQuoted => if !s.backslash && c = '"' then s.done else { s with out := c }
  | .readinSingleQuote => if c = '\'' then s.done else { s with out := c }

def badBackslash : Text := "Options warning: Bad backslash ('\\') usage".toList

/-- The character after a backslash. -/
def checkBackslash (s : Scan) : Call Scan :=
  if s.backslash && s.out ≠ '\x00' && !(s.out = '\\' || s.out = '"' || space s.out) then
    .error (.configParse badBackslash)
  else .ok { s with backslash := false }

/-- Stores the parameter character. The one stored last is stored again at a backslash, since
`out` still holds it. -/
def store (s : Scan) : Scan :=
  if s.out ≠ '\x00' then { s with currentarg := s.currentarg ++ [s.out] } else s

/-- One round of the loop of `parseline`. -/
def next (s : Scan) (c : Char) : Call Scan :=
  if !s.backslash && c = '\\' && s.state ≠ .readinSingleQuote then
    .ok { s with backslash := true }.store
  else store <$> (s.read c).checkBackslash

/-- A character that ends the line, since a comment starts there. -/
def comment (s : Scan) (c : Char) : Bool :=
  s.state = .initial && (c = ';' || c = '#')

end Scan

/-- The loop of `parseline`. -/
def scan : Scan → Text → Call (List Text)
  | s, [] => .ok s.parameters
  | s, c :: cs => if s.comment c then .ok s.parameters else s.next c >>= (scan · cs)

/-- `ConfigParser.parseline`: behind the line the loop reads one character more, a zero. -/
def parseline (line : Text) : Call (List Text) :=
  if line = [] then .ok [] else scan .start (line ++ ['\x00'])

lemma Scan.next_error {s : Scan} {c : Char} {e : Abrupt} (h : s.next c = .error e) :
    e = .configParse badBackslash := by
  unfold Scan.next at h
  split_ifs at h
  rw [map_eq_pure_bind] at h
  obtain h | ⟨s', -, h⟩ := bind_eq_error.1 h
  · unfold Scan.checkBackslash at h
    split_ifs at h
    cases h
    rfl
  · cases h

lemma scan_error {s : Scan} {t : Text} {e : Abrupt} (h : scan s t = .error e) :
    e = .configParse Scan.badBackslash := by
  induction t generalizing s with
  | nil => cases h
  | cons c t ih =>
    rw [scan] at h
    split_ifs at h
    obtain h | ⟨s', -, h⟩ := bind_eq_error.1 h
    · exact Scan.next_error h
    · exact ih h

lemma parseline_error {line : Text} {e : Abrupt} (h : parseline line = .error e) :
    e = .configParse Scan.badBackslash := by
  unfold parseline at h
  split_ifs at h
  exact scan_error h

end BuludTechVPN.LineParser
