import Mathlib.Data.List.DropRight
import Mathlib.Data.List.Forall2
import Mathlib.Data.Int.DivMod
import Mathlib.Tactic.Linarith

/-!
What the program takes from the Java language: texts, the ways a call fails to return, and
the arithmetic of `int` and `long`.

A text is the list of its characters. A call that does not return a value completes
abruptly: with an exception, or by never leaving a loop.
-/

namespace BuludTechVPN.JavaLang

abbrev Text := List Char

section Deciding

/-! A quantifier over the characters of a text is decided on the text: there are instances that
would try every character. -/

variable (t : Text) (o : Option Char) (p : Char → Prop) [DecidablePred p]

instance (priority := 2000) decidableForall : Decidable (∀ c ∈ t, p c) := List.decidableBAll p t

instance (priority := 2000) decidableExists : Decidable (∃ c ∈ t, p c) := List.decidableBEx p t

instance (priority := 2000) decidableExistsHead : Decidable (∃ c ∈ o, p c) :=
  Option.decidableExistsMem o

instance (priority := 2000) lawfulText : LawfulBEq Text := inferInstance

end Deciding

/-- How a call can fail to return a value. -/
inductive Abrupt
  | arrayIndexOutOfBounds
  | stringIndexOutOfBounds
  | numberFormat
  | nullPointer
  | illegalArgument
  | concurrentModification
  | classCast
  | indexOutOfBounds
  | negativeArraySize
  | bufferUnderflow
  | bufferOverflow
  | io
  | configParse (msg : Text)
  | endlessLoop
  deriving DecidableEq, Repr

abbrev Call := Except Abrupt

/-- A call that goes on with another returns if both do. -/
lemma bind_eq_ok {α β : Type} {x : Call α} {f : α → Call β} {b : β} :
    x >>= f = .ok b ↔ ∃ a, x = .ok a ∧ f a = .ok b := by
  cases x <;> simp [bind, Except.bind]

lemma bind_eq_error {α β : Type} {x : Call α} {f : α → Call β} {e : Abrupt} :
    x >>= f = .error e ↔ x = .error e ∨ ∃ a, x = .ok a ∧ f a = .error e := by
  cases x <;> simp [bind, Except.bind]

/-- A loop over a list returns what its rounds do. -/
lemma mapM_eq_ok {α β : Type} {f : α → Call β} {l : List α} {bs : List β} :
    l.mapM f = .ok bs ↔ List.Forall₂ (fun a b => f a = .ok b) l bs := by
  induction l generalizing bs with
  | nil =>
    rw [List.mapM_nil, List.forall₂_nil_left_iff]
    exact ⟨fun h => (Except.ok.inj h).symm, fun h => h ▸ rfl⟩
  | cons a l ih =>
    rw [List.mapM_cons, bind_eq_ok]
    constructor
    · rintro ⟨b, hb, h⟩
      obtain ⟨cs, hcs, h⟩ := bind_eq_ok.1 h
      cases h
      exact .cons hb (ih.1 hcs)
    · rintro (_ | ⟨hb, h⟩)
      exact ⟨_, hb, bind_eq_ok.2 ⟨_, ih.2 h, rfl⟩⟩

lemma mem_of_mapM_eq_ok {α β : Type} {f : α → Call β} {l : List α} {bs : List β}
    (h : l.mapM f = .ok bs) {b : β} (hb : b ∈ bs) : ∃ a ∈ l, f a = .ok b := by
  have hall := mapM_eq_ok.1 h
  clear h
  induction hall with
  | nil => cases hb
  | @cons a d l ds had _ ih =>
    rcases List.mem_cons.1 hb with rfl | hb
    · exact ⟨a, List.mem_cons_self, had⟩
    · obtain ⟨a', ha', hf⟩ := ih hb
      exact ⟨a', List.mem_cons_of_mem _ ha', hf⟩

/-- A reference of which a member is taken. -/
def nonNull {α : Type} : Option α → Call α
  | none => .error .nullPointer
  | some x => .ok x

@[simp] lemma nonNull_eq_ok {α : Type} {x : Option α} {a : α} :
    nonNull x = .ok a ↔ x = some a := by
  cases x <;> simp [nonNull]

/-! ### Arithmetic -/

/-- The value an `int` holds after an operation that may overflow. -/
def toInt (x : ℤ) : ℤ := (x + 2 ^ 31) % 2 ^ 32 - 2 ^ 31

/-- The value a `long` holds after an operation that may overflow. -/
def toLong (x : ℤ) : ℤ := (x + 2 ^ 63) % 2 ^ 64 - 2 ^ 63

lemma toInt_range (x : ℤ) : -2 ^ 31 ≤ toInt x ∧ toInt x < 2 ^ 31 := by unfold toInt; omega

lemma toLong_range (x : ℤ) : -2 ^ 63 ≤ toLong x ∧ toLong x < 2 ^ 63 := by unfold toLong; omega

@[simp] lemma toInt_of_range {x : ℤ} (h1 : -2 ^ 31 ≤ x) (h2 : x < 2 ^ 31) : toInt x = x := by
  unfold toInt; omega

@[simp] lemma toLong_of_range {x : ℤ} (h1 : -2 ^ 63 ≤ x) (h2 : x < 2 ^ 63) : toLong x = x := by
  unfold toLong; omega

/-! ### Numbers in texts -/

/-- The zeros of the decimal digit blocks that `Character.digit` knows beside the ASCII one. -/
def digitZeros : List ℕ :=
  [0x660, 0x6F0, 0x7C0, 0x966, 0x9E6, 0xA66, 0xAE6, 0xB66, 0xBE6, 0xC66, 0xCE6, 0xD66, 0xDE6,
   0xE50, 0xED0, 0xF20, 0x1040, 0x1090, 0x17E0, 0x1810, 0x1946, 0x19D0, 0x1A80, 0x1A90, 0x1B50,
   0x1BB0, 0x1C40, 0x1C50, 0xA620, 0xA8D0, 0xA900, 0xA9D0, 0xA9F0, 0xAA50, 0xABF0, 0xFF10]

/-- `Character.digit(c, 10)`. -/
def digit (c : Char) : Option ℕ :=
  if '0' ≤ c ∧ c ≤ '9' then some (c.toNat - '0'.toNat)
  else (digitZeros.find? fun z => z ≤ c.toNat ∧ c.toNat ≤ z + 9).map (c.toNat - ·)

def digitsValue : ℕ → Text → Option ℕ
  | acc, [] => some acc
  | acc, c :: cs => (digit c).bind fun d => digitsValue (acc * 10 + d) cs

/-- The number a non-empty text of digits denotes. -/
def digitsOf (s : Text) : Option ℕ := if s = [] then none else digitsValue 0 s

def signedOf : Text → Option ℤ
  | '-' :: s => (digitsOf s).map fun n => -(n : ℤ)
  | '+' :: s => (digitsOf s).map fun n => (n : ℤ)
  | s => (digitsOf s).map fun n => (n : ℤ)

/-- `Integer.parseInt` and `Long.parseLong`, which differ in the width `w` only. -/
def parseSigned (w : ℕ) (s : Text) : Call ℤ :=
  match signedOf s with
  | some n => if -2 ^ (w - 1) ≤ n ∧ n < 2 ^ (w - 1) then .ok n else .error .numberFormat
  | none => .error .numberFormat

def parseInt (s : Text) : Call ℤ := parseSigned 32 s
def parseLong (s : Text) : Call ℤ := parseSigned 64 s

lemma parseSigned_error {w : ℕ} {s : Text} {e : Abrupt} (h : parseSigned w s = .error e) :
    e = .numberFormat := by
  unfold parseSigned at h
  split at h
  · split at h
    · cases h
    · cases h; rfl
  · cases h; rfl

lemma parseInt_error {s : Text} {e : Abrupt} (h : parseInt s = .error e) : e = .numberFormat :=
  parseSigned_error h

lemma parseLong_error {s : Text} {e : Abrupt} (h : parseLong s = .error e) : e = .numberFormat :=
  parseSigned_error h

/-- `%d`. -/
def showInt (n : ℤ) : Text :=
  if n < 0 then '-' :: (Nat.repr n.natAbs).toList else (Nat.repr n.natAbs).toList

lemma mem_showInt {c : Char} {n : ℤ} (h : c ∈ showInt n) : c = '-' ∨ c.isDigit := by
  have hdigits : c ∈ (Nat.repr n.natAbs).toList → c.isDigit := fun h => by
    rw [Nat.toList_repr] at h
    exact Nat.isDigit_of_mem_toDigits (by decide) (by decide) h
  unfold showInt at h
  split_ifs at h
  · exact (List.mem_cons.mp h).imp id hdigits
  · exact Or.inr (hdigits h)

lemma showInt_inj {m n : ℤ} (h : showInt m = showInt n) : m = n := by
  have hrepr : ∀ {m n : ℕ}, (Nat.repr m).toList = (Nat.repr n).toList → m = n := fun {m n} h => by
    rw [Nat.toList_repr, Nat.toList_repr] at h
    rw [← Nat.ofDigitChars_ten_toDigits (n := m), h, Nat.ofDigitChars_ten_toDigits]
  have hminus : ∀ k : ℕ, '-' ∉ (Nat.repr k).toList := fun k hk => by
    rw [Nat.toList_repr] at hk
    have := Nat.isDigit_of_mem_toDigits (by decide) (by decide) hk
    revert this
    decide
  unfold showInt at h
  split_ifs at h with hm hn hn
  · have := hrepr (List.cons.inj h).2
    omega
  · exact absurd (h ▸ List.mem_cons_self) (hminus n.natAbs)
  · exact absurd (h ▸ List.mem_cons_self) (hminus m.natAbs)
  · have := hrepr h
    omega

/-! ### Digits that are written and read -/

lemma digitsValue_append (acc : ℕ) (s t : Text) :
    digitsValue acc (s ++ t) = (digitsValue acc s).bind fun n => digitsValue n t := by
  induction s generalizing acc with
  | nil => rfl
  | cons c s ih =>
    simp only [List.cons_append, digitsValue]
    cases digit c with
    | none => rfl
    | some d => exact ih _

lemma digit_digitChar {d : ℕ} (h : d < 10) : digit d.digitChar = some d := by
  have hall : ∀ d < 10, digit d.digitChar = some d := by decide
  exact hall d h

lemma digitsValue_toDigits (n : ℕ) : digitsValue 0 (Nat.toDigits 10 n) = some n := by
  induction n using Nat.strong_induction_on with
  | _ n ih =>
    by_cases h : n < 10
    · rw [Nat.toDigits_of_lt_base h, digitsValue, digit_digitChar h]
      simp [digitsValue]
    · rw [Nat.toDigits_of_base_le (by decide) (by omega), digitsValue_append, ih (n / 10) (by omega),
        Option.bind_some, digitsValue, digit_digitChar (by omega)]
      simp only [Option.bind_some, digitsValue]
      congr 1
      omega

lemma digitsOf_toDigits (n : ℕ) : digitsOf (Nat.toDigits 10 n) = some n := by
  rw [digitsOf, if_neg Nat.toDigits_ne_nil, digitsValue_toDigits]

/-- A text that begins with no sign. -/
lemma signedOf_unsigned {s : Text} (h1 : ∀ t, s ≠ '-' :: t) (h2 : ∀ t, s ≠ '+' :: t) :
    signedOf s = (digitsOf s).map fun n => (n : ℤ) := by
  unfold signedOf
  split
  · exact absurd rfl (h1 _)
  · exact absurd rfl (h2 _)
  · cases digitsOf s <;> rfl

/-- The decimal digits of a number read as the number. -/
lemma signedOf_showInt (n : ℤ) : signedOf (showInt n) = some n := by
  rw [showInt, Nat.toList_repr]
  split
  next h =>
    rw [signedOf, digitsOf_toDigits]
    show some (-(n.natAbs : ℤ)) = some n
    congr 1
    omega
  next h =>
    have hsign : ∀ c t, ¬ c.isDigit → Nat.toDigits 10 n.natAbs ≠ c :: t := fun c t hc e =>
      hc (Nat.isDigit_of_mem_toDigits (by decide) (by decide) (e ▸ List.mem_cons_self))
    rw [signedOf_unsigned (fun t => hsign '-' t (by decide)) (fun t => hsign '+' t (by decide)),
      digitsOf_toDigits]
    show some (n.natAbs : ℤ) = some n
    congr 1
    omega

lemma parseSigned_showInt {w : ℕ} {n : ℤ} (h1 : -2 ^ (w - 1) ≤ n) (h2 : n < 2 ^ (w - 1)) :
    parseSigned w (showInt n) = .ok n := by
  unfold parseSigned
  rw [signedOf_showInt]
  exact if_pos ⟨h1, h2⟩

lemma showInt_ne_nil (n : ℤ) : showInt n ≠ [] := by
  unfold showInt
  rw [Nat.toList_repr]
  split
  · simp
  · exact Nat.toDigits_ne_nil

lemma other_not_mem_showInt {c : Char} (hc : c ≠ '-') (hd : ¬ c.isDigit) (n : ℤ) : c ∉ showInt n :=
  fun h => (mem_showInt h).elim hc hd

/-! ### Texts -/

/-- `String.trim`. -/
def trim (s : Text) : Text := (s.dropWhile (· ≤ ' ')).rdropWhile (· ≤ ' ')

def startsWith (s t : Text) : Bool := t.isPrefixOf s
def endsWith (s t : Text) : Bool := t.isSuffixOf s

/-- `String.contains`. -/
def contains (s t : Text) : Bool := s.tails.any t.isPrefixOf

/-- `String.replace` of one character. -/
def replaceChar (s : Text) (c : Char) (t : Text) : Text :=
  s.flatMap fun d => if d = c then t else [d]

/-- `String.split` at each character of a class: trailing empty pieces are dropped, unless
nothing was split at all. -/
def splitAt (p : Char → Bool) (s : Text) : List Text :=
  if s.any p then (s.splitOnP p).rdropWhile List.isEmpty else [s]

/-- `array[i]`, or `Vector.get(i)`. -/
def arrayGet {α : Type*} (l : List α) (i : ℕ) : Call α :=
  match l[i]? with
  | some x => .ok x
  | none => .error .arrayIndexOutOfBounds

lemma arrayGet_error {α : Type*} {l : List α} {i : ℕ} {e : Abrupt} (h : arrayGet l i = .error e) :
    e = .arrayIndexOutOfBounds := by
  unfold arrayGet at h
  split at h
  · cases h
  · cases h; rfl

/-- `String.substring(i)`. -/
def substring (s : Text) (i : ℕ) : Call Text :=
  if i ≤ s.length then .ok (s.drop i) else .error .stringIndexOutOfBounds

end BuludTechVPN.JavaLang
