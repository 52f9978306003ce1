import BuludTechVPN.VpnProfile

/-!
What `parseline` makes of the words and of the escaped arguments of a line.

The scan adds parameter after parameter, so a word in front of a line is read in front of what
the line is read as. An argument that was escaped is not always read as itself: between quotes
the scan stores the character before a backslash twice.
-/

namespace BuludTechVPN.LineParser

open JavaLang

/-! ### The parameters before -/

/-- The scan with parameters in front. -/
def Scan.push (ps : List Text) (s : Scan) : Scan := { s with parameters := ps ++ s.parameters }

namespace Scan

variable (ps : List Text) (s : Scan) (c : Char)

lemma store_push : (s.push ps).store = s.store.push ps := by
  unfold store push
  split_ifs <;> rfl

lemma done_push : (s.push ps).done = s.done.push ps := by
  simp [done, push]

lemma read_push : (s.push ps).read c = (s.read c).push ps := by
  obtain ⟨params, state, backslash, out, arg⟩ := s
  cases state with
  | initial =>
    by_cases h1 : space c
    · simp [read, push, h1]
    · by_cases h2 : (!backslash && c = '"') = true
      · simp [read, push, h1, h2]
      · by_cases h3 : (!backslash && c = '\'') = true <;> simp [read, push, h1, h2, h3]
  | readinSingleQuote => by_cases h : c = '\'' <;> simp [read, push, done, h]
  | readingQuoted => by_cases h : (!backslash && c = '"') = true <;> simp [read, push, done, h]
  | readingUnquoted => by_cases h : (!backslash && space c) = true <;> simp [read, push, done, h]

lemma checkBackslash_push : (s.push ps).checkBackslash = push ps <$> s.checkBackslash := by
  unfold checkBackslash push
  split_ifs <;> rfl

lemma next_push : (s.push ps).next c = push ps <$> s.next c := by
  unfold next
  rw [read_push, checkBackslash_push, show (s.push ps).backslash = s.backslash from rfl,
    show (s.push ps).state = s.state from rfl]
  split_ifs
  · exact congrArg Except.ok (store_push ps { s with backslash := true })
  · cases (s.read c).checkBackslash with
    | error e => rfl
    | ok t => exact congrArg Except.ok (store_push ps t)

end Scan

/-- Parameters in front stay in front. -/
lemma scan_push (ps : List Text) (s : Scan) (t : Text) :
    scan (s.push ps) t = (ps ++ ·) <$> scan s t := by
  induction t generalizing s with
  | nil => rfl
  | cons c t ih =>
    rw [scan, scan, show (s.push ps).comment c = s.comment c from rfl, Scan.next_push]
    split_ifs
    · rfl
    · cases s.next c with
      | error e => rfl
      | ok s' => exact ih s'

/-! ### Words -/

/-- The state between two parameters. -/
def between (ps : List Text) : Scan := ⟨ps, .initial, false, '\x00', []⟩

lemma scan_between (ps : List Text) (t : Text) :
    scan (between ps) t = (ps ++ ·) <$> scan .start t := by
  rw [← scan_push]
  simp [between, Scan.push, Scan.start]

lemma scan_step {s s' : Scan} {c : Char} {t : Text} (h1 : s.comment c = false)
    (h2 : s.next c = .ok s') : scan s (c :: t) = scan s' t := by
  rw [scan, h1, h2]
  rfl

lemma ne_of_space {c d : Char} (hc : space c = true) (hd : space d = false) : c ≠ d := by
  rintro rfl
  rw [hc] at hd
  cases hd

lemma scan_blank {d : Char} (h : space d) (ps : List Text) (t : Text) :
    scan (between ps) (d :: t) = scan (between ps) t := by
  have h1 : d ≠ ';' := ne_of_space h (by decide)
  have h2 : d ≠ '#' := ne_of_space h (by decide)
  have h3 : d ≠ '\\' := ne_of_space h (by decide)
  refine scan_step (by simp [between, Scan.comment, h1, h2]) ?_
  simp [between, Scan.next, Scan.read, Scan.checkBackslash, Scan.store, h, h3]

/-- A character that stands for itself in a word. -/
def wordChar (c : Char) : Bool := !space c && c ≠ '\\'

lemma wordChar_iff {c : Char} : wordChar c = true ↔ space c = false ∧ c ≠ '\\' := by
  simp [wordChar]

lemma ne_zero_of_not_space {c : Char} (h : space c = false) : c ≠ '\x00' :=
  (ne_of_space (by decide) h).symm

/-- A text that is a word of a line. -/
def IsWord (w : Text) : Prop :=
  (∀ c ∈ w, wordChar c) ∧ ∃ c ∈ w.head?, c ≠ ';' ∧ c ≠ '#' ∧ c ≠ '"' ∧ c ≠ '\''

lemma next_unquoted {c : Char} (h : wordChar c) (ps : List Text) (o : Char) (arg : Text) :
    (⟨ps, .readingUnquoted, false, o, arg⟩ : Scan).next c =
      .ok ⟨ps, .readingUnquoted, false, c, arg ++ [c]⟩ := by
  obtain ⟨h1, h2⟩ := wordChar_iff.1 h
  simp [Scan.next, Scan.read, Scan.checkBackslash, Scan.store, h1, h2, ne_zero_of_not_space h1]

lemma next_unquoted_space {d : Char} (h : space d) (ps : List Text) (o : Char) (arg : Text) :
    (⟨ps, .readingUnquoted, false, o, arg⟩ : Scan).next d = .ok (between (ps ++ [arg])) := by
  have h3 : d ≠ '\\' := ne_of_space h (by decide)
  simp [between, Scan.next, Scan.read, Scan.checkBackslash, Scan.store, Scan.done, h, h3]

lemma scan_unquoted {d : Char} (hd : space d) {w : Text} (hw : ∀ c ∈ w, wordChar c)
    (ps : List Text) (o : Char) (arg t : Text) :
    scan ⟨ps, .readingUnquoted, false, o, arg⟩ (w ++ d :: t) =
      scan (between (ps ++ [arg ++ w])) t := by
  induction w generalizing o arg with
  | nil =>
    rw [List.nil_append, List.append_nil]
    exact scan_step (by simp [Scan.comment]) (next_unquoted_space hd ps o arg)
  | cons c w ih =>
    rw [List.forall_mem_cons] at hw
    rw [List.cons_append, scan_step (by simp [Scan.comment]) (next_unquoted hw.1 ps o arg),
      ih hw.2]
    simp

/-- **A word is read as itself**, in front of what follows it. -/
theorem scan_word {w : Text} (hw : IsWord w) {d : Char} (hd : space d) (ps : List Text)
    (t : Text) : scan (between ps) (w ++ d :: t) = scan (between (ps ++ [w])) t := by
  obtain ⟨hall, c, hc, h1, h2, h3, h4⟩ := hw
  cases w with
  | nil => simp at hc
  | cons b w =>
    obtain rfl : b = c := by simpa using hc
    rw [List.forall_mem_cons] at hall
    obtain ⟨h5, h6⟩ := wordChar_iff.1 hall.1
    have first : (between ps).next b = .ok ⟨ps, .readingUnquoted, false, b, [b]⟩ := by
      simp [between, Scan.next, Scan.read, Scan.checkBackslash, Scan.store, h3, h4, h5, h6,
        ne_zero_of_not_space h5]
    rw [List.cons_append, scan_step (by simp [between, Scan.comment, h1, h2]) first,
      scan_unquoted hd hall.2]
    simp

/-! ### Numbers -/

/-- A character of a number or of a dotted address. -/
def Numeric (c : Char) : Prop := c = '-' ∨ c = '.' ∨ c.isDigit

instance (c : Char) : Decidable (Numeric c) := inferInstanceAs (Decidable (_ ∨ _))

/-- A printable character other than a backslash stands for itself. -/
lemma wordChar_of_printable {c : Char} (h : 0x21 ≤ c.toNat ∧ c.toNat ≤ 0x7E) (hb : c ≠ '\\') :
    wordChar c := by
  have hw : isWhitespace c = false := by
    simp only [isWhitespace, Bool.or_eq_false_iff, Bool.and_eq_false_iff, decide_eq_false_iff_not]
    omega
  have hz : c ≠ '\x00' := by
    rintro rfl
    exact absurd h.1 (by decide)
  rw [wordChar_iff, space, hw, Bool.false_or, decide_eq_false_iff_not]
  exact ⟨hz, hb⟩

lemma wordChar_of_numeric {c : Char} (h : Numeric c) : wordChar c := by
  rcases h with rfl | rfl | h
  · decide
  · decide
  simp only [Char.isDigit, Bool.and_eq_true, decide_eq_true_eq] at h
  have hr : 48 ≤ c.toNat ∧ c.toNat ≤ 57 := h
  refine wordChar_of_printable ⟨by omega, by omega⟩ ?_
  rintro rfl
  exact absurd hr.2 (by decide)

lemma isWord_of_numeric {t : Text} (hne : t ≠ []) (h : ∀ c ∈ t, Numeric c) : IsWord t := by
  refine ⟨fun c hc => wordChar_of_numeric (h c hc), ?_⟩
  cases t with
  | nil => exact absurd rfl hne
  | cons c t =>
    refine ⟨c, rfl, ?_⟩
    rcases h c List.mem_cons_self with rfl | rfl | hd
    · decide
    · decide
    · refine ⟨?_, ?_, ?_, ?_⟩ <;> rintro rfl <;> exact absurd hd (by decide)

lemma numeric_of_mem_showInt {c : Char} {n : ℤ} (h : c ∈ showInt n) : Numeric c :=
  (mem_showInt h).imp id .inr

lemma isWord_showInt (n : ℤ) : IsWord (showInt n) :=
  isWord_of_numeric (showInt_ne_nil n) fun _ => numeric_of_mem_showInt

/-! ### Escaped arguments -/

open VpnProfile

/-- What a character is written as between quotes. -/
def escapeChar (c : Char) : Text :=
  if c = '\\' then ['\\', '\\'] else if c = '"' then ['\\', '"']
  else if c = '\n' then ['\\', 'n'] else [c]

lemma escapeChars_eq (a : Text) : escapeChars a = a.flatMap escapeChar := by
  unfold escapeChars replaceChar
  rw [List.flatMap_assoc, List.flatMap_assoc]
  refine List.flatMap_congr fun c _ => ?_
  unfold escapeChar
  split_ifs with h1 h2 h3
  · subst h1; decide
  · subst h2; decide
  · subst h3; decide
  · simp [h2, h3]

lemma escapeChar_special {c : Char} (h : c = '\\' ∨ c = '"') : escapeChar c = ['\\', c] := by
  obtain rfl | rfl := h <;> rfl

lemma escapeChar_other {c : Char} (h : ¬ (c = '\\' ∨ c = '"')) (hn : c ≠ '\n') :
    escapeChar c = [c] := by
  rw [not_or] at h
  simp [escapeChar, h, hn]

/-- What is stored of a text that was escaped between quotes, where `out` still holds a
character: it is stored again at each backslash that was written. -/
def garble : Char → Text → Text
  | _, [] => []
  | out, c :: a =>
    if c = '\\' ∨ c = '"' then (if out = '\x00' then [c] else [out, c]) ++ garble c a
    else if c = '\x00' then garble c a
    else c :: garble c a

/-- The state between quotes. -/
def quoted (ps : List Text) (out : Char) (arg : Text) : Scan := ⟨ps, .readingQuoted, false, out, arg⟩

lemma comment_quoted (ps : List Text) (out : Char) (arg : Text) (c : Char) :
    (quoted ps out arg).comment c = false := by
  simp [quoted, Scan.comment]

/-- The state behind a backslash between quotes. -/
def escaping (ps : List Text) (out : Char) (arg : Text) : Scan :=
  ⟨ps, .readingQuoted, true, out, arg ++ if out = '\x00' then [] else [out]⟩

lemma scan_quoted_backslash (ps : List Text) (out : Char) (arg t : Text) :
    scan (quoted ps out arg) ('\\' :: t) = scan (escaping ps out arg) t := by
  refine scan_step (comment_quoted ..) ?_
  by_cases h : out = '\x00' <;> simp [quoted, escaping, Scan.next, Scan.store, h]

/-- A character that is escaped is read with the one before it. -/
lemma scan_quoted_escape {c : Char} (h : c = '\\' ∨ c = '"') (ps : List Text) (out : Char)
    (arg t : Text) :
    scan (quoted ps out arg) ('\\' :: c :: t) =
      scan (quoted ps c (arg ++ if out = '\x00' then [c] else [out, c])) t := by
  rw [scan_quoted_backslash]
  refine scan_step (by simp [escaping, Scan.comment]) ?_
  obtain rfl | rfl := h <;> by_cases ho : out = '\x00' <;>
    simp [escaping, quoted, Scan.next, Scan.read, Scan.checkBackslash, Scan.store, ho]

lemma scan_quoted_char {c : Char} (h1 : c ≠ '\\') (h2 : c ≠ '"') (ps : List Text) (out : Char)
    (arg t : Text) :
    scan (quoted ps out arg) (c :: t) =
      scan (quoted ps c (if c = '\x00' then arg else arg ++ [c])) t := by
  refine scan_step (comment_quoted ..) ?_
  by_cases h : c = '\x00' <;>
    simp [quoted, Scan.next, Scan.read, Scan.checkBackslash, Scan.store, h1, h2, h]

lemma scan_quoted_end (ps : List Text) (out : Char) (arg t : Text) :
    scan (quoted ps out arg) ('"' :: t) = scan (between (ps ++ [arg])) t := by
  refine scan_step (comment_quoted ..) ?_
  simp [quoted, between, Scan.next, Scan.read, Scan.checkBackslash, Scan.store, Scan.done]

lemma scan_quoted_newline (ps : List Text) (out : Char) (arg t : Text) :
    scan (quoted ps out arg) ('\\' :: 'n' :: t) =
      .error (.configParse Scan.badBackslash) := by
  have h : space 'n' = false := by decide
  rw [scan_quoted_backslash, scan]
  simp [escaping, Scan.comment, Scan.next, Scan.read, Scan.checkBackslash, h]
  rfl

/-- **What an escaped text is read as** between quotes, if it has no line feed. -/
theorem scan_quoted {a : Text} (h : '\n' ∉ a) (ps : List Text) (out : Char) (arg t : Text) :
    scan (quoted ps out arg) (escapeChars a ++ '"' :: t) =
      scan (between (ps ++ [arg ++ garble out a])) t := by
  rw [escapeChars_eq]
  induction a generalizing out arg with
  | nil => simp [garble, scan_quoted_end]
  | cons c a ih =>
    rw [List.mem_cons, not_or] at h
    rw [List.flatMap_cons, List.append_assoc, garble]
    by_cases hq : c = '\\' ∨ c = '"'
    · rw [escapeChar_special hq, if_pos hq, List.cons_append, List.cons_append, List.nil_append,
        scan_quoted_escape hq, ih h.2, List.append_assoc]
    · rw [escapeChar_other hq (Ne.symm h.1), if_neg hq, List.cons_append, List.nil_append,
        scan_quoted_char (fun e => hq (.inl e)) (fun e => hq (.inr e)), ih h.2]
      split_ifs <;> simp

/-- A line feed in an escaped text is not read. -/
lemma scan_quoted_error {a : Text} (h : '\n' ∈ a) (ps : List Text) (out : Char) (arg t : Text) :
    scan (quoted ps out arg) (escapeChars a ++ '"' :: t) =
      .error (.configParse Scan.badBackslash) := by
  rw [escapeChars_eq]
  induction a generalizing out arg with
  | nil => simp at h
  | cons c a ih =>
    rw [List.flatMap_cons, List.append_assoc]
    by_cases hc : c = '\n'
    · subst hc
      exact scan_quoted_newline ps out arg _
    · have ha : '\n' ∈ a := by simpa [Ne.symm hc] using h
      by_cases hq : c = '\\' ∨ c = '"'
      · rw [escapeChar_special hq, List.cons_append, List.cons_append, List.nil_append,
          scan_quoted_escape hq, ih ha]
      · rw [escapeChar_other hq hc, List.cons_append, List.nil_append,
          scan_quoted_char (fun e => hq (.inl e)) (fun e => hq (.inr e)), ih ha]

/-- A text that `openVpnEscape` leaves as it is. -/
def Bare (a : Text) : Prop :=
  a ≠ [] ∧ ∀ c ∈ a, c ∉ ['\\', '"', '\n', ' ', '#', ';']

instance (w : Text) : Decidable (IsWord w) := inferInstanceAs (Decidable (_ ∧ _))

instance (a : Text) : Decidable (Bare a) := inferInstanceAs (Decidable (_ ∧ _))

lemma escapeChars_eq_self {a : Text} : escapeChars a = a ↔ ∀ c ∈ a, c ∉ ['\\', '"', '\n'] := by
  rw [escapeChars_eq]
  have len : ∀ b : Text, b.length ≤ (b.flatMap escapeChar).length := by
    intro b
    induction b with
    | nil => simp
    | cons c b ih =>
      have : 1 ≤ (escapeChar c).length := by unfold escapeChar; split_ifs <;> simp
      simp only [List.flatMap_cons, List.length_append, List.length_cons]
      omega
  induction a with
  | nil => simp
  | cons c a ih =>
    have ih : a.flatMap escapeChar = a ↔ ∀ c ∈ a, c ∉ ['\\', '"', '\n'] := ih
    rw [List.flatMap_cons, List.forall_mem_cons, ← ih]
    by_cases hc : c ∈ ['\\', '"', '\n']
    · refine iff_of_false (fun h => ?_) (fun h => h.1 hc)
      have h2 : (escapeChar c).length = 2 := by
        simp only [List.mem_cons, List.not_mem_nil, or_false] at hc
        obtain rfl | rfl | rfl := hc <;> rfl
      have := congrArg List.length h
      simp only [List.length_append, List.length_cons] at this
      have := len a
      omega
    · have : escapeChar c = [c] := by
        simp only [List.mem_cons, List.not_mem_nil, or_false, not_or] at hc
        simp [escapeChar, hc]
      rw [this]
      simp [hc]

lemma openVpnEscape_bare {a : Text} (h : Bare a) : openVpnEscape a = a := by
  have he : escapeChars a = a := escapeChars_eq_self.2 fun c hc => by
    have := h.2 c hc
    simp only [List.mem_cons, not_or] at this ⊢
    tauto
  have mem : ∀ c ∈ [' ', '#', ';'], c ∉ a := by
    intro c hc ha
    have := h.2 c ha
    simp only [List.mem_cons, List.not_mem_nil, or_false, not_or] at this hc
    tauto
  rw [openVpnEscape, he]
  exact if_pos ⟨rfl, mem _ (by simp), mem _ (by simp), mem _ (by simp), h.1⟩

lemma openVpnEscape_quoted {a : Text} (h : ¬ Bare a) :
    openVpnEscape a = '"' :: escapeChars a ++ ['"'] := by
  rw [openVpnEscape]
  refine if_neg fun ⟨h1, h2, h3, h4, h5⟩ => h ⟨h1 ▸ h5, fun c hc => ?_⟩
  have := escapeChars_eq_self.1 h1 c hc
  rw [h1] at h2 h3 h4
  have b1 : c ≠ ' ' := fun e => h2 (e ▸ hc)
  have b2 : c ≠ '#' := fun e => h3 (e ▸ hc)
  have b3 : c ≠ ';' := fun e => h4 (e ▸ hc)
  simp only [List.mem_cons, List.not_mem_nil, or_false, not_or] at this ⊢
  tauto

/-- The argument is read as itself after it was escaped. -/
def Survives (a : Text) : Prop :=
  if Bare a then IsWord a else '\n' ∉ a ∧ garble '\x00' a = a

instance (a : Text) : Decidable (Survives a) :=
  inferInstanceAs (Decidable (if Bare a then IsWord a else '\n' ∉ a ∧ garble '\x00' a = a))

lemma scan_quote (ps : List Text) (t : Text) :
    scan (between ps) ('"' :: t) = scan (quoted ps '\x00' []) t := by
  have h : space '"' = false := by decide
  refine scan_step (by simp [between, Scan.comment]) ?_
  simp [between, quoted, Scan.next, Scan.read, Scan.checkBackslash, Scan.store, h]

/-- **An argument that survives is read back**, in front of what follows it. -/
theorem scan_escape {a : Text} (h : Survives a) {d : Char} (hd : space d) (ps : List Text)
    (t : Text) : scan (between ps) (openVpnEscape a ++ d :: t) = scan (between (ps ++ [a])) t := by
  unfold Survives at h
  split_ifs at h with hb
  · rw [openVpnEscape_bare hb, scan_word h hd]
  · rw [openVpnEscape_quoted hb, List.cons_append, List.cons_append, List.append_assoc,
      scan_quote, List.cons_append, List.nil_append, scan_quoted h.1, scan_blank hd, h.2,
      List.nil_append]

/-- The arguments of a line, each with a blank behind it. -/
lemma scan_escapes {args : List Text} (h : ∀ a ∈ args, Survives a) (ps : List Text) (t : Text) :
    scan (between ps) (args.flatMap (fun a => openVpnEscape a ++ [' ']) ++ t) =
      scan (between (ps ++ args)) t := by
  induction args generalizing ps with
  | nil => simp
  | cons a args ih =>
    rw [List.forall_mem_cons] at h
    rw [List.flatMap_cons, List.append_assoc, List.append_assoc, List.cons_append,
      List.nil_append, scan_escape h.1 (by decide), ih h.2]
    simp

/-! ### Whole lines -/

lemma parseline_eq (l : Text) : parseline l = scan (between []) (l ++ ['\x00']) := by
  unfold parseline
  split_ifs with h
  · subst h
    rfl
  · rfl

lemma scan_end (ps : List Text) : scan (between ps) ['\x00'] = .ok ps := by
  rw [scan_blank (by decide)]
  rfl

/-! ### Lines that are read without an error -/

/-- Every backslash makes a pair with the backslash or the quote behind it. -/
def paired : Text → Bool
  | [] => true
  | '\\' :: c :: t => (c = '\\' || c = '"') && paired t
  | c :: t => c ≠ '\\' && paired t

namespace Scan

variable {s : Scan} {c : Char}

lemma read_backslash (s : Scan) (c : Char) : (s.read c).backslash = s.backslash := by
  unfold read
  cases s.state <;> dsimp only <;> split_ifs <;> rfl

lemma store_backslash (s : Scan) : s.store.backslash = s.backslash := by
  unfold store
  split_ifs <;> rfl

lemma store_state (s : Scan) : s.store.state = s.state := by
  unfold store
  split_ifs <;> rfl

/-- What a character leaves, once its backslash is checked. -/
def after (s : Scan) (c : Char) : Scan := { s.read c with backslash := false }.store

lemma after_backslash (s : Scan) (c : Char) : (s.after c).backslash = false := store_backslash _

/-- Outside of a pair the scan goes on. -/
lemma next_single (hb : s.backslash = false) (hc : c ≠ '\\' ∨ s.state = .readinSingleQuote) :
    s.next c = .ok (s.after c) := by
  have hnot : ¬ (!s.backslash && c = '\\' && s.state ≠ .readinSingleQuote) = true := by
    rcases hc with hc | hc <;> simp [hc]
  have hcheck : (s.read c).checkBackslash = .ok { s.read c with backslash := false } := by
    simp [checkBackslash, read_backslash, hb]
  rw [next, if_neg hnot, hcheck]
  rfl

/-- The second character of a pair. -/
lemma next_pair (hs : s.state ≠ .readinSingleQuote) (hb : s.backslash = true)
    (hc : c = '\\' ∨ c = '"') : s.next c = .ok (s.after c) := by
  have hspace : space c = false := by rcases hc with rfl | rfl <;> decide
  have hout : (s.read c).out = c := by
    unfold read
    cases h : s.state with
    | initial => simp [hb, hspace]
    | readingUnquoted => simp [hb]
    | readingQuoted => simp [hb]
    | readinSingleQuote => exact absurd h hs
  have hcheck : (s.read c).checkBackslash = .ok { s.read c with backslash := false } := by
    rcases hc with rfl | rfl <;> simp [checkBackslash, hout]
  rw [next, if_neg (by simp [hb]), hcheck]
  rfl

lemma comment_of_pair (hc : c = '\\' ∨ c = '"') : s.comment c = false := by
  rcases hc with rfl | rfl <;> simp [comment]

end Scan

/-- **No error**: a line whose backslashes are paired is scanned to its end. -/
theorem scan_paired {t : Text} (h : paired t) {s : Scan} (hb : s.backslash = false) :
    ∃ ps, scan s t = .ok ps := by
  induction t using paired.induct generalizing s with
  | case1 => exact ⟨_, rfl⟩
  | case2 c t ih =>
    simp only [paired, Bool.and_eq_true, Bool.or_eq_true, decide_eq_true_eq] at h
    by_cases hs : s.state = .readinSingleQuote
    · -- both characters stand for themselves
      have hstate : (s.after '\\').state = .readinSingleQuote := by
        simp [Scan.after, Scan.store_state, Scan.read, hs]
      rw [scan_step (Scan.comment_of_pair (.inl rfl)) (Scan.next_single hb (.inr hs)),
        scan_step (Scan.comment_of_pair h.1)
          (Scan.next_single (Scan.after_backslash _ _) (.inr hstate))]
      exact ih h.2 (Scan.after_backslash _ _)
    · have hfirst : s.next '\\' = .ok { s with backslash := true }.store := by
        simp [Scan.next, hb, hs]
      have hstate : ({ s with backslash := true } : Scan).store.state ≠ .readinSingleQuote := by
        rwa [Scan.store_state]
      rw [scan_step (Scan.comment_of_pair (.inl rfl)) hfirst,
        scan_step (Scan.comment_of_pair h.1)
          (Scan.next_pair hstate (Scan.store_backslash _) h.1)]
      exact ih h.2 (Scan.after_backslash _ _)
  | case3 c t hnot ih =>
    rw [paired.eq_3 _ _ hnot, Bool.and_eq_true, decide_eq_true_eq] at h
    rw [scan]
    split_ifs
    · exact ⟨_, rfl⟩
    · rw [Scan.next_single hb (.inl h.1)]
      exact ih h.2 (Scan.after_backslash _ _)

lemma paired_of_notMem {t : Text} (h : '\\' ∉ t) : paired t := by
  induction t with
  | nil => rfl
  | cons c t ih =>
    rw [List.mem_cons, not_or] at h
    rw [paired.eq_3 _ _ fun d u hd _ => h.1 hd.symm, Bool.and_eq_true, decide_eq_true_eq]
    exact ⟨Ne.symm h.1, ih h.2⟩

lemma paired_append {t u : Text} (ht : paired t) (hu : paired u) : paired (t ++ u) := by
  induction t using paired.induct with
  | case1 => exact hu
  | case2 c t ih =>
    simp only [paired, Bool.and_eq_true] at ht
    simp only [List.cons_append, paired, Bool.and_eq_true]
    exact ⟨ht.1, ih ht.2⟩
  | case3 c t hnot ih =>
    rw [paired.eq_3 _ _ hnot, Bool.and_eq_true, decide_eq_true_eq] at ht
    rw [List.cons_append, paired.eq_3 _ _ fun d v hc _ => ht.1 hc, Bool.and_eq_true,
      decide_eq_true_eq]
    exact ⟨ht.1, ih ht.2⟩

lemma paired_escapeChars {a : Text} (h : '\n' ∉ a) : paired (escapeChars a) := by
  rw [escapeChars_eq]
  induction a with
  | nil => rfl
  | cons c a ih =>
    rw [List.mem_cons, not_or] at h
    rw [List.flatMap_cons]
    refine paired_append ?_ (ih h.2)
    by_cases hc : c = '\\' ∨ c = '"'
    · rw [escapeChar_special hc]
      rcases hc with rfl | rfl <;> rfl
    · rw [escapeChar_other hc (Ne.symm h.1)]
      rw [not_or] at hc
      exact paired_of_notMem (by simpa using Ne.symm hc.1)

lemma paired_escape {a : Text} (h : '\n' ∉ a) : paired (openVpnEscape a) := by
  by_cases hb : Bare a
  · rw [openVpnEscape_bare hb]
    exact paired_of_notMem fun hm => absurd (hb.2 _ hm) (by simp)
  · rw [openVpnEscape_quoted hb]
    exact paired_append (t := ['"']) (by decide) (paired_append (paired_escapeChars h) (by decide))

lemma isLine_escape {a : Text} (hr : '\r' ∉ a) : IsLine (openVpnEscape a) := by
  have hchars : IsLine (escapeChars a) := by
    rw [escapeChars_eq]
    induction a with
    | nil => simp
    | cons c a ih =>
      rw [List.mem_cons, not_or] at hr
      rw [List.flatMap_cons, isLine_append]
      refine ⟨?_, ih hr.2⟩
      unfold escapeChar
      split_ifs with h1 h2 h3
      · simp
      · simp
      · simp
      · simp [h3, Ne.symm hr.1]
  by_cases hb : Bare a
  · rw [openVpnEscape_bare hb]
    exact ⟨fun hm => absurd (hb.2 _ hm) (by simp), hr⟩
  · rw [openVpnEscape_quoted hb]
    simp [hchars]

/-! ### Where the characters of a parameter come from -/

namespace Scan

/-- The scan holds the character. -/
def Holds (s : Scan) (c : Char) : Prop :=
  (∃ p ∈ s.parameters, c ∈ p) ∨ c ∈ s.currentarg ∨ c = s.out

lemma holds_store {s : Scan} {c : Char} (h : s.store.Holds c) : s.Holds c := by
  unfold store at h
  split_ifs at h
  · obtain h | h | h := h
    · exact .inl h
    · rcases List.mem_append.1 h with h | h
      · exact .inr (.inl h)
      · exact .inr (.inr (List.mem_singleton.1 h))
    · exact .inr (.inr h)
  · exact h

lemma holds_done {s : Scan} {c : Char} (h : s.done.Holds c) : s.Holds c ∨ c = '\x00' := by
  obtain ⟨p, hp, hc⟩ | h | h := h
  · rcases List.mem_append.1 hp with hp | hp
    · exact .inl (.inl ⟨p, hp, hc⟩)
    · exact .inl (.inr (.inl (List.mem_singleton.1 hp ▸ hc)))
  · simp [done] at h
  · exact .inr h

lemma holds_read {s : Scan} {c d : Char} (h : (s.read d).Holds c) :
    s.Holds c ∨ c = '\x00' ∨ c = d := by
  have hout : ∀ {st : LineState}, ({ s with out := d, state := st } : Scan).Holds c →
      s.Holds c ∨ c = '\x00' ∨ c = d := fun h => by
    obtain h | h | h := h
    · exact .inl (.inl h)
    · exact .inl (.inr (.inl h))
    · exact .inr (.inr h)
  have hdone : s.done.Holds c → s.Holds c ∨ c = '\x00' ∨ c = d := fun h =>
    (holds_done h).imp id .inl
  unfold read at h
  cases hs : s.state with
  | initial =>
    simp only [hs] at h
    split_ifs at h
    · exact .inl h
    · exact .inl h
    · exact .inl h
    · exact hout h
  | readingUnquoted =>
    simp only [hs] at h
    split_ifs at h
    · exact hdone h
    · exact hout h
  | readingQuoted =>
    simp only [hs] at h
    split_ifs at h
    · exact hdone h
    · exact hout h
  | readinSingleQuote =>
    simp only [hs] at h
    split_ifs at h
    · exact hdone h
    · exact hout h

lemma holds_next {s s' : Scan} {c d : Char} (hn : s.next d = .ok s') (h : s'.Holds c) :
    s.Holds c ∨ c = '\x00' ∨ c = d := by
  unfold next at hn
  split_ifs at hn
  · cases hn
    exact .inl (holds_store (s := { s with backslash := true }) h)
  · rw [map_eq_pure_bind] at hn
    obtain ⟨s₁, hs, hn⟩ := bind_eq_ok.1 hn
    cases hn
    have h := holds_store h
    unfold checkBackslash at hs
    split_ifs at hs
    cases hs
    exact holds_read h

end Scan

lemma holds_scan {s : Scan} {t : Text} {ps : List Text} (h : scan s t = .ok ps) {p : Text}
    (hp : p ∈ ps) {c : Char} (hc : c ∈ p) : s.Holds c ∨ c = '\x00' ∨ c ∈ t := by
  induction t generalizing s with
  | nil =>
    cases h
    exact .inl (.inl ⟨p, hp, hc⟩)
  | cons d t ih =>
    rw [scan] at h
    split_ifs at h
    · cases h
      exact .inl (.inl ⟨p, hp, hc⟩)
    · obtain ⟨s', hn, h⟩ := bind_eq_ok.1 h
      rcases ih h with hs | h0 | ht
      · rcases Scan.holds_next hn hs with h | h | h
        · exact .inl h
        · exact .inr (.inl h)
        · exact .inr (.inr (h ▸ List.mem_cons_self))
      · exact .inr (.inl h0)
      · exact .inr (.inr (List.mem_cons_of_mem _ ht))

/-- **Nothing is made up**: a parameter of a line is without a line end. -/
theorem isLine_of_mem_parseline {l : Text} (hl : IsLine l) {ps : List Text}
    (h : parseline l = .ok ps) {p : Text} (hp : p ∈ ps) : IsLine p := by
  have hchars : ∀ c ∈ p, c = '\x00' ∨ c ∈ l := fun c hc => by
    rw [parseline_eq] at h
    rcases holds_scan h hp hc with hs | h0 | ht
    · simp [between, Scan.Holds] at hs
      exact .inl hs
    · exact .inl h0
    · rcases List.mem_append.1 ht with ht | ht
      · exact .inr ht
      · exact .inl (List.mem_singleton.1 ht)
  constructor <;> intro hm
  · rcases hchars _ hm with h | h
    · exact absurd h (by decide)
    · exact hl.1 h
  · rcases hchars _ hm with h | h
    · exact absurd h (by decide)
    · exact hl.2 h

end BuludTechVPN.LineParser
