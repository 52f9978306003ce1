import BuludTechVPN.Tokenizer

/-!
What OpenVPN's tokenizer reads of an argument that `openVpnEscape` wrote.
-/

namespace BuludTechVPN.Tokenizer

open JavaLang LineParser VpnProfile

variable {r r₁ : Lexer} {c out : Char} {a t : Text} {ps qs : List Text}

lemma tokenize_append {pre : Text} (h : readTo r pre = some r₁) (t : Text) :
    tokenize r (pre ++ t) = tokenize r₁ t := by
  induction pre generalizing r with
  | nil =>
    cases h
    rfl
  | cons c pre ih =>
    rw [readTo] at h
    split_ifs at h with hc
    obtain ⟨r₂, h₂, h⟩ := Option.bind_eq_some_iff.1 h
    cases hn : r.next c with
    | error e =>
      rw [hn] at h₂
      cases h₂
    | ok r₃ =>
      rw [hn] at h₂
      cases h₂
      rw [List.cons_append, tokenize_cons (by simpa using hc) hn, ih h]

/-- The tokenizer between two parameters. -/
def Lexer.between (ps : List Text) (out : Char) : Lexer := ⟨ps, .initial, false, out, []⟩

/-- The tokenizer between double quotes. -/
def Lexer.quoted (ps : List Text) (out : Char) (arg : Text) : Lexer :=
  ⟨ps, .readingQuoted, false, out, arg⟩

/-- The tokenizer in a parameter without quotes. -/
def Lexer.plain (ps : List Text) (out : Char) (arg : Text) : Lexer :=
  ⟨ps, .readingUnquoted, false, out, arg⟩

/-! ### Between quotes -/

lemma tokenize_open_quote : tokenize (.between ps out) ('"' :: t) =
    tokenize (.quoted ps '\x00' []) t :=
  tokenize_cons (by simp [Lexer.between, Lexer.comment]) rfl

lemma tokenize_close_quote {arg : Text} : tokenize (.quoted ps out arg) ('"' :: t) =
    tokenize (.between (ps ++ [arg]) '\x00') t :=
  tokenize_cons (by simp [Lexer.quoted, Lexer.comment]) rfl

lemma tokenize_quoted_escape {arg : Text} (h : c = '\\' ∨ c = '"') :
    tokenize (.quoted ps out arg) ('\\' :: c :: t) = tokenize (.quoted ps c (arg ++ [c])) t := by
  have hfirst : (Lexer.quoted ps out arg).next '\\' =
      .ok ⟨ps, .readingQuoted, true, '\x00', arg⟩ := rfl
  rw [tokenize_cons (by simp [Lexer.quoted, Lexer.comment]) hfirst]
  refine tokenize_cons (by simp [Lexer.comment]) ?_
  obtain rfl | rfl := h <;> rfl

lemma tokenize_quoted_char {arg : Text} (h1 : c ≠ '\\') (h2 : c ≠ '"') (hz : c ≠ '\x00') :
    tokenize (.quoted ps out arg) (c :: t) = tokenize (.quoted ps c (arg ++ [c])) t := by
  refine tokenize_cons (by simp [Lexer.quoted, Lexer.comment]) ?_
  simp [Lexer.quoted, Lexer.next, meaning, contribution, h1, h2, hz]

/-- **What was escaped between quotes is read back.** -/
lemma tokenize_quoted (hn : '\n' ∉ a) (hz : '\x00' ∉ a) (arg : Text) :
    tokenize (.quoted ps out arg) (escapeChars a ++ '"' :: t) =
      tokenize (.between (ps ++ [arg ++ a]) '\x00') t := by
  rw [escapeChars_eq]
  induction a generalizing out arg with
  | nil => rw [List.flatMap_nil, List.nil_append, tokenize_close_quote, List.append_nil]
  | cons c a ih =>
    rw [List.mem_cons, not_or] at hn hz
    rw [List.flatMap_cons, List.append_assoc]
    by_cases hq : c = '\\' ∨ c = '"'
    · rw [escapeChar_special hq, List.cons_append, List.cons_append, List.nil_append,
        tokenize_quoted_escape hq, ih hn.2 hz.2, List.append_assoc, List.singleton_append]
    · rw [escapeChar_other hq (Ne.symm hn.1), List.cons_append, List.nil_append,
        tokenize_quoted_char (fun e => hq (.inl e)) (fun e => hq (.inr e)) (Ne.symm hz.1),
        ih hn.2 hz.2, List.append_assoc, List.singleton_append]

/-! ### Without quotes -/

lemma tokenize_plain_word {w arg : Text} (h : ∀ c ∈ w, wordChar c) :
    tokenize (.plain ps out arg) (w ++ ['\x00']) = .ok (ps ++ [arg ++ w]) := by
  induction w generalizing out arg with
  | nil =>
    rw [List.append_nil]
    rfl
  | cons c w ih =>
    rw [List.forall_mem_cons] at h
    obtain ⟨hs, hb⟩ := wordChar_iff.1 h.1
    have hnext : (Lexer.plain ps out arg).next c = .ok (.plain ps c (arg ++ [c])) := by
      simp [Lexer.plain, Lexer.next, meaning, contribution, hs, hb, ne_zero_of_not_space hs]
    rw [List.cons_append, tokenize_cons (by simp [Lexer.plain, Lexer.comment]) hnext, ih h.2,
      List.append_assoc, List.singleton_append]

lemma tokenize_word {w : Text} (h : IsWord w) :
    tokenize (.between ps out) (w ++ ['\x00']) = .ok (ps ++ [w]) := by
  obtain ⟨hw, c, hc, h1, h2, h3, h4⟩ := h
  cases w with
  | nil => cases hc
  | cons d w =>
    obtain rfl : d = c := by simpa using hc
    rw [List.forall_mem_cons] at hw
    obtain ⟨hs, hb⟩ := wordChar_iff.1 hw.1
    have hnext : (Lexer.between ps out).next d = .ok (.plain ps d [d]) := by
      simp [Lexer.between, Lexer.plain, Lexer.next, meaning, contribution, hs, hb, h3, h4,
        ne_zero_of_not_space hs]
    rw [List.cons_append, tokenize_cons (by simp [Lexer.between, Lexer.comment, h1, h2]) hnext,
      tokenize_plain_word hw.2]
    rfl

/-! ### Characters that are lost -/

/-- The characters of the parameters. -/
def Lexer.size (r : Lexer) : ℕ := r.parameters.flatten.length + r.parameter.length

/-- What a character can contribute. -/
def weight (t : Text) : ℕ := (t.flatMap contribution).length

lemma weight_cons : weight (c :: t) = (contribution c).length + weight t := by
  simp [weight]

lemma size_next (h : r.next c = .ok r₁) : r₁.size ≤ r.size + (contribution c).length := by
  unfold Lexer.next at h
  split at h <;> cases h
  all_goals
    simp only [Lexer.size, List.flatten_append, List.flatten_singleton, List.length_append,
      List.length_nil]
    omega

/-- No more is read than the characters of the text. -/
lemma size_tokenize (h : tokenize r t = .ok qs) : qs.flatten.length ≤ r.size + weight t := by
  induction t generalizing r with
  | nil =>
    cases h
    simp only [Lexer.size]
    omega
  | cons c t ih =>
    rw [tokenize] at h
    split_ifs at h
    · cases h
      simp only [Lexer.size]
      omega
    · obtain ⟨r₁, h₁, h⟩ := bind_eq_ok.1 h
      have hstep := size_next h₁
      have hrest := ih h
      rw [weight_cons]
      omega

/-- A text without special characters that is read whole has no blank, and begins with no quote. -/
lemma words_of_size (hz : '\x00' ∉ a) (ha : ∀ c ∈ a, c ∉ ['\\', '"', '\n', ' ', '#', ';'])
    (hr : r.escaped = false) (hstate : r.state = .initial ∨ r.state = .readingUnquoted)
    (h : tokenize r (a ++ ['\x00']) = .ok qs) (hsize : r.size + a.length ≤ qs.flatten.length) :
    (∀ c ∈ a, space c = false) ∧ (r.state = .initial → a.head? ≠ some '\'') := by
  induction a generalizing r with
  | nil => simp
  | cons c a ih =>
    rw [List.forall_mem_cons] at ha
    rw [List.mem_cons, not_or] at hz
    obtain ⟨hc, ha⟩ := ha
    simp only [List.mem_cons, List.not_mem_nil, or_false, not_or] at hc
    obtain ⟨hb, hq, -, -, hhash, hsemi⟩ := hc
    have hcomment : r.comment c = false := by simp [Lexer.comment, hhash, hsemi]
    -- a character that contributes nothing leaves too few
    have hlost : ∀ r₁, r.next c = .ok r₁ → r₁.size < r.size + 1 → False := by
      intro r₁ hn hlt
      rw [List.cons_append, tokenize_cons hcomment hn] at h
      have hle := size_tokenize h
      have hw : weight (a ++ ['\x00']) ≤ a.length := by
        rw [weight, List.flatMap_append, List.length_append]
        have hflat : (a.flatMap contribution).length = a.length := by
          rw [show a.flatMap contribution = a from ?_]
          conv_rhs => rw [← List.flatMap_singleton' a]
          refine List.flatMap_congr fun d hd => ?_
          rw [contribution, if_neg]
          rintro rfl
          exact hz.2 hd
        rw [hflat]
        simp [contribution]
      rw [List.length_cons] at hsize
      omega
    have hspace : space c = false := by
      by_contra hs
      rw [Bool.not_eq_false] at hs
      rcases hstate with hst | hst
      · exact hlost { r with escaped := false, out := '\x00' }
          (by simp [Lexer.next, meaning, hst, hr, hs, hb]) (by simp [Lexer.size])
      · exact hlost ⟨r.parameters ++ [r.parameter], .initial, false, '\x00', []⟩
          (by simp [Lexer.next, meaning, hst, hr, hs, hb]) (by
            simp only [Lexer.size, List.flatten_append, List.flatten_singleton, List.length_append,
              List.length_nil]
            omega)
    have hquote : r.state = .initial → c ≠ '\'' := by
      rintro hst rfl
      exact hlost { r with state := .readinSingleQuote, escaped := false, out := '\x00' }
        (by simp [Lexer.next, meaning, hst, hr, hspace]) (by simp [Lexer.size])
    have hnext : r.next c = .ok { r with
        state := .readingUnquoted, escaped := false, out := c, parameter := r.parameter ++ [c] } := by
      rcases hstate with hst | hst
      · simp [Lexer.next, meaning, contribution, hst, hr, hspace, hb, hq, hquote hst, Ne.symm hz.1]
      · simp [Lexer.next, meaning, contribution, hst, hr, hspace, hb, Ne.symm hz.1]
    rw [List.cons_append, tokenize_cons hcomment hnext] at h
    have hrest := ih hz.2 ha rfl (.inr rfl) h (by
      rw [List.length_cons] at hsize
      simp only [Lexer.size, List.length_append, List.length_singleton] at hsize ⊢
      omega)
    refine ⟨List.forall_mem_cons.2 ⟨hspace, hrest.1⟩, fun hst => ?_⟩
    simpa using hquote hst

/-- A text is written between quotes, or it has no blank and does not begin with a single quote. -/
def ReadsBack (a : Text) : Prop :=
  Bare a → (∀ c ∈ a, space c = false) ∧ a.head? ≠ some '\''

lemma isWord_of_readsBack (hb : Bare a) (h : ReadsBack a) : IsWord a := by
  obtain ⟨hspace, hhead⟩ := h hb
  have hnot : ∀ c ∈ a, ∀ d ∈ ['\\', '"', '\n', ' ', '#', ';'], c ≠ d := fun c hc d hd e =>
    hb.2 c hc (e ▸ hd)
  refine ⟨fun c hc => wordChar_iff.2 ⟨hspace c hc, hnot c hc _ (by simp)⟩, ?_⟩
  cases a with
  | nil => exact absurd rfl hb.1
  | cons c a =>
    have hc := hnot c List.mem_cons_self
    exact ⟨c, rfl, hc _ (by simp), hc _ (by simp), hc _ (by simp), by simpa using hhead⟩

/-- **Escaping is inverted by tokenizing**: behind any parameters, a text without zeros and line
feeds that was escaped is read as itself, exactly if it was written between quotes or has neither a
blank nor a single quote in front. -/
theorem escape_inverted_iff {pre : Text} (hz : '\x00' ∉ a) (hn : '\n' ∉ a)
    (hpre : readTo .start pre = some (.between ps out)) :
    tokens (pre ++ openVpnEscape a) = .ok (ps ++ [a]) ↔ ReadsBack a := by
  rw [tokens, List.append_assoc, tokenize_append hpre]
  by_cases hb : Bare a
  · rw [openVpnEscape_bare hb]
    constructor
    · intro h _
      have hread := words_of_size hz hb.2 rfl (.inl rfl) h (by simp [Lexer.size, Lexer.between])
      exact ⟨hread.1, hread.2 rfl⟩
    · exact fun h => tokenize_word (isWord_of_readsBack hb h)
  · refine iff_of_true ?_ fun h => absurd h hb
    rw [openVpnEscape_quoted hb, List.cons_append, List.cons_append, List.append_assoc,
      tokenize_open_quote, List.cons_append, List.nil_append, tokenize_quoted hn hz]
    rfl

/-- A password with a quote and a backslash in it, in the command that sends it. -/
theorem escape_inverted_password : tokens ("password 'Auth' ".toList ++
    openVpnEscape "a\\b\"c".toList) = .ok ["password".toList, "Auth".toList, "a\\b\"c".toList] := by
  have hpre : readTo .start "password 'Auth' ".toList =
      some (.between ["password".toList, "Auth".toList] '\x00') := rfl
  exact (escape_inverted_iff (by decide) (by decide) hpre).mpr fun hb => absurd hb (by decide)

/-- A password that begins with a single quote is written without quotes. -/
theorem quotedPassword_lost : ¬ ∀ a : Text, '\x00' ∉ a → '\r' ∉ a → '\n' ∉ a →
    tokens (openVpnEscape a) = .ok [a] := by
  intro h
  have hlost := h "'secret".toList (by decide) (by decide) (by decide)
  revert hlost
  decide

end BuludTechVPN.Tokenizer
