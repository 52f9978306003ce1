import BuludTechVPN.WordScan

/-!
OpenVPN's tokenizer of option lines, and where `parseline` departs from it.

The tokenizer is the reference that `parseline` says it adapts. It contributes a character to a
parameter at most once, in the round that reads it; `parseline` keeps the character of the last
round in `out`, and stores it again when a backslash is read.
-/

namespace BuludTechVPN.Tokenizer

open JavaLang LineParser

/-! ### The tokenizer -/

/-- The parameters that are complete, the one that is read, and what the last round contributed to
it. -/
structure Lexer where
  parameters : List Text
  state : LineState
  escaped : Bool
  out : Char
  parameter : Text
  deriving DecidableEq, Repr

/-- What a character means where it stands. -/
inductive Meaning
  | escapes
  | badBackslash
  | blank
  | opens (state : LineState)
  | literal (state : LineState)
  | ends
  deriving DecidableEq, Repr

/-- What may stand behind a backslash. -/
def mayEscape (c : Char) : Bool := c = '\\' || c = '"' || space c

/-- Blanks separate parameters, quotes group, and a backslash outside of single quotes makes the
next character a literal one. -/
def meaning (state : LineState) (escaped : Bool) (c : Char) : Meaning :=
  if c = '\\' ∧ escaped = false ∧ state ≠ .readinSingleQuote then .escapes
  else if escaped = true ∧ mayEscape c = false then .badBackslash
  else
    match state with
    | .initial =>
      if space c then .blank
      else if c = '"' ∧ escaped = false then .opens .readingQuoted
      else if c = '\'' ∧ escaped = false then .opens .readinSingleQuote
      else .literal .readingUnquoted
    | .readingUnquoted =>
      if space c ∧ escaped = false then .ends else .literal .readingUnquoted
    | .readingQuoted => if c = '"' ∧ escaped = false then .ends else .literal .readingQuoted
    | .readinSingleQuote => if c = '\'' then .ends else .literal .readinSingleQuote

/-- A character of a parameter; a zero is none. -/
def contribution (c : Char) : Text := if c = '\x00' then [] else [c]

namespace Lexer

def start : Lexer := ⟨[], .initial, false, '\x00', []⟩

def next (r : Lexer) (c : Char) : Call Lexer :=
  match meaning r.state r.escaped c with
  | .escapes => .ok { r with escaped := true, out := '\x00' }
  | .badBackslash => .error (.configParse Scan.badBackslash)
  | .blank => .ok { r with escaped := false, out := '\x00' }
  | .opens state => .ok { r with state := state, escaped := false, out := '\x00' }
  | .literal state => .ok { r with
      state := state, escaped := false, out := c, parameter := r.parameter ++ contribution c }
  | .ends => .ok ⟨r.parameters ++ [r.parameter], .initial, false, '\x00', []⟩

/-- A comment starts here. -/
def comment (r : Lexer) (c : Char) : Bool := r.state = .initial && (c = ';' || c = '#')

end Lexer

/-- The parameters up to the end or a comment. -/
def tokenize : Lexer → Text → Call (List Text)
  | r, [] => .ok r.parameters
  | r, c :: t => if r.comment c then .ok r.parameters else r.next c >>= (tokenize · t)

/-- The parameters of a line, at whose end a zero stands. -/
def tokens (line : Text) : Call (List Text) := tokenize .start (line ++ ['\x00'])

/-- The state in which a text leaves the tokenizer, if no comment starts in it. -/
def readTo : Lexer → Text → Option Lexer
  | r, [] => some r
  | r, c :: t => if r.comment c then none else (r.next c).toOption.bind (readTo · t)

/-- An escaping backslash stands directly behind a character of a parameter that the line
completes. -/
def Doubles (line : Text) : Prop :=
  ∃ pre post r ps, line = pre ++ '\\' :: post ∧ readTo .start pre = some r ∧
    meaning r.state r.escaped '\\' = .escapes ∧ r.out ≠ '\x00' ∧
      tokens line = .ok ps ∧ r.parameters.length < ps.length

/-! ### What `parseline` does with the same meanings -/

section Steps

variable {s : Scan} {r r₁ : Lexer} {c : Char} {t : Text}

/-- `parseline` and the tokenizer stand at the same place of a line. Only behind a backslash is
`out` another. -/
structure Same (s : Scan) (r : Lexer) : Prop where
  state : s.state = r.state
  backslash : s.backslash = r.escaped
  out : s.backslash = false → s.out = r.out
  between : s.state = .initial → s.out = '\x00'
  single : s.state = .readinSingleQuote → s.backslash = false

/-- What a character does to the parameters of both. -/
inductive Moves (c : Char) (s : Scan) (r : Lexer) (s₁ : Scan) (r₁ : Lexer) : Prop
  | keeps (d : Text) (hs : s₁.parameters = s.parameters) (hr : r₁.parameters = r.parameters)
      (ha : s₁.currentarg = s.currentarg ++ d) (hp : r₁.parameter = r.parameter ++ d)
      (hm : meaning r.state r.escaped c ≠ .escapes)
  | escapes (hc : c = '\\') (hs : s₁.parameters = s.parameters)
      (hr : r₁.parameters = r.parameters)
      (ha : s₁.currentarg = s.currentarg ++ contribution s.out) (hp : r₁.parameter = r.parameter)
      (hm : meaning r.state r.escaped c = .escapes)
  | finishes (hs : s₁.parameters = s.parameters ++ [s.currentarg])
      (hr : r₁.parameters = r.parameters ++ [r.parameter])
      (ha : s₁.currentarg = []) (hp : r₁.parameter = [])
      (hm : meaning r.state r.escaped c ≠ .escapes)

/-- One round of `parseline`, by what the character means. -/
def round (s : Scan) (c : Char) : Call Scan :=
  match meaning s.state s.backslash c with
  | .escapes => .ok { s with backslash := true, currentarg := s.currentarg ++ contribution s.out }
  | .badBackslash => .error (.configParse Scan.badBackslash)
  | .blank => .ok { s with backslash := false }
  | .opens state => .ok { s with state := state, backslash := false }
  | .literal state => .ok { s with
      state := state, backslash := false, out := c, currentarg := s.currentarg ++ contribution c }
  | .ends => .ok ⟨s.parameters ++ [s.currentarg], .initial, false, '\x00', []⟩

lemma store_eq (s : Scan) : s.store = { s with currentarg := s.currentarg ++ contribution s.out } := by
  obtain ⟨ps, state, backslash, out, arg⟩ := s
  by_cases h : out = '\x00' <;> simp [Scan.store, contribution, h]

lemma mayEscape_zero : mayEscape '\x00' = true := by decide

/-- Behind a backslash a zero is let through, as it is no character. -/
lemma checkBackslash_eq (s : Scan) : s.checkBackslash =
    if s.backslash = true ∧ mayEscape s.out = false then .error (.configParse Scan.badBackslash)
    else .ok { s with backslash := false } := by
  unfold Scan.checkBackslash
  by_cases h : s.out = '\x00'
  · simp [h, mayEscape_zero]
  · by_cases hm : mayEscape s.out = true
    · simp only [mayEscape] at hm
      simp [h, hm, mayEscape]
    · simp only [mayEscape] at hm
      simp [h, hm, mayEscape]

/-- **One round**: the branches of the loop, by what the character means. -/
lemma next_eq_round (hi : s.state = .initial → s.out = '\x00')
    (hq : s.state = .readinSingleQuote → s.backslash = false) (c : Char) :
    s.next c = round s c := by
  obtain ⟨ps, state, backslash, out, arg⟩ := s
  unfold Scan.next round meaning
  rw [checkBackslash_eq]
  cases state with
  | initial =>
    obtain rfl : out = '\x00' := hi rfl
    by_cases h1 : space c
    · have hb : c ≠ '\\' := ne_of_space h1 (by decide)
      have hm : mayEscape c = true := by simp [mayEscape, h1]
      simp [Scan.read, store_eq, contribution, h1, hb, hm, mayEscape_zero]
    · have hz : c ≠ '\x00' := ne_zero_of_not_space (by simpa using h1)
      cases backslash with
      | false =>
        by_cases h2 : c = '\\'
        · simp [store_eq, contribution, h2]
        · by_cases h3 : c = '"'
          · have hs : space '"' = false := by decide
            simp [Scan.read, store_eq, contribution, h3, hs]
          · by_cases h4 : c = '\''
            · have hs : space '\'' = false := by decide
              simp [Scan.read, store_eq, contribution, h4, hs]
            · simp [Scan.read, store_eq, contribution, h1, h2, h3, h4]
      | true =>
        by_cases h5 : mayEscape c = true
        · simp [Scan.read, store_eq, contribution, h1, h5, hz]
        · simp [Scan.read, h1, h5]
  | readinSingleQuote =>
    obtain rfl : backslash = false := hq rfl
    by_cases h1 : c = '\''
    · simp [Scan.read, Scan.done, store_eq, contribution, h1]
    · simp [Scan.read, store_eq, contribution, h1]
  | readingQuoted =>
    cases backslash with
    | false =>
      by_cases h1 : c = '\\'
      · simp [store_eq, h1]
      · by_cases h2 : c = '"'
        · simp [Scan.read, Scan.done, store_eq, contribution, h2]
        · simp [Scan.read, store_eq, h1, h2]
    | true =>
      by_cases h5 : mayEscape c = true
      · simp [Scan.read, store_eq, h5]
      · simp [Scan.read, h5]
  | readingUnquoted =>
    cases backslash with
    | false =>
      by_cases h1 : c = '\\'
      · simp [store_eq, h1]
      · by_cases h2 : space c
        · simp [Scan.read, Scan.done, store_eq, contribution, h1, h2]
        · simp [Scan.read, store_eq, h1, h2]
    | true =>
      by_cases h5 : mayEscape c = true
      · simp [Scan.read, store_eq, h5]
      · simp [Scan.read, h5]

variable {state state' : LineState} {escaped : Bool}

lemma meaning_escapes (h : meaning state escaped c = .escapes) :
    c = '\\' ∧ escaped = false ∧ state ≠ .readinSingleQuote := by
  cases state <;> simp only [meaning] at h <;> split_ifs at h <;> simp_all

lemma meaning_blank (h : meaning state escaped c = .blank) : state = .initial := by
  cases state with
  | initial => rfl
  | _ => simp only [meaning] at h; split_ifs at h

lemma meaning_opens (h : meaning state escaped c = .opens state') : state = .initial := by
  cases state with
  | initial => rfl
  | _ => simp only [meaning] at h; split_ifs at h

lemma meaning_literal (h : meaning state escaped c = .literal state') : state' ≠ .initial := by
  cases state <;> simp only [meaning] at h <;> split_ifs at h <;> (cases h; simp)

/-- **One round of both**: they fail alike, or go on from the same place. -/
lemma Same.next (h : Same s r) (c : Char) : (∃ e, s.next c = .error e ∧ r.next c = .error e) ∨
    ∃ s₁ r₁, s.next c = .ok s₁ ∧ r.next c = .ok r₁ ∧ Same s₁ r₁ ∧ Moves c s r s₁ r₁ := by
  rw [next_eq_round h.between h.single]
  unfold round Lexer.next
  rw [h.state, h.backslash]
  have hbetween : r.state = .initial → s.out = '\x00' := fun hi => h.between (h.state.trans hi)
  cases hm : meaning r.state r.escaped c with
  | escapes =>
    obtain ⟨hc, -, hq⟩ := meaning_escapes hm
    exact .inr ⟨_, _, rfl, rfl, ⟨rfl, rfl, by simp, hbetween, fun hs => absurd hs hq⟩,
      .escapes hc rfl rfl rfl rfl hm⟩
  | badBackslash => exact .inl ⟨_, rfl, rfl⟩
  | blank =>
    have hout := hbetween (meaning_blank hm)
    exact .inr ⟨_, _, rfl, rfl, ⟨rfl, rfl, fun _ => hout, fun _ => hout, fun _ => rfl⟩,
      .keeps [] rfl rfl (by simp) (by simp) (by simp [hm])⟩
  | opens state =>
    have hout := hbetween (meaning_opens hm)
    exact .inr ⟨_, _, rfl, rfl, ⟨rfl, rfl, fun _ => hout, fun _ => hout, fun _ => rfl⟩,
      .keeps [] rfl rfl (by simp) (by simp) (by simp [hm])⟩
  | literal state =>
    exact .inr ⟨_, _, rfl, rfl, ⟨rfl, rfl, fun _ => rfl,
      fun hs => absurd hs (meaning_literal hm), fun _ => rfl⟩,
      .keeps (contribution c) rfl rfl rfl rfl (by simp [hm])⟩
  | ends =>
    exact .inr ⟨_, _, rfl, rfl, ⟨rfl, rfl, fun _ => rfl, fun _ => rfl, fun _ => rfl⟩,
      .finishes rfl rfl rfl rfl (by simp [hm])⟩

lemma Same.comment (h : Same s r) (c : Char) : s.comment c = r.comment c := by
  unfold Scan.comment Lexer.comment
  rw [h.state]

/-! ### Whole lines -/

lemma tokenize_cons (hc : r.comment c = false) (h : r.next c = .ok r₁) :
    tokenize r (c :: t) = tokenize r₁ t := by
  rw [tokenize, hc, h]
  rfl

lemma readTo_cons (hc : r.comment c = false) (h : r.next c = .ok r₁) :
    readTo r (c :: t) = readTo r₁ t := by
  rw [readTo, hc, h]
  rfl

/-- The parameters that are complete stay. -/
lemma next_parameters (h : r.next c = .ok r₁) : r.parameters <+: r₁.parameters := by
  unfold Lexer.next at h
  split at h <;> cases h
  all_goals first | exact List.prefix_rfl | exact List.prefix_append _ _

lemma tokenize_parameters {ps : List Text} (h : tokenize r t = .ok ps) : r.parameters <+: ps := by
  induction t generalizing r with
  | nil =>
    cases h
    exact List.prefix_rfl
  | cons c t ih =>
    rw [tokenize] at h
    split_ifs at h
    · cases h
      exact List.prefix_rfl
    · obtain ⟨r₁, h₁, h⟩ := bind_eq_ok.1 h
      exact (next_parameters h₁).trans (ih h)

lemma scan_parameters {ps : List Text} (h : scan s t = .ok ps) : s.parameters <+: ps := by
  have hpush : s = Scan.push s.parameters { s with parameters := [] } := by simp [Scan.push]
  rw [hpush, scan_push] at h
  cases hq : scan { s with parameters := [] } t with
  | error e =>
    rw [hq] at h
    cases h
  | ok qs =>
    rw [hq] at h
    cases h
    exact List.prefix_append _ _

/-- Both fail, with the same error, or none does. -/
lemma Same.both (h : Same s r) (t : Text) :
    (∃ e, scan s t = .error e ∧ tokenize r t = .error e) ∨
      ∃ ps qs, scan s t = .ok ps ∧ tokenize r t = .ok qs := by
  induction t generalizing s r with
  | nil => exact .inr ⟨_, _, rfl, rfl⟩
  | cons c t ih =>
    rw [scan, tokenize, h.comment]
    cases hc : r.comment c with
    | true => exact .inr ⟨_, _, rfl, rfl⟩
    | false =>
      rcases h.next c with ⟨e, hs, hr⟩ | ⟨s₁, r₁, hs, hr, h₁, -⟩
      · exact .inl ⟨e, by rw [hs]; rfl, by rw [hr]; rfl⟩
      · rw [hs, hr]
        exact ih h₁

/-- The line completes the parameter that is read. -/
def Completes (r : Lexer) (t : Text) : Prop :=
  ∃ ps, tokenize r t = .ok ps ∧ r.parameters.length < ps.length

/-- A complete parameter that differs makes the lists differ. -/
lemma scan_eq_iff_error (h : Same s r) (hl : s.parameters.length = r.parameters.length)
    (hne : s.parameters ≠ r.parameters) :
    scan s t = tokenize r t ↔ ∃ e, tokenize r t = .error e := by
  rcases h.both t with ⟨e, hs, hr⟩ | ⟨ps, qs, hs, hr⟩
  · rw [hs, hr]
    exact iff_of_true rfl ⟨e, rfl⟩
  · rw [hs, hr]
    refine iff_of_false (fun heq => hne ?_) (by simp)
    obtain rfl : ps = qs := by simpa using heq
    obtain ⟨l, hps⟩ := scan_parameters hs
    obtain ⟨l', hqs⟩ := tokenize_parameters hr
    exact (List.append_inj (hps.trans hqs.symm) hl).1

/-- While a parameter is read that differs, the lists differ if it is completed. -/
lemma scan_eq_iff_not_completes (h : Same s r) (hps : s.parameters = r.parameters)
    (hlt : r.parameter.length < s.currentarg.length) :
    scan s t = tokenize r t ↔ ¬ Completes r t := by
  induction t generalizing s r with
  | nil =>
    refine iff_of_true (by rw [scan, tokenize, hps]) ?_
    rintro ⟨ps, h, hlen⟩
    cases h
    exact lt_irrefl _ hlen
  | cons c t ih =>
    cases hc : r.comment c with
    | true =>
      have hend : tokenize r (c :: t) = .ok r.parameters := by rw [tokenize, hc]; rfl
      refine iff_of_true (by rw [hend, scan, h.comment, hc, hps]; rfl) ?_
      rintro ⟨ps, h, hlen⟩
      rw [hend] at h
      cases h
      exact lt_irrefl _ hlen
    | false =>
      have hsc : s.comment c = false := (h.comment c).trans hc
      rcases h.next c with ⟨e, hs, hr⟩ | ⟨s₁, r₁, hs, hr, h₁, hmove⟩
      · have hends : tokenize r (c :: t) = .error e := by rw [tokenize, hc, hr]; rfl
        refine iff_of_true (by rw [hends, scan, hsc, hs]; rfl) ?_
        rintro ⟨ps, h, -⟩
        rw [hends] at h
        cases h
      · have hcomp : ∀ {n}, r₁.parameters.length = n → (Completes r (c :: t) ↔
            ∃ ps, tokenize r₁ t = .ok ps ∧ r.parameters.length < ps.length) := fun _ => by
          rw [Completes, tokenize_cons hc hr]
        rw [scan_step hsc hs, tokenize_cons hc hr, hcomp rfl]
        cases hmove with
        | keeps d hs' hr' ha hp hm =>
          rw [← hr']
          refine ih h₁ (by rw [hs', hr', hps]) ?_
          rw [ha, hp, List.length_append, List.length_append]
          omega
        | escapes hc' hs' hr' ha hp hm =>
          rw [← hr']
          refine ih h₁ (by rw [hs', hr', hps]) ?_
          rw [ha, hp, List.length_append]
          omega
        | finishes hs' hr' ha hp hm =>
          have hlen : s₁.parameters.length = r₁.parameters.length := by
            rw [hs', hr', hps, List.length_append, List.length_append]
            rfl
          have hne : s₁.parameters ≠ r₁.parameters := by
            rw [hs', hr', hps]
            intro heq
            have := List.append_cancel_left heq
            simp only [List.cons.injEq, and_true] at this
            rw [this] at hlt
            exact lt_irrefl _ hlt
          rw [scan_eq_iff_error h₁ hlen hne]
          -- what is complete now stays complete unless the line is refused
          constructor
          · rintro ⟨e, he⟩ ⟨ps, hps, -⟩
            rw [he] at hps
            cases hps
          · intro hnot
            cases hres : tokenize r₁ t with
            | error e => exact ⟨e, rfl⟩
            | ok ps =>
              refine absurd ⟨ps, hres, ?_⟩ hnot
              have hpre := (tokenize_parameters hres).length_le
              rw [hr', List.length_append, List.length_singleton] at hpre
              omega

/-- `Doubles`, for a text and a place to read it from. -/
def DoublesFrom (r : Lexer) (t : Text) : Prop :=
  ∃ pre post r' ps, t = pre ++ '\\' :: post ∧ readTo r pre = some r' ∧
    meaning r'.state r'.escaped '\\' = .escapes ∧ r'.out ≠ '\x00' ∧
      tokenize r t = .ok ps ∧ r'.parameters.length < ps.length

lemma readTo_parameters {pre : Text} (h : readTo r pre = some r₁) : r.parameters <+: r₁.parameters := by
  induction pre generalizing r with
  | nil =>
    cases h
    exact List.prefix_rfl
  | cons c t ih =>
    rw [readTo] at h
    split_ifs at h
    obtain ⟨r₂, h₂, h⟩ := Option.bind_eq_some_iff.1 h
    cases hn : r.next c with
    | error e =>
      rw [hn] at h₂
      cases h₂
    | ok r₃ =>
      rw [hn] at h₂
      cases h₂
      exact (next_parameters hn).trans (ih h)

/-- Over one character: it is such a backslash, or one follows. -/
lemma doublesFrom_cons (hc : r.comment c = false) (h : r.next c = .ok r₁) :
    DoublesFrom r (c :: t) ↔
      (c = '\\' ∧ meaning r.state r.escaped c = .escapes ∧ r.out ≠ '\x00' ∧
        Completes r (c :: t)) ∨ DoublesFrom r₁ t := by
  constructor
  · rintro ⟨pre, post, r', ps, ht, hr, hm, ho, hps, hlt⟩
    cases pre with
    | nil =>
      cases hr
      obtain ⟨rfl, rfl⟩ := List.cons.inj ht
      exact .inl ⟨rfl, hm, ho, ps, hps, hlt⟩
    | cons d pre =>
      obtain ⟨rfl, rfl⟩ := List.cons.inj ht
      rw [readTo_cons hc h] at hr
      rw [tokenize_cons hc h] at hps
      exact .inr ⟨pre, post, r', ps, rfl, hr, hm, ho, hps, hlt⟩
  · rintro (⟨rfl, hm, ho, ps, hps, hlt⟩ | ⟨pre, post, r', ps, rfl, hr, hm, ho, hps, hlt⟩)
    · exact ⟨[], t, r, ps, rfl, rfl, hm, ho, hps, hlt⟩
    · refine ⟨c :: pre, post, r', ps, rfl, ?_, hm, ho, ?_, hlt⟩
      · rw [readTo_cons hc h, hr]
      · rw [tokenize_cons hc h, hps]

lemma not_doublesFrom_comment (hc : r.comment c = true) : ¬ DoublesFrom r (c :: t) := by
  rintro ⟨pre, post, r', ps, ht, hr, -⟩
  cases pre with
  | nil =>
    obtain ⟨rfl, -⟩ := List.cons.inj ht
    simp [Lexer.comment] at hc
  | cons d pre =>
    obtain ⟨rfl, -⟩ := List.cons.inj ht
    rw [readTo, hc] at hr
    cases hr

/-- A doubled character that is not followed by the end of its parameter is followed by no other
that is. -/
lemma DoublesFrom.completes (h : DoublesFrom r t) : Completes r t := by
  obtain ⟨pre, post, r', ps, -, hr, -, -, hps, hlt⟩ := h
  exact ⟨ps, hps, (readTo_parameters hr).length_le.trans_lt hlt⟩

/-- **From the same place on**, the parameters are the same unless a character is doubled. -/
theorem scan_eq_iff_not_doubles (h : Same s r) (hps : s.parameters = r.parameters)
    (hp : s.currentarg = r.parameter) : scan s t = tokenize r t ↔ ¬ DoublesFrom r t := by
  induction t generalizing s r with
  | nil =>
    refine iff_of_true (by rw [scan, tokenize, hps]) ?_
    rintro ⟨pre, post, r', ps, ht, -⟩
    cases pre <;> cases ht
  | cons c t ih =>
    cases hc : r.comment c with
    | true =>
      refine iff_of_true ?_ (not_doublesFrom_comment hc)
      rw [scan, tokenize, h.comment, hc, hps]
      rfl
    | false =>
      have hsc : s.comment c = false := (h.comment c).trans hc
      rcases h.next c with ⟨e, hs, hr⟩ | ⟨s₁, r₁, hs, hr, h₁, hmove⟩
      · have hends : tokenize r (c :: t) = .error e := by rw [tokenize, hc, hr]; rfl
        refine iff_of_true (by rw [hends, scan, hsc, hs]; rfl) ?_
        rintro ⟨pre, post, r', ps, -, -, -, -, hps, -⟩
        rw [hends] at hps
        cases hps
      · rw [doublesFrom_cons hc hr, scan_step hsc hs, tokenize_cons hc hr]
        cases hmove with
        | keeps d hs' hr' ha hp' hm =>
          rw [ih h₁ (by rw [hs', hr', hps]) (by rw [ha, hp', hp])]
          exact not_congr ⟨.inr, fun hd => hd.resolve_left fun hd => hm hd.2.1⟩
        | finishes hs' hr' ha hp' hm =>
          rw [ih h₁ (by rw [hs', hr', hps, hp]) (by rw [ha, hp'])]
          exact not_congr ⟨.inr, fun hd => hd.resolve_left fun hd => hm hd.2.1⟩
        | escapes hc' hs' hr' ha hp' hm =>
          have hout : s.out = r.out := h.out (h.backslash.trans (meaning_escapes hm).2.1)
          by_cases ho : r.out = '\x00'
          · rw [ih h₁ (by rw [hs', hr', hps]) (by rw [ha, hp', hp, hout, ho]; simp [contribution])]
            exact not_congr ⟨.inr, fun hd => hd.resolve_left fun hd => hd.2.2.1 ho⟩
          · -- the character of the round before is stored once more
            have hlt : r₁.parameter.length < s₁.currentarg.length := by
              rw [ha, hp', hp, hout, contribution, if_neg ho, List.length_append]
              exact Nat.lt_succ_self _
            rw [scan_eq_iff_not_completes h₁ (by rw [hs', hr', hps]) hlt]
            refine not_congr ⟨fun hcomp => .inl ⟨hc', hm, ho, ?_⟩, ?_⟩
            · rw [Completes, tokenize_cons hc hr, ← hr']
              exact hcomp
            · rintro (⟨-, -, -, hcomp⟩ | hd)
              · rw [Completes, tokenize_cons hc hr, ← hr'] at hcomp
                exact hcomp
              · exact hd.completes

end Steps

lemma same_start : Same Scan.start Lexer.start :=
  ⟨rfl, rfl, fun _ => rfl, fun _ => rfl, fun _ => rfl⟩

lemma doublesFrom_line (line : Text) :
    DoublesFrom Lexer.start (line ++ ['\x00']) ↔ Doubles line := by
  constructor
  · rintro ⟨pre, post, r', ps, ht, h⟩
    rcases List.eq_nil_or_concat post with rfl | ⟨post', d, rfl⟩
    · have hlast := congrArg List.getLast? ht
      simp at hlast
    · rw [List.concat_eq_append, ← List.cons_append, ← List.append_assoc] at ht
      exact ⟨pre, post', r', ps, (List.append_inj' ht rfl).1, h⟩
  · rintro ⟨pre, post, r', ps, rfl, h⟩
    exact ⟨pre, post ++ ['\x00'], r', ps, by simp, h⟩

/-- **`parseline` conforms to OpenVPN's tokenizer** on a line, parameters and errors, exactly if
no escaping backslash of the line stands directly behind a character of a parameter that the line
completes. -/
theorem parseline_eq_tokens_iff (line : Text) : parseline line = tokens line ↔ ¬ Doubles line := by
  rw [parseline_eq, tokens, ← doublesFrom_line]
  exact scan_eq_iff_not_doubles same_start rfl rfl

/-- Every quote that is opened in the line is closed in it. -/
def QuotesClosed (line : Text) : Prop :=
  ∀ r, readTo .start line = some r →
    r.state ≠ .readingQuoted ∧ r.state ≠ .readinSingleQuote

/-- A file name with an escaped backslash: the colon before it is read twice. -/
def windowsPath : Text := "pkcs12 \"C:\\\\vpn.p12\"".toList

theorem windowsPath_doubles : ¬ ∀ line, QuotesClosed line → parseline line = tokens line := by
  intro h
  have hclosed : QuotesClosed windowsPath := by
    intro r hr
    have hread : readTo .start windowsPath = some ⟨["pkcs12".toList, "C:\\vpn.p12".toList],
        .initial, false, '\x00', []⟩ := by decide
    rw [hread] at hr
    cases hr
    decide
  have hline := h windowsPath hclosed
  revert hline
  decide

end BuludTechVPN.Tokenizer
