import BuludTechVPN.LineReading

/-!
Inline files: what `insertFileData` writes of an embedded file is read back, and what follows it
is read as if it stood alone.
-/

namespace BuludTechVPN.ParseConfig

open JavaLang LineParser VpnProfile

variable {name content first r : Text}

/-! ### Names in tags -/

/-- A name stands between the brackets of a tag if its characters stand for themselves in a word,
as letters, digits and dashes do. -/
lemma isTag_of_wordChar (h : ∀ c ∈ name, wordChar c) : IsTag name where
  word := by
    refine ⟨fun c hc => ?_, '<', rfl, by decide⟩
    simp only [List.cons_append, List.mem_cons, List.mem_append, List.not_mem_nil, or_false] at hc
    rcases hc with rfl | hc | rfl
    · decide
    · exact h c hc
    · decide
  start := by
    have hstrip : stripDashes ('<' :: name ++ ['>']) = '<' :: name ++ ['>'] := by
      have hdash : startsWith ('<' :: name ++ ['>']) "--".toList = false :=
        startsWith_cons_eq_false (c := '-') (t := ['-']) (by simp)
      rw [stripDashes, hdash]
      rfl
    have htrim : trim ('<' :: name ++ ['>']) = '<' :: name ++ ['>'] := by
      rw [trim, List.cons_append, List.dropWhile_cons_of_neg (by decide), ← List.cons_append,
        List.rdropWhile_concat_neg _ _ _ (by decide)]
    have hend : endsWith ('<' :: name ++ ['>']) ['>'] = true := by
      rw [endsWith, List.isSuffixOf_iff_suffix]
      exact List.suffix_append _ _
    rw [hstrip, startTag, htrim, hend]
    simp [startsWith]
  trimmed := by
    rw [trim, endtag, show "</".toList = ['<', '/'] from rfl, List.cons_append, List.cons_append,
      List.dropWhile_cons_of_neg (by decide), ← List.cons_append,
      List.rdropWhile_concat_neg _ _ _ (by decide)]

lemma wordChar_of_alphanum {c : Char} (h : c.isAlphanum = true ∨ c = '-') : wordChar c = true := by
  obtain h | rfl := h
  · delta Char.isAlphanum Char.isAlpha Char.isUpper Char.isLower Char.isDigit at h
    simp only [Bool.or_eq_true, Bool.and_eq_true, decide_eq_true_eq] at h
    have hr : ((65 ≤ c.toNat ∧ c.toNat ≤ 90) ∨ 97 ≤ c.toNat ∧ c.toNat ≤ 122) ∨
        48 ≤ c.toNat ∧ c.toNat ≤ 57 := h
    refine wordChar_of_printable ⟨by omega, by omega⟩ ?_
    rintro rfl
    exact absurd hr (by decide)
  · decide

/-! ### What follows an inline file -/

/-- A first line that adds no option. -/
def Harmless (line : Text) : Prop :=
  IsLine line ∧ isZip line = false ∧ lineEntries .options (stripMark line) = .ok (.options, [])

instance (line : Text) : Decidable (Harmless line) := inferInstanceAs (Decidable (_ ∧ _ ∧ _))

/-- What the lines of a text make of a new parser. -/
lemma lines_close_iff {ls : List Text} {es : Options} :
    (∃ p, (Reader.start.lines ls >>= Reader.close) = .ok p ∧ p.options = es) ↔
      entries .options ls = .ok (.options, es) := by
  have hadds := Reader.start.lines_adds ls
  rw [show Reader.start.mode = .options from rfl] at hadds
  cases hr : Reader.start.lines ls with
  | error e =>
    rw [hr] at hadds
    cases he : entries .options ls with
    | error e' => exact iff_of_false (fun ⟨p, hp, _⟩ => by cases hp) (by simp)
    | ok a =>
      rw [he] at hadds
      exact hadds.elim
  | ok r =>
    rw [hr] at hadds
    cases he : entries .options ls with
    | error e' =>
      rw [he] at hadds
      exact hadds.elim
    | ok a =>
      rw [he] at hadds
      obtain ⟨m, es'⟩ := a
      obtain ⟨hm, hes⟩ := hadds
      have hes : r.parser.options = es' := hes.trans (List.nil_append _)
      show (∃ p, r.close = .ok p ∧ p.options = es) ↔ _
      rw [Reader.close, hm]
      cases m with
      | options => simp [hes, Reader.start]
      | inlinefile argname inlinefile => simp

/-- A parse of one text succeeds with given options exactly if another does with others. -/
lemma entries_cons_line {line : Text} {ls : List Text} {es : Options}
    (h : lineEntries .options line = .ok (.options, [])) :
    entries .options (line :: ls) = .ok (.options, es) ↔ entries .options ls = .ok (.options, es) := by
  rw [entries, h]
  show (entries .options ls >>= _) = _ ↔ _
  cases entries .options ls with
  | error e => rfl
  | ok a => exact Iff.rfl

lemma parseConfig_behind_line (hf : Harmless first) {es : Options} :
    (∃ p, parseConfig (first ++ '\n' :: r) = .ok p ∧ p.options = es) ↔
      entries .options (readLines r) = .ok (.options, es) := by
  obtain ⟨hl, hz, he⟩ := hf
  rw [← entries_cons_line he, ← lines_close_iff, parseConfig, readLines_line hl]
  simp only [hz]
  rfl

/-- The options of a text behind an inline file: that of the file, and those of the text. -/
lemma parseConfig_behind_inline (hn : IsTag name) (hc : Encloses name content)
    (hr : '\r' ∉ content) {es : Options} :
    (∃ p, parseConfig (inlineBlock name content ++ r) = .ok p ∧ p.options = es) ↔
      ∃ es', entries .options (readLines r) = .ok (.options, es') ∧
        es = entry name [inlineTag ++ content] :: es' := by
  have hu : Unmarked (inlineBlock name content ++ r) := by
    constructor <;> simp [inlineBlock]
  rw [parseConfig_unmarked hu, lines_close_iff, readLines_append (complete_inlineBlock _ _),
    entries_append, entries_inlineBlock hn hc hr]
  show (entries .options (readLines r) >>= _) = _ ↔ _
  cases entries .options (readLines r) with
  | error e => simp [bind, Except.bind]
  | ok a =>
    obtain ⟨m, es'⟩ := a
    show Except.ok (m, _ ++ es') = _ ↔ _
    simp only [Except.ok.injEq, Prod.mk.injEq]
    constructor
    · rintro ⟨rfl, rfl⟩
      exact ⟨es', ⟨rfl, rfl⟩, rfl⟩
    · rintro ⟨_, ⟨rfl, rfl⟩, rfl⟩
      exact ⟨rfl, rfl⟩

lemma startsWith_append (t a : Text) : startsWith (t ++ a) t = true := by
  rw [startsWith, List.isPrefixOf_iff_prefix]
  exact List.prefix_append _ _

lemma find_tails (t a : Text) : (t ++ a).tails.find? (startsWith · t) = some (t ++ a) := by
  have h := startsWith_append t a
  cases hta : t ++ a with
  | nil =>
    rw [hta] at h
    simpa using h
  | cons c l =>
    rw [hta] at h
    simp [h]

lemma getEmbeddedContent_inline (content : Text) :
    getEmbeddedContent (inlineTag ++ content) = content := by
  rw [getEmbeddedContent, find_tails]
  exact List.drop_left

lemma insertFileData_inline (name content : Text) :
    insertFileData name (some (inlineTag ++ content)) = inlineBlock name content := by
  have h : isEmbedded (inlineTag ++ content) = true := by
    rw [isEmbedded, startsWith_append, Bool.true_or]
  rw [insertFileData, if_pos h, getEmbeddedContent_inline]

/-- **An inline file is read back and does not disturb what follows**: the configuration is
accepted exactly if what follows is accepted behind a harmless line, and the options are those of
what follows with the file in front. -/
theorem inline_file_round_trip (hn : ∀ c ∈ name, wordChar c) (ha : optionAlias name = name)
    (hc : Encloses name content) (hr : '\r' ∉ content) (hf : Harmless first) :
    ((∃ p, parseConfig (insertFileData name (some (inlineTag ++ content)) ++ r) = .ok p) ↔
      ∃ p, parseConfig (first ++ '\n' :: r) = .ok p) ∧
    ∀ p p', parseConfig (insertFileData name (some (inlineTag ++ content)) ++ r) = .ok p →
      parseConfig (first ++ '\n' :: r) = .ok p' → ∀ k, p.options.get k =
        (if k = name then [[name, inlineTag ++ content]] else []) ++ p'.options.get k := by
  have hwritten := fun es => @parseConfig_behind_inline name content r
    (isTag_of_wordChar hn) hc hr es
  have halone := fun es => @parseConfig_behind_line first r hf es
  rw [insertFileData_inline]
  refine ⟨⟨fun ⟨p, hp⟩ => ?_, fun ⟨p, hp⟩ => ?_⟩, fun p p' hp hp' k => ?_⟩
  · obtain ⟨es, hes, -⟩ := (hwritten p.options).mp ⟨p, hp, rfl⟩
    obtain ⟨p', hp', -⟩ := (halone es).mpr hes
    exact ⟨p', hp'⟩
  · have hes := (halone p.options).mp ⟨p, hp, rfl⟩
    obtain ⟨p', hp', -⟩ := (hwritten _).mpr ⟨_, hes, rfl⟩
    exact ⟨p', hp'⟩
  · obtain ⟨es, hes, hopt⟩ := (hwritten p.options).mp ⟨p, hp, rfl⟩
    have hes' := (halone p'.options).mp ⟨p', hp', rfl⟩
    rw [hes] at hes'
    obtain rfl : es = p'.options := by simpa using hes'
    rw [hopt, Multimap.get_cons]
    show (if optionAlias name = k then _ else _) = _
    rw [ha]
    by_cases hk : name = k
    · subst hk
      rw [if_pos rfl, if_pos rfl]
      rfl
    · rw [if_neg hk, if_neg (Ne.symm hk), List.nil_append]

/-- A file whose content has another tag and the marker in it, in front of an option. -/
theorem inline_file_round_trip_ca :
    (∃ p, parseConfig (insertFileData "ca".toList
      (some (inlineTag ++ "<key>\n[[INLINE]]\n".toList)) ++ "dev tun\n".toList) = .ok p) ↔
      ∃ p, parseConfig ([] ++ '\n' :: "dev tun\n".toList) = .ok p := by
  have hname : ∀ c ∈ "ca".toList, wordChar c := fun c hc => wordChar_of_alphanum (by
    revert c
    decide)
  exact (inline_file_round_trip hname (by decide) (by unfold Encloses; decide) (by decide)
    (by decide)).1

end BuludTechVPN.ParseConfig
