import BuludTechVPN.Lines
import BuludTechVPN.PieceReading

/-!
The kinds of lines and blocks a configuration is written with, and what each says when it is read.
-/

namespace BuludTechVPN.ParseConfig

open JavaLang LineParser VpnProfile

variable {fails : Prop} {k name rest l : Text} {args : List Text}

/-! ### Lines -/

lemma Says.line {ls : List (List Text)} (hl : IsLine l)
    (h : (∃ es, lineEntries .options l = .ok (.options, es) ∧ es.get k = ls) ∨
      fails ∧ ∃ e, lineEntries .options l = .error e) : Says fails k ls (l ++ ['\n']) where
  complete := complete_newline l
  reads := by
    rw [readLines_newline hl, entries]
    rcases h with ⟨es, he, hk⟩ | ⟨hf, e, he⟩
    · exact .inl ⟨es ++ [], by rw [he]; rfl, by rwa [List.append_nil]⟩
    · exact .inr ⟨hf, e, by rw [he]; rfl⟩

lemma says_blank : Says fails k [] ['\n'] :=
  Says.line (l := []) (by simp) (.inl ⟨[], by decide, rfl⟩)

/-- A comment, other than that of an access server. -/
lemma says_comment (hl : IsLine l) (hhead : l.head? = some '#')
    (ha : startsWith l accessServer = false) : Says fails k [] (l ++ ['\n']) := by
  refine Says.line hl (.inl ⟨[], ?_, rfl⟩)
  cases l with
  | nil => simp at hhead
  | cons c t =>
    obtain rfl : c = '#' := by simpa using hhead
    have hp : parseline ('#' :: t) = .ok [] := by
      rw [parseline_eq, List.cons_append, scan]
      simp [between, Scan.comment]
    rw [lineEntries, ha, hp]
    rfl

/-- The name of an option, as it is read. -/
structure IsName (name : Text) : Prop where
  word : IsWord name
  dashes : stripDashes name = name
  tag : startTag name = none

instance (name : Text) : Decidable (IsName name) :=
  decidable_of_iff (IsWord name ∧ stripDashes name = name ∧ startTag name = none)
    ⟨fun ⟨h1, h2, h3⟩ => ⟨h1, h2, h3⟩, fun ⟨h1, h2, h3⟩ => ⟨h1, h2, h3⟩⟩

lemma not_accessServer (hw : IsWord name) (t : Text) :
    startsWith (name ++ t) accessServer = false := by
  obtain ⟨-, c, hc, -, hhash, -⟩ := hw
  have hhead : (name ++ t).head? ≠ some '#' := by
    rw [List.head?_append, show name.head? = some c from hc]
    simpa using hhash
  rw [show accessServer = '#' :: " OVPN_ACCESS_SERVER_".toList by decide]
  exact startsWith_cons_eq_false hhead

lemma isLine_of_isWord (hw : IsWord name) : IsLine name := by
  constructor <;> intro h <;> exact absurd (hw.1 _ h) (by decide)

/-- A text in front of a blank is read as the name of an option. -/
structure Opens (w name : Text) : Prop where
  scan_eq : ∀ t, scan (between []) (w ++ ' ' :: t) = scan (between [name]) t
  isLine : IsLine w
  access : ∀ t, startsWith (w ++ t) accessServer = false
  dashes : stripDashes name = name
  tag : startTag name = none

lemma IsName.opens (h : IsName name) : Opens name name where
  scan_eq t := scan_word h.word (by decide) [] t
  isLine := isLine_of_isWord h.word
  access := not_accessServer h.word
  dashes := h.dashes
  tag := h.tag

lemma get_entry : Multimap.get [entry name args] k = if optionAlias name = k then [name :: args] else [] := by
  rw [Multimap.get_cons]
  rfl

variable {w : Text}

lemma Opens.isLine_append (h : Opens w name) (hr : IsLine rest) : IsLine (w ++ ' ' :: rest) := by
  rw [LineParser.isLine_append, isLine_cons]
  exact ⟨h.isLine, by decide, by decide, hr⟩

/-- The parameters of a line that begins with a name. -/
lemma Opens.lineEntries (h : Opens w name) {t : Text} (hp : parseline (w ++ t) = .ok (name :: args)) :
    lineEntries .options (w ++ t) = .ok (.options, [entry name args]) := by
  rw [ParseConfig.lineEntries, h.access, hp]
  show Except.ok (optionEntries (name :: args)) = _
  rw [optionEntries, h.dashes, h.tag]

/-- A name and parameters that are known. -/
lemma says_args (h : Opens w name) (hr : IsLine rest)
    (hs : scan (between [name]) (rest ++ ['\x00']) = .ok (name :: args)) :
    Says fails k (if optionAlias name = k then [name :: args] else [])
      (w ++ ' ' :: rest ++ ['\n']) := by
  have hp : parseline (w ++ ' ' :: rest) = .ok (name :: args) := by
    rw [parseline_eq, List.append_assoc, List.cons_append, h.scan_eq]
    exact hs
  exact Says.line (h.isLine_append hr) (.inl ⟨_, h.lineEntries hp, get_entry⟩)

/-- What may be read behind a name is read. -/
lemma says_paired (h : Opens w name) (hr : IsLine rest) (hp : paired rest) :
    ∃ args, Says fails k (if optionAlias name = k then [name :: args] else [])
      (w ++ ' ' :: rest ++ ['\n']) := by
  obtain ⟨args, hargs⟩ :=
    scan_paired (paired_append hp (by decide : paired ['\x00'])) (s := .start) rfl
  refine ⟨args, says_args h hr ?_⟩
  rw [scan_between, hargs]
  rfl

/-- **A name and what may be read behind it**: the line is about no other option. -/
lemma says_other (h : Opens w name) (hk : optionAlias name ≠ k) (hr : IsLine rest)
    (hp : fails ∨ paired rest) : Says fails k [] (w ++ ' ' :: rest ++ ['\n']) := by
  rcases hp with hf | hp
  · have hscan : parseline (w ++ ' ' :: rest) = (name :: ·) <$> scan .start (rest ++ ['\x00']) := by
      rw [parseline_eq, List.append_assoc, List.cons_append, h.scan_eq, scan_between]
      rfl
    cases hs : scan .start (rest ++ ['\x00']) with
    | ok args =>
      rw [hs] at hscan
      refine Says.line (h.isLine_append hr) (.inl ⟨_, h.lineEntries hscan, ?_⟩)
      rw [get_entry, if_neg hk]
    | error e =>
      rw [hs] at hscan
      refine Says.line (h.isLine_append hr) (.inr ⟨hf, e, ?_⟩)
      rw [ParseConfig.lineEntries, h.access, hscan]
      rfl
  · obtain ⟨args, hread⟩ : ∃ args, Says fails k _ _ := says_paired h hr hp
    rwa [if_neg hk] at hread

/-- A blank in front of a line. -/
lemma Says.indent {ls : List (List Text)} (hl : IsLine l) (ha : startsWith l accessServer = false)
    (h : Says fails k ls (l ++ ['\n'])) : Says fails k ls (' ' :: l ++ ['\n']) := by
  have hline : lineEntries .options (' ' :: l) = lineEntries .options l := by
    have hp : parseline (' ' :: l) = parseline l := by
      rw [parseline_eq, parseline_eq, List.cons_append, scan_blank (by decide)]
    have ha' : startsWith (' ' :: l) accessServer = false :=
      startsWith_cons_eq_false (c := '#') (t := accessServer.drop 1)
        (by rw [List.head?_cons]; decide)
    rw [lineEntries, lineEntries, ha, ha', hp]
  have hreads := h.reads
  rw [readLines_newline hl, entries, ← hline] at hreads
  refine ⟨complete_newline _, ?_⟩
  rwa [readLines_newline (isLine_cons.2 ⟨by decide, by decide, hl⟩), entries]

/-! ### Texts that are known -/

/-- The names of the options in a text, if it is read and ends as a piece does. -/
def namesIn (t : Text) : Option (List Text) :=
  match entries .options (readLines t) with
  | .ok (.options, es) => if t.getLast? = some '\n' then some (es.map Prod.fst) else none
  | _ => none

lemma says_closed {t : Text} {names : List Text} (h : namesIn t = some names) (hk : k ∉ names) :
    Says fails k [] t := by
  unfold namesIn at h
  split at h
  · next es he =>
    split_ifs at h with hlast
    cases h
    refine ⟨.inr hlast, .inl ⟨es, he, ?_⟩⟩
    rw [Multimap.get_eq_nil_iff]
    exact fun v hv => hk (List.mem_map.2 ⟨(k, v), hv, rfl⟩)
  · cases h

/-! ### Inline files -/

/-- The tag of an inline file is read as such, and so is its end. -/
structure IsTag (tag : Text) : Prop where
  word : IsWord ('<' :: tag ++ ['>'])
  start : startTag (stripDashes ('<' :: tag ++ ['>'])) = some tag
  trimmed : trim (endtag tag) = endtag tag

instance (tag : Text) : Decidable (IsTag tag) :=
  decidable_of_iff (IsWord ('<' :: tag ++ ['>']) ∧
      startTag (stripDashes ('<' :: tag ++ ['>'])) = some tag ∧ trim (endtag tag) = endtag tag)
    ⟨fun ⟨h1, h2, h3⟩ => ⟨h1, h2, h3⟩, fun ⟨h1, h2, h3⟩ => ⟨h1, h2, h3⟩⟩

/-- The lines of a text without carriage returns. -/
lemma readLines_splitOn {t : Text} (h : '\r' ∉ t) : readLines (t ++ ['\n']) = t.splitOn '\n' := by
  induction t using Lines.lines_induction with
  | last t hn => rw [readLines_newline ⟨hn, h⟩, List.splitOn_eq_singleton hn]
  | line l t hn ih =>
    simp only [List.mem_append, List.mem_cons, not_or] at h
    rw [List.append_assoc, List.cons_append, readLines_line ⟨hn, h.1⟩, ih h.2.2,
      List.splitOn_append_cons_self, List.splitOn_eq_singleton hn]
    rfl

lemma flatMap_splitOn (t : Text) : (t.splitOn '\n').flatMap (· ++ ['\n']) = t ++ ['\n'] := by
  induction t using Lines.lines_induction with
  | last t hn => simp [List.splitOn_eq_singleton hn]
  | line l t hn ih =>
    rw [List.splitOn_append_cons_self, List.splitOn_eq_singleton hn, List.singleton_append,
      List.flatMap_cons, ih]
    simp

/-- No line of the content ends the inline file. -/
def Encloses (tag content : Text) : Prop := ∀ l ∈ content.splitOn '\n', trim l ≠ endtag tag

lemma entries_inline {tag inlinefile : Text} {ls : List Text} (h : ∀ l ∈ ls, trim l ≠ endtag tag) :
    entries (.inlinefile tag inlinefile) ls =
      .ok (.inlinefile tag (inlinefile ++ ls.flatMap (· ++ ['\n'])), []) := by
  induction ls generalizing inlinefile with
  | nil => simp [entries]
  | cons l ls ih =>
    rw [List.forall_mem_cons] at h
    have hline : lineEntries (.inlinefile tag inlinefile) l =
        .ok (.inlinefile tag (inlinefile ++ l ++ ['\n']), []) := by
      rw [lineEntries, if_neg h.1]
    rw [entries, hline]
    show (entries _ ls >>= _) = _
    rw [ih h.2]
    simp [bind, Except.bind]

lemma closeInline_newline (t : Text) : closeInline (t ++ ['\n']) = t := by
  have h : endsWith (t ++ ['\n']) ['\n'] = true := by
    rw [endsWith, List.isSuffixOf_iff_suffix]
    exact List.suffix_append _ _
  rw [closeInline, h]
  simp

lemma isLine_tag {tag : Text} (h : IsTag tag) : IsLine tag := by
  have := isLine_of_isWord h.word
  rw [isLine_append, isLine_cons] at this
  exact this.1.2.2

lemma lineEntries_tag {tag : Text} (h : IsTag tag) :
    lineEntries .options ('<' :: tag ++ ['>']) = .ok (.inlinefile tag inlineTag, []) := by
  have ha := not_accessServer h.word []
  have hp : parseline ('<' :: tag ++ ['>']) = .ok ['<' :: tag ++ ['>']] := by
    rw [parseline_eq, scan_word h.word (by decide)]
    rfl
  rw [List.append_nil] at ha
  rw [lineEntries, ha, hp]
  show Except.ok (optionEntries _) = _
  rw [optionEntries, h.start]

lemma complete_inlineBlock (tag content : Text) : Complete (inlineBlock tag content) := by
  unfold inlineBlock
  exact complete_newline _

/-- **An inline file is read back**, if none of its lines ends it before. -/
theorem entries_inlineBlock {tag content : Text} (h : IsTag tag) (hc : Encloses tag content)
    (hr : '\r' ∉ content) : entries .options (readLines (inlineBlock tag content)) =
      .ok (.options, [entry tag [inlineTag ++ content]]) := by
  have hstart : IsLine ('<' :: tag ++ ['>']) := isLine_of_isWord h.word
  have hend : IsLine (endtag tag) := by
    rw [endtag, isLine_append, isLine_append]
    exact ⟨⟨by decide, isLine_tag h⟩, by decide⟩
  have htext : inlineBlock tag content =
      ('<' :: tag ++ ['>'] ++ ['\n']) ++ ((content ++ ['\n']) ++ (endtag tag ++ ['\n'])) := by
    simp [inlineBlock]
  have hlast : lineEntries (.inlinefile tag (inlineTag ++ (content ++ ['\n']))) (endtag tag) =
      .ok (.options, [entry tag [inlineTag ++ content]]) := by
    rw [lineEntries, if_pos h.trimmed, ← List.append_assoc, closeInline_newline]
  rw [htext, readLines_append (complete_newline _), readLines_newline hstart,
    readLines_append (complete_newline _), readLines_splitOn hr, readLines_newline hend,
    List.singleton_append, entries, lineEntries_tag h]
  show (entries (.inlinefile tag inlineTag) _ >>= _) = _
  rw [entries_append, entries_inline hc, flatMap_splitOn]
  show ((entries _ [endtag tag] >>= _) >>= _) = _
  rw [entries, hlast]
  rfl

lemma says_inlineBlock {tag content : Text} (h : IsTag tag) (hc : Encloses tag content)
    (hr : '\r' ∉ content) :
    Says fails k (if optionAlias tag = k then [[tag, inlineTag ++ content]] else [])
      (inlineBlock tag content) :=
  ⟨complete_inlineBlock tag content, .inl ⟨_, entries_inlineBlock h hc hr, get_entry⟩⟩

end BuludTechVPN.ParseConfig
