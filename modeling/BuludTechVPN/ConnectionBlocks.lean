import BuludTechVPN.FileSections
import BuludTechVPN.OptionStrings

/-!
When the block of a connection is read back as one inline file.

No line that is written inside of it may be its end tag.
-/

namespace BuludTechVPN.FileReading

open JavaLang LineParser ParseConfig VpnProfile ConvertProfile

variable {fails : Prop} {k tag t u l rest name : Text} {args : List Text}

/-! ### Inside of an inline file -/

/-- A text of whole lines none of which ends the inline file of the tag. -/
structure Inside (tag t : Text) : Prop where
  complete : Complete t
  noReturn : '\r' ∉ t
  lines : ∀ l ∈ readLines t, trim l ≠ endtag tag

lemma Inside.nil : Inside tag [] := ⟨complete_nil, by simp, by simp [readLines]⟩

lemma Inside.append (ht : Inside tag t) (hu : Inside tag u) : Inside tag (t ++ u) where
  complete := ht.complete.append hu.complete
  noReturn := by
    rw [List.mem_append]
    exact not_or.2 ⟨ht.noReturn, hu.noReturn⟩
  lines := by
    rw [readLines_append ht.complete]
    exact List.forall_mem_append.2 ⟨ht.lines, hu.lines⟩

lemma Inside.flatMap {α : Type} {as : List α} {f : α → Text} (h : ∀ a ∈ as, Inside tag (f a)) :
    Inside tag (as.flatMap f) := by
  induction as with
  | nil => exact .nil
  | cons a as ih =>
    rw [List.forall_mem_cons] at h
    exact h.1.append (ih h.2)

lemma Inside.line (hl : IsLine l) (h : trim l ≠ endtag tag) : Inside tag (l ++ ['\n']) where
  complete := complete_newline l
  noReturn := by
    rw [List.mem_append, not_or]
    exact ⟨hl.2, by decide⟩
  lines := by
    rw [readLines_newline hl]
    simpa using h

/-- The text is the content of the inline file. -/
lemma Inside.encloses (h : Inside tag (t ++ ['\n'])) : Encloses tag t ∧ '\r' ∉ t := by
  have hr : '\r' ∉ t := fun hm => h.noReturn (List.mem_append_left _ hm)
  refine ⟨fun l hl => h.lines l ?_, hr⟩
  rwa [readLines_splitOn hr]

/-- A content whose lines do not end the inline file. -/
lemma Inside.of_encloses (h : Encloses tag t) (hr : '\r' ∉ t) : Inside tag (t ++ ['\n']) where
  complete := complete_newline t
  noReturn := by
    rw [List.mem_append, not_or]
    exact ⟨hr, by decide⟩
  lines := by
    rw [readLines_splitOn hr]
    exact h

/-- The first character that is seen stays in front when a text is trimmed. -/
lemma head?_trim {c : Char} {ws : Text} (hws : ∀ d ∈ ws, d ≤ ' ') (hc : ¬ c ≤ ' ') :
    (trim (ws ++ c :: rest)).head? = some c := by
  have hdrop : (ws ++ c :: rest).dropWhile (· ≤ ' ') = c :: rest := by
    rw [List.dropWhile_append_of_pos (by simpa using hws)]
    simp [hc]
  have hpre : (trim (ws ++ c :: rest)) <+: c :: rest := by
    rw [trim, hdrop]
    exact List.rdropWhile_prefix _ _
  have hne : trim (ws ++ c :: rest) ≠ [] := by
    rw [trim, hdrop, ne_eq, List.rdropWhile_eq_nil_iff]
    exact fun h => hc (by simpa using h c List.mem_cons_self)
  obtain ⟨d, v, hv⟩ := List.exists_cons_of_ne_nil hne
  rw [hv] at hpre ⊢
  rw [(List.cons_prefix_cons.1 hpre).1]
  rfl

/-- A line that does not begin with a bracket ends no inline file. -/
lemma Inside.of_head {c : Char} {ws : Text} (hl : IsLine (ws ++ c :: rest))
    (hws : ∀ d ∈ ws, d ≤ ' ') (hc : ¬ c ≤ ' ') (hne : c ≠ '<') :
    Inside tag (ws ++ c :: rest ++ ['\n']) := by
  refine .line hl fun heq => ?_
  have hhead : (trim (ws ++ c :: rest)).head? = some c := head?_trim hws hc
  rw [heq] at hhead
  exact hne (Option.some.inj hhead).symm

/-! ### Lines of a block -/

lemma rdropWhile_append {p : Char → Bool} (s t : Text) : (s ++ t).rdropWhile p =
    if (t.rdropWhile p).isEmpty then s.rdropWhile p else s ++ t.rdropWhile p := by
  simp only [List.rdropWhile, List.reverse_append, List.dropWhile_append, List.isEmpty_reverse]
  split_ifs
  · rfl
  · rw [List.reverse_append, List.reverse_reverse]

/-- A line that is trimmed to a text without blanks is trimmed to its first word, if that word
can be seen. -/
lemma trim_word (hv : ∃ c ∈ name, ¬ c ≤ ' ') (hn : ' ' ∉ trim (name ++ ' ' :: rest)) :
    trim (name ++ ' ' :: rest) = trim name := by
  have hname : (name.dropWhile (· ≤ ' ')).isEmpty = false := by
    obtain ⟨c, hc, hvc⟩ := hv
    rw [List.isEmpty_eq_false_iff, ne_eq, List.dropWhile_eq_nil_iff]
    exact fun h => hvc (by simpa using h c hc)
  unfold trim at hn ⊢
  rw [List.dropWhile_append, hname, if_neg (by decide), rdropWhile_append] at hn ⊢
  split_ifs at hn ⊢ with he
  · rfl
  · -- something of the rest can be seen, and the blank in front of it stays
    rw [← List.singleton_append (l := rest), rdropWhile_append] at hn he
    split_ifs at hn he with hr
    · exact absurd rfl he
    · simp at hn

/-- A name that is no tag does not begin a line that ends an inline file. -/
lemma Inside.of_name (hl : IsLine (name ++ ' ' :: rest))
    (hv : ∃ c ∈ name, ¬ c ≤ ' ') (ht : startTag name = none) (hb : ' ' ∉ endtag tag) :
    Inside tag (name ++ ' ' :: rest ++ ['\n']) := by
  refine .line hl fun heq => ?_
  have hname := trim_word hv (heq ▸ hb)
  rw [heq] at hname
  unfold startTag at ht
  have hstart : startsWith (endtag tag) ['<'] = true := by simp [endtag, startsWith]
  have hend : endsWith (endtag tag) ['>'] = true := by
    rw [endsWith, List.isSuffixOf_iff_suffix]
    exact List.suffix_append _ _
  dsimp only at ht
  rw [← hname, hstart, hend] at ht
  simp at ht

/-- The line may be written into the block of a connection. -/
structure LineFitsBlock (fails : Prop) (line : List Text) : Prop where
  fits : LineFits fails line
  visible : ∀ name ∈ line.head?, ∃ c ∈ name, ¬ c ≤ ' '
  file : ∀ name file, line = [name, file] → name ∈ fileNames →
    FileFits fails "connection".toList (some file)

lemma inside_inlineBlock {content : Text} (hs : IsLine ('<' :: name ++ ['>']))
    (hstart : trim ('<' :: name ++ ['>']) ≠ endtag tag) (he : IsLine (endtag name))
    (hend : trim (endtag name) ≠ endtag tag) (hc : Encloses tag content) (hr : '\r' ∉ content) :
    Inside tag (inlineBlock name content) := by
  have htext : inlineBlock name content =
      ('<' :: name ++ ['>'] ++ ['\n']) ++ ((content ++ ['\n']) ++ (endtag name ++ ['\n'])) := by
    simp [inlineBlock]
  rw [htext]
  exact (Inside.line hs hstart).append ((Inside.of_encloses hc hr).append (.line he hend))

lemma inside_insertFileData {file : Text} (hn : name ∈ fileNames)
    (hq : isEmbedded file = false → '\r' ∉ file)
    (h : FileFits fails "connection".toList (some file)) :
    Inside "connection".toList (insertFileData name (some file)) := by
  have hline : ∀ name ∈ fileNames, IsLine ('<' :: name ++ ['>']) ∧ IsLine (endtag name) ∧
      IsName name ∧ ∃ c ∈ name, ¬ c ≤ ' ' := by decide
  have htrim : ∀ name ∈ fileNames,
      trim ('<' :: name ++ ['>']) ≠ endtag "connection".toList ∧
        trim (endtag name) ≠ endtag "connection".toList := by decide
  obtain ⟨hs, he, hname, hv⟩ := hline name hn
  obtain ⟨hstart, hend⟩ := htrim name hn
  unfold FileFits at h
  unfold insertFileData
  dsimp only at h ⊢
  split_ifs at h ⊢ with hemb
  · exact inside_inlineBlock hs hstart he hend h.1 h.2
  · have hf : IsLine (openVpnEscape file) := isLine_escape (hq (by simpa using hemb))
    exact .of_name (hname.opens.isLine_append hf) hv hname.tag (by decide)

/-- **An option line does not end the block** it is written into. -/
theorem inside_optionString {line : List Text} (h : LineFitsBlock fails line) :
    Inside "connection".toList (optionString line) := by
  cases hi : ignoreThisOption line with
  | true =>
    rw [optionString_ignored hi]
    exact .nil
  | false =>
    cases h.fits with
    | ignored h => exact absurd (h.symm.trans hi) (by decide)
    | @file name file hn hf =>
      rw [optionString_file hi hn]
      refine inside_insertFileData hn (fun he => ?_) (h.file _ _ rfl hn)
      rw [FileFits, he] at hf
      exact hf.1
    | @words name args hfile hn ha =>
      have hl := hn.opens.isLine_append (behind_wordsLine ha).1
      rw [optionString_words hi hfile, wordsLine_cons]
      by_cases hb : Bare name
      · rw [openVpnEscape_bare hb] at hl ⊢
        exact .of_name hl (h.visible _ rfl) hn.tag (by decide)
      · rw [openVpnEscape_quoted hb] at hl ⊢
        exact @Inside.of_head _ _ '"' [] hl (by simp) (by decide) (by decide)

/-! ### Blocks -/

/-- The connection can be written into a block. -/
structure ConnectionFits (fails : Prop) (c : Connection) : Prop where
  mServerName : Raw fails c.mServerName
  mServerPort : Raw fails c.mServerPort
  customLines : Inside "connection".toList c.customLines

lemma inside_remoteLine {c : Connection} (h : Raw fails c.mServerName ∧ Raw fails c.mServerPort) :
    Inside "connection".toList c.remoteLine := by
  have hname : IsName "remote".toList := by decide
  rw [remoteLine_eq]
  exact .of_name (hname.opens.isLine_append (behind_remote h).1) (by decide) hname.tag (by decide)

lemma inside_timeoutLine (c : Connection) : Inside "connection".toList c.timeoutLine := by
  unfold Connection.timeoutLine
  split_ifs
  · exact .nil
  · have hl : IsLine (" connect-timeout  ".toList ++ showInt c.mConnectTimeout) :=
      isLine_append.2 ⟨by decide, (plain_showInt _).1⟩
    exact @Inside.of_head _ ("onnect-timeout  ".toList ++ showInt c.mConnectTimeout) 'c' [' '] hl
      (by decide) (by decide) (by decide)

/-- The block of a connection that fits is read back whole. -/
lemma ConnectionFits.block {c : Connection} (h : ConnectionFits fails c) : ∃ t,
    c.getConnectionBlock = t ++ ['\n'] ∧ Encloses "connection".toList t ∧ '\r' ∉ t := by
  obtain ⟨t, ht⟩ := complete_connectionBlock h.customLines.complete
  have hblock : Inside "connection".toList c.getConnectionBlock :=
    ((inside_remoteLine ⟨h.mServerName, h.mServerPort⟩).append (inside_timeoutLine c)).append
      h.customLines
  rw [ht] at hblock
  exact ⟨t, ht, hblock.encloses⟩

end BuludTechVPN.FileReading
