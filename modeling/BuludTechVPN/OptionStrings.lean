import BuludTechVPN.FileReading

/-!
What the option lines that `getOptionStrings` writes back say when they are read.
-/

namespace BuludTechVPN.FileReading

open JavaLang LineParser ParseConfig VpnProfile ConvertProfile

variable {fails : Prop} {k name : Text} {args line : List Text} {lines : List (List Text)}

/-! ### Lines -/

/-- The name of an option is read back from the line that is written for it. -/
structure NameFits (name : Text) : Prop where
  survives : Survives name
  noReturn : '\r' ∉ name
  dashes : stripDashes name = name
  tag : startTag name = none

instance (name : Text) : Decidable (NameFits name) :=
  decidable_of_iff (Survives name ∧ '\r' ∉ name ∧ stripDashes name = name ∧ startTag name = none)
    ⟨fun ⟨h1, h2, h3, h4⟩ => ⟨h1, h2, h3, h4⟩, fun ⟨h1, h2, h3, h4⟩ => ⟨h1, h2, h3, h4⟩⟩

lemma NameFits.opens (h : NameFits name) : Opens (openVpnEscape name) name where
  scan_eq t := scan_escape h.survives (by decide) [] t
  isLine := isLine_escape h.noReturn
  access t := by
    by_cases hb : Bare name
    · have hw : IsWord name := by
        have := h.survives
        rwa [Survives, if_pos hb] at this
      rw [openVpnEscape_bare hb]
      exact not_accessServer hw t
    · rw [openVpnEscape_quoted hb]
      exact startsWith_cons_eq_false (c := '#') (t := accessServer.drop 1) (by simp)
  dashes := h.dashes
  tag := h.tag

/-- The options whose inline file is written back as such. -/
def fileNames : List Text := ["extra-certs".toList, "http-proxy-user-pass".toList]

/-- The line can be written back. -/
inductive LineFits (fails : Prop) : List Text → Prop
  | ignored {line : List Text} (h : ignoreThisOption line = true) : LineFits fails line
  | file {name file : Text} (hn : name ∈ fileNames) (h : FileFits fails name (some file)) :
      LineFits fails [name, file]
  | words {name : Text} {args : List Text} (hfile : name ∈ fileNames → args.length ≠ 1)
      (hn : NameFits name) (h : ∀ a ∈ args, Quoted fails a) : LineFits fails (name :: args)

/-- The words of a line, each with a blank behind it. -/
def wordsLine (line : List Text) : Text := line.flatMap fun arg => openVpnEscape arg ++ [' ']

lemma wordsLine_cons (name : Text) (args : List Text) :
    wordsLine (name :: args) = openVpnEscape name ++ ' ' :: wordsLine args := by
  simp [wordsLine]

lemma optionString_ignored (h : ignoreThisOption line = true) : optionString line = [] :=
  if_pos h

lemma optionString_file {file : Text} (h : ignoreThisOption [name, file] = false)
    (hn : name ∈ fileNames) : optionString [name, file] = insertFileData name (some file) := by
  rw [optionString, h]
  exact if_pos (by simpa [fileNames] using hn)

lemma optionString_words (h : ignoreThisOption (name :: args) = false)
    (hfile : name ∈ fileNames → args.length ≠ 1) :
    optionString (name :: args) = wordsLine (name :: args) ++ ['\n'] := by
  unfold optionString
  rw [h, if_neg (by decide)]
  split
  · next n file heq =>
    obtain ⟨rfl, rfl⟩ := List.cons.inj heq
    exact if_neg fun hn => hfile (by simpa [fileNames] using hn) rfl
  · rfl

lemma behind_wordsLine (h : ∀ a ∈ args, Quoted fails a) : Behind fails (wordsLine args) := by
  induction args with
  | nil => exact Plain.behind (by decide)
  | cons a args ih =>
    rw [List.forall_mem_cons] at h
    exact (h.1.behind.append (Plain.behind (by decide))).append (ih h.2)

lemma says_fileLine {file : Text} (hn : name ∈ fileNames) (hk : optionAlias name ≠ k)
    (h : FileFits fails name (some file)) :
    Says fails k [] (insertFileData name (some file)) := by
  simp only [fileNames, List.mem_cons, List.not_mem_nil, or_false] at hn
  rcases hn with hn | hn
  · rw [hn] at hk h ⊢
    exact says_insertFileData (by decide) (by decide) hk h
  · rw [hn] at hk h ⊢
    exact says_insertFileData (by decide) (by decide) hk h

/-- **A line that can be written back** says nothing of another option. -/
theorem says_optionString (h : LineFits fails line)
    (hk : ∀ name ∈ line.head?, optionAlias name ≠ k) : Says fails k [] (optionString line) := by
  cases hi : ignoreThisOption line with
  | true =>
    rw [optionString_ignored hi]
    exact .nil
  | false =>
    cases h with
    | ignored h => exact absurd (h.symm.trans hi) (by decide)
    | file hn h =>
      rw [optionString_file hi hn]
      exact says_fileLine hn (hk _ rfl) h
    | words hfile hn h =>
      have hb := behind_wordsLine h
      rw [optionString_words hi hfile, wordsLine_cons]
      exact says_other hn.opens (hk _ rfl) hb.1 hb.2

lemma says_getOptionStrings (h : ∀ l ∈ lines, LineFits fails l)
    (hk : ∀ l ∈ lines, ∀ name ∈ l.head?, optionAlias name ≠ k) :
    Says fails k [] (getOptionStrings lines) := by
  exact Says.flatMap fun l hl => says_optionString (h l hl) (hk l hl)

/-- What is left of the options is written back so. -/
lemma says_values {order : KeyOrder Text} {o : Options}
    (h : ∀ e ∈ o, LineFits fails e.2 ∧ ∀ name ∈ e.2.head?, optionAlias name ≠ k) :
    Says fails k [] ((o.values order).flatMap getOptionStrings) := by
  refine Says.flatMap fun lines hl => ?_
  obtain ⟨-, name, rfl⟩ := Multimap.mem_values.1 hl
  exact says_getOptionStrings (fun l hl => (h _ (Multimap.mem_get.1 hl)).1)
    fun l hl => (h _ (Multimap.mem_get.1 hl)).2

end BuludTechVPN.FileReading
