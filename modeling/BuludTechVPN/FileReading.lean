import BuludTechVPN.ConfigFile
import BuludTechVPN.LineReading

/-!
How the fields of a profile are written into a configuration file.

A field is written raw, escaped, or as the content of an inline file. If it fits that way of
writing, its line says nothing of any other option.
-/

namespace BuludTechVPN.FileReading

open JavaLang LineParser ParseConfig VpnProfile

variable {fails : Prop} {k : Text}

/-! ### Ways of writing -/

/-- A text that is written as it is, within a line. -/
def Raw (fails : Prop) (t : Text) : Prop := IsLine t ∧ (fails ∨ '\\' ∉ t)

/-- A text that is written between quotes. -/
def Quoted (fails : Prop) (t : Text) : Prop := '\r' ∉ t ∧ (fails ∨ '\n' ∉ t)

/-- What is stored for a file is embedded under the tag, or written as a name. -/
def FileFits (fails : Prop) (tag : Text) : Option Text → Prop
  | none => True
  | some data =>
    if isEmbedded data then Encloses tag (getEmbeddedContent data) ∧ '\r' ∉ getEmbeddedContent data
    else Quoted fails data

/-- A text that may stand behind the name of an option. -/
def Behind (fails : Prop) (t : Text) : Prop := IsLine t ∧ (fails ∨ paired t)

lemma Raw.behind {t : Text} (h : Raw fails t) : Behind fails t :=
  ⟨h.1, h.2.imp id paired_of_notMem⟩

lemma raw_known {t : Text} (h : IsLine t ∧ '\\' ∉ t) : Raw fails t := ⟨h.1, .inr h.2⟩

lemma Raw.append {t u : Text} (ht : Raw fails t) (hu : Raw fails u) : Raw fails (t ++ u) := by
  refine ⟨isLine_append.2 ⟨ht.1, hu.1⟩, ?_⟩
  rcases ht.2, hu.2 with ⟨hf | ht, hf | hu⟩
  · exact .inl hf
  · exact .inl hf
  · exact .inl hf
  · rw [List.mem_append, not_or]
    exact .inr ⟨ht, hu⟩

lemma Quoted.behind {t : Text} (h : Quoted fails t) : Behind fails (openVpnEscape t) :=
  ⟨isLine_escape h.1, h.2.imp id paired_escape⟩

lemma Behind.append {t u : Text} (ht : Behind fails t) (hu : Behind fails u) :
    Behind fails (t ++ u) := by
  refine ⟨isLine_append.2 ⟨ht.1, hu.1⟩, ?_⟩
  rcases ht.2 with h | h
  · exact .inl h
  · exact hu.2.imp id (paired_append h)

/-- What may stand behind a name, of a text that is known. -/
def Plain (t : Text) : Prop := IsLine t ∧ paired t

instance (t : Text) : Decidable (Plain t) := inferInstanceAs (Decidable (_ ∧ _))

lemma Plain.behind {t : Text} (h : Plain t) : Behind fails t := ⟨h.1, .inr h.2⟩

/-- The name a line begins with, and what is behind its blank. -/
def nameOf (line : Text) : Text := line.takeWhile (· ≠ ' ')
def behindName (line : Text) : Text := line.drop ((nameOf line).length + 1)

/-- The texts before and behind a field make a line with it, which is about one of the names. -/
structure Frames (names : List Text) (pre post : Text) : Prop where
  name : IsName (nameOf pre)
  mem : optionAlias (nameOf pre) ∈ names
  pre_eq : pre = nameOf pre ++ ' ' :: behindName pre
  plain_pre : Plain (behindName pre)
  post_eq : post = post.dropLast ++ ['\n']
  plain_post : Plain post.dropLast

instance (names : List Text) (pre post : Text) : Decidable (Frames names pre post) :=
  decidable_of_iff (IsName (nameOf pre) ∧ optionAlias (nameOf pre) ∈ names ∧
      pre = nameOf pre ++ ' ' :: behindName pre ∧ Plain (behindName pre) ∧
      post = post.dropLast ++ ['\n'] ∧ Plain post.dropLast)
    ⟨fun ⟨h1, h2, h3, h4, h5, h6⟩ => ⟨h1, h2, h3, h4, h5, h6⟩,
      fun ⟨h1, h2, h3, h4, h5, h6⟩ => ⟨h1, h2, h3, h4, h5, h6⟩⟩

lemma says_framed {names : List Text} {pre post field : Text} (h : Frames names pre post)
    (hk : k ∉ names) (hf : Behind fails field) :
    Says fails k [] (pre ++ field ++ post) := by
  have hpre : Behind fails (behindName pre) := h.plain_pre.behind
  have hrest := (hpre.append hf).append h.plain_post.behind
  have hsays := says_other h.name.opens (ne_of_mem_of_not_mem h.mem hk) hrest.1 hrest.2
  rw [h.pre_eq, h.post_eq]
  simpa using hsays

/-- A text that is known, about options of the names only. -/
def isAbout (names : List Text) (t : Text) : Bool := (namesIn t).any fun ns => ns.all (· ∈ names)

lemma says_known {names : List Text} {t : Text} (h : isAbout names t) (hk : k ∉ names) :
    Says fails k [] t := by
  unfold isAbout at h
  rw [Option.any_eq_true] at h
  obtain ⟨ns, hns, hall⟩ := h
  rw [List.all_eq_true] at hall
  exact says_closed hns fun hm => hk (of_decide_eq_true (hall k hm))

lemma says_insertFileData {tag : Text} {file : Option Text} (ht : IsTag tag) (hn : IsName tag)
    (hk : optionAlias tag ≠ k) (h : FileFits fails tag file) :
    Says fails k [] (insertFileData tag file) := by
  cases file with
  | none =>
    have : Says fails k [] (tag ++ ' ' :: "file missing in config profile".toList ++ ['\n']) :=
      says_other hn.opens hk (by decide) (.inr (by decide))
    rwa [List.append_assoc] at this
  | some data =>
    unfold FileFits at h
    unfold insertFileData
    dsimp only at h ⊢
    split_ifs at h ⊢ with he
    · have : Says fails k _ _ := says_inlineBlock ht h.1 h.2
      rwa [if_neg hk] at this
    · exact says_other hn.opens hk h.behind.1 h.behind.2

lemma mem_piece {b : Bool} {t u : Text} : u ∈ piece b t ↔ b = true ∧ u = t := by
  unfold piece
  split_ifs with h <;> simp [h]

/-! ### Pieces of a text -/

lemma mem_of_mem_splitOnP {q : Char → Bool} {s w : Text} (h : w ∈ s.splitOnP q) {c : Char}
    (hc : c ∈ w) : c ∈ s := by
  induction s generalizing w with
  | nil =>
    rw [List.splitOnP_nil, List.mem_singleton] at h
    exact h ▸ hc
  | cons d s ih =>
    rw [List.splitOnP_cons_eq_if_modifyHead] at h
    split_ifs at h
    · rcases List.mem_cons.1 h with rfl | h
      · cases hc
      · exact List.mem_cons_of_mem _ (ih h hc)
    · cases hs : s.splitOnP q with
      | nil => exact absurd hs (List.splitOnP_ne_nil _ _)
      | cons v vs =>
        rw [hs, List.modifyHead_cons] at h
        rcases List.mem_cons.1 h with rfl | h
        · rcases List.mem_cons.1 hc with rfl | hc
          · exact List.mem_cons_self
          · exact List.mem_cons_of_mem _ (ih (hs ▸ List.mem_cons_self) hc)
        · exact List.mem_cons_of_mem _ (ih (hs ▸ List.mem_cons_of_mem _ h) hc)

lemma mem_of_mem_splitAt {q : Char → Bool} {s w : Text} (h : w ∈ splitAt q s) {c : Char}
    (hc : c ∈ w) : c ∈ s := by
  unfold splitAt at h
  split_ifs at h
  · exact mem_of_mem_splitOnP ((List.rdropWhile_prefix _ _).subset h) hc
  · rw [List.mem_singleton] at h
    exact h ▸ hc

lemma notMem_of_mem_splitOnP {q : Char → Bool} {s w : Text} (h : w ∈ s.splitOnP q) :
    ∀ c ∈ w, q c = false := by
  induction s generalizing w with
  | nil =>
    rw [List.splitOnP_nil, List.mem_singleton] at h
    simp [h]
  | cons d s ih =>
    rw [List.splitOnP_cons_eq_if_modifyHead] at h
    split_ifs at h with hd
    · rcases List.mem_cons.1 h with rfl | h
      · simp
      · exact ih h
    · cases hs : s.splitOnP q with
      | nil => exact absurd hs (List.splitOnP_ne_nil _ _)
      | cons v vs =>
        rw [hs, List.modifyHead_cons] at h
        rcases List.mem_cons.1 h with rfl | h
        · exact List.forall_mem_cons.2 ⟨by simpa using hd, ih (hs ▸ List.mem_cons_self)⟩
        · exact ih (hs ▸ List.mem_cons_of_mem _ h)

lemma notMem_of_mem_splitAt {q : Char → Bool} {s w : Text} (h : w ∈ splitAt q s) :
    ∀ c ∈ w, q c = false := by
  unfold splitAt at h
  split_ifs at h with hany
  · exact notMem_of_mem_splitOnP ((List.rdropWhile_prefix _ _).subset h)
  · rw [List.mem_singleton] at h
    rw [h]
    simpa using hany

/-- A text that is split at its blanks before it is written. -/
def Spaced (fails : Prop) (t : Text) : Prop := '\r' ∉ t ∧ (fails ∨ '\\' ∉ t)

lemma Raw.spaced {t : Text} (h : Raw fails t) : Spaced fails t := ⟨h.1.2, h.2⟩

lemma Spaced.append {t u : Text} (ht : Spaced fails t) (hu : Spaced fails u) :
    Spaced fails (t ++ u) := by
  refine ⟨?_, ?_⟩
  · rw [List.mem_append, not_or]
    exact ⟨ht.1, hu.1⟩
  · rcases ht.2, hu.2 with ⟨hf | ht, hf | hu⟩
    · exact .inl hf
    · exact .inl hf
    · exact .inl hf
    · rw [List.mem_append, not_or]
      exact .inr ⟨ht, hu⟩

lemma Spaced.words {t : Text} (h : Spaced fails t) : ∀ w ∈ words t, Raw fails w := by
  intro w hw
  have hmem := (List.mem_filter.1 hw).1
  have hsub : ∀ c ∈ w, c ∈ t := fun c => mem_of_mem_splitAt hmem
  refine ⟨⟨fun hn => ?_, fun hr => h.1 (hsub _ hr)⟩, h.2.imp id fun hb hm => hb (hsub _ hm)⟩
  exact absurd (notMem_of_mem_splitAt hmem _ hn) (by decide)

lemma raw_of_mem {t u : Text} (h : Raw fails u) (ht : ∀ c ∈ t, c ∈ u) : Raw fails t :=
  ⟨⟨fun hm => h.1.1 (ht _ hm), fun hm => h.1.2 (ht _ hm)⟩, h.2.imp id fun hb hm => hb (ht _ hm)⟩

lemma plain_of_numeric {t : Text} (h : ∀ c ∈ t, Numeric c) : Plain t := by
  have hne : ∀ c : Char, (c = '\n' ∨ c = '\r' ∨ c = '\\') → c ∉ t := by
    rintro c hc hm
    have := h c hm
    rcases hc with rfl | rfl | rfl <;> rcases this with h | h | h <;> exact absurd h (by decide)
  exact ⟨⟨hne _ (.inl rfl), hne _ (.inr (.inl rfl))⟩, paired_of_notMem (hne _ (.inr (.inr rfl)))⟩

lemma plain_showInt (n : ℤ) : Plain (showInt n) := plain_of_numeric fun _ => numeric_of_mem_showInt

lemma raw_showInt (n : ℤ) : Raw fails (showInt n) := by
  refine raw_known ⟨(plain_showInt n).1, fun h => ?_⟩
  rcases numeric_of_mem_showInt h with h | h | h <;> exact absurd h (by decide)

lemma numeric_of_mem_dotted {n : ℤ} : ∀ c ∈ Cidr.dotted n, Numeric c := by
  intro c hc
  simp only [Cidr.dotted, List.mem_append, List.mem_cons] at hc
  rcases hc with ((hc | rfl | hc) | rfl | hc) | rfl | hc
  all_goals first
    | exact numeric_of_mem_showInt hc
    | exact .inr (.inl rfl)

lemma plain_dotted (n : ℤ) : Plain (Cidr.dotted n) := plain_of_numeric numeric_of_mem_dotted

/-- The network that is written for a route, and its netmask. -/
lemma cidrToIPAndNetmask_eq_some {route t : Text} (h : cidrToIPAndNetmask route = some t) :
    ∃ ip n, t = ip ++ "  ".toList ++ Cidr.dotted n ∧ ∀ c ∈ ip, c ∈ route ++ "/32".toList := by
  unfold cidrToIPAndNetmask at h
  dsimp only at h
  split at h
  · next ip len hparts =>
    split at h
    · next n hn =>
      split_ifs at h
      cases h
      refine ⟨ip, _, rfl, fun c hc => ?_⟩
      split_ifs at hparts
      · exact mem_of_mem_splitAt (hparts ▸ List.mem_cons_self) hc
      · exact List.mem_append_left _ (mem_of_mem_splitAt (hparts ▸ List.mem_cons_self) hc)
    · cases h
  · cases h

lemma behind_cidr {a t : Text} (h : Raw fails a) (ht : cidrToIPAndNetmask a = some t) :
    Behind fails t := by
  obtain ⟨ip, n, rfl, hip⟩ := cidrToIPAndNetmask_eq_some ht
  have hslash : Raw fails (a ++ "/32".toList) :=
    ⟨isLine_append.2 ⟨h.1, by decide⟩, h.2.imp id fun hb hm =>
      (List.mem_append.1 hm).elim hb (by decide)⟩
  exact ((raw_of_mem hslash hip).behind.append (Plain.behind (by decide))).append
    (plain_dotted n).behind

end BuludTechVPN.FileReading
