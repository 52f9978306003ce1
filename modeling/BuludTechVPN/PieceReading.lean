import BuludTechVPN.WordScan

/-!
Reading a configuration piece by piece.

A piece is a text of whole lines after which the reader expects an option again. What a piece
adds to the options does not depend on what was read before, so a text is read as its pieces
are.
-/

namespace BuludTechVPN.ParseConfig

open JavaLang LineParser

/-! ### Whole lines -/

/-- The text ends with a line feed, unless it is empty. -/
def Complete (t : Text) : Prop := t = [] ∨ t.getLast? = some '\n'

lemma complete_nil : Complete [] := .inl rfl

lemma complete_newline (t : Text) : Complete (t ++ ['\n']) := .inr (by simp)

lemma Complete.append {t u : Text} (ht : Complete t) (hu : Complete u) : Complete (t ++ u) := by
  obtain rfl | hu := hu
  · rwa [List.append_nil]
  · exact .inr (by rw [List.getLast?_append, hu]; rfl)

lemma Complete.tail {c : Char} {t : Text} (h : Complete (c :: t)) : Complete t := by
  cases t with
  | nil => exact .inl rfl
  | cons d t => exact .inr (by simpa [Complete] using h)

lemma readLines_eq_nil {t : Text} : readLines t = [] ↔ t = [] := by
  refine ⟨fun h => ?_, fun h => by rw [h]; rfl⟩
  induction t using readLines.induct with
  | case1 => rfl
  | case2 s => simp [readLines] at h
  | case3 s hs => simp [readLines.eq_3 _ hs] at h
  | case4 s => simp [readLines] at h
  | case5 c s _ h2 h1 hs => simp [readLines_cons h1 h2, hs] at h
  | case6 c s _ h2 h1 l ls hs => simp [readLines_cons h1 h2, hs] at h

lemma readLines_append {t : Text} (h : Complete t) (u : Text) :
    readLines (t ++ u) = readLines t ++ readLines u := by
  induction t using readLines.induct with
  | case1 => rfl
  | case2 s ih =>
    rw [List.cons_append, List.cons_append, readLines, readLines, ih h.tail.tail,
      List.cons_append]
  | case3 s hs ih =>
    have hsu : ∀ v, s ++ u = '\n' :: v → False := by
      intro v hv
      cases s with
      | nil => simp [Complete] at h
      | cons c s => exact hs s (by rw [(List.cons.inj hv).1])
    rw [List.cons_append, readLines.eq_3 _ hsu, readLines.eq_3 _ hs, ih h.tail, List.cons_append]
  | case4 s ih => rw [List.cons_append, readLines, readLines, ih h.tail, List.cons_append]
  | case5 c s hs h2 h1 hs' ih =>
    obtain rfl := readLines_eq_nil.1 hs'
    exact absurd (by simpa [Complete] using h) h1
  | case6 c s hs h2 h1 l ls hs' ih =>
    rw [List.cons_append, readLines_cons h1 h2, readLines_cons h1 h2, ih h.tail, hs']
    rfl

lemma readLines_newline {l : Text} (h : IsLine l) : readLines (l ++ ['\n']) = [l] := by
  rw [readLines_line h]
  rfl

/-! ### What lines add -/

/-- The entry of an option line. -/
def entry (arg0 : Text) (args : List Text) : Text × List Text := (optionAlias arg0, arg0 :: args)

/-- What the parameters of a line do: the mode behind the line, and what it adds. -/
def optionEntries : List Text → Mode × Options
  | [] => (.options, [])
  | arg0 :: args =>
    match startTag (stripDashes arg0) with
    | some argname => (.inlinefile argname inlineTag, [])
    | none => (.options, [entry (stripDashes arg0) args])

/-- What a line does, without what was read before. -/
def lineEntries (mode : Mode) (line : Text) : Call (Mode × Options) :=
  match mode with
  | .options =>
    if startsWith line accessServer then .ok (.options, [])
    else optionEntries <$> parseline line
  | .inlinefile argname inlinefile =>
    if trim line = endtag argname then
      .ok (.options, [entry argname [closeInline inlinefile]])
    else .ok (.inlinefile argname (inlinefile ++ line ++ ['\n']), [])

/-- What lines do, from a mode on. -/
def entries : Mode → List Text → Call (Mode × Options)
  | m, [] => .ok (m, [])
  | m, l :: ls =>
    lineEntries m l >>= fun a => entries a.1 ls >>= fun b => .ok (b.1, a.2 ++ b.2)

lemma entries_append (m : Mode) (ls ls' : List Text) : entries m (ls ++ ls') =
    entries m ls >>= fun a => entries a.1 ls' >>= fun b => .ok (b.1, a.2 ++ b.2) := by
  induction ls generalizing m with
  | nil =>
    show entries m ls' = (entries m ls' >>= fun b => .ok (b.1, [] ++ b.2))
    cases entries m ls' <;> rfl
  | cons l ls ih =>
    rw [List.cons_append, entries, entries]
    cases lineEntries m l with
    | error e => rfl
    | ok a =>
      show (entries a.1 (ls ++ ls') >>= _) = _
      rw [ih]
      show _ = (entries a.1 ls >>= _) >>= _
      cases entries a.1 ls with
      | error e => rfl
      | ok b =>
        show (entries b.1 ls' >>= _) >>= _ = (entries b.1 ls' >>= _)
        cases entries b.1 ls' with
        | error e => rfl
        | ok c => exact congrArg Except.ok (Prod.ext rfl (List.append_assoc ..).symm)

/-- The reader has come to a mode and added options. -/
def Reader.Adds (r r' : Reader) (a : Mode × Options) : Prop :=
  r'.mode = a.1 ∧ r'.parser.options = r.parser.options ++ a.2

/-- A call returns what another one describes, or fails with it. -/
def Describes {α β : Type} (R : α → β → Prop) : Call α → Call β → Prop
  | .ok a, .ok b => R a b
  | .error e, .error e' => e = e'
  | _, _ => False

lemma Describes.bind {α β γ δ : Type} {R : α → β → Prop} {S : γ → δ → Prop} {x : Call α}
    {y : Call β} {f : α → Call γ} {g : β → Call δ} (h : Describes R x y)
    (hfg : ∀ a b, R a b → Describes S (f a) (g b)) : Describes S (x >>= f) (y >>= g) := by
  cases x with
  | error e =>
    cases y with
    | error e' => exact h
    | ok b => exact h.elim
  | ok a =>
    cases y with
    | error e' => exact h.elim
    | ok b => exact hfg a b h

lemma Describes.map {α β γ : Type} {R : α → β → Prop} {S : γ → β → Prop} {x : Call α}
    {y : Call β} {f : α → γ} (h : Describes R x y) (hf : ∀ a b, R a b → S (f a) b) :
    Describes S (x >>= fun a => .ok (f a)) y := by
  cases x with
  | error e =>
    cases y with
    | error e' => exact h
    | ok b => exact h.elim
  | ok a =>
    cases y with
    | error e' => exact h.elim
    | ok b => exact hf a b h

lemma Reader.line_adds (r : Reader) (l : Text) :
    Describes (fun a r' => r.Adds r' a) (lineEntries r.mode l) (r.line l) := by
  obtain ⟨p, mode⟩ := r
  unfold Reader.line lineEntries
  cases mode with
  | options =>
    dsimp only
    split_ifs
    · exact ⟨rfl, by simp [Reader.addMeta]⟩
    · cases parseline l with
      | error e => rfl
      | ok ps =>
        show Reader.Adds _ (Reader.addOption _ ps) (optionEntries ps)
        cases ps with
        | nil => exact ⟨rfl, by simp [Reader.addOption, optionEntries]⟩
        | cons arg0 args =>
          unfold Reader.addOption optionEntries
          cases h : startTag (stripDashes arg0) with
          | none => simp [h, Reader.Adds, ConfigParser.add, entry]
          | some argname => simp [h, Reader.Adds]
  | inlinefile argname inlinefile =>
    dsimp only
    split_ifs
    · exact ⟨rfl, rfl⟩
    · exact ⟨rfl, by simp⟩

/-- **What is read before does not matter**: from a mode on, the lines add what they add. -/
theorem Reader.lines_adds (r : Reader) (ls : List Text) :
    Describes (fun a r' => r.Adds r' a) (entries r.mode ls) (r.lines ls) := by
  induction ls generalizing r with
  | nil => exact ⟨rfl, by simp⟩
  | cons l ls ih =>
    rw [entries, Reader.lines, List.foldlM_cons]
    refine (r.line_adds l).bind fun a r₁ h => ?_
    rw [← h.1]
    refine (ih r₁).map fun b r' h' => ⟨h'.1, ?_⟩
    rw [h'.2, h.2, List.append_assoc]

/-- The text does not begin as an archive does, nor with a mark. -/
def Unmarked (t : Text) : Prop := t.head? ≠ some 'P' ∧ t.head? ≠ some '\uFEFF'

instance (t : Text) : Decidable (Unmarked t) := inferInstanceAs (Decidable (_ ∧ _))

lemma head?_of_readLines {t l : Text} {ls : List Text} (h : readLines t = l :: ls) {c : Char}
    (hc : l.head? = some c) : t.head? = some c := by
  induction t using readLines.induct with
  | case1 => cases h
  | case2 s ih =>
    rw [readLines] at h
    obtain ⟨rfl, -⟩ := List.cons.inj h
    cases hc
  | case3 s hs ih =>
    rw [readLines.eq_3 _ hs] at h
    obtain ⟨rfl, -⟩ := List.cons.inj h
    cases hc
  | case4 s ih =>
    rw [readLines] at h
    obtain ⟨rfl, -⟩ := List.cons.inj h
    cases hc
  | case5 d s _ h2 h1 hs ih =>
    rw [readLines_cons h1 h2, hs] at h
    obtain ⟨rfl, -⟩ := List.cons.inj h
    exact hc
  | case6 d s _ h2 h1 m ms hs ih =>
    rw [readLines_cons h1 h2, hs] at h
    obtain ⟨rfl, -⟩ := List.cons.inj h
    exact hc

lemma startsWith_cons_eq_false {c : Char} {l t : Text} (h : l.head? ≠ some c) :
    startsWith l (c :: t) = false := by
  cases l with
  | nil => rfl
  | cons d l =>
    have hne : (c == d) = false := beq_eq_false_iff_ne.2 fun e => h (by rw [e]; rfl)
    rw [startsWith, List.isPrefixOf_cons_cons, hne, Bool.false_and]

lemma parseConfig_unmarked {t : Text} (h : Unmarked t) :
    parseConfig t = Reader.start.lines (readLines t) >>= Reader.close := by
  unfold parseConfig
  cases hl : readLines t with
  | nil => rfl
  | cons l ls =>
    have hhead : ∀ c, t.head? ≠ some c → l.head? ≠ some c := fun c hc e =>
      hc (head?_of_readLines hl e)
    have hzip : isZip l = false := by
      simp [isZip, startsWith_cons_eq_false (hhead _ h.1)]
    have hmark : stripMark l = l := by
      rw [stripMark, startsWith_cons_eq_false (hhead _ h.2)]
      rfl
    dsimp only
    rw [hzip, hmark]
    rfl

/-- **A configuration and its lines**: if the lines of a text leave the reader where it expects an
option, `parseConfig` returns what they add. -/
theorem parseConfig_of_entries {t : Text} (h : Unmarked t) {es : Options}
    (he : entries .options (readLines t) = .ok (.options, es)) :
    ∃ p, parseConfig t = .ok p ∧ p.options = es := by
  have hadds := Reader.start.lines_adds (readLines t)
  rw [show Reader.start.mode = .options from rfl, he] at hadds
  rw [parseConfig_unmarked h]
  cases hr : Reader.start.lines (readLines t) with
  | error e =>
    rw [hr] at hadds
    exact hadds.elim
  | ok r =>
    rw [hr] at hadds
    refine ⟨r.parser, ?_, hadds.2.trans (List.nil_append _)⟩
    show r.close = _
    rw [Reader.close, hadds.1]

theorem entries_of_parseConfig {t : Text} (h : Unmarked t) {p : ConfigParser}
    (hp : parseConfig t = .ok p) :
    entries .options (readLines t) = .ok (.options, p.options) := by
  have hadds := Reader.start.lines_adds (readLines t)
  rw [show Reader.start.mode = .options from rfl] at hadds
  rw [parseConfig_unmarked h] at hp
  obtain ⟨r, hr, hp⟩ := bind_eq_ok.1 hp
  rw [hr] at hadds
  cases he : entries .options (readLines t) with
  | error e =>
    rw [he] at hadds
    exact hadds.elim
  | ok a =>
    rw [he] at hadds
    unfold Reader.close at hp
    split at hp
    · next hm =>
      cases hp
      obtain ⟨h1, h2⟩ := hadds
      rw [show r.parser.options = a.2 from h2.trans (List.nil_append _), ← hm, h1]
    · cases hp

/-- What is added stands under the name of its line. -/
lemma entry_of_mem_lineEntries {m m' : Mode} {l : Text} {es : Options}
    (h : lineEntries m l = .ok (m', es)) : ∀ e ∈ es, ∃ arg0 args, e = entry arg0 args := by
  unfold lineEntries at h
  split at h
  · split_ifs at h
    · cases h
      simp
    · rw [map_eq_pure_bind] at h
      obtain ⟨ps, -, h⟩ := bind_eq_ok.1 h
      have h := Except.ok.inj h
      cases ps with
      | nil =>
        cases h
        simp
      | cons arg0 args =>
        rw [optionEntries] at h
        split at h
        · cases h
          simp
        · cases h
          simp
  · split_ifs at h
    · cases h
      simp
    · cases h
      simp

lemma entry_of_mem_entries {m m' : Mode} {ls : List Text} {es : Options}
    (h : entries m ls = .ok (m', es)) : ∀ e ∈ es, ∃ arg0 args, e = entry arg0 args := by
  induction ls generalizing m es with
  | nil =>
    cases h
    simp
  | cons l ls ih =>
    rw [entries] at h
    obtain ⟨⟨m₁, es₁⟩, h1, h⟩ := bind_eq_ok.1 h
    obtain ⟨⟨m₂, es₂⟩, h2, h⟩ := bind_eq_ok.1 h
    cases h
    exact List.forall_mem_append.2 ⟨entry_of_mem_lineEntries h1, ih h2⟩

/-- **Every option stands under its name.** -/
theorem entry_of_mem_parseConfig {t : Text} {p : ConfigParser} (h : parseConfig t = .ok p) :
    ∀ e ∈ p.options, ∃ arg0 args, e = entry arg0 args := by
  unfold parseConfig at h
  split at h
  · cases h
    simp [Reader.start]
  · next l ls _ =>
    split_ifs at h
    obtain ⟨r, hr, hclose⟩ := bind_eq_ok.1 h
    have hadds := Reader.start.lines_adds (stripMark l :: ls)
    rw [hr] at hadds
    cases he : entries Reader.start.mode (stripMark l :: ls) with
    | error e =>
      rw [he] at hadds
      exact hadds.elim
    | ok a =>
      rw [he] at hadds
      have hp : p.options = a.2 := by
        unfold Reader.close at hclose
        split at hclose
        · cases hclose
          exact hadds.2.trans (List.nil_append _)
        · cases hclose
      rw [hp]
      exact entry_of_mem_entries he

/-! ### Pieces -/

/-- A text of whole lines in which the lines of the option `k` are just `ls`. Where `fails` holds,
the reader may refuse it instead. -/
structure Says (fails : Prop) (k : Text) (ls : List (List Text)) (t : Text) : Prop where
  complete : Complete t
  reads : (∃ es, entries .options (readLines t) = .ok (.options, es) ∧ es.get k = ls) ∨
    fails ∧ ∃ e, entries .options (readLines t) = .error e

variable {fails : Prop} {k : Text} {ls ls' : List (List Text)} {t u : Text}

lemma Says.nil : Says fails k [] [] := ⟨complete_nil, .inl ⟨[], rfl, rfl⟩⟩

/-- **Pieces are read one after the other.** -/
theorem Says.append (ht : Says fails k ls t) (hu : Says fails k ls' u) :
    Says fails k (ls ++ ls') (t ++ u) where
  complete := ht.complete.append hu.complete
  reads := by
    rw [readLines_append ht.complete, entries_append]
    rcases ht.reads with ⟨es, he, hk⟩ | ⟨hf, e, he⟩
    · rw [he]
      show (∃ es₁, (entries .options (readLines u) >>= _) = _ ∧ _) ∨
        _ ∧ ∃ e, (entries .options (readLines u) >>= _) = _
      rcases hu.reads with ⟨es', he', hk'⟩ | ⟨hf, e, he'⟩
      · exact .inl ⟨es ++ es', by rw [he']; rfl, by rw [Multimap.get_append, hk, hk']⟩
      · exact .inr ⟨hf, e, by rw [he']; rfl⟩
    · exact .inr ⟨hf, e, by rw [he]; rfl⟩

lemma Says.append_nil (ht : Says fails k [] t) (hu : Says fails k ls u) :
    Says fails k ls (t ++ u) := ht.append hu

lemma Says.nil_append (ht : Says fails k ls t) (hu : Says fails k [] u) :
    Says fails k ls (t ++ u) := by
  have := ht.append hu
  rwa [List.append_nil] at this

lemma Says.flatten {pieces : List Text} (h : ∀ t ∈ pieces, Says fails k [] t) :
    Says fails k [] pieces.flatten := by
  induction pieces with
  | nil => exact .nil
  | cons t pieces ih =>
    rw [List.forall_mem_cons] at h
    exact h.1.append_nil (ih h.2)

lemma Says.flatMap {α : Type} {l : List α} {f : α → Text} (h : ∀ a ∈ l, Says fails k [] (f a)) :
    Says fails k [] (l.flatMap f) :=
  Says.flatten fun t ht => by
    obtain ⟨a, ha, rfl⟩ := List.mem_map.1 ht
    exact h a ha

/-- Pieces that are a line each. -/
lemma Says.map {α : Type} {l : List α} {f : α → Text} {g : α → List Text}
    (h : ∀ a ∈ l, Says fails k [g a] (f a)) : Says fails k (l.map g) (l.map f).flatten := by
  induction l with
  | nil => exact .nil
  | cons a l ih =>
    rw [List.forall_mem_cons] at h
    exact h.1.append (ih h.2)

lemma Says.parseConfig (h : Says False k ls t) (hu : Unmarked t) :
    ∃ p, parseConfig t = .ok p ∧ p.options.get k = ls := by
  rcases h.reads with ⟨es, he, hk⟩ | ⟨hf, -⟩
  · obtain ⟨p, hp, hes⟩ := parseConfig_of_entries hu he
    exact ⟨p, hp, by rw [hes, hk]⟩
  · exact hf.elim

lemma Says.of_parseConfig (h : Says fails k ls t) (hu : Unmarked t) {p : ConfigParser}
    (hp : ParseConfig.parseConfig t = .ok p) : p.options.get k = ls := by
  have hes := entries_of_parseConfig hu hp
  rcases h.reads with ⟨es, he, hk⟩ | ⟨-, e, he⟩
  · rw [he] at hes
    cases hes
    exact hk
  · rw [he] at hes
    cases hes

/-- The line feed at the end of a text is at most one more empty line. -/
lemma readLines_newline_end (hr : '\r' ∉ t) : readLines (t ++ ['\n']) = readLines t ∨
    readLines (t ++ ['\n']) = readLines t ++ [[]] := by
  induction t with
  | nil => exact .inr (by decide)
  | cons c t ih =>
    rw [List.mem_cons, not_or] at hr
    rw [List.cons_append]
    by_cases hc : c = '\n'
    · subst hc
      rw [readLines, readLines]
      rcases ih hr.2 with h | h
      · exact .inl (by rw [h])
      · exact .inr (by rw [h, List.cons_append])
    · rw [readLines_cons hc (Ne.symm hr.1), readLines_cons hc (Ne.symm hr.1)]
      rcases ih hr.2 with h | h
      · exact .inl (by rw [h])
      · rw [h]
        cases readLines t with
        | nil => exact .inl rfl
        | cons l ls => exact .inr rfl

/-- A text says what it says with a line feed behind it. -/
lemma Says.of_parseConfig_content (h : Says fails k ls (t ++ ['\n'])) (hr : '\r' ∉ t)
    (hu : Unmarked t) {p : ConfigParser} (hp : ParseConfig.parseConfig t = .ok p) : p.options.get k = ls := by
  have he := entries_of_parseConfig hu hp
  have hreads := h.reads
  have hsame : entries .options (readLines (t ++ ['\n'])) = .ok (.options, p.options) := by
    rcases readLines_newline_end hr with hl | hl
    · rw [hl, he]
    · have hempty : entries .options [[]] = .ok (.options, []) := by decide
      rw [hl, entries_append, he]
      simp [bind, Except.bind, hempty]
  rw [hsame] at hreads
  rcases hreads with ⟨es, hes, hk⟩ | ⟨-, e, hes⟩
  · cases hes
    exact hk
  · cases hes

end BuludTechVPN.ParseConfig
