import BuludTechVPN.Base64
import BuludTechVPN.LineParser

/-!
`PemWriter` and `PemReader`: objects with a type, headers and a content, as lines of a text.

The reader skips what stands before an object. Between its boundaries a line with a colon is a
header wherever it stands, and the others are the content.
-/

namespace BuludTechVPN.Pem

open JavaLang LineParser ByteBuffer

structure PemHeader where
  name : Text
  value : Text
  deriving DecidableEq, Repr

structure PemObject where
  type : Text
  headers : List PemHeader
  content : Bytes
  deriving DecidableEq, Repr

def beginMarker : Text := "-----BEGIN ".toList
def endMarker : Text := "-----END ".toList
def dashes : Text := "-----".toList

/-! ### Writing -/

def lineLength : ℕ := 64

/-- The lines of `writeEncoded`. -/
def encodedLines : ℕ → Text → List Text
  | 0, _ => []
  | n + 1, t => if t = [] then [] else t.take lineLength :: encodedLines n (t.drop lineLength)

def PemHeader.line (h : PemHeader) : Text := h.name ++ ": ".toList ++ h.value

/-- The lines of `writeObject`. -/
def PemObject.lines (o : PemObject) : List Text :=
  (beginMarker ++ o.type ++ dashes) ::
    ((if o.headers = [] then [] else o.headers.map PemHeader.line ++ [[]]) ++
      encodedLines (Base64.encode o.content).length (Base64.encode o.content) ++
      [endMarker ++ o.type ++ dashes])

def writeObject (o : PemObject) : Text := o.lines.flatMap (· ++ ['\n'])

/-! ### Reading -/

/-- What is before a character, none if it is not there. -/
def before (c : Char) (line : Text) : Option Text :=
  if c ∈ line then some (line.takeWhile (· ≠ c)) else none

/-- The headers and the content so far. -/
structure Loaded where
  headers : List PemHeader
  buf : Text

/-- The loop of `loadObject`, with the lines that are left. -/
def loadLines (marker : Text) : Loaded → List Text → Call (Loaded × List Text)
  | _, [] => .error .io
  | l, line :: lines =>
    match before ':' line with
    | some hdr =>
      let value := trim ((line.dropWhile (· ≠ ':')).tail)
      loadLines marker { l with headers := l.headers ++ [⟨hdr, value⟩] } lines
    | none =>
      if contains line marker then .ok (l, lines)
      else loadLines marker { l with buf := l.buf ++ trim line } lines

def loadObject (type : Text) (lines : List Text) : Call (PemObject × List Text) := do
  let (l, lines) ← loadLines (endMarker ++ type) ⟨[], []⟩ lines
  let content ← Base64.decode (Base64.units l.buf)
  return (⟨type, l.headers, content⟩, lines)

/-- `readPemObject` of the lines that are left, with those that are left after it. -/
def readPemObject : List Text → Call (Option PemObject × List Text)
  | [] => .ok (none, [])
  | line :: lines =>
    if startsWith line beginMarker then
      match before '-' (line.drop beginMarker.length) with
      | none => .error .stringIndexOutOfBounds
      | some type =>
        if type ≠ [] then do
          let (o, lines) ← loadObject type lines
          return (some o, lines)
        else .ok (none, lines)
    else readPemObject lines

/-! ### Objects that survive -/

/-- A header that is read back. -/
structure PemHeader.WellFormed (h : PemHeader) : Prop where
  name_line : IsLine h.name
  name_plain : ':' ∉ h.name
  value_line : IsLine h.value
  value_trimmed : trim h.value = h.value

structure PemObject.WellFormed (o : PemObject) : Prop where
  type_ne : o.type ≠ []
  type_line : IsLine o.type
  type_plain : '-' ∉ o.type ∧ ':' ∉ o.type
  headers : ∀ h ∈ o.headers, h.WellFormed
  content_ne : o.content ≠ []

variable {line hdr marker type : Text} {l l' : Loaded} {lines rest : List Text} {o : PemObject}
  {c : Char}

lemma before_eq_some (h : before c line = some hdr) : c ∉ hdr ∧ ∃ t, line = hdr ++ c :: t ∧
    (line.dropWhile (· ≠ c)).tail = t := by
  unfold before at h
  split_ifs at h with hc
  cases h
  obtain ⟨x, y, rfl, hx⟩ := List.eq_append_cons_of_mem hc
  have hall : ∀ d ∈ x, decide (d ≠ c) = true := fun d hd => decide_eq_true fun e => hx (e ▸ hd)
  rw [List.takeWhile_append_of_pos hall, List.dropWhile_append_of_pos hall]
  simpa using hx

lemma before_append {x y : Text} (h : c ∉ x) : before c (x ++ c :: y) = some x ∧
    ((x ++ c :: y).dropWhile (· ≠ c)).tail = y := by
  have hall : ∀ d ∈ x, decide (d ≠ c) = true := fun d hd => decide_eq_true fun e => h (e ▸ hd)
  unfold before
  rw [if_pos (by simp), List.takeWhile_append_of_pos hall, List.dropWhile_append_of_pos hall]
  simp

lemma before_eq_none : before c line = none ↔ c ∉ line := by
  unfold before
  split_ifs with h
  · simpa using h
  · simpa using h

/-! ### What is accepted -/

lemma isLine_trim (h : IsLine line) : IsLine (trim line) := by
  have hsub : ∀ c ∈ trim line, c ∈ line := fun c hc =>
    (List.dropWhile_sublist _).subset ((List.rdropWhile_prefix _ _).subset hc)
  exact ⟨fun hn => h.1 (hsub _ hn), fun hr => h.2 (hsub _ hr)⟩

lemma trim_trim (t : Text) : trim (trim t) = trim t := by
  have hdrop : (trim t).dropWhile (· ≤ ' ') = trim t := by
    have hpre : trim t <+: t.dropWhile (· ≤ ' ') := List.rdropWhile_prefix _ _
    rw [List.dropWhile_eq_self_iff]
    intro hpos hblank
    have hlt := hpos.trans_le hpre.length_le
    rw [hpre.getElem hpos] at hblank
    exact List.dropWhile_get_zero_not _ _ hlt (by simpa using hblank)
  rw [trim, hdrop, trim, List.rdropWhile_idempotent]

/-- Lines of headers give well-formed headers, and the marker is found on a line without a colon. -/
lemma loadLines_wellFormed (hlines : ∀ x ∈ lines, IsLine x)
    (hl : ∀ h ∈ l.headers, h.WellFormed) (h : loadLines marker l lines = .ok (l', rest)) :
    (∀ h ∈ l'.headers, h.WellFormed) ∧ ':' ∉ marker := by
  induction lines generalizing l with
  | nil => cases h
  | cons line lines ih =>
    have hline := hlines line List.mem_cons_self
    have hmore := fun x hx => hlines x (List.mem_cons_of_mem _ hx)
    rw [loadLines] at h
    cases hb : before ':' line with
    | some hdr =>
      simp only [hb] at h
      refine ih hmore (fun x hx => ?_) h
      rcases List.mem_append.1 hx with hx | hx
      · exact hl x hx
      · obtain rfl := List.mem_singleton.1 hx
        obtain ⟨hplain, t, rfl, htail⟩ := before_eq_some hb
        obtain ⟨h1, h2⟩ := isLine_append.1 hline
        rw [htail]
        exact ⟨h1, hplain, isLine_trim (isLine_cons.1 h2).2.2, trim_trim t⟩
    | none =>
      simp only [hb] at h
      split_ifs at h with hc
      · cases h
        refine ⟨hl, fun hcolon => before_eq_none.1 hb ?_⟩
        unfold contains at hc
        simp only [List.any_eq_true, List.mem_tails, List.isPrefixOf_iff_prefix] at hc
        obtain ⟨t, ht, hp⟩ := hc
        exact ht.subset (hp.subset hcolon)
      · exact ih (l := { l with buf := l.buf ++ trim line }) hmore hl h

/-- **What is accepted is well formed.** -/
lemma readPemObject_wellFormed (hlines : ∀ x ∈ lines, IsLine x)
    (h : readPemObject lines = .ok (some o, rest)) : o.WellFormed := by
  induction lines with
  | nil => cases h
  | cons line lines ih =>
    have hline := hlines line List.mem_cons_self
    have hmore := fun x hx => hlines x (List.mem_cons_of_mem _ hx)
    rw [readPemObject] at h
    split_ifs at h with hb
    · cases hbefore : before '-' (line.drop beginMarker.length) with
      | none =>
        rw [hbefore] at h
        cases h
      | some type =>
        simp only [hbefore] at h
        split_ifs at h with hne
        · obtain ⟨⟨o', lines'⟩, hload, h⟩ := bind_eq_ok.1 h
          cases h
          unfold loadObject at hload
          obtain ⟨⟨l, lines''⟩, hl, hload⟩ := bind_eq_ok.1 hload
          obtain ⟨content, hcontent, hload⟩ := bind_eq_ok.1 hload
          cases hload
          obtain ⟨hplain, t, hdrop, -⟩ := before_eq_some hbefore
          have htype : IsLine (type ++ '-' :: t) := by
            rw [← hdrop]
            exact ⟨fun hm => hline.1 (List.mem_of_mem_drop hm),
              fun hm => hline.2 (List.mem_of_mem_drop hm)⟩
          obtain ⟨hheaders, hmarker⟩ := loadLines_wellFormed hmore (by simp) hl
          exact ⟨hne, (isLine_append.1 htype).1,
            ⟨hplain, fun hm => hmarker (List.mem_append_right _ hm)⟩, hheaders,
            Base64.decode_eq_ok_ne_nil hcontent⟩
        · cases h
    · exact ih hmore h

/-! ### What is written -/

lemma trim_seen {t : Text} (h : ∀ c ∈ t, ¬ c ≤ ' ') : trim t = t := by
  have hdrop : t.dropWhile (· ≤ ' ') = t :=
    List.dropWhile_eq_self_iff.2 fun hpos => by simpa using h _ (List.getElem_mem hpos)
  rw [trim, hdrop]
  exact List.rdropWhile_eq_self_iff.2 fun hne => by simpa using h _ (List.getLast_mem hne)

lemma trim_cons_blank (t : Text) : trim (' ' :: t) = trim t := by
  unfold trim
  rw [List.dropWhile_cons_of_pos (by decide)]

lemma contains_eq_false (h : c ∈ marker) (hline : c ∉ line) : contains line marker = false := by
  refine Bool.eq_false_iff.2 fun hc => hline ?_
  unfold contains at hc
  simp only [List.any_eq_true, List.mem_tails, List.isPrefixOf_iff_prefix] at hc
  obtain ⟨t, ht, hp⟩ := hc
  exact ht.subset (hp.subset h)

lemma encodedLines_spec {n : ℕ} {t : Text} (h : t.length ≤ n) : (encodedLines n t).flatten = t ∧
    ∀ x ∈ encodedLines n t, ∀ c ∈ x, c ∈ t := by
  induction n generalizing t with
  | zero =>
    obtain rfl := List.eq_nil_of_length_eq_zero (Nat.le_zero.1 h)
    exact ⟨rfl, by simp [encodedLines]⟩
  | succ n ih =>
    rw [encodedLines]
    split_ifs with ht
    · exact ⟨ht.symm, by simp⟩
    · have hdrop : (t.drop lineLength).length ≤ n := by
        have hpos := List.length_pos_of_ne_nil ht
        rw [List.length_drop, lineLength]
        omega
      obtain ⟨hflat, hmem⟩ := ih hdrop
      refine ⟨by rw [List.flatten_cons, hflat, List.take_append_drop], fun x hx c hc => ?_⟩
      rcases List.mem_cons.1 hx with rfl | hx
      · exact List.mem_of_mem_take hc
      · exact List.mem_of_mem_drop (hmem x hx c hc)

/-! ### The lines are read back -/

lemma loadLines_headers {hs : List PemHeader} (h : ∀ x ∈ hs, x.WellFormed) :
    loadLines marker l (hs.map PemHeader.line ++ lines) =
      loadLines marker { l with headers := l.headers ++ hs } lines := by
  induction hs generalizing l with
  | nil => simp
  | cons x hs ih =>
    have hx := h x List.mem_cons_self
    have hline : x.line = x.name ++ ':' :: (' ' :: x.value) := by
      rw [PemHeader.line, List.append_assoc]
      rfl
    obtain ⟨hbefore, hrest⟩ := before_append (y := ' ' :: x.value) hx.name_plain
    rw [List.map_cons, List.cons_append, loadLines, hline, hbefore]
    simp only [hrest, trim_cons_blank, hx.value_trimmed]
    rw [ih fun y hy => h y (List.mem_cons_of_mem _ hy)]
    simp only [List.append_assoc, List.singleton_append]

/-- Lines of encoded bytes, and blank lines, are added as they stand. -/
lemma loadLines_plain {ls : List Text} (hmarker : '-' ∈ marker)
    (h : ∀ x ∈ ls, ∀ c ∈ x, Base64.IsPlain c) :
    loadLines marker l (ls ++ lines) =
      loadLines marker { l with buf := l.buf ++ ls.flatten } lines := by
  induction ls generalizing l with
  | nil => simp
  | cons x ls ih =>
    have hx := h x List.mem_cons_self
    have hcolon : before ':' x = none := before_eq_none.2 fun hc => (hx _ hc).mark.2 rfl
    have hcontains : contains x marker = false :=
      contains_eq_false hmarker fun hc => (hx _ hc).mark.1 rfl
    rw [List.cons_append, loadLines, hcolon]
    simp only [hcontains, Bool.false_eq_true, if_false, trim_seen fun c hc => (hx c hc).gt]
    rw [ih fun y hy => h y (List.mem_cons_of_mem _ hy), List.flatten_cons]
    simp only [List.append_assoc]

lemma loadLines_end (hmarker : ':' ∉ line) (h : contains line marker = true) :
    loadLines marker l (line :: lines) = .ok (l, lines) := by
  rw [loadLines, before_eq_none.2 hmarker]
  simp only [h, if_true]

lemma contains_append (x y : Text) : contains (x ++ y) x = true := by
  unfold contains
  rw [List.any_eq_true]
  exact ⟨x ++ y, (List.mem_tails _ _).2 List.suffix_rfl,
    List.isPrefixOf_iff_prefix.2 (List.prefix_append x y)⟩

lemma units_encode (bs : Bytes) : Base64.units (Base64.encode bs) =
    (Base64.encode bs).map Char.toNat := by
  have hall : ∀ c ∈ Base64.encode bs, c.toNat < 0x10000 := fun c hc =>
    (Base64.encode_plain hc).unit.trans (by decide)
  generalize Base64.encode bs = t at hall
  induction t with
  | nil => rfl
  | cons c t ih =>
    rw [Base64.units, List.flatMap_cons, if_pos (hall c List.mem_cons_self), List.map_cons]
    exact congrArg _ (ih fun d hd => hall d (List.mem_cons_of_mem _ hd))

/-- **The lines of a well-formed object are read back.** -/
lemma readPemObject_lines (h : o.WellFormed) (lines : List Text) :
    readPemObject (o.lines ++ lines) = .ok (some o, lines) := by
  have hplain : ∀ x ∈ encodedLines (Base64.encode o.content).length (Base64.encode o.content),
      ∀ c ∈ x, Base64.IsPlain c := fun x hx c hc =>
    Base64.encode_plain ((encodedLines_spec le_rfl).2 x hx c hc)
  have hmarker : '-' ∈ endMarker ++ o.type := List.mem_append_left _ (by decide)
  have hcolon : ':' ∉ endMarker ++ o.type ++ dashes := by
    simp only [List.mem_append, not_or]
    exact ⟨⟨by decide, h.type_plain.2⟩, by decide⟩
  have hload : loadLines (endMarker ++ o.type) ⟨[], []⟩
      ((if o.headers = [] then [] else o.headers.map PemHeader.line ++ [[]]) ++
        encodedLines (Base64.encode o.content).length (Base64.encode o.content) ++
          [endMarker ++ o.type ++ dashes] ++ lines) =
      .ok (⟨o.headers, Base64.encode o.content⟩, lines) := by
    have hend (l : Loaded) : loadLines (endMarker ++ o.type) l
        (encodedLines (Base64.encode o.content).length (Base64.encode o.content) ++
          (endMarker ++ o.type ++ dashes) :: lines) =
        .ok ({ l with buf := l.buf ++ Base64.encode o.content }, lines) := by
      rw [loadLines_plain hmarker hplain, (encodedLines_spec le_rfl).1,
        loadLines_end hcolon (contains_append _ _)]
    simp only [List.append_assoc, List.singleton_append] at hend ⊢
    split_ifs with hh
    · rw [List.nil_append, hend, hh]
      rfl
    · rw [List.append_assoc, loadLines_headers h.headers, loadLines_plain hmarker (by simp), hend]
      rfl
  obtain ⟨hbefore, -⟩ := before_append (y := "----".toList) h.type_plain.1
  have hdashes : o.type ++ dashes = o.type ++ '-' :: "----".toList := rfl
  rw [PemObject.lines, List.cons_append, readPemObject, List.append_assoc, if_pos (by
    unfold startsWith
    exact List.isPrefixOf_iff_prefix.2 (List.prefix_append _ _)), List.drop_left, hdashes, hbefore]
  simp only [h.type_ne, ne_eq, not_false_eq_true, if_true]
  rw [loadObject, hload]
  simp only [bind, Except.bind, units_encode, Base64.decode_encode h.content_ne]
  rfl

lemma isLine_lines (h : o.WellFormed) : ∀ x ∈ o.lines, IsLine x := by
  have hmark : IsLine beginMarker ∧ IsLine endMarker ∧ IsLine dashes := by decide
  intro x hx
  simp only [PemObject.lines, List.mem_cons, List.mem_append, List.not_mem_nil, or_false] at hx
  rcases hx with rfl | (hx | hx) | rfl
  · simpa [hmark] using h.type_line
  · split_ifs at hx
    · simp at hx
    · rcases List.mem_append.1 hx with hx | hx
      · obtain ⟨y, hy, rfl⟩ := List.mem_map.1 hx
        have hwf := h.headers y hy
        exact isLine_append.2 ⟨isLine_append.2 ⟨hwf.name_line, by decide⟩, hwf.value_line⟩
      · obtain rfl := List.mem_singleton.1 hx
        exact isLine_nil
  · have hplain := fun c hc => (Base64.encode_plain ((encodedLines_spec le_rfl).2 x hx c hc)).line
    exact ⟨fun hn => (hplain _ hn).1 rfl, fun hr => (hplain _ hr).2 rfl⟩
  · simpa [hmark] using h.type_line

/-- **What is written is read back**, whatever follows it, of the well-formed objects and of no
others. -/
theorem readPemObject_writeObject_iff (o : PemObject) (t : Text) :
    readPemObject (readLines (writeObject o ++ t)) = .ok (some o, readLines t) ↔ o.WellFormed := by
  refine ⟨readPemObject_wellFormed fun x hx => isLine_of_mem_readLines hx, fun h => ?_⟩
  have hread : ∀ ls : List Text, (∀ x ∈ ls, IsLine x) →
      readLines (ls.flatMap (· ++ ['\n']) ++ t) = ls ++ readLines t := by
    intro ls hls
    induction ls with
    | nil => rfl
    | cons x ls ih =>
      rw [List.flatMap_cons, List.append_assoc, List.append_assoc, List.singleton_append,
        readLines_line (hls x List.mem_cons_self), ih fun y hy => hls y (List.mem_cons_of_mem _ hy)]
      rfl
  rw [writeObject, hread _ (isLine_lines h), readPemObject_lines h]

end BuludTechVPN.Pem
