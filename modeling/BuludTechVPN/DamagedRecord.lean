import BuludTechVPN.SwallowedRecord

/-!
A cache file in which one record is damaged: one escape sequence of it is none.

The reader aborts the item there, and goes on as if a magic byte had ended it: the next four
bytes are a length. Only if a magic byte did end it, the reader is at the beginning of a record.
-/

namespace BuludTechVPN.LogCache

open JavaLang LogFileHandler

/-- A record of which bytes behind its length were replaced, so that one escape sequence is not
followed by 0 or 1; no magic byte is among them. -/
structure Damaged where
  original : Record
  before : Bytes
  bad : Bytes
  after : Bytes
  invalid : (bad = [MAGIC_BYTE + 1] ∧ after = []) ∨
    ∃ b, bad = [MAGIC_BYTE + 1, b] ∧ b ≠ 0 ∧ b ≠ 1 ∧ b ≠ MAGIC_BYTE
  replaced : (before.flatMap escapeByte ++ (bad ++ after.flatMap escapeByte)).length =
    original.payload.length

def Damaged.written (d : Damaged) : Bytes :=
  (MAGIC_BYTE :: lenBytes d.original.bytes.length) ++
    (d.before.flatMap escapeByte ++ (d.bad ++ d.after.flatMap escapeByte))

/-- The file is read without an exception, and the items before and behind the damaged one are
restored. -/
def CostsItself (D : Utf8.Decoder) (before : List Record) (d : Damaged)
    (behind : List Record) : Prop :=
  ∃ log, readCacheContents (restorer D) (cache before ++ (d.written ++ cache behind)) [] = .ok log ∧
    (before.map Record.item ++ behind.map Record.item).Sublist log

/-- After the escape sequence the reader takes no byte of the next record for a byte of a length,
and what it takes for a record does no harm. -/
def Resumes (D : Utf8.Decoder) (itemsRead : ℕ) (after : Bytes) (behind : List Record) : Prop :=
  if (after.flatMap escapeByte).length < 4 then behind = []
  else ∃ w u : Bytes, after.flatMap escapeByte = w ++ u.flatMap escapeByte ∧ w.length = 4 ∧
    Reaches D itemsRead (lengthOf w) u behind

/-- The damage does not reach the records behind it.

If the item is complete before the escape sequence, it must be one, and the rest of the bytes be
few. Otherwise the sequence is cut off by the end of the record, or the reader finds its way. -/
def Contained (D : Utf8.Decoder) (itemsRead : ℕ) (d : Damaged) (behind : List Record) : Prop :=
  if d.original.bytes.length ≤ d.before.length then
    Harmless D itemsRead d.original.bytes.length (d.before.take d.original.bytes.length)
      ((d.before.drop d.original.bytes.length).flatMap escapeByte ++
        (d.bad ++ d.after.flatMap escapeByte)) behind
  else d.bad = [MAGIC_BYTE + 1] ∨ Resumes D itemsRead d.after behind

variable {D : Utf8.Decoder} {itemsRead : ℕ} {buf : Buffer} {log : List LogItem}
  {A B : List Record} {d : Damaged}

lemma Damaged.not_mem_bad (d : Damaged) : MAGIC_BYTE ∉ d.bad := by
  rcases d.invalid with ⟨h, -⟩ | ⟨b, h, -, -, hb⟩
  · rw [h]
    decide
  · rw [h, List.mem_cons, List.mem_singleton, not_or]
    exact ⟨by decide, fun h => hb h.symm⟩

section Behind

variable (hB : ∀ rec ∈ B, rec.item.Restorable) (ha : itemsRead ≤ 2 * MAXLOGENTRIES)
  (hn : itemsRead + B.length ≤ 2 * MAXLOGENTRIES + 1)
include hB ha hn

/-- Whole records are restored. -/
lemma restores_cache : Restores log (B.map Record.item)
    (readOn D (nextItem buf (cache B) itemsRead log)) := by
  rw [readOn_cache_end hB ha, restores_iff, List.take_of_length_le (by rw [List.length_map]; omega)]

/-- The reader goes on after an escape sequence that is none. -/
lemma restores_resumes (after : Bytes) : Restores log (B.map Record.item)
    (readOn D (nextItem buf (MAGIC_BYTE :: (after.flatMap escapeByte ++ cache B))
      itemsRead log)) ↔ Resumes D itemsRead after B := by
  unfold Resumes
  split_ifs with hfew
  · obtain _ | ⟨rec, others⟩ := B
    · refine iff_of_true ?_ rfl
      have hend : (MAGIC_BYTE :: (after.flatMap escapeByte ++ cache [])).length < 5 := by
        rw [List.length_cons, List.length_append, show cache [] = [] from rfl, List.length_nil]
        omega
      rw [readOn_short hend]
      exact restores_nothing
    · exact iff_of_false (not_restores_swallowed (fun r hr => hB r (List.mem_cons_of_mem _ hr))
        ha hfew) (List.cons_ne_nil _ _)
  · have hbytes : ∀ w u : Bytes, after.flatMap escapeByte = w ++ u.flatMap escapeByte →
        w.length = 4 → (Restores log (B.map Record.item) (readOn D (nextItem buf
          (MAGIC_BYTE :: (after.flatMap escapeByte ++ cache B)) itemsRead log)) ↔
          Reaches D itemsRead (lengthOf w) u B) := by
      intro w u hsplit hw
      have hstream : MAGIC_BYTE :: (after.flatMap escapeByte ++ cache B) =
          (MAGIC_BYTE :: w) ++ (u.flatMap escapeByte ++ cache B) := by
        rw [hsplit, List.cons_append, List.append_assoc]
      rw [hstream, readOn_bytes hw rfl hB ha, restores_readBytes hn]
    constructor
    · intro h
      obtain ⟨u, hu⟩ := escaped_drop after 4
      have hsplit : after.flatMap escapeByte =
          (after.flatMap escapeByte).take 4 ++ u.flatMap escapeByte := by
        rw [← hu]
        exact (List.take_append_drop 4 _).symm
      have hw : ((after.flatMap escapeByte).take 4).length = 4 := by
        rw [List.length_take]
        omega
      exact ⟨_, u, hsplit, hw, (hbytes _ u hsplit hw).mp h⟩
    · rintro ⟨w, u, hsplit, hw, h⟩
      exact (hbytes w u hsplit hw).mpr h

/-- The record is aborted at the escape sequence. -/
lemma restores_aborted (hshort : d.before.length < d.original.bytes.length) :
    Restores log (B.map Record.item)
        (readOn D (nextItem buf (d.written ++ cache B) itemsRead log)) ↔
      d.bad = [MAGIC_BYTE + 1] ∨ Resumes D itemsRead d.after B := by
  have hrec := length_record d.original
  have habort : ∀ b stream rest, d.bad ++ (d.after.flatMap escapeByte ++ cache B) = stream →
      unescape stream = (.bad b, rest) → ∃ buf',
        readOn D (nextItem buf (d.written ++ cache B) itemsRead log) =
          readOn D (nextItem buf' (MAGIC_BYTE :: rest) itemsRead log) := by
    intro b stream rest hstream hbad
    have hwritten : d.written ++ cache B = (MAGIC_BYTE :: lenBytes d.original.bytes.length) ++
        (d.before.flatMap escapeByte ++ stream) := by
      rw [← hstream, Damaged.written]
      simp only [List.append_assoc]
    rw [hwritten]
    exact readOn_head_aborted rfl (lengthOf_lenBytes hrec) (readPayload_aborted
      (Int.ofNat_lt.mpr hshort) (hshort.le.trans hrec) (.inr ⟨b, hbad, rfl⟩))
  rcases d.invalid with ⟨hbad, hafter⟩ | ⟨b, hbad, h0, h1, -⟩
  · refine iff_of_true ?_ (.inl hbad)
    rw [hbad, hafter] at habort
    obtain _ | ⟨rec, others⟩ := B
    · obtain ⟨buf', hread⟩ := habort 0xFF _ [] rfl rfl
      rw [hread, readOn_short (by decide : [MAGIC_BYTE].length < 5)]
      exact restores_nothing
    · obtain ⟨buf', hread⟩ := habort MAGIC_BYTE _ _ rfl rfl
      rw [hread]
      exact restores_cache hB ha hn
  · obtain ⟨buf', hread⟩ := habort b _ (d.after.flatMap escapeByte ++ cache B)
      (by rw [hbad]; rfl) (unescape_bad h0 h1 _)
    have hne : d.bad ≠ [MAGIC_BYTE + 1] := fun h => by
      rw [hbad] at h
      cases h
    rw [hread, or_iff_right hne]
    exact restores_resumes hB ha hn d.after

/-- **The records behind the damaged one** are restored exactly if the damage is contained. -/
lemma restores_damaged : Restores log (B.map Record.item)
    (readOn D (nextItem buf (d.written ++ cache B) itemsRead log)) ↔
      Contained D itemsRead d B := by
  unfold Contained
  split_ifs with hlong
  · have hrec := length_record d.original
    have hv : (d.before.take d.original.bytes.length).length = (d.original.bytes.length : ℤ).toNat := by
      rw [List.length_take, Int.toNat_natCast]
      omega
    have hstream : d.written ++ cache B = (MAGIC_BYTE :: lenBytes d.original.bytes.length) ++
        ((d.before.take d.original.bytes.length).flatMap escapeByte ++
          (((d.before.drop d.original.bytes.length).flatMap escapeByte ++
            (d.bad ++ d.after.flatMap escapeByte)) ++ cache B)) := by
      have hsplit : d.before.flatMap escapeByte =
          (d.before.take d.original.bytes.length).flatMap escapeByte ++
            (d.before.drop d.original.bytes.length).flatMap escapeByte := by
        rw [← List.flatMap_append, List.take_append_drop]
      rw [Damaged.written, hsplit]
      simp only [List.append_assoc]
    have hjunk : MAGIC_BYTE ∉ (d.before.drop d.original.bytes.length).flatMap escapeByte ++
        (d.bad ++ d.after.flatMap escapeByte) := by
      simp only [List.mem_append, not_or]
      exact ⟨magic_not_mem_escaped _, d.not_mem_bad, magic_not_mem_escaped _⟩
    rw [hstream, readOn_taken rfl (lengthOf_lenBytes hrec) hB ha hv hjunk, restores_readItem hn]
  · exact restores_aborted hB ha hn (Nat.not_le.mp hlong)

end Behind

/-! ### The whole file -/

lemma costsItself_iff_restores : CostsItself D A d B ↔
    Restores [] (A.map Record.item ++ B.map Record.item)
      (readLogCache D (cache A ++ (d.written ++ cache B))) := by
  unfold CostsItself Restores
  rw [readCacheContents_eq, List.nil_append]
  cases (readLogCache D (cache A ++ (d.written ++ cache B))).2 with
  | none =>
    constructor
    · rintro ⟨log, hlog, h⟩
      obtain rfl := Except.ok.inj hlog
      exact ⟨rfl, h⟩
    · rintro ⟨-, h⟩
      exact ⟨_, rfl, h⟩
  | some e =>
    refine iff_of_false ?_ ?_
    · rintro ⟨log, hlog, -⟩
      cases hlog
    · rintro ⟨hnone, -⟩
      cases hnone

section Whole

variable (hA : ∀ rec ∈ A, rec.item.Restorable) (hB : ∀ rec ∈ B, rec.item.Restorable)
include hA hB

/-- Below the limit of the reader the damage decides. -/
lemma costsItself_iff_contained (ha : A.length ≤ 2 * MAXLOGENTRIES)
    (hn : A.length + B.length ≤ 2 * MAXLOGENTRIES + 1) :
    CostsItself D A d B ↔ Contained D A.length d B := by
  obtain ⟨buf, hread⟩ := readOn_cache (D := D) hA 0 (by rw [Nat.zero_add]; exact ha)
    (fun _ => 0) (d.written ++ cache B) []
  have hdamaged : Restores (A.map Record.item) (B.map Record.item)
      (readOn D (nextItem buf (d.written ++ cache B) A.length (A.map Record.item))) ↔
        Contained D A.length d B := restores_damaged hB ha hn
  rw [costsItself_iff_restores, readLogCache_eq, hread, ← hdamaged, Nat.zero_add, List.nil_append]
  rfl

/-- **When a damaged record costs only itself**: if and only if the reader does not reach its limit,
and the damage does not reach the records behind it (or the limit comes before the damage). -/
theorem costsItself_iff (D : Utf8.Decoder) (d : Damaged) :
    CostsItself D A d B ↔ A.length + B.length ≤ 2 * MAXLOGENTRIES + 1 ∧
      (A.length = 2 * MAXLOGENTRIES + 1 ∨ Contained D A.length d B) := by
  by_cases hn : A.length + B.length ≤ 2 * MAXLOGENTRIES + 1
  · rw [and_iff_right hn]
    by_cases ha : A.length ≤ 2 * MAXLOGENTRIES
    · rw [costsItself_iff_contained hA hB ha hn, or_iff_right (by omega)]
    · have hlength : A.length = 2 * MAXLOGENTRIES + 1 := by omega
      obtain rfl : B = [] := List.eq_nil_of_length_eq_zero (by omega)
      refine iff_of_true ?_ (.inl hlength)
      rw [costsItself_iff_restores, readLogCache_eq, readOn_cache_many hA (Nat.zero_le _)
        (by omega), restores_iff, List.take_of_length_le (by rw [List.length_map]; omega),
        List.map_nil, List.append_nil]
  · refine iff_of_false (fun h => ?_) fun h => hn h.1
    obtain ⟨-, hsublist⟩ := costsItself_iff_restores.mp h
    have hle := hsublist.length_le.trans (length_readLogCache D _)
    rw [List.nil_append, List.length_append, List.length_map, List.length_map] at hle
    exact hn hle

end Whole

/-! ### A damaged line of the log -/

lemma countItem_restorable : ∀ rec ∈ [countRecord], rec.item.Restorable := by
  rw [List.forall_mem_singleton]
  refine ⟨by decide, ?_, by decide⟩
  intro args hargs
  obtain rfl := Option.some.inj hargs
  refine ⟨by decide, by decide, ?_⟩
  rw [List.forall_mem_singleton]
  trivial

/-- The line with a number, of which two bytes after the first `n` were replaced. -/
def damagedCount (n : ℕ) (h : ((countRecord.bytes.take n).flatMap escapeByte ++
    ([0x56, 0x02] ++ (countRecord.bytes.drop (n + 2)).flatMap escapeByte)).length =
      countRecord.payload.length) : Damaged where
  original := countRecord
  before := countRecord.bytes.take n
  bad := [0x56, 0x02]
  after := countRecord.bytes.drop (n + 2)
  invalid := .inr ⟨0x02, rfl, by decide, by decide, by decide⟩
  replaced := h

/-- The time of the line is damaged: the bytes that follow are taken for a large length. -/
theorem costsItself_iff_time : CostsItself byteDecoder [countRecord]
    (damagedCount 1 (by decide)) [countRecord] ↔
      [countRecord].length + [countRecord].length ≤ 2 * MAXLOGENTRIES + 1 ∧
      ([countRecord].length = 2 * MAXLOGENTRIES + 1 ∨
        Contained byteDecoder [countRecord].length (damagedCount 1 (by decide)) [countRecord]) :=
  costsItself_iff countItem_restorable countItem_restorable byteDecoder (damagedCount 1 (by decide))

/-- The number of the line is damaged at its end: the magic byte of the next line is taken for a
byte of a length. The resource of the line is damaged: an item of no bytes is made of it. -/
theorem not_costsItself :
    ¬ CostsItself byteDecoder [countRecord] (damagedCount 33 (by decide)) [countRecord] ∧
    ¬ CostsItself byteDecoder [countRecord] (damagedCount 19 (by decide)) [countRecord] := by
  have hlimit : [countRecord].length + [countRecord].length ≤ 2 * MAXLOGENTRIES + 1 := by decide
  have hone : [countRecord].length ≤ 2 * MAXLOGENTRIES := by decide
  constructor
  · rw [costsItself_iff_contained countItem_restorable countItem_restorable hone hlimit, Contained,
      if_neg (by decide), Resumes, if_pos (by decide)]
    rintro (h | h)
    · exact absurd h (by decide)
    · cases h
  · rw [costsItself_iff_contained countItem_restorable countItem_restorable hone hlimit, Contained,
      if_neg (by decide), Resumes, if_neg (by decide)]
    rintro (h | ⟨w, u, hsplit, hw, h⟩)
    · exact absurd h (by decide)
    have hzero : w = [0, 0, 0, 0] := by
      have htake := congrArg (List.take 4) hsplit
      rw [List.take_append_of_le_length hw.ge, List.take_of_length_le hw.le] at htake
      rw [← htake]
      decide
    obtain rfl := hzero
    have hlen : lengthOf [0, 0, 0, 0] = 0 := by decide
    rw [hlen] at h
    rcases h with ⟨hlong, -⟩ | ⟨-, -, item, hof, -⟩
    · omega
    · have hlarge := le_length_of_ofBytes hof
      rw [length_taken] at hlarge
      exact absurd hlarge (by decide)

end BuludTechVPN.LogCache
