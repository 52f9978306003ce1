import BuludTechVPN.PaddedItem
import BuludTechVPN.RestoredLog

/-!
A cache file that ends within a record, as a crash leaves it.

The reader does not notice the end of the file in the bytes of an item: it decodes the item with
the byte `-1` in place of each of the lost ones.
-/

namespace BuludTechVPN.LogCache

open JavaLang LogFileHandler

/-- The records that are completely contained in a file that begins with them. -/
def complete : List Record → Bytes → List Record
  | [], _ => []
  | rec :: records, file =>
    if rec.written <+: file then rec :: complete records (file.drop rec.written.length) else []

/-- A record without the last `m` bytes of its item. -/
def Record.cutBefore (rec : Record) (m : ℕ) : Bytes :=
  (MAGIC_BYTE :: lenBytes rec.bytes.length) ++
    (rec.bytes.take (rec.bytes.length - m)).flatMap escapeByte

/-- A record that ends between the two bytes of an escape sequence, after `d` bytes of its
item. -/
def Record.cutInEscape (rec : Record) (d : ℕ) : Bytes :=
  (MAGIC_BYTE :: lenBytes rec.bytes.length) ++
    ((rec.bytes.take d).flatMap escapeByte ++ [MAGIC_BYTE + 1])

/-- The file ends within the value of the last argument of an item. -/
def EndsInLastArgument (records : List Record) (file : Bytes) : Prop :=
  ∃ rec m, records[(complete records file).length]? = some rec ∧ 1 ≤ m ∧
    file = cache (complete records file) ++ rec.cutBefore m ∧ rec.item.SurvivesLoss m

variable {D : Utf8.Decoder} {itemsRead k m : ℕ} {buf : Buffer} {cut file : Bytes}
  {log : List LogItem} {records : List Record} {rec : Record}

/-! ### Where the file can end -/

lemma cut_decomposition (hbegins : file <+: cache records) (hcut : file ≠ cache records) :
    ∃ rec others cut, records = complete records file ++ rec :: others ∧
      file = cache (complete records file) ++ cut ∧
      cut <+: rec.written ∧ cut ≠ rec.written := by
  induction records generalizing file with
  | nil => exact absurd (List.prefix_nil.mp hbegins) hcut
  | cons r records ih =>
    rw [cache_cons] at hbegins hcut
    rw [complete]
    split_ifs with hr
    · obtain ⟨file', rfl⟩ := hr
      rw [List.prefix_append_right_inj] at hbegins
      obtain ⟨rec, others, cut, hrecords, hfile, hcutp⟩ :=
        ih hbegins fun h => hcut (congrArg (r.written ++ ·) h)
      rw [List.drop_left]
      refine ⟨rec, others, cut, ?_, ?_, hcutp⟩
      · rw [List.cons_append, ← hrecords]
      · rw [cache_cons, List.append_assoc, ← hfile]
    · refine ⟨r, records, file, rfl, rfl, ?_, fun h => hr (h ▸ List.prefix_refl _)⟩
      exact (List.prefix_or_prefix_of_prefix hbegins (List.prefix_append _ _)).resolve_right hr

/-- An escaped text ends after a byte of it or within an escape sequence. -/
lemma prefix_of_escaped {bytes cut : Bytes} (h : cut <+: bytes.flatMap escapeByte) :
    (∃ d ≤ bytes.length, cut = (bytes.take d).flatMap escapeByte) ∨
      ∃ d < bytes.length, cut = (bytes.take d).flatMap escapeByte ++ [MAGIC_BYTE + 1] := by
  induction bytes generalizing cut with
  | nil => exact .inl ⟨0, le_rfl, List.prefix_nil.mp h⟩
  | cons b bytes ih =>
    rw [List.flatMap_cons] at h
    have hlong : ∀ cut', cut = escapeByte b ++ cut' → cut' <+: bytes.flatMap escapeByte →
        (∃ d ≤ (b :: bytes).length, cut = ((b :: bytes).take d).flatMap escapeByte) ∨
        ∃ d < (b :: bytes).length,
          cut = ((b :: bytes).take d).flatMap escapeByte ++ [MAGIC_BYTE + 1] := by
      rintro cut' rfl h'
      rcases ih h' with ⟨d, hd, rfl⟩ | ⟨d, hd, rfl⟩
      · exact .inl ⟨d + 1, Nat.succ_le_succ hd, rfl⟩
      · refine .inr ⟨d + 1, Nat.succ_lt_succ hd, ?_⟩
        rw [List.take_succ_cons, List.flatMap_cons, List.append_assoc]
    unfold escapeByte at h hlong
    obtain _ | ⟨c, cut⟩ := cut
    · exact .inl ⟨0, Nat.zero_le _, rfl⟩
    split_ifs at h hlong
    · rw [List.cons_append, List.cons_prefix_cons] at h
      obtain ⟨rfl, h⟩ := h
      obtain _ | ⟨c, cut⟩ := cut
      · exact .inr ⟨0, Nat.succ_pos _, rfl⟩
      · rw [List.cons_append, List.cons_prefix_cons] at h
        obtain ⟨rfl, h⟩ := h
        exact hlong cut rfl h
    · rw [List.cons_append, List.cons_prefix_cons] at h
      obtain ⟨rfl, h⟩ := h
      exact hlong cut rfl h

/-- **Where a record can end**: within its first five bytes, before some bytes of its item, or
within an escape sequence. -/
lemma cut_cases (hbegins : cut <+: rec.written) (hcut : cut ≠ rec.written) :
    cut.length < 5 ∨ (∃ m, 1 ≤ m ∧ m ≤ rec.bytes.length ∧ cut = rec.cutBefore m) ∨
      ∃ d < rec.bytes.length, cut = rec.cutInEscape d := by
  by_cases hshort : cut.length < 5
  · exact .inl hshort
  right
  have hwritten : rec.written =
      (MAGIC_BYTE :: lenBytes rec.bytes.length) ++ rec.bytes.flatMap escapeByte := rfl
  rw [hwritten] at hbegins hcut
  obtain ⟨tail, rfl⟩ : MAGIC_BYTE :: lenBytes rec.bytes.length <+: cut := by
    refine List.prefix_of_prefix_length_le (List.prefix_append _ _) hbegins ?_
    exact Nat.not_lt.mp hshort
  rw [List.prefix_append_right_inj] at hbegins
  rcases prefix_of_escaped hbegins with ⟨d, hd, rfl⟩ | ⟨d, hd, rfl⟩
  · left
    have hne : d ≠ rec.bytes.length := by
      rintro rfl
      rw [List.take_length] at hcut
      exact hcut rfl
    refine ⟨rec.bytes.length - d, by omega, by omega, ?_⟩
    rw [Record.cutBefore, Nat.sub_sub_self hd]
  · exact .inr ⟨d, hd, rfl⟩

/-! ### What is read of it -/

lemma fill_append (buf2 : Buffer) (pos : ℕ) (bytes rest : Bytes) :
    fill buf2 pos (bytes ++ rest) = fill (fill buf2 pos bytes) (pos + bytes.length) rest := by
  induction bytes generalizing buf2 pos with
  | nil => rfl
  | cons b bytes ih =>
    rw [List.cons_append, fill, fill, ih, List.length_cons, Nat.add_right_comm, Nat.add_assoc]

/-- At the end of the file the payload loop goes on with bytes that are not there. -/
lemma readPayload_exhausted (room pos k : ℕ) (buf2 : Buffer) (hroom : k ≤ room) :
    readPayload ((pos + k : ℕ) : ℤ) room pos buf2 [] =
      .ok (.item (fill buf2 pos (List.replicate k 0xFF)), []) := by
  induction k generalizing room pos buf2 with
  | zero => exact readPayload_end
  | succ k ih =>
    obtain ⟨room, rfl⟩ : ∃ i, room = i + 1 := ⟨room - 1, by omega⟩
    rw [readPayload, if_pos (by push_cast; omega)]
    have hbyte : unescape [] = (.byte 0xFF, []) := rfl
    rw [hbyte]
    have hnext := ih room (pos + 1) (store buf2 pos 0xFF) (Nat.le_of_succ_le_succ hroom)
    rw [Nat.add_right_comm] at hnext
    exact hnext

/-- **The payload of a record that was cut off** is that of an item with other last bytes. -/
lemma readPayload_cutBefore (hm : m ≤ rec.bytes.length) :
    readPayload rec.bytes.length bufLength 0 (fun _ => 0)
        ((rec.bytes.take (rec.bytes.length - m)).flatMap escapeByte) =
      .ok (.item (contents (pad m rec.bytes)), []) := by
  have hlen : (rec.bytes.take (rec.bytes.length - m)).length = rec.bytes.length - m := by
    rw [List.length_take]
    omega
  have hrec := length_record rec
  have hread : readPayload rec.bytes.length bufLength 0 (fun _ => 0)
      ((rec.bytes.take (rec.bytes.length - m)).flatMap escapeByte ++ []) = _ :=
    readPayload_append [] (by rw [hlen]; push_cast; omega) (by rw [hlen]; omega)
  rw [List.append_nil, hlen, Nat.zero_add] at hread
  have hrest := readPayload_exhausted (bufLength - (rec.bytes.length - m))
    (rec.bytes.length - m) m
    (fill (fun _ => 0) 0 (rec.bytes.take (rec.bytes.length - m))) (by omega)
  rw [Nat.sub_add_cancel hm] at hrest
  rw [hread, hrest, ← fill_zero, pad, fill_append, hlen, Nat.zero_add]

/-- **A record that was cut off before some bytes of its item**: what these bytes are replaced by
decides. -/
lemma readOn_cutBefore (h1 : 1 ≤ m) (hm : m ≤ rec.bytes.length) :
    (rec.item.SurvivesLoss m → ∃ item,
      (readOn D (nextItem buf (rec.cutBefore m) itemsRead log)).1 = log ++ [item]) ∧
    (¬ rec.item.SurvivesLoss m →
      (readOn D (nextItem buf (rec.cutBefore m) itemsRead log)).1 = log) := by
  have hp := readPayload_cutBefore hm
  have hpad := length_pad hm
  have hlen := hpad.trans (Int.toNat_natCast _).symm
  have hroom := hpad.trans_le (length_record rec)
  have hw := lengthOf_lenBytes (length_record rec)
  rw [← ofBytes_pad (D := D) rec.marschaled h1 hm, Record.cutBefore]
  cases hof : ofBytes D (pad m rec.bytes) rec.bytes.length with
  | error e =>
    rw [readOn_head_error rfl hw hp hlen hroom hof]
    refine ⟨?_, fun _ => rfl⟩
    rintro ⟨_, h, -⟩
    cases h
  | ok item =>
    obtain ⟨buf', hread⟩ := readOn_head_item rfl hw hp hlen hroom hof
    rw [hread, readOn_nil]
    constructor
    · rintro ⟨_, h, hverify⟩
      obtain rfl := Except.ok.inj h
      exact ⟨item, if_pos hverify⟩
    · intro hnone
      exact if_neg fun hverify => hnone ⟨item, rfl, hverify⟩

/-- A record that was cut off within an escape sequence is aborted. -/
lemma readOn_cutInEscape {d : ℕ} (hd : d < rec.bytes.length) :
    (readOn D (nextItem buf (rec.cutInEscape d) itemsRead log)).1 = log := by
  have hlen : (rec.bytes.take d).length = d := by
    rw [List.length_take]
    omega
  have hrec := length_record rec
  have hpayload : readPayload rec.bytes.length bufLength 0 (fun _ => 0)
      ((rec.bytes.take d).flatMap escapeByte ++ [MAGIC_BYTE + 1]) =
        .ok (.aborted (.badEscape 0xFF), []) := by
    rw [readPayload_append _ (by rw [hlen]; push_cast; omega) (by rw [hlen]; omega), hlen]
    unfold readPayload
    rw [if_pos (by push_cast; omega)]
    rfl
  obtain ⟨buf', hread⟩ := readOn_head_aborted (D := D) rfl (lengthOf_lenBytes hrec) hpayload
  rw [Record.cutInEscape, hread, readOn_short (by decide : [MAGIC_BYTE].length < 5)]

/-! ### The whole file -/

/-- **A file that was cut off** restores its whole records, up to the limit of the reader, and
nothing else, unless it ends within the value of the last argument of an item. -/
theorem readLogCache_cut (D : Utf8.Decoder) (hbegins : file <+: cache records)
    (hcut : file ≠ cache records) (h : ∀ rec ∈ complete records file, rec.item.Restorable) :
    ((complete records file).length ≤ 2 * MAXLOGENTRIES → EndsInLastArgument records file →
      ∃ item, (readLogCache D file).1 = (complete records file).map Record.item ++ [item]) ∧
    ((complete records file).length ≤ 2 * MAXLOGENTRIES → ¬ EndsInLastArgument records file →
      (readLogCache D file).1 = (complete records file).map Record.item) ∧
    (2 * MAXLOGENTRIES < (complete records file).length → (readLogCache D file).1 =
      ((complete records file).take (2 * MAXLOGENTRIES + 1)).map Record.item) := by
  obtain ⟨rec, others, cut, hrecords, hfile, hcutp, hcutne⟩ := cut_decomposition hbegins hcut
  have hnext : records[(complete records file).length]? = some rec := by
    generalize complete records file = done at hrecords
    rw [hrecords, List.getElem?_append_right le_rfl, Nat.sub_self]
    rfl
  refine ⟨?_, ?_, ?_⟩
  · rintro hn ⟨rec', m, hrec', h1, hends, hsurvives⟩
    rw [hnext] at hrec'
    obtain rfl := Option.some.inj hrec'
    have hm : m ≤ rec.bytes.length := by
      obtain ⟨level, -, -, hbytes⟩ := getMarschaledBytes_eq_ok.mp rec.marschaled
      rw [hbytes, List.length_append]
      exact (LogItem.le_body_of_survives hsurvives).trans (Nat.le_add_left _ _)
    obtain ⟨buf, hread⟩ := readOn_cache (D := D) h 0 (by omega) (fun _ => 0)
      (rec.cutBefore m) []
    rw [← hends] at hread
    rw [readLogCache_eq, hread, ← List.nil_append ((complete records file).map Record.item)]
    exact (readOn_cutBefore h1 hm).1 hsurvives
  · intro hn hends
    obtain ⟨buf, hread⟩ := readOn_cache (D := D) h 0 (by omega) (fun _ => 0) cut []
    rw [← hfile] at hread
    rw [readLogCache_eq, hread, ← List.nil_append ((complete records file).map Record.item)]
    rcases cut_cases hcutp hcutne with hshort | ⟨m, h1, hm, rfl⟩ | ⟨d, hd, rfl⟩
    · rw [readOn_short hshort, List.nil_append]
    · exact (readOn_cutBefore h1 hm).2 fun hsurvives =>
        hends ⟨rec, m, hnext, h1, hfile, hsurvives⟩
    · exact readOn_cutInEscape hd
  · intro hn
    have hread := readOn_cache_many (D := D) h (Nat.zero_le _) (by omega) (fun _ => 0) cut []
    rw [← hfile] at hread
    rw [readLogCache_eq, hread, List.nil_append, List.map_take]
    rfl

/-- **A cache that was cut off yields no phantom lines** if and only if the items of its whole
records can be restored, the reader's limit is not exceeded, and the file does not end within the
value of the last argument of an item. -/
theorem cut_cache_restored (D : Utf8.Decoder) (hbegins : file <+: cache records)
    (hcut : file ≠ cache records) :
    (readLogCache D file).1 = (complete records file).map Record.item ↔
      (∀ rec ∈ complete records file, rec.item.Restorable) ∧
      (complete records file).length ≤ 2 * MAXLOGENTRIES + 1 ∧
      ((complete records file).length ≤ 2 * MAXLOGENTRIES →
        ¬ EndsInLastArgument records file) := by
  constructor
  · intro hread
    have hrest : ∀ rec ∈ complete records file, rec.item.Restorable := by
      intro rec hrec
      refine restored_restorable D file rec.item ?_
      rw [hread]
      exact List.mem_map_of_mem hrec
    obtain ⟨hphantom, -, hmany⟩ := readLogCache_cut D hbegins hcut hrest
    refine ⟨hrest, Nat.not_lt.mp fun hlt => ?_, fun hn hends => ?_⟩
    · have hlen := congrArg List.length ((hmany (by omega)).symm.trans hread)
      rw [List.length_map, List.length_map, List.length_take] at hlen
      omega
    · obtain ⟨item, hitem⟩ := hphantom hn hends
      have hlen := congrArg List.length (hitem.symm.trans hread)
      rw [List.length_append, List.length_singleton] at hlen
      omega
  · rintro ⟨hrest, hle, hends⟩
    obtain ⟨-, hclean, hmany⟩ := readLogCache_cut D hbegins hcut hrest
    by_cases hn : (complete records file).length ≤ 2 * MAXLOGENTRIES
    · exact hclean hn (hends hn)
    · rw [hmany (Nat.not_le.mp hn), List.take_of_length_le hle]

/-- A line of the log with a number. -/
def countItem : LogItem where
  mArgs := some [.integer 7]
  mMessage := none
  mRessourceId := 0x7f100001
  mLevel := some .info
  logtime := 1500000000000
  mVerbosityLevel := 1

def countRecord : Record := ⟨countItem, _, rfl⟩

theorem cut_cache_restored_count :
    (readLogCache byteDecoder (countRecord.written ++ countRecord.cutBefore 7)).1 =
        (complete [countRecord, countRecord] (countRecord.written ++ countRecord.cutBefore 7)).map
          Record.item ↔
      (∀ rec ∈ complete [countRecord, countRecord]
          (countRecord.written ++ countRecord.cutBefore 7), rec.item.Restorable) ∧
      (complete [countRecord, countRecord]
          (countRecord.written ++ countRecord.cutBefore 7)).length ≤ 2 * MAXLOGENTRIES + 1 ∧
      ((complete [countRecord, countRecord]
          (countRecord.written ++ countRecord.cutBefore 7)).length ≤ 2 * MAXLOGENTRIES →
        ¬ EndsInLastArgument [countRecord, countRecord]
          (countRecord.written ++ countRecord.cutBefore 7)) :=
  cut_cache_restored byteDecoder (by decide) (by decide)

/-- The number of the line is cut off after three of its four bytes. -/
theorem cut_cache_phantom : ¬ ∀ (D : Utf8.Decoder) (records : List Record) (file : Bytes),
    file <+: cache records → file ≠ cache records →
      (readLogCache D file).1 = (complete records file).map Record.item := by
  intro h
  have hbegins : countRecord.cutBefore 1 <+: cache [countRecord] := by decide
  have hcut : countRecord.cutBefore 1 ≠ cache [countRecord] := by decide
  have hnone : complete [countRecord] (countRecord.cutBefore 1) = [] := by
    rw [complete, if_neg (by decide)]
  have hends : EndsInLastArgument [countRecord] (countRecord.cutBefore 1) := by
    refine ⟨countRecord, 1, by rw [hnone]; rfl, le_rfl, by rw [hnone]; rfl, ?_⟩
    exact ⟨⟨.integer 7, rfl, (by decide : 1 ≤ 4)⟩, by decide, by decide⟩
  have hread := h byteDecoder [countRecord] (countRecord.cutBefore 1) hbegins hcut
  obtain ⟨item, hitem⟩ := (readLogCache_cut byteDecoder hbegins hcut (by
    rw [hnone]
    exact fun _ h => absurd h List.not_mem_nil)).1 (by rw [hnone]; decide) hends
  rw [hread, hnone] at hitem
  cases hitem

end BuludTechVPN.LogCache
