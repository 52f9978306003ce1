import BuludTechVPN.MisreadBytes

/-!
A record whose magic byte is taken for one of the bytes of a length: its item is not restored.

The rest of the record could only be taken for an item with other first bytes than its own.
-/

namespace BuludTechVPN.LogCache

open JavaLang LogFileHandler
open ByteBuffer (put length_put)

variable {D : Utf8.Decoder} {itemsRead : ℕ} {len : ℤ} {buf : Buffer} {u v w z rest : Bytes}
  {log : List LogItem} {rec : Record} {others : List Record} {level : LogLevel}

/-! ### The first bytes of an item -/

/-- The bytes of an item between its first byte and its message. -/
def fields (li : LogItem) (level : LogLevel) : Bytes :=
  put 8 li.logtime ++ (put 4 li.mVerbosityLevel ++ (put 4 level.getInt ++ put 4 li.mRessourceId))

lemma length_fields (li : LogItem) (level : LogLevel) : (fields li level).length = 20 := by
  simp only [fields, List.length_append, length_put]

lemma eq_getInt {value : BitVec 32} (h : LogLevel.getEnumByValue value = some level) :
    value = level.getInt := by
  have hfound : decide (level.getInt = value) = true :=
    List.find?_some (p := fun l : LogLevel => decide (l.getInt = value)) h
  exact (of_decide_eq_true hfound).symm

/-- The bytes of a record begin with those of its fields. -/
lemma Record.bytes_eq (rec : Record) : ∃ level, rec.item.mLevel = some level ∧
    rec.bytes = 0 :: (fields rec.item level ++ rec.item.body) := by
  obtain ⟨level, hlevel, -, hbytes⟩ := getMarschaledBytes_eq_ok.mp rec.marschaled
  refine ⟨level, hlevel, ?_⟩
  rw [hbytes, header, fields]
  simp only [List.append_assoc]
  rfl

/-- **The bytes that an item was made of** begin with those of its fields. -/
lemma fields_of_ofBytes {item : LogItem} (hv : v.length = len.toNat)
    (h : ofBytes D v len = .ok item) (hlevel : item.mLevel = some level) :
    ∃ b rest, v = b :: (fields item level ++ rest) := by
  obtain ⟨first, value, bb, body, hbytes, hvalue, -⟩ := ofBytes_fields h
  rw [← hv, List.take_length, eq_getInt (hvalue.symm.trans hlevel)] at hbytes
  refine ⟨UInt8.ofNat (first.toNat / 256 ^ 0), bb, ?_⟩
  rw [hbytes, fields]
  simp only [List.append_assoc]
  rfl

/-- An item is made of 21 bytes or more. -/
lemma le_length_of_ofBytes {item : LogItem} (h : ofBytes D v len = .ok item) : 21 ≤ v.length := by
  obtain ⟨head, bb, -, hhead, hlength, -⟩ := ofBytes_read h
  have hle := congrArg List.length hhead
  rw [List.length_append, List.length_take] at hle
  omega

/-- An item like that of a record was made of bytes like its own. -/
lemma ofBytes_record_getD (hv : v.length = len.toNat) (h : ofBytes D v len = .ok rec.item) :
    ∀ i < 20, v.getD (i + 1) 0 = rec.bytes.getD (i + 1) 0 := by
  obtain ⟨level, hlevel, hbytes⟩ := rec.bytes_eq
  obtain ⟨b, rest, rfl⟩ := fields_of_ofBytes hv h hlevel
  have hlength := length_fields rec.item level
  intro i hi
  rw [hbytes, List.getD_cons_succ, List.getD_cons_succ, List.getD_append _ _ _ _ (by omega),
    List.getD_append _ _ _ _ (by omega)]

lemma Record.length_bytes (rec : Record) : 21 ≤ rec.bytes.length := by
  obtain ⟨level, -, hbytes⟩ := rec.bytes_eq
  rw [hbytes, List.length_cons, List.length_append, length_fields]
  omega

/-- The level of an item is a small number, or a negative one. -/
lemma Record.level_bytes (rec : Record) : rec.bytes.getD 16 0 ≠ 0 ∧
    (rec.bytes.getD 13 0 = 0 → rec.bytes.getD 14 0 = 0 ∧ rec.bytes.getD 15 0 = 0) := by
  obtain ⟨level, -, hbytes⟩ := rec.bytes_eq
  have hsplit : rec.bytes =
      (0 :: (put 8 rec.item.logtime ++ put 4 rec.item.mVerbosityLevel)) ++
        (put 4 level.getInt ++ (put 4 rec.item.mRessourceId ++ rec.item.body)) := by
    rw [hbytes, fields]
    simp only [List.cons_append, List.append_assoc]
  have hhead : (0 :: (put 8 rec.item.logtime ++ put 4 rec.item.mVerbosityLevel)).length = 13 := by
    rw [List.length_cons, List.length_append, length_put, length_put]
  have hget : ∀ i < 4, rec.bytes.getD (i + 13) 0 = (put 4 level.getInt).getD i 0 := by
    intro i hi
    rw [hsplit, List.getD_append_right _ _ _ _ (by omega), hhead, Nat.add_sub_cancel,
      List.getD_append _ _ _ _ (by rw [length_put]; exact hi)]
  rw [hget 3 (by decide), hget 0 (by decide), hget 1 (by decide), hget 2 (by decide)]
  cases level <;> decide

/-! ### What could be restored of it -/

/-- The item of a record is not among one other item and fewer items than the records. -/
lemma not_sublist_shown {item : LogItem} {added : List LogItem}
    (hadded : added.length ≤ others.length) (hne : item ≠ rec.item) :
    ¬ ((rec :: others).map Record.item).Sublist (shown item ++ added) := by
  intro h
  have hle := h.length_le
  unfold shown at h hle
  split_ifs at h hle
  · have hlen : ((rec :: others).map Record.item).length = ([item] ++ added).length := by
      rw [List.length_map, List.length_cons, List.length_append, List.length_singleton] at hle ⊢
      omega
    exact hne (List.cons.inj (h.eq_of_length hlen)).1.symm
  · rw [List.length_map, List.length_cons, List.nil_append] at hle
    omega

lemma length_behind (junk : Bytes) (records : List Record) (n : ℕ) :
    (behind junk records n).length ≤ records.length := by
  unfold behind
  split_ifs
  · rw [List.length_take, List.length_map]
    exact Nat.min_le_right _ _
  · exact Nat.zero_le _

/-- What is taken for another item does not restore the record. -/
lemma not_restores_readItem {junk : Bytes}
    (hother : v.length ≤ bufLength → ofBytes D v len ≠ .ok rec.item) :
    ¬ Restores log ((rec :: others).map Record.item)
      (readItem D itemsRead log len v junk others) := by
  unfold readItem
  split_ifs with hroom
  · exact not_restores
  cases hof : ofBytes D v len with
  | error e => exact not_restores
  | ok item =>
    dsimp only
    rw [restores_iff]
    refine not_sublist_shown (length_behind _ _ _) ?_
    rintro rfl
    exact hother (Nat.not_lt.mp hroom) hof

lemma not_restores_readBytes
    (hother : len.toNat ≤ bufLength → ofBytes D (taken len u) len ≠ .ok rec.item) :
    ¬ Restores log ((rec :: others).map Record.item) (readBytes D itemsRead log len u others) := by
  unfold readBytes
  split_ifs
  · rw [restores_iff]
    intro h
    have hle := h.length_le
    rw [List.length_map, List.length_cons, List.length_take, List.length_map] at hle
    omega
  · exact not_restores
  · exact not_restores_readItem fun hroom => hother (length_taken len u ▸ hroom)

/-! ### The bytes of the record at other places -/

section Shifted

variable (hof : ofBytes D (taken len u) len = .ok rec.item)
include hof

lemma length_of_taken : 21 ≤ len.toNat := length_taken len u ▸ le_length_of_ofBytes hof

/-- The bytes that the item of a record was taken from are like its own. -/
lemma getD_of_taken {i : ℕ} (hi : i < 20) (hu : i + 1 < u.length) :
    u.getD (i + 1) 0 = rec.bytes.getD (i + 1) 0 := by
  have hlen := length_of_taken hof
  have htake : i + 1 < (u.take len.toNat).length := by
    rw [List.length_take]
    omega
  rw [← ofBytes_record_getD (length_taken len u) hof i hi, taken,
    List.getD_append _ _ _ _ htake, List.getD_eq_getElem _ _ hu, List.getD_eq_getElem _ _ htake,
    List.getElem_take]

end Shifted

/-- Behind the bytes of its length. -/
lemma not_taken_behind_length {b c d : UInt8} :
    ofBytes D (taken len (0 :: b :: c :: d :: rec.bytes)) len ≠ .ok rec.item := by
  intro hof
  have hlength := rec.length_bytes
  have hperiod : ∀ j < 17, rec.bytes.getD (j + 4) 0 = rec.bytes.getD j 0 := fun j hj =>
    (getD_of_taken hof (i := j + 3) (by omega) (by simp only [List.length_cons]; omega)).symm
  obtain ⟨level, -, hbytes⟩ := rec.bytes_eq
  have hzero : rec.bytes.getD 0 0 = 0 := by rw [hbytes]; rfl
  refine rec.level_bytes.1 ?_
  rw [hperiod 12 (by decide), hperiod 8 (by decide), hperiod 4 (by decide),
    hperiod 0 (by decide), hzero]

/-- Behind the bytes of its length, the last of which and the first of its own are read as one. -/
lemma not_taken_behind_escape {b c d : UInt8} :
    ofBytes D (taken len (d :: 0 :: b :: c :: rec.bytes.tail)) len ≠ .ok rec.item := by
  intro hof
  obtain ⟨level, -, hbytes⟩ := rec.bytes_eq
  have hlength := rec.length_bytes
  have hperiod : ∀ j < 17, rec.bytes.getD (j + 4) 0 = rec.bytes.getD (j + 1) 0 := by
    intro j hj
    have hget := getD_of_taken hof (i := j + 3) (by omega) (by
      simp only [List.length_cons, List.length_tail]
      omega)
    rw [← hget, hbytes]
    rfl
  have hzero : rec.bytes.getD 1 0 = 0 :=
    (getD_of_taken hof (i := 0) (by decide) (by simp only [List.length_cons]; omega)).symm
  refine rec.level_bytes.1 ?_
  rw [hperiod 12 (by decide), hperiod 9 (by decide), hperiod 6 (by decide),
    hperiod 3 (by decide), hperiod 0 (by decide), hzero]

/-- The bytes of the record from the second on, after another one. -/
lemma not_taken_shifted_three {c : UInt8} (h1 : rec.bytes.getD 1 0 = 0) :
    ofBytes D (taken len (c :: rec.bytes.drop 4)) len ≠ .ok rec.item := by
  intro hof
  have hlength := rec.length_bytes
  have hperiod : ∀ j < 16, rec.bytes.getD (j + 4) 0 = rec.bytes.getD (j + 1) 0 := by
    intro j hj
    have hget := getD_of_taken hof (i := j) (by omega) (by
      rw [List.length_cons, List.length_drop]
      omega)
    rw [← hget, List.getD_cons_succ, List.getD_eq_getElem?_getD, List.getD_eq_getElem?_getD,
      List.getElem?_drop, Nat.add_comm]
  refine rec.level_bytes.1 ?_
  rw [hperiod 12 (by decide), hperiod 9 (by decide), hperiod 6 (by decide),
    hperiod 3 (by decide), hperiod 0 (by decide), h1]

lemma lengthOf_eq (a b c d : UInt8) : lengthOf [a, b, c, d] =
    toInt (a.toNat * 2 ^ 24 + b.toNat * 2 ^ 16 + c.toNat * 2 ^ 8 + d.toNat) := rfl

lemma lengthOf_zero (b c d : UInt8) :
    lengthOf [0, b, c, d] = b.toNat * 2 ^ 16 + c.toNat * 2 ^ 8 + d.toNat := by
  have hb := b.toNat_lt
  have hc := c.toNat_lt
  have hd := d.toNat_lt
  rw [lengthOf_eq, toInt_of_range]
  · simp
  · simp only [UInt8.toNat_zero]
    omega
  · simp only [UInt8.toNat_zero]
    omega

/-- The first bytes of the record as a length. -/
lemma not_taken_shifted_four
    (hlen : len = lengthOf [0, rec.bytes.getD 1 0, rec.bytes.getD 2 0, rec.bytes.getD 3 0])
    (hroom : len.toNat ≤ bufLength) :
    ofBytes D (taken len (rec.bytes.drop 4)) len ≠ .ok rec.item := by
  intro hof
  have hlength := rec.length_bytes
  have hperiod : ∀ j < 16, rec.bytes.getD (j + 5) 0 = rec.bytes.getD (j + 1) 0 := by
    intro j hj
    have hget := getD_of_taken hof (i := j) (by omega) (by
      rw [List.length_drop]
      omega)
    rw [← hget, List.getD_eq_getElem?_getD, List.getD_eq_getElem?_getD, List.getElem?_drop]
    congr 2
    omega
  have h13 : rec.bytes.getD 13 0 = rec.bytes.getD 1 0 := by
    rw [hperiod 8 (by decide), hperiod 4 (by decide), hperiod 0 (by decide)]
  have h14 : rec.bytes.getD 14 0 = rec.bytes.getD 2 0 := by
    rw [hperiod 9 (by decide), hperiod 5 (by decide), hperiod 1 (by decide)]
  have h15 : rec.bytes.getD 15 0 = rec.bytes.getD 3 0 := by
    rw [hperiod 10 (by decide), hperiod 6 (by decide), hperiod 2 (by decide)]
  have hlarge := length_of_taken hof
  have hlevel := rec.level_bytes.2
  rw [h13, h14, h15] at hlevel
  generalize rec.bytes.getD 1 0 = t1, rec.bytes.getD 2 0 = t2, rec.bytes.getD 3 0 = t3 at *
  rw [lengthOf_zero] at hlen
  have hzero : t1 = 0 := by
    rw [← UInt8.toNat_inj]
    simp only [bufLength, UInt8.toNat_zero] at hroom hlen ⊢
    omega
  obtain ⟨rfl, rfl⟩ := hlevel hzero
  rw [hzero] at hlen
  exact absurd hlarge (by rw [hlen]; decide)

/-- The length of a record has small numbers in it, up to its last byte. -/
lemma lenBytes_eq {n : ℕ} (hn : n ≤ bufLength) :
    ∃ hi lo : UInt8, hi.toNat ≤ 64 ∧ lenBytes n = [0, 0, hi, lo] := by
  unfold bufLength at hn
  have h24 : n / 2 ^ 24 = 0 := by omega
  have h16 : n / 2 ^ 16 = 0 := by omega
  refine ⟨UInt8.ofNat (n / 2 ^ 8), UInt8.ofNat n, ?_, by rw [lenBytes, h24, h16]; rfl⟩
  rw [UInt8.toNat_ofNat']
  omega

/-! ### What is read of it -/

lemma escapeByte_special {b : UInt8} (h : b = MAGIC_BYTE ∨ b = MAGIC_BYTE + 1) :
    escapeByte b = [MAGIC_BYTE + 1, b - MAGIC_BYTE] := if_pos h

lemma escapeByte_plain {b : UInt8} (h : ¬ (b = MAGIC_BYTE ∨ b = MAGIC_BYTE + 1)) :
    escapeByte b = [b] := if_neg h

/-- The second byte of an escape sequence is escaped by itself. -/
lemma escapeByte_second {b : UInt8} (h : b = MAGIC_BYTE ∨ b = MAGIC_BYTE + 1) :
    escapeByte (b - MAGIC_BYTE) = [b - MAGIC_BYTE] := by
  rcases h with rfl | rfl
  · decide
  · decide

/-- Escaped bytes without the first of them are escaped bytes. -/
lemma escaped_drop (bytes : Bytes) (k : ℕ) :
    ∃ u : Bytes, (bytes.flatMap escapeByte).drop k = u.flatMap escapeByte := by
  induction bytes generalizing k with
  | nil => exact ⟨[], List.drop_nil⟩
  | cons b bytes ih =>
    by_cases hb : b = MAGIC_BYTE ∨ b = MAGIC_BYTE + 1
    · rw [List.flatMap_cons, escapeByte_special hb]
      match k with
      | 0 => exact ⟨b :: bytes, by rw [List.flatMap_cons, escapeByte_special hb]; rfl⟩
      | 1 => exact ⟨(b - MAGIC_BYTE) :: bytes, by rw [List.flatMap_cons, escapeByte_second hb]; rfl⟩
      | k + 2 => exact ih k
    · rw [List.flatMap_cons, escapeByte_plain hb]
      match k with
      | 0 => exact ⟨b :: bytes, by rw [List.flatMap_cons, escapeByte_plain hb]; rfl⟩
      | k + 1 => exact ih k

section Swallowed

variable (hothers : ∀ rec ∈ others, rec.item.Restorable) (ha : itemsRead ≤ 2 * MAXLOGENTRIES)
include hothers ha

lemma not_restores_of_bytes (hw : w.length = 4)
    (hother : (lengthOf w).toNat ≤ bufLength →
      ofBytes D (taken (lengthOf w) u) (lengthOf w) ≠ .ok rec.item) :
    ¬ Restores log ((rec :: others).map Record.item)
      (readOn D (nextItem buf (MAGIC_BYTE :: (w ++ u.flatMap escapeByte ++ cache others))
        itemsRead log)) := by
  have hstream : MAGIC_BYTE :: (w ++ u.flatMap escapeByte ++ cache others) =
      (MAGIC_BYTE :: w) ++ (u.flatMap escapeByte ++ cache others) := by
    rw [List.cons_append, List.append_assoc]
  rw [hstream, readOn_bytes hw rfl hothers ha]
  exact not_restores_readBytes hother

/-- **The bytes of a record without its length**: the first of them are taken for a length. -/
lemma not_restores_payload :
    ¬ Restores log ((rec :: others).map Record.item)
      (readOn D (nextItem buf (MAGIC_BYTE :: (rec.payload ++ cache others)) itemsRead log)) := by
  obtain ⟨level, -, hbytes⟩ := rec.bytes_eq
  obtain ⟨t1, t2, t3, t4, tail, hrec⟩ : ∃ t1 t2 t3 t4 tail,
      rec.bytes = 0 :: t1 :: t2 :: t3 :: t4 :: tail := ⟨_, _, _, _, _, hbytes⟩
  obtain ⟨u, hu⟩ := escaped_drop rec.bytes 4
  have hsplit : rec.payload = rec.payload.take 4 ++ u.flatMap escapeByte := by
    rw [← hu]
    exact (List.take_append_drop 4 rec.payload).symm
  have hlong : ∀ w, rec.payload.take 4 = w → w.length = 4 → bufLength < (lengthOf w).toNat →
      ¬ Restores log ((rec :: others).map Record.item)
        (readOn D (nextItem buf (MAGIC_BYTE :: (rec.payload ++ cache others)) itemsRead log)) := by
    intro w htake hw hlarge
    rw [hsplit, htake]
    exact not_restores_of_bytes hothers ha hw fun hroom => absurd hroom (Nat.not_le.mpr hlarge)
  have hpayload : rec.payload = 0 :: (escapeByte t1 ++ (escapeByte t2 ++ (escapeByte t3 ++
      (escapeByte t4 ++ tail.flatMap escapeByte)))) := by
    rw [Record.payload, hrec]
    rfl
  have hmagic : (MAGIC_BYTE + 1).toNat = 86 := by decide
  by_cases h1 : t1 = MAGIC_BYTE ∨ t1 = MAGIC_BYTE + 1
  · obtain ⟨y, ys, hy⟩ : ∃ y ys, escapeByte t2 = y :: ys := by
      unfold escapeByte
      split_ifs
      · exact ⟨_, _, rfl⟩
      · exact ⟨_, _, rfl⟩
    refine hlong [0, MAGIC_BYTE + 1, t1 - MAGIC_BYTE, y] ?_ rfl ?_
    · rw [hpayload, escapeByte_special h1, hy]
      rfl
    · rw [lengthOf_zero, hmagic, bufLength]
      omega
  by_cases h2 : t2 = MAGIC_BYTE ∨ t2 = MAGIC_BYTE + 1
  · refine hlong [0, t1, MAGIC_BYTE + 1, t2 - MAGIC_BYTE] ?_ rfl ?_
    · rw [hpayload, escapeByte_plain h1, escapeByte_special h2]
      rfl
    · rw [lengthOf_zero, hmagic, bufLength]
      omega
  by_cases h3 : t3 = MAGIC_BYTE ∨ t3 = MAGIC_BYTE + 1
  · have hsplit : rec.payload = [0, t1, t2, MAGIC_BYTE + 1] ++
        ((t3 - MAGIC_BYTE) :: rec.bytes.drop 4).flatMap escapeByte := by
      rw [hpayload, escapeByte_plain h1, escapeByte_plain h2, escapeByte_special h3, hrec,
        List.flatMap_cons, escapeByte_second h3]
      rfl
    rw [hsplit]
    refine not_restores_of_bytes hothers ha rfl fun hroom => not_taken_shifted_three ?_
    rw [lengthOf_zero, bufLength] at hroom
    rw [hrec, List.getD_cons_succ, List.getD_cons_zero, ← UInt8.toNat_inj, UInt8.toNat_zero]
    omega
  · have hsplit : rec.payload = [0, t1, t2, t3] ++ (rec.bytes.drop 4).flatMap escapeByte := by
      rw [hpayload, escapeByte_plain h1, escapeByte_plain h2, escapeByte_plain h3, hrec]
      rfl
    rw [hsplit]
    refine not_restores_of_bytes hothers ha rfl (not_taken_shifted_four ?_)
    rw [hrec]
    rfl

/-- The bytes of a record from a part of its length on. -/
lemma not_restores_length {lo : UInt8} (hw : w.length = 4) (hz : z.length ≤ 3)
    (hplain : z.flatMap escapeByte = z)
    (hlen : (bufLength < (lengthOf w).toNat ∨ (lengthOf w).toNat = 0) ∨
      ∃ hi, z = [0, 0, hi]) :
    ¬ Restores log ((rec :: others).map Record.item)
      (readOn D (nextItem buf
        ((MAGIC_BYTE :: w) ++ (z ++ (lo :: rec.payload ++ cache others))) itemsRead log)) := by
  obtain ⟨level, -, hbytes⟩ := rec.bytes_eq
  have hpayload : rec.payload = 0 :: rec.bytes.tail.flatMap escapeByte := by
    rw [Record.payload, hbytes]
    rfl
  have hlong : ∀ u : Bytes, (∀ hi, z = [0, 0, hi] →
        ofBytes D (taken (lengthOf w) u) (lengthOf w) ≠ .ok rec.item) →
      z ++ (lo :: rec.payload) = u.flatMap escapeByte →
      ¬ Restores log ((rec :: others).map Record.item)
        (readOn D (nextItem buf
          ((MAGIC_BYTE :: w) ++ (z ++ (lo :: rec.payload ++ cache others))) itemsRead log)) := by
    intro u hother hu
    have hstream : (MAGIC_BYTE :: w) ++ (z ++ (lo :: rec.payload ++ cache others)) =
        MAGIC_BYTE :: (w ++ u.flatMap escapeByte ++ cache others) := by
      rw [← hu]
      simp only [List.cons_append, List.append_assoc]
    rw [hstream]
    refine not_restores_of_bytes hothers ha hw fun hroom => ?_
    rcases hlen with (hlarge | hzero) | ⟨hi, h⟩
    · exact absurd hroom (Nat.not_le.mpr hlarge)
    · intro hof
      have := length_of_taken hof
      omega
    · exact hother hi h
  have hbuf : 3 ≤ bufLength := by
    unfold bufLength
    omega
  by_cases hmagic : lo = MAGIC_BYTE
  · have hstream : (MAGIC_BYTE :: w) ++ (z ++ (lo :: rec.payload ++ cache others)) =
        (MAGIC_BYTE :: w) ++
          (z.flatMap escapeByte ++ MAGIC_BYTE :: (rec.payload ++ cache others)) := by
      rw [hplain, hmagic]
      rfl
    rw [hstream]
    by_cases hshort : lengthOf w ≤ z.length
    · have hsplit : z.flatMap escapeByte = (z.take (lengthOf w).toNat).flatMap escapeByte ++
          (z.drop (lengthOf w).toNat).flatMap escapeByte := by
        rw [← List.flatMap_append, List.take_append_drop]
      have hv : (z.take (lengthOf w).toNat).length = (lengthOf w).toNat := by
        rw [List.length_take]
        omega
      have hroom : (z.take (lengthOf w).toNat).length ≤ bufLength := by
        rw [hv]
        omega
      have hp := readPayload_taken hv hroom ((z.drop (lengthOf w).toNat).flatMap escapeByte ++
        MAGIC_BYTE :: (rec.payload ++ cache others))
      rw [hsplit, List.append_assoc]
      cases hof : ofBytes D (z.take (lengthOf w).toNat) (lengthOf w) with
      | error e =>
        rw [readOn_head_error hw rfl hp hv hroom hof]
        exact not_restores
      | ok item =>
        have hlarge := le_length_of_ofBytes hof
        rw [List.length_take] at hlarge
        omega
    · have hroom : z.length ≤ bufLength := hz.trans hbuf
      obtain ⟨buf', hread⟩ := readOn_head_aborted (D := D) hw rfl
        (readPayload_aborted (Int.not_le.mp hshort) hroom
          (.inl ⟨unescape_magic (rec.payload ++ cache others), rfl⟩))
      rw [hread]
      exact not_restores_payload hothers ha
  by_cases hescape : lo = MAGIC_BYTE + 1
  · refine hlong (z ++ MAGIC_BYTE :: rec.bytes.tail) ?_ ?_
    · rintro hi rfl
      exact not_taken_behind_escape
    · rw [List.flatMap_append, hplain, hescape, hpayload]
      rfl
  · refine hlong (z ++ lo :: rec.bytes) ?_ ?_
    · rintro hi rfl
      exact not_taken_behind_length
    · rw [List.flatMap_append, hplain, List.flatMap_cons, escapeByte_plain (not_or.mpr ⟨hmagic, hescape⟩)]
      rfl

/-- **A record whose magic byte is swallowed** is not restored. -/
lemma not_restores_swallowed {before : Bytes} (hbefore : before.length < 4) :
    ¬ Restores log ((rec :: others).map Record.item)
      (readOn D (nextItem buf (MAGIC_BYTE :: (before ++ cache (rec :: others)))
        itemsRead log)) := by
  obtain ⟨hi, lo, hhi, hlength⟩ := lenBytes_eq (length_record rec)
  have hcache : cache (rec :: others) =
      MAGIC_BYTE :: 0 :: 0 :: hi :: (lo :: rec.payload ++ cache others) := by
    rw [cache_cons, Record.written, writeEscapedBytes, hlength]
    rfl
  have hplain : escapeByte hi = [hi] := escapeByte_plain (by
    rintro (rfl | rfl)
    · exact absurd hhi (by decide)
    · exact absurd hhi (by decide))
  have hmagic : MAGIC_BYTE.toNat = 85 := by decide
  have hzero : (0 : UInt8).toNat = 0 := rfl
  rw [hcache]
  obtain _ | ⟨a, _ | ⟨b, _ | ⟨c, _ | ⟨e, before⟩⟩⟩⟩ := before
  · refine not_restores_length (w := [MAGIC_BYTE, 0, 0, hi]) (z := []) hothers ha rfl
      (by decide) rfl (.inl (.inl ?_))
    rw [lengthOf_eq, toInt, hmagic, hzero, bufLength]
    omega
  · refine not_restores_length (w := [a, MAGIC_BYTE, 0, 0]) (z := [hi]) hothers ha rfl
      (by simp) (by simp [hplain]) (.inl ?_)
    have ha := a.toNat_lt
    rw [lengthOf_eq, toInt, hmagic, hzero, bufLength]
    omega
  · refine not_restores_length (w := [a, b, MAGIC_BYTE, 0]) (z := [0, hi]) hothers ha rfl
      (by simp) (by simp [hplain]; rfl) (.inl ?_)
    have ha := a.toNat_lt
    have hb := b.toNat_lt
    rw [lengthOf_eq, toInt, hmagic, hzero, bufLength]
    omega
  · exact not_restores_length (w := [a, b, c, MAGIC_BYTE]) (z := [0, 0, hi]) hothers ha rfl
      (by simp) (by simp [hplain]; rfl) (.inr ⟨hi, rfl⟩)
  · simp only [List.length_cons] at hbefore
    omega

end Swallowed

end BuludTechVPN.LogCache
