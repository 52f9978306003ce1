import BuludTechVPN.LogResync

/-!
What the reader of the log cache makes of bytes that it takes for a record: a magic byte, four
bytes that it takes for a length, escaped bytes, and then the records of a cache.
-/

namespace BuludTechVPN.LogCache

open JavaLang LogFileHandler

variable {D : Utf8.Decoder} {itemsRead : ℕ} {len : ℤ} {buf : Buffer} {u v w junk rest : Bytes}
  {log : List LogItem} {records : List Record}

/-- The item comes to the log if it passes `verify`. -/
def shown (item : LogItem) : List LogItem := if item.verify then [item] else []

/-- What is restored of the records behind other bytes, up to a number of items. -/
def behind (junk : Bytes) (records : List Record) (n : ℕ) : List LogItem :=
  if junk.length + 10 ≤ bufLength then (records.map Record.item).take n else []

/-! ### The payload loop -/

lemma readPayload_taken (hv : v.length = len.toNat) (hroom : v.length ≤ bufLength)
    (rest : Bytes) :
    readPayload len bufLength 0 (fun _ => 0) (v.flatMap escapeByte ++ rest) =
      .ok (.item (contents v), rest) := by
  rw [← fill_zero]
  by_cases hneg : len < 0
  · obtain rfl : v = [] := List.eq_nil_of_length_eq_zero (by omega)
    unfold readPayload
    rw [if_neg (by simpa using hneg.le)]
    rfl
  · exact readPayload_escaped (by rw [hv]; simp; omega) hroom

/-- A byte behind the end of the array. -/
lemma readPayload_overflow {room pos : ℕ} {buf2 : Buffer} (hroom : room < v.length)
    (hlen : (pos + room : ℤ) < len) (rest : Bytes) :
    readPayload len room pos buf2 (v.flatMap escapeByte ++ rest) =
      .error .arrayIndexOutOfBounds := by
  obtain ⟨b, tail, htail⟩ : ∃ b tail, v.drop room = b :: tail :=
    List.exists_cons_of_ne_nil fun h => by
      rw [List.drop_eq_nil_iff] at h
      omega
  have htake : (v.take room).length = room := by
    rw [List.length_take]
    omega
  rw [← List.take_append_drop room v, htail, List.flatMap_append, List.append_assoc,
    readPayload_append _ (by rw [htake]; exact hlen.le) htake.le, htake, Nat.sub_self,
    List.flatMap_cons, List.append_assoc, readPayload, if_pos (by push_cast; exact hlen),
    unescape_escapeByte]

/-- An item that is longer than its bytes and the array. -/
lemma readPayload_endless {room pos : ℕ} {buf2 : Buffer} (hlen : (pos + room : ℤ) < len) :
    readPayload len room pos buf2 [] = .error .arrayIndexOutOfBounds := by
  have hbyte : unescape [] = (.byte 0xFF, []) := rfl
  induction room generalizing pos buf2 with
  | zero =>
    rw [readPayload, if_pos (by simpa using hlen), hbyte]
  | succ room ih =>
    rw [readPayload, if_pos (by push_cast at hlen; omega), hbyte]
    exact ih (by push_cast at hlen ⊢; omega)

/-- An item that is longer than its bytes, at the end of the file. -/
lemma readPayload_beyond (hu : (u.length : ℤ) ≤ len) (hroom : len ≤ bufLength) :
    readPayload len bufLength 0 (fun _ => 0) (u.flatMap escapeByte) =
      .ok (.item (contents (u ++ List.replicate (len.toNat - u.length) 0xFF)), []) := by
  obtain ⟨k, hk⟩ : ∃ k : ℕ, len = u.length + k := ⟨len.toNat - u.length, by omega⟩
  have hread : readPayload len bufLength 0 (fun _ => 0) (u.flatMap escapeByte ++ []) = _ :=
    readPayload_append [] (by push_cast; omega) (by omega)
  have hrest := readPayload_exhausted (bufLength - u.length) u.length k
    (fill (fun _ => 0) 0 u) (by omega)
  have hpad : len.toNat - u.length = k := by omega
  rw [Nat.cast_add, ← hk] at hrest
  rw [List.append_nil, Nat.zero_add] at hread
  rw [hread, hrest, hpad, ← fill_zero, fill_append, Nat.zero_add]

/-- A byte that ends the item: a magic byte, or what cannot stand behind an escape. -/
lemma readPayload_aborted {n : Notice} {room : ℕ} {stream : Bytes}
    (hu : (u.length : ℤ) < len) (hroom : u.length ≤ room)
    (hstream : unescape stream = (.magic, rest) ∧ n = .unexpectedMagic u.length ∨
      ∃ b, unescape stream = (.bad b, rest) ∧ n = .badEscape b) :
    readPayload len room 0 (fun _ => 0) (u.flatMap escapeByte ++ stream) =
      .ok (.aborted n, rest) := by
  rw [readPayload_append _ (by push_cast; omega) hroom, readPayload,
    if_pos (by push_cast; omega)]
  rcases hstream with ⟨hmagic, rfl⟩ | ⟨b, hbad, rfl⟩
  · rw [hmagic, Nat.zero_add]
  · rw [hbad]

lemma unescape_magic (rest : Bytes) : unescape (MAGIC_BYTE :: rest) = (.magic, rest) := rfl

lemma unescape_bad {b : UInt8} (h0 : b ≠ 0) (h1 : b ≠ 1) (rest : Bytes) :
    unescape ((MAGIC_BYTE + 1) :: b :: rest) = (.bad b, rest) := by
  unfold unescape readByte
  dsimp only
  rw [if_neg (by decide), if_pos rfl, if_neg h0, if_neg h1]

lemma magic_not_mem_escaped (bytes : Bytes) : MAGIC_BYTE ∉ bytes.flatMap escapeByte := by
  intro h
  obtain ⟨b, -, hb⟩ := List.mem_flatMap.1 h
  unfold escapeByte at hb
  split_ifs at hb with hspecial
  · rcases hspecial with rfl | rfl
    · exact absurd hb (by decide)
    · exact absurd hb (by decide)
  · exact hspecial (.inl (List.mem_singleton.1 hb).symm)

/-! ### Bytes that are taken for a record -/

/-- What the reader makes of bytes that it takes for an item, and of the records behind it. -/
def readItem (D : Utf8.Decoder) (itemsRead : ℕ) (log : List LogItem) (len : ℤ) (v junk : Bytes)
    (records : List Record) : List LogItem × Option Abrupt :=
  if bufLength < v.length then (log, some .arrayIndexOutOfBounds)
  else
    match ofBytes D v len with
    | .error e => (log, some e.abrupt)
    | .ok item =>
      (log ++ (shown item ++ behind junk records (2 * MAXLOGENTRIES - itemsRead)), none)

/-- The bytes of an item, with those that are read beyond the end of the file. -/
def taken (len : ℤ) (u : Bytes) : Bytes :=
  u.take len.toNat ++ List.replicate (len.toNat - u.length) 0xFF

/-- What is left in the file of the bytes. -/
def unread (len : ℤ) (u : Bytes) : Bytes := (u.drop len.toNat).flatMap escapeByte

/-- What the reader makes of bytes that it takes for a record: the next magic byte ends the item,
if it comes before its length. -/
def readBytes (D : Utf8.Decoder) (itemsRead : ℕ) (log : List LogItem) (len : ℤ) (u : Bytes)
    (records : List Record) : List LogItem × Option Abrupt :=
  if u.length < len ∧ records ≠ [] then
    if u.length ≤ bufLength then
      (log ++ (records.map Record.item).take (2 * MAXLOGENTRIES + 1 - itemsRead), none)
    else (log, some .arrayIndexOutOfBounds)
  else readItem D itemsRead log len (taken len u) (unread len u) records

lemma length_taken (len : ℤ) (u : Bytes) : (taken len u).length = len.toNat := by
  rw [taken, List.length_append, List.length_take, List.length_replicate]
  omega

lemma taken_of_le (h : len ≤ u.length) : taken len u = u.take len.toNat := by
  rw [taken, Nat.sub_eq_zero_of_le (by omega), List.replicate_zero, List.append_nil]

lemma taken_of_lt (h : u.length < len) :
    taken len u = u ++ List.replicate (len.toNat - u.length) 0xFF := by
  rw [taken, List.take_of_length_le (by omega)]

lemma unread_of_lt (h : u.length < len) : unread len u = [] := by
  rw [unread, List.drop_eq_nil_of_le (by omega), List.flatMap_nil]

section Taken

variable (hw : w.length = 4) (hlen : lengthOf w = len)
  (hrecords : ∀ rec ∈ records, rec.item.Restorable) (ha : itemsRead ≤ 2 * MAXLOGENTRIES)
include hw hlen hrecords ha

/-- An item is made of the bytes, and what is left of them is skipped. -/
lemma readOn_item {stream : Bytes}
    (hp : v.length ≤ bufLength → readPayload len bufLength 0 (fun _ => 0) stream =
      .ok (.item (contents v), junk ++ cache records))
    (hlong : bufLength < v.length → readPayload len bufLength 0 (fun _ => 0) stream =
      .error .arrayIndexOutOfBounds)
    (hv : v.length = len.toNat) (hjunk : MAGIC_BYTE ∉ junk) :
    readOn D (nextItem buf ((MAGIC_BYTE :: w) ++ stream) itemsRead log) =
      readItem D itemsRead log len v junk records := by
  unfold readItem
  split_ifs with hroom
  · exact readOn_head_overflow hw hlen (hlong hroom)
  have hp := hp (Nat.not_lt.mp hroom)
  cases hof : ofBytes D v len with
  | error e => exact readOn_head_error hw hlen hp hv (Nat.not_lt.mp hroom) hof
  | ok item =>
    obtain ⟨buf', hread⟩ := readOn_head_item (D := D) hw hlen hp hv (Nat.not_lt.mp hroom) hof
    have hlog : (if item.verify then log ++ [item] else log) = log ++ shown item := by
      unfold shown
      split_ifs
      · rfl
      · rw [List.append_nil]
    dsimp only
    rw [hread, hlog, ← List.append_assoc]
    by_cases hlast : 2 * MAXLOGENTRIES < itemsRead + 1
    · have hzero : 2 * MAXLOGENTRIES - itemsRead = 0 := by omega
      rw [readOn_stopped hlast, hzero, behind, List.take_zero, ite_self, List.append_nil]
    · rw [afterItem_of_le (Nat.not_lt.mp hlast), readOn_junk hrecords hjunk (by omega),
        Nat.add_sub_add_right]
      rfl

/-- Bytes of the length that they are taken for, and others behind them. -/
lemma readOn_taken (hv : v.length = len.toNat) (hjunk : MAGIC_BYTE ∉ junk) :
    readOn D (nextItem buf ((MAGIC_BYTE :: w) ++
        (v.flatMap escapeByte ++ (junk ++ cache records))) itemsRead log) =
      readItem D itemsRead log len v junk records :=
  readOn_item hw hlen hrecords ha (fun hroom => readPayload_taken hv hroom _)
    (fun hroom => readPayload_overflow hroom (by omega) _) hv hjunk

/-- **Bytes that are taken for a record**, in front of whole records. -/
lemma readOn_bytes (u : Bytes) :
    readOn D (nextItem buf ((MAGIC_BYTE :: w) ++ (u.flatMap escapeByte ++ cache records))
        itemsRead log) = readBytes D itemsRead log len u records := by
  unfold readBytes
  by_cases hshort : len ≤ u.length
  · have hsplit : u.flatMap escapeByte ++ cache records =
        (u.take len.toNat).flatMap escapeByte ++ (unread len u ++ cache records) := by
      rw [unread, ← List.append_assoc, ← List.flatMap_append, List.take_append_drop]
    rw [if_neg fun h => by omega, hsplit, taken_of_le hshort]
    refine readOn_taken hw hlen hrecords ha ?_ (magic_not_mem_escaped _)
    rw [← taken_of_le hshort, length_taken]
  have hlong : u.length < len := Int.not_le.mp hshort
  have hover : bufLength < u.length → readPayload len bufLength 0 (fun _ => 0)
      (u.flatMap escapeByte ++ cache records) = .error .arrayIndexOutOfBounds := fun hroom =>
    readPayload_overflow hroom (by omega) _
  obtain _ | ⟨rec, others⟩ := records
  · rw [if_neg fun h => h.2 rfl, unread_of_lt hlong]
    refine readOn_item hw hlen hrecords ha (fun hroom => ?_) (fun hroom => ?_)
      (length_taken len u) (List.not_mem_nil)
    · rw [length_taken] at hroom
      rw [taken_of_lt hlong, show cache [] = [] from rfl, List.append_nil]
      exact readPayload_beyond hlong.le (by omega)
    · rw [length_taken] at hroom
      by_cases hu : bufLength < u.length
      · exact hover hu
      · rw [readPayload_append (cache []) (by push_cast; omega) (Nat.not_lt.mp hu)]
        exact readPayload_endless (by omega)
  · rw [if_pos ⟨hlong, List.cons_ne_nil _ _⟩]
    split_ifs with hroom
    · obtain ⟨buf', hread⟩ := readOn_head_aborted (D := D) hw hlen
        (readPayload_aborted hlong hroom (.inl ⟨unescape_magic
          (lenBytes rec.bytes.length ++ rec.payload ++ cache others), rfl⟩))
      exact hread.trans (readOn_cache_end hrecords ha buf' log)
    · exact readOn_head_overflow hw hlen (hover (Nat.not_le.mp hroom))

end Taken

/-! ### Whether the records are restored -/

/-- Nothing was thrown, and the items were added to those of the log. -/
def Restores (log items : List LogItem) (result : List LogItem × Option Abrupt) : Prop :=
  result.2 = none ∧ (log ++ items).Sublist result.1

lemma restores_iff {items added : List LogItem} :
    Restores log items (log ++ added, none) ↔ items.Sublist added :=
  (and_iff_right rfl).trans (List.append_sublist_append_left log)

lemma restores_nothing : Restores log [] (log, none) := ⟨rfl, by rw [List.append_nil]⟩

lemma not_restores {items : List LogItem} {e : Abrupt} : ¬ Restores log items (log, some e) := by
  rintro ⟨hnone, -⟩
  cases hnone

/-- The records are restored behind the item: they are in the reach of the reader, or they are
items like this one. -/
def Spared (item : LogItem) (junk : Bytes) (records : List Record) (itemsRead : ℕ) : Prop :=
  records = [] ∨
  (junk.length + 10 ≤ bufLength ∧ itemsRead + records.length ≤ 2 * MAXLOGENTRIES) ∨
  (item.verify = true ∧
    ((junk.length + 10 ≤ bufLength ∧ ∀ rec ∈ records, rec.item = item) ∨
      records.map Record.item = [item]))

/-- The bytes make an item, and the records behind it are restored. -/
def Harmless (D : Utf8.Decoder) (itemsRead : ℕ) (len : ℤ) (v junk : Bytes)
    (records : List Record) : Prop :=
  v.length ≤ bufLength ∧
    ∃ item, ofBytes D v len = .ok item ∧ Spared item junk records itemsRead

/-- What the reader takes for a record does no harm: the next magic byte ends it in time, or an item
is made of it. -/
def Reaches (D : Utf8.Decoder) (itemsRead : ℕ) (len : ℤ) (u : Bytes)
    (records : List Record) : Prop :=
  (u.length < len ∧ records ≠ [] ∧ u.length ≤ bufLength) ∨
    ((len ≤ u.length ∨ records = []) ∧
      Harmless D itemsRead len (taken len u) (unread len u) records)

lemma eq_cons_dropLast {α : Type*} {a : α} {l : List α} (hne : l ≠ []) :
    l = a :: l.dropLast ↔ ∀ b ∈ l, b = a := by
  induction l generalizing a with
  | nil => exact absurd rfl hne
  | cons b l ih =>
    cases l with
    | nil => simp
    | cons c l =>
      rw [List.dropLast_cons_cons, List.cons.injEq, ih (List.cons_ne_nil c l)]
      constructor
      · rintro ⟨rfl, h⟩
        exact List.forall_mem_cons.2 ⟨rfl, h⟩
      · intro h
        obtain ⟨rfl, h⟩ := List.forall_mem_cons.1 h
        exact ⟨rfl, h⟩

/-- All but the last of a list, and one more, have the list in them if it is all the same. -/
lemma sublist_cons_dropLast {α : Type*} {a : α} {l : List α} (hne : l ≠ []) :
    l.Sublist (a :: l.dropLast) ↔ ∀ b ∈ l, b = a := by
  have hpos : 0 < l.length := List.length_pos_of_ne_nil hne
  have hlen : l.length = (a :: l.dropLast).length := by
    rw [List.length_cons, List.length_dropLast]
    omega
  rw [← eq_cons_dropLast hne]
  exact ⟨fun h => h.eq_of_length hlen, fun h => (List.Sublist.refl l).trans (h ▸ .refl l)⟩

lemma sublist_shown {l : List LogItem} {item : LogItem} :
    l.Sublist (shown item) ↔ l = [] ∨ (item.verify = true ∧ l = [item]) := by
  unfold shown
  split_ifs with hverify
  · rw [List.sublist_singleton, and_iff_right hverify]
  · rw [List.sublist_nil]
    simp [hverify]

/-- **The records behind an item** are restored exactly if they are spared. -/
lemma sublist_behind {item : LogItem}
    (hn : itemsRead + records.length ≤ 2 * MAXLOGENTRIES + 1) :
    (records.map Record.item).Sublist
        (shown item ++ behind junk records (2 * MAXLOGENTRIES - itemsRead)) ↔
      Spared item junk records itemsRead := by
  unfold Spared behind
  by_cases hnil : records = []
  · simp [hnil]
  have hmap : records.map Record.item ≠ [] := fun h => hnil (List.map_eq_nil_iff.1 h)
  rw [or_iff_right hnil]
  by_cases hjunk : junk.length + 10 ≤ bufLength
  · rw [if_pos hjunk]
    by_cases hall : itemsRead + records.length ≤ 2 * MAXLOGENTRIES
    · rw [List.take_of_length_le (by rw [List.length_map]; omega)]
      exact iff_of_true (List.sublist_append_right _ _) (.inl ⟨hjunk, hall⟩)
    · have htake : (records.map Record.item).take (2 * MAXLOGENTRIES - itemsRead) =
          (records.map Record.item).dropLast := by
        rw [List.dropLast_eq_take, List.length_map]
        congr 1
        omega
      rw [htake, or_iff_right fun h => hall h.2, and_iff_right hjunk]
      unfold shown
      split_ifs with hverify
      · rw [List.singleton_append, sublist_cons_dropLast hmap, List.forall_mem_map,
          and_iff_right hverify]
        refine (or_iff_left_of_imp fun h => ?_).symm
        rw [← List.forall_mem_map (P := fun i => i = item), h]
        simp
      · refine iff_of_false (fun h => ?_) fun h => hverify h.1
        have hle := h.length_le
        have hpos := List.length_pos_of_ne_nil hmap
        rw [List.nil_append, List.length_dropLast] at hle
        omega
  · rw [if_neg hjunk, List.append_nil, sublist_shown, or_iff_right hmap]
    simp [hjunk]

section Counted

variable (hn : itemsRead + records.length ≤ 2 * MAXLOGENTRIES + 1)
include hn

lemma restores_readItem : Restores log (records.map Record.item)
    (readItem D itemsRead log len v junk records) ↔ Harmless D itemsRead len v junk records := by
  unfold readItem Harmless
  split_ifs with hroom
  · exact iff_of_false not_restores fun h => Nat.not_le.mpr hroom h.1
  rw [and_iff_right (Nat.not_lt.mp hroom)]
  cases ofBytes D v len with
  | error e =>
    refine iff_of_false not_restores ?_
    rintro ⟨item, h, -⟩
    cases h
  | ok item =>
    dsimp only
    rw [restores_iff, sublist_behind hn]
    constructor
    · intro h
      exact ⟨item, rfl, h⟩
    · rintro ⟨item', hitem, h⟩
      obtain rfl := Except.ok.inj hitem
      exact h

/-- **The records behind bytes that are taken for a record** are restored exactly if these do no
harm. -/
lemma restores_readBytes : Restores log (records.map Record.item)
    (readBytes D itemsRead log len u records) ↔ Reaches D itemsRead len u records := by
  unfold readBytes Reaches
  split_ifs with hmagic hroom
  · rw [restores_iff, List.take_of_length_le (by rw [List.length_map]; omega)]
    exact iff_of_true (List.Sublist.refl _) (.inl ⟨hmagic.1, hmagic.2, hroom⟩)
  · refine iff_of_false not_restores ?_
    rintro (⟨-, -, h⟩ | ⟨h | h, -⟩)
    · exact hroom h
    · exact absurd hmagic.1 (Int.not_lt.mpr h)
    · exact hmagic.2 h
  · rw [restores_readItem hn]
    constructor
    · intro h
      refine .inr ⟨?_, h⟩
      by_contra hnot
      rw [not_or] at hnot
      exact hmagic ⟨Int.not_le.mp hnot.1, hnot.2⟩
    · rintro (⟨hlong, hne, -⟩ | ⟨-, h⟩)
      · exact absurd ⟨hlong, hne⟩ hmagic
      · exact h

end Counted

end BuludTechVPN.LogCache
