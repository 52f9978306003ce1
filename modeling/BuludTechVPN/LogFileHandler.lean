import BuludTechVPN.JavaLang
import Mathlib.Data.List.GetD

/-!
The log cache file: the records `writeEscapedBytes` writes, and what `readCacheContents` makes
of a stream of bytes.

A record is a magic byte, the length of the item in four bytes, and the bytes of the item, with
the magic byte and its successor escaped. `VpnStatus`, which the reader hands the items to, is a
parameter: restoring an item changes its state or completes abruptly, a message changes it.
-/

namespace BuludTechVPN.LogFileHandler

open JavaLang

abbrev Bytes := List UInt8

/-- A `byte[16384]`, by its indexes. -/
abbrev Buffer := ℕ → UInt8

def MAGIC_BYTE : UInt8 := 0x55
def MAXLOGENTRIES : ℕ := 1000

/-- The length of the arrays `buf` and `buf2`. -/
def bufLength : ℕ := 16384

/-! ### Writing -/

/-- What the second loop of `writeEscapedBytes` stores for a byte. -/
def escapeByte (b : UInt8) : Bytes :=
  if b = MAGIC_BYTE ∨ b = MAGIC_BYTE + 1 then [MAGIC_BYTE + 1, b - MAGIC_BYTE] else [b]

/-- `ByteBuffer.putInt`, of a length. -/
def lenBytes (n : ℕ) : Bytes :=
  [UInt8.ofNat (n / 2 ^ 24), UInt8.ofNat (n / 2 ^ 16), UInt8.ofNat (n / 2 ^ 8), UInt8.ofNat n]

/-- The bytes written to the log file. -/
def writeEscapedBytes (bytes : Bytes) : Bytes :=
  MAGIC_BYTE :: lenBytes bytes.length ++ bytes.flatMap escapeByte

/-! ### Reading -/

/-- The messages of `readCacheContents`. -/
inductive Notice
  | noMagic (skipped : ℕ)
  | skipped (n : ℕ)
  | unexpectedMagic (pos : ℕ)
  | badEscape (b : UInt8)
  | tooManyEntries
  | rereadLog (n : ℕ)
  deriving DecidableEq, Repr

/-- What the reader calls in `VpnStatus`. -/
structure Restorer (σ : Type*) where
  restoreLogItem : Buffer → ℤ → σ → Call σ
  log : Notice → σ → σ

/-- `(byte) logFile.read()`, which at the end of the stream is `-1`. -/
def readByte : Bytes → UInt8 × Bytes
  | [] => (0xFF, [])
  | b :: stream => (b, stream)

/-- What `read` returns when asked for `n` bytes. -/
def readCount (n : ℕ) (stream : Bytes) : ℤ :=
  if stream = [] then -1 else min n stream.length

/-- The array after reading `n` bytes to `off`. -/
def readTo (buf : Buffer) (off n : ℕ) (stream : Bytes) : Buffer := fun i =>
  if off ≤ i ∧ i < off + min n stream.length then stream.getD (i - off) 0 else buf i

/-- `ByteBuffer.wrap(buf, off, 4).asIntBuffer().get()` -/
def getInt (buf : Buffer) (off : ℕ) : ℤ :=
  toInt ((buf off).toNat * 2 ^ 24 + (buf (off + 1)).toNat * 2 ^ 16
    + (buf (off + 2)).toNat * 2 ^ 8 + (buf (off + 3)).toNat)

/-- A byte of an item as the payload loop takes it from the stream. -/
inductive Unescaped
  | byte (b : UInt8)
  | magic
  | bad (b : UInt8)

def unescape (stream : Bytes) : Unescaped × Bytes :=
  let (b, stream) := readByte stream
  if b = MAGIC_BYTE then (.magic, stream)
  else if b = MAGIC_BYTE + 1 then
    let (b, stream) := readByte stream
    if b = 0 then (.byte MAGIC_BYTE, stream)
    else if b = 1 then (.byte (MAGIC_BYTE + 1), stream)
    else (.bad b, stream)
  else (.byte b, stream)

/-- How the payload loop ends: with the item in `buf2`, or with a message. -/
inductive Payload
  | item (buf2 : Buffer)
  | aborted (n : Notice)

/-- `buf2[pos] = b` -/
def store (buf2 : Buffer) (pos : ℕ) (b : UInt8) : Buffer := fun i => if i = pos then b else buf2 i

/-- The payload loop, `room` being what `buf2` still holds after `pos`. -/
def readPayload (len : ℤ) : ℕ → ℕ → Buffer → Bytes → Call (Payload × Bytes)
  | room, pos, buf2, stream =>
    if (pos : ℤ) < len then
      match unescape stream with
      | (.magic, stream) => .ok (.aborted (.unexpectedMagic pos), stream)
      | (.bad b, stream) => .ok (.aborted (.badEscape b), stream)
      | (.byte b, stream) =>
        match room with
        | 0 => .error .arrayIndexOutOfBounds
        | room + 1 => readPayload len room (pos + 1) (store buf2 pos b) stream
    else .ok (.item buf2, stream)

/-- The loop that looks for a magic byte: the bytes skipped, and whether there is one. -/
def skipToMagic (skipped : ℕ) (buf : Buffer) : Bytes → Bool × ℕ × Buffer × Bytes
  | [] =>
    if buf skipped = MAGIC_BYTE then (true, skipped, buf, []) else (false, skipped + 1, buf, [])
  | b :: stream =>
    if buf skipped = MAGIC_BYTE then (true, skipped, buf, b :: stream)
    else
      let buf := readTo buf (skipped + 5) 1 [b]
      if bufLength < skipped + 11 then (false, skipped + 1, buf, stream)
      else skipToMagic (skipped + 1) buf stream

structure Reader (σ : Type*) where
  read : ℤ
  buf : Buffer
  stream : Bytes
  itemsRead : ℕ
  vpn : σ

variable {σ : Type*}

/-- The reader when it has asked for the first five bytes of `stream`. -/
def nextItem (buf : Buffer) (stream : Bytes) (itemsRead : ℕ) (vpn : σ) : Reader σ :=
  ⟨readCount 5 stream, readTo buf 0 5 stream, stream.drop 5, itemsRead, vpn⟩

variable (R : Restorer σ)

/-- The rest of a pass of `readloop` after the payload loop. -/
def afterPayload (r : Reader σ) (len : ℤ) : Call (Payload × Bytes) → Call (Reader σ)
  | .error e => .error e
  | .ok (.aborted n, stream) =>
    .ok { r with read := readCount 4 stream + 1, buf := readTo r.buf 1 4 stream,
                 stream := stream.drop 4, vpn := R.log n r.vpn }
  | .ok (.item buf2, stream) =>
    match R.restoreLogItem buf2 len r.vpn with
    | .error e => .error e
    | .ok vpn =>
      let next := nextItem r.buf stream (r.itemsRead + 1) vpn
      if 2 * MAXLOGENTRIES < next.itemsRead then
        .ok { next with read := 0, vpn := R.log .tooManyEntries vpn }
      else .ok next

/-- One pass of `readloop`; a `break` leaves it as `read = 0` does. -/
def round (r : Reader σ) : Call (Reader σ) :=
  let (found, skipped, buf, stream) := skipToMagic 0 r.buf r.stream
  if !found then .ok { r with read := 0, buf, stream, vpn := R.log (.noMagic skipped) r.vpn }
  else
    let vpn := if 0 < skipped then R.log (.skipped skipped) r.vpn else r.vpn
    let len := getInt buf (skipped + 1)
    afterPayload R { r with buf, stream, vpn } len
      (readPayload len bufLength 0 (fun _ => 0) stream)

/-- `readloop` and what follows it. -/
def readloop (fuel : ℕ) (r : Reader σ) : Call σ :=
  if 5 ≤ r.read then
    match fuel with
    | 0 => .error .endlessLoop
    | fuel + 1 =>
      match round R r with
      | .error e => .error e
      | .ok r => readloop fuel r
  else .ok (R.log (.rereadLog r.itemsRead) r.vpn)

def readCacheContents (stream : Bytes) (vpn : σ) : Call σ :=
  readloop R (stream.length + 1) (nextItem (fun _ => 0) stream 0 vpn)

/-! ### The fuel never runs out -/

variable {R} {bytes rest stream : Bytes} {buf : Buffer} {vpn : σ} {itemsRead : ℕ}

lemma readByte_length (stream : Bytes) : (readByte stream).2.length ≤ stream.length := by
  cases stream <;> simp [readByte]

lemma unescape_length (stream : Bytes) : (unescape stream).2.length ≤ stream.length := by
  have h1 := readByte_length stream
  have h2 := readByte_length (readByte stream).2
  unfold unescape
  dsimp only
  split_ifs <;> dsimp only <;> omega

lemma readPayload_length {len : ℤ} {room pos : ℕ} {buf2 : Buffer} {p : Payload}
    (h : readPayload len room pos buf2 stream = .ok (p, rest)) : rest.length ≤ stream.length := by
  induction room generalizing pos buf2 stream with
  | zero =>
    have hu := unescape_length stream
    unfold readPayload at h
    split_ifs at h
    · split at h <;> simp_all
    · simp_all
  | succ room ih =>
    have hu := unescape_length stream
    unfold readPayload at h
    split_ifs at h
    · split at h
      · simp_all
      · simp_all
      · rename_i b s hs
        rw [hs] at hu
        exact (ih h).trans hu
    · simp_all

lemma skipToMagic_length (k : ℕ) (buf : Buffer) (stream : Bytes) :
    (skipToMagic k buf stream).2.2.2.length ≤ stream.length := by
  induction stream generalizing k buf with
  | nil => unfold skipToMagic; split_ifs <;> simp
  | cons b stream ih =>
    unfold skipToMagic
    split_ifs
    · simp
    · simp
    · exact (ih _ _).trans (Nat.le_succ _)

lemma readCount_le {n : ℕ} {k : ℤ} (hk : 0 < k) (h : k ≤ readCount n stream) :
    k ≤ stream.length := by
  unfold readCount at h
  split_ifs at h <;> omega

lemma afterPayload_length {r r' : Reader σ} {len : ℤ} {p : Payload}
    (h : afterPayload R r len (.ok (p, stream)) = .ok r') (h5 : 5 ≤ r'.read) :
    r'.stream.length < stream.length := by
  cases p with
  | aborted n =>
    cases h
    have h4 : 4 ≤ readCount 4 stream := by dsimp only at h5; omega
    have := readCount_le (by omega) h4
    simp only [List.length_drop]
    omega
  | item buf2 =>
    simp only [afterPayload] at h
    split at h
    · cases h
    · split_ifs at h
      · cases h; simp at h5
      · cases h
        have := readCount_le (k := 5) (by omega) h5
        simp only [nextItem, List.length_drop]
        omega

/-- A pass after which another follows has taken bytes from the stream. -/
lemma round_length {r r' : Reader σ} (h : round R r = .ok r') (h5 : 5 ≤ r'.read) :
    r'.stream.length < r.stream.length := by
  have hskip := skipToMagic_length 0 r.buf r.stream
  unfold round at h
  dsimp only at h
  split_ifs at h
  · cases h; simp at h5
  all_goals
    generalize hp : readPayload _ bufLength 0 _ _ = x at h
    obtain _ | ⟨p, stream⟩ := x
    · cases h
    · exact (afterPayload_length h h5).trans_le ((readPayload_length hp).trans hskip)

/-- Fuel beyond the length of the stream changes nothing. -/
theorem readloop_fuel {n m : ℕ} {r : Reader σ} (hn : r.stream.length < n)
    (hm : r.stream.length < m) : readloop R n r = readloop R m r := by
  induction n generalizing m r with
  | zero => omega
  | succ n ih =>
    obtain ⟨m, rfl⟩ : ∃ k, m = k + 1 := ⟨m - 1, by omega⟩
    unfold readloop
    split_ifs
    · cases hr : round R r with
      | error e => rfl
      | ok r' =>
        dsimp only
        by_cases h5 : 5 ≤ r'.read
        · have := round_length hr h5
          exact ih (by omega) (by omega)
        · unfold readloop
          rw [if_neg h5, if_neg h5]
    · rfl

/-! ### One record -/

lemma unescape_escapeByte (b : UInt8) (rest : Bytes) :
    unescape (escapeByte b ++ rest) = (.byte b, rest) := by
  unfold escapeByte
  split
  · rename_i h
    rcases h with rfl | rfl <;> rfl
  · rename_i h
    obtain ⟨h1, h2⟩ := not_or.mp h
    simp [unescape, readByte, h1, h2]

/-- The array in which the bytes are stored from `pos` on. -/
def fill : Buffer → ℕ → Bytes → Buffer
  | buf2, _, [] => buf2
  | buf2, pos, b :: bytes => fill (store buf2 pos b) (pos + 1) bytes

lemma fill_apply (buf2 : Buffer) (pos : ℕ) (bytes : Bytes) (i : ℕ) :
    fill buf2 pos bytes i = if i < pos then buf2 i else bytes.getD (i - pos) (buf2 i) := by
  induction bytes generalizing buf2 pos with
  | nil => simp [fill]
  | cons b bytes ih =>
    rw [fill, ih]
    rcases lt_trichotomy i pos with h | rfl | h
    · simp [store, h, h.ne, Nat.lt_succ_of_lt h]
    · simp [store]
    · obtain ⟨k, rfl⟩ : ∃ k, i = pos + 1 + k := ⟨i - (pos + 1), by omega⟩
      have hk : pos + 1 + k - pos = k + 1 := by omega
      have h1 : ¬ pos + 1 + k < pos + 1 := by omega
      have h2 : pos + 1 + k ≠ pos := by omega
      rw [if_neg h1, if_neg h.not_gt, hk, Nat.add_sub_cancel_left, store, if_neg h2,
        List.getD_cons_succ]

/-- An array that begins with the bytes and holds zeros after them. -/
def contents (bytes : Bytes) : Buffer := fun i => bytes.getD i 0

lemma fill_zero (bytes : Bytes) : fill (fun _ => 0) 0 bytes = contents bytes := by
  funext i
  simp [fill_apply, contents]

/-- The bytes of an escaped text are stored one after the other. -/
lemma readPayload_append {len : ℤ} {room pos : ℕ} {buf2 : Buffer} (rest : Bytes)
    (hlen : pos + bytes.length ≤ len) (hroom : bytes.length ≤ room) :
    readPayload len room pos buf2 (bytes.flatMap escapeByte ++ rest)
      = readPayload len (room - bytes.length) (pos + bytes.length) (fill buf2 pos bytes) rest := by
  induction bytes generalizing room pos buf2 with
  | nil => rfl
  | cons b bytes ih =>
    rw [List.length_cons] at hlen hroom
    obtain ⟨room, rfl⟩ : ∃ k, room = k + 1 := ⟨room - 1, by omega⟩
    rw [readPayload, if_pos (by omega), List.flatMap_cons, List.append_assoc,
      unescape_escapeByte]
    refine (ih (by push_cast at hlen ⊢; omega) (by omega)).trans ?_
    rw [List.length_cons, Nat.add_sub_add_right, Nat.add_right_comm, Nat.add_assoc]
    rfl

lemma readPayload_end {room pos : ℕ} {buf2 : Buffer} :
    readPayload pos room pos buf2 stream = .ok (.item buf2, stream) := by
  unfold readPayload
  rw [if_neg (lt_irrefl _)]

lemma readPayload_escaped {len : ℤ} {room pos : ℕ} {buf2 : Buffer}
    (hlen : len = pos + bytes.length) (hroom : bytes.length ≤ room) :
    readPayload len room pos buf2 (bytes.flatMap escapeByte ++ rest)
      = .ok (.item (fill buf2 pos bytes), rest) := by
  rw [readPayload_append rest hlen.ge hroom, hlen]
  exact_mod_cast readPayload_end

lemma readTo_head (buf : Buffer) (h : Bytes) (rest : Bytes) {i : ℕ} (hi : i < h.length) :
    readTo buf 0 h.length (h ++ rest) i = h.getD i 0 := by
  unfold readTo
  rw [if_pos ⟨Nat.zero_le i, by simp; omega⟩, Nat.sub_zero, List.getD_append _ _ _ _ hi]

lemma getInt_lenBytes {n off : ℕ} (hn : n < 2 ^ 31)
    (hbuf : ∀ i < 4, buf (off + i) = (lenBytes n).getD i 0) : getInt buf off = n := by
  have h0 := hbuf 0 (by omega)
  have h1 := hbuf 1 (by omega)
  have h2 := hbuf 2 (by omega)
  have h3 := hbuf 3 (by omega)
  simp only [lenBytes, List.getD_cons_zero, List.getD_cons_succ, Nat.add_zero] at h0 h1 h2 h3
  rw [getInt, h0, h1, h2, h3]
  simp only [UInt8.toNat_ofNat']
  rw [toInt_of_range] <;> omega

lemma skipToMagic_of_magic (h : buf 0 = MAGIC_BYTE) (stream : Bytes) :
    skipToMagic 0 buf stream = (true, 0, buf, stream) := by
  cases stream <;> simp [skipToMagic, h]

lemma writeEscapedBytes_append (bytes rest : Bytes) : writeEscapedBytes bytes ++ rest
    = (MAGIC_BYTE :: lenBytes bytes.length) ++ (bytes.flatMap escapeByte ++ rest) := by
  simp [writeEscapedBytes]

/-- The length that the reader finds in four bytes. -/
def lengthOf (w : Bytes) : ℤ := getInt (contents w) 0

lemma lengthOf_lenBytes {n : ℕ} (hn : n ≤ bufLength) : lengthOf (lenBytes n) = n := by
  unfold bufLength at hn
  refine getInt_lenBytes (by omega) fun i _ => ?_
  rw [Nat.zero_add]
  rfl

section Head

variable {w : Bytes} (hw : w.length = 4) (rest : Bytes)
include hw

lemma nextItem_head (buf : Buffer) (itemsRead : ℕ) (vpn : σ) :
    nextItem buf ((MAGIC_BYTE :: w) ++ rest) itemsRead vpn
      = ⟨5, readTo buf 0 5 ((MAGIC_BYTE :: w) ++ rest), rest, itemsRead, vpn⟩ := by
  have hlen : ((MAGIC_BYTE :: w) ++ rest).length = rest.length + 5 := by
    rw [List.length_append, List.length_cons, hw, Nat.add_comm]
  have hne : (MAGIC_BYTE :: w) ++ rest ≠ [] := List.cons_ne_nil _ _
  have hdrop : ((MAGIC_BYTE :: w) ++ rest).drop 5 = rest := by
    have hhead : (MAGIC_BYTE :: w).length = 5 := by rw [List.length_cons, hw]
    rw [← hhead, List.drop_left]
  simp only [nextItem, readCount, if_neg hne, hlen, hdrop, Reader.mk.injEq, and_true]
  omega

lemma readTo_magic (buf : Buffer) : readTo buf 0 5 ((MAGIC_BYTE :: w) ++ rest) 0 = MAGIC_BYTE := by
  have hhead : (MAGIC_BYTE :: w).length = 5 := by rw [List.length_cons, hw]
  rw [← hhead, readTo_head buf _ rest (by rw [hhead]; decide)]
  rfl

/-- The length of a record, as the reader finds it. -/
lemma getInt_head (buf : Buffer) :
    getInt (readTo buf 0 5 ((MAGIC_BYTE :: w) ++ rest)) 1 = lengthOf w := by
  have hhead : (MAGIC_BYTE :: w).length = 5 := by rw [List.length_cons, hw]
  have hbyte : ∀ i < 4, readTo buf 0 5 ((MAGIC_BYTE :: w) ++ rest) (1 + i) = contents w i := by
    intro i hi
    rw [← hhead, Nat.add_comm, readTo_head buf _ rest (by rw [hhead]; omega), List.getD_cons_succ]
    rfl
  rw [lengthOf, getInt, getInt, ← hbyte 0 (by omega), ← hbyte (0 + 1) (by omega),
    ← hbyte (0 + 2) (by omega), ← hbyte (0 + 3) (by omega)]

end Head

lemma round_found {r : Reader σ} {skipped : ℕ} {buf' : Buffer}
    (h : skipToMagic 0 r.buf r.stream = (true, skipped, buf', rest)) :
    round R r = afterPayload R
      { r with buf := buf', stream := rest,
               vpn := if 0 < skipped then R.log (.skipped skipped) r.vpn else r.vpn }
      (getInt buf' (skipped + 1))
      (readPayload (getInt buf' (skipped + 1)) bufLength 0 (fun _ => 0) rest) := by
  unfold round
  rw [h]
  dsimp only
  rw [if_neg (by decide)]

lemma round_of_magic {r : Reader σ} (hm : r.buf 0 = MAGIC_BYTE) :
    round R r = afterPayload R r (getInt r.buf 1)
      (readPayload (getInt r.buf 1) bufLength 0 (fun _ => 0) r.stream) := by
  rw [round_found (skipToMagic_of_magic hm r.stream), if_neg (Nat.lt_irrefl 0), Nat.zero_add]

/-- The reader after an item was restored: there may be too many of them. -/
def afterItem (R : Restorer σ) (buf : Buffer) (stream : Bytes) (itemsRead : ℕ) (vpn : σ) :
    Reader σ :=
  if 2 * MAXLOGENTRIES < itemsRead then
    { nextItem buf stream itemsRead vpn with read := 0, vpn := R.log .tooManyEntries vpn }
  else nextItem buf stream itemsRead vpn

lemma afterItem_of_le (h : itemsRead ≤ 2 * MAXLOGENTRIES) :
    afterItem R buf stream itemsRead vpn = nextItem buf stream itemsRead vpn :=
  if_neg (Nat.not_lt.mpr h)

lemma afterPayload_item {r : Reader σ} {len : ℤ} {buf2 : Buffer} :
    afterPayload R r len (.ok (.item buf2, rest)) = (R.restoreLogItem buf2 len r.vpn).map
      (afterItem R r.buf rest (r.itemsRead + 1)) := by
  simp only [afterPayload]
  cases R.restoreLogItem buf2 len r.vpn with
  | error e => rfl
  | ok vpn =>
    by_cases hmany : 2 * MAXLOGENTRIES < r.itemsRead + 1
    · simp only [afterItem, nextItem, hmany, if_true, Except.map]
    · simp only [afterItem, nextItem, hmany, if_false, Except.map]

lemma round_item {r : Reader σ} {len : ℤ} {buf2 : Buffer} (hm : r.buf 0 = MAGIC_BYTE)
    (hl : getInt r.buf 1 = len)
    (hp : readPayload len bufLength 0 (fun _ => 0) r.stream = .ok (.item buf2, rest)) :
    round R r = (R.restoreLogItem buf2 len r.vpn).map
      (afterItem R r.buf rest (r.itemsRead + 1)) := by
  rw [round_of_magic hm, hl, hp, afterPayload_item]

/-- One pass over a record hands the item on and leaves what follows it. -/
theorem round_record (hlen : bytes.length ≤ bufLength) :
    ∃ buf', round R (nextItem buf (writeEscapedBytes bytes ++ rest) itemsRead vpn)
      = (R.restoreLogItem (contents bytes) bytes.length vpn).map
          (afterItem R buf' rest (itemsRead + 1)) := by
  have hw : (lenBytes bytes.length).length = 4 := rfl
  rw [writeEscapedBytes_append, nextItem_head hw]
  refine ⟨_, round_item ?_ ((getInt_head hw _ buf).trans (lengthOf_lenBytes hlen)) ?_⟩
  · exact readTo_magic hw (bytes.flatMap escapeByte ++ rest) buf
  · rw [readPayload_escaped (by simp) hlen, fill_zero]

/-! ### All records -/

/-- The items are restored one after the other. -/
def restoreAll (R : Restorer σ) (items : List Bytes) (vpn : σ) : Call σ :=
  items.foldlM (fun vpn bytes => R.restoreLogItem (contents bytes) bytes.length vpn) vpn

lemma length_records (items : List Bytes) :
    items.length ≤ (items.flatMap writeEscapedBytes).length := by
  induction items with
  | nil => simp
  | cons x items ih =>
    rw [List.flatMap_cons, List.length_append, List.length_cons, Nat.add_comm]
    exact Nat.add_le_add (by simp [writeEscapedBytes]) ih

lemma readloop_records (items : List Bytes) {fuel : ℕ} (hfuel : items.length ≤ fuel)
    (hn : itemsRead + items.length ≤ 2 * MAXLOGENTRIES)
    (hlen : ∀ x ∈ items, x.length ≤ bufLength) :
    readloop R fuel (nextItem buf (items.flatMap writeEscapedBytes) itemsRead vpn)
      = (restoreAll R items vpn).map (R.log (.rereadLog (itemsRead + items.length))) := by
  induction items generalizing fuel buf itemsRead vpn with
  | nil =>
    unfold readloop
    simp [nextItem, readCount, restoreAll, Except.map, pure, Except.pure]
  | cons x items ih =>
    obtain ⟨fuel, rfl⟩ : ∃ k, fuel = k + 1 := ⟨fuel - 1, by simp at hfuel; omega⟩
    rw [List.length_cons] at hfuel hn
    obtain ⟨buf', hround⟩ : ∃ buf', round R
        (nextItem buf (writeEscapedBytes x ++ items.flatMap writeEscapedBytes) itemsRead vpn)
          = (R.restoreLogItem (contents x) x.length vpn).map
              (afterItem R buf' (items.flatMap writeEscapedBytes) (itemsRead + 1)) :=
      round_record (hlen x (by simp))
    rw [List.flatMap_cons, readloop,
      if_pos (by rw [writeEscapedBytes_append, nextItem_head rfl]), hround, restoreAll,
      List.foldlM_cons]
    cases R.restoreLogItem (contents x) x.length vpn with
    | error e => rfl
    | ok vpn =>
      dsimp only [Except.map]
      rw [afterItem_of_le (by omega)]
      refine (ih (by omega) (by omega) fun y hy => hlen y (by simp [hy])).trans ?_
      rw [List.length_cons, show itemsRead + 1 + items.length = itemsRead + (items.length + 1)
        by omega]
      rfl

/-- **The log cache decodes what it encodes.** Reading back what was written for some items
restores each of them once, in order, from an array that begins with its bytes, and then ends
with the message that counts them; nothing else changes the state. -/
theorem readCacheContents_written (R : Restorer σ) (items : List Bytes) (vpn : σ)
    (hn : items.length ≤ 2 * MAXLOGENTRIES) (hlen : ∀ x ∈ items, x.length ≤ 16384) :
    readCacheContents R (items.flatMap writeEscapedBytes) vpn
      = (restoreAll R items vpn).map (R.log (.rereadLog items.length)) := by
  rw [readCacheContents, readloop_records items ((length_records items).trans (Nat.le_succ _))
    (by omega) hlen, Nat.zero_add]

/-- A restorer that only writes down its calls. -/
def recorder : Restorer (List (Bytes × ℤ)) where
  restoreLogItem buf len calls := .ok (calls ++ [((List.range len.toNat).map buf, len)])
  log _ calls := calls

/-- Lengths and bytes that read like a magic byte or an escape. -/
theorem readCacheContents_recorded :
    readCacheContents recorder ([[0x55, 0x56, 1], [], List.replicate 0x55 0].flatMap
      writeEscapedBytes) []
        = .ok [([0x55, 0x56, 1], 3), ([], 0), (List.replicate 0x55 0, 0x55)] := by
  rw [readCacheContents_written recorder _ _ (by decide) (by decide)]
  decide

end BuludTechVPN.LogFileHandler
