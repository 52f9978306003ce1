import BuludTechVPN.LogFileHandler
import BuludTechVPN.LogItem

/-!
`readLogCache`: the items that are brought back into the log from the cache file.

An exception ends the reading. `readLogCache` catches it, and the items that were restored in
the passes before stay in the log.
-/

namespace BuludTechVPN.LogCache

open JavaLang LogFileHandler

variable (D : Utf8.Decoder)

/-- `restoreLogItem`, the log being the items that `newLogItem` is called with. -/
def restoreLogItem (buf : Buffer) (len : ℤ) (log : List LogItem) : Call (List LogItem) :=
  match ofBytes D ((List.range bufLength).map buf) len with
  | .error e => .error e.abrupt
  | .ok li => .ok (if li.verify then log ++ [li] else log)

/-- The messages of the reader are not items of the cache. -/
def restorer : Restorer (List LogItem) where
  restoreLogItem := restoreLogItem D
  log _ log := log

@[simp] lemma restorer_restoreLogItem : (restorer D).restoreLogItem = restoreLogItem D := rfl

@[simp] lemma restorer_log (n : Notice) (log : List LogItem) : (restorer D).log n log = log := rfl

/-- `readloop`, with the log that it leaves and the exception that ends it. -/
def readItems : ℕ → Reader (List LogItem) → List LogItem × Option Abrupt
  | fuel, r =>
    if 5 ≤ r.read then
      match fuel with
      | 0 => (r.vpn, some .endlessLoop)
      | fuel + 1 =>
        match LogFileHandler.round (restorer D) r with
        | .error e => (r.vpn, some e)
        | .ok r => readItems fuel r
    else (r.vpn, none)

/-- `readLogCache`, of the bytes of the file: the items that it restores, and the exception that
it catches. -/
def readLogCache (stream : Bytes) : List LogItem × Option Abrupt :=
  readItems D (stream.length + 1) (nextItem (fun _ => 0) stream 0 [])

/-! ### The records of the cache -/

/-- An item with the bytes that it is marshalled to. -/
structure Record where
  item : LogItem
  bytes : Bytes
  marschaled : item.getMarschaledBytes = .ok bytes

namespace Record

/-- What `writeLogItemToDisk` writes. -/
def written (r : Record) : Bytes := writeEscapedBytes r.bytes

/-- The bytes of a record after its length. -/
def payload (r : Record) : Bytes := r.bytes.flatMap escapeByte

end Record

/-- The file after the items were written. -/
def cache (records : List Record) : Bytes := records.flatMap Record.written

/-- An item that the cache can bring back: the format has its arguments, and it passes
`verify`. -/
structure LogItem.Restorable (li : LogItem) : Prop where
  message : li.mMessage ≠ some []
  args : ∀ args, li.mArgs = some args →
    1 ≤ args.length ∧ args.length ≤ 30 ∧ ∀ a ∈ args, a.IsMarschaled
  verify : li.verify = true

/-! ### Exceptions -/

variable {D} {fuel itemsRead : ℕ} {buf : Buffer} {rest stream : Bytes} {log : List LogItem}
  {r : Reader (List LogItem)}

/-- The loop completes abruptly with the exception, if there is one. -/
lemma readloop_eq (fuel : ℕ) (r : Reader (List LogItem)) : readloop (restorer D) fuel r =
    (readItems D fuel r).2.elim (.ok (readItems D fuel r).1) .error := by
  induction fuel generalizing r with
  | zero =>
    unfold readloop readItems
    split_ifs
    · rfl
    · rfl
  | succ fuel ih =>
    unfold readloop readItems
    split_ifs
    · cases LogFileHandler.round (restorer D) r with
      | error e => rfl
      | ok r' => exact ih r'
    · rfl

/-- **`readCacheContents` throws** what `readLogCache` catches. -/
theorem readCacheContents_eq (stream : Bytes) : readCacheContents (restorer D) stream [] =
    (readLogCache D stream).2.elim (.ok (readLogCache D stream).1) .error :=
  readloop_eq _ _

/-- Fuel beyond the length of the stream changes nothing. -/
lemma readItems_fuel {n m : ℕ} (hn : r.stream.length < n) (hm : r.stream.length < m) :
    readItems D n r = readItems D m r := by
  induction n generalizing m r with
  | zero => omega
  | succ n ih =>
    obtain ⟨m, rfl⟩ : ∃ k, m = k + 1 := ⟨m - 1, by omega⟩
    unfold readItems
    split_ifs
    · cases hr : LogFileHandler.round (restorer D) r with
      | error e => rfl
      | ok r' =>
        dsimp only
        by_cases h5 : 5 ≤ r'.read
        · have := round_length hr h5
          exact ih (by omega) (by omega)
        · unfold readItems
          rw [if_neg h5, if_neg h5]
    · rfl

/-! ### Every restored item is whole -/

lemma restoreLogItem_restorable {len : ℤ} {log' : List LogItem}
    (h : restoreLogItem D buf len log = .ok log') (hlog : ∀ li ∈ log, li.Restorable) :
    ∀ li ∈ log', li.Restorable := by
  unfold restoreLogItem at h
  split at h
  · cases h
  · rename_i item hitem
    obtain ⟨hmessage, hargs⟩ := ofBytes_wellFormed hitem
    cases h
    split_ifs with hverify
    · rw [List.forall_mem_append, List.forall_mem_singleton]
      exact ⟨hlog, hmessage, hargs, hverify⟩
    · exact hlog

/-- What follows the payload loop appends an item that is whole, or none. -/
lemma afterPayload_restorable {r' : Reader (List LogItem)} {len : ℤ} {x : Call (Payload × Bytes)}
    (h : afterPayload (restorer D) r len x = .ok r') (hlog : ∀ li ∈ r.vpn, li.Restorable) :
    ∀ li ∈ r'.vpn, li.Restorable := by
  obtain _ | ⟨_ | _, stream⟩ := x
  · cases h
  · simp only [afterPayload, restorer_restoreLogItem, restorer_log] at h
    split at h
    · cases h
    · rename_i log' hrestore
      have hlog' := restoreLogItem_restorable hrestore hlog
      split_ifs at h
      · cases h
        exact hlog'
      · cases h
        exact hlog'
  · cases h
    exact hlog

lemma round_restorable {r' : Reader (List LogItem)}
    (h : LogFileHandler.round (restorer D) r = .ok r')
    (hlog : ∀ li ∈ r.vpn, li.Restorable) : ∀ li ∈ r'.vpn, li.Restorable := by
  unfold LogFileHandler.round at h
  simp only [restorer_log, ite_self] at h
  split_ifs at h
  · cases h
    exact hlog
  · exact afterPayload_restorable h hlog

lemma readItems_restorable (hlog : ∀ li ∈ r.vpn, li.Restorable) :
    ∀ li ∈ (readItems D fuel r).1, li.Restorable := by
  induction fuel generalizing r with
  | zero =>
    unfold readItems
    split_ifs
    · exact hlog
    · exact hlog
  | succ fuel ih =>
    unfold readItems
    split_ifs
    · cases hr : LogFileHandler.round (restorer D) r with
      | error e => exact hlog
      | ok r' => exact ih (round_restorable hr hlog)
    · exact hlog

/-- **Whatever is in the file**, a restored item has the form of an item that was written and
passes `verify`. -/
theorem restored_restorable (D : Utf8.Decoder) (stream : Bytes) :
    ∀ li ∈ (readLogCache D stream).1, li.Restorable :=
  readItems_restorable fun _ h => absurd h List.not_mem_nil

/-! ### How many items are restored -/

lemma restoreLogItem_length {len : ℤ} {log' : List LogItem}
    (h : restoreLogItem D buf len log = .ok log') : log'.length ≤ log.length + 1 := by
  unfold restoreLogItem at h
  split at h
  · cases h
  · cases h
    split_ifs
    · rw [List.length_append, List.length_singleton]
    · exact Nat.le_succ _

/-- What the log can still grow by, up to the limit of the reader. -/
def room (r : Reader (List LogItem)) : ℕ :=
  r.vpn.length + (2 * MAXLOGENTRIES + 1 - r.itemsRead)

/-- What follows the payload loop counts the item that it restores. -/
lemma afterPayload_room {r' : Reader (List LogItem)} {len : ℤ} {x : Call (Payload × Bytes)}
    (h : afterPayload (restorer D) r len x = .ok r') (hr : r.itemsRead ≤ 2 * MAXLOGENTRIES) :
    room r' ≤ room r ∧ (5 ≤ r'.read → r'.itemsRead ≤ 2 * MAXLOGENTRIES) := by
  obtain _ | ⟨_ | _, stream⟩ := x
  · cases h
  · simp only [afterPayload, restorer_restoreLogItem, restorer_log] at h
    split at h
    · cases h
    · rename_i log' hrestore
      have hlog' := restoreLogItem_length hrestore
      have hroom : log'.length + (2 * MAXLOGENTRIES + 1 - (r.itemsRead + 1)) ≤ room r := by
        unfold room
        omega
      split_ifs at h with hmany
      · cases h
        exact ⟨hroom, fun h5 => absurd h5 (Int.not_le.mpr (by decide : (0 : ℤ) < 5))⟩
      · cases h
        exact ⟨hroom, fun _ => Nat.not_lt.mp hmany⟩
  · cases h
    exact ⟨le_rfl, fun _ => hr⟩

lemma round_room {r' : Reader (List LogItem)}
    (h : LogFileHandler.round (restorer D) r = .ok r') (hr : r.itemsRead ≤ 2 * MAXLOGENTRIES) :
    room r' ≤ room r ∧ (5 ≤ r'.read → r'.itemsRead ≤ 2 * MAXLOGENTRIES) := by
  unfold LogFileHandler.round at h
  simp only [restorer_log, ite_self] at h
  split_ifs at h
  · cases h
    exact ⟨le_rfl, fun h5 => absurd h5 (Int.not_le.mpr (by decide : (0 : ℤ) < 5))⟩
  · have hroom := afterPayload_room h hr
    exact hroom

lemma length_readItems (hr : 5 ≤ r.read → r.itemsRead ≤ 2 * MAXLOGENTRIES) :
    (readItems D fuel r).1.length ≤ room r := by
  have hle : r.vpn.length ≤ room r := Nat.le_add_right _ _
  induction fuel generalizing r with
  | zero =>
    unfold readItems
    split_ifs
    · exact hle
    · exact hle
  | succ fuel ih =>
    unfold readItems
    split_ifs with h5
    · cases hround : LogFileHandler.round (restorer D) r with
      | error e => exact hle
      | ok r' =>
        obtain ⟨hroom, hr'⟩ := round_room hround (hr h5)
        exact (ih hr' (Nat.le_add_right _ _)).trans hroom
    · exact hle

/-- **Whatever is in the file**, no more items are restored than the limit of the reader. -/
theorem length_readLogCache (D : Utf8.Decoder) (stream : Bytes) :
    (readLogCache D stream).1.length ≤ 2 * MAXLOGENTRIES + 1 := by
  have hread : (readLogCache D stream).1.length ≤ room (nextItem (fun _ => 0) stream 0 []) :=
    length_readItems fun _ => Nat.zero_le _
  rwa [room, nextItem, List.length_nil, Nat.zero_add, Nat.sub_zero] at hread

/-! ### Records -/

/-- The array from which an item is made. -/
lemma array_contents {bytes : Bytes} (h : bytes.length ≤ bufLength) :
    (List.range bufLength).map (contents bytes) =
      bytes ++ List.replicate (bufLength - bytes.length) 0 := by
  apply List.ext_getElem
  · rw [List.length_map, List.length_range, List.length_append, List.length_replicate]
    omega
  · intro i hi hi'
    rw [List.getElem_map, List.getElem_range, contents]
    by_cases hir : i < bytes.length
    · rw [List.getElem_append_left hir, List.getD_eq_getElem _ _ hir]
    · rw [List.getElem_append_right (Nat.not_lt.mp hir), List.getElem_replicate,
        List.getD_eq_default _ _ (Nat.not_lt.mp hir)]

/-- What is behind the bytes of an item in the array does not matter. -/
lemma ofBytes_append {bytes : Bytes} {len : ℤ} (h : bytes.length = len.toNat) (rest : Bytes) :
    ofBytes D (bytes ++ rest) len = ofBytes D bytes len := by
  by_cases h0 : len < 0
  · rw [ofBytes, if_pos (.inl h0), ofBytes, if_pos (.inl h0)]
  · rw [ofBytes, if_neg (by rw [List.length_append]; omega), ofBytes, if_neg (by omega), ← h,
      List.take_left, List.take_length]

/-- An item that is made of bytes at the beginning of the array. -/
lemma restoreLogItem_contents {bytes : Bytes} {len : ℤ} (h : bytes.length = len.toNat)
    (hroom : bytes.length ≤ bufLength) (log : List LogItem) :
    restoreLogItem D (contents bytes) len log =
      match ofBytes D bytes len with
      | .error e => .error e.abrupt
      | .ok item => .ok (if item.verify then log ++ [item] else log) := by
  rw [restoreLogItem, array_contents hroom, ofBytes_append h]

lemma length_record (rec : Record) : rec.bytes.length ≤ bufLength := by
  obtain ⟨-, -, hlen, -⟩ := getMarschaledBytes_eq_ok.mp rec.marschaled
  exact hlen

/-- The item of a record is read back. -/
lemma ofBytes_record {rec : Record} (h : rec.item.Restorable) :
    ofBytes D rec.bytes rec.bytes.length = .ok rec.item := by
  have hfew : ¬ 30 < (rec.item.mArgs.getD []).length := by
    cases hl : rec.item.mArgs with
    | none => exact Nat.not_lt_zero _
    | some args => exact Nat.not_lt.mpr (h.args args hl).2.1
  have hstored : rec.item.stored = rec.item := by
    rw [LogItem.stored, storedMessage_eq_self h.message,
      storedArgs_eq_self fun args hl => ⟨(h.args args hl).1, (h.args args hl).2.2⟩]
  have hof := ofBytes_marschaled (D := D) rec.marschaled []
  rw [List.append_nil, if_neg hfew, hstored] at hof
  exact hof

lemma cache_cons (rec : Record) (records : List Record) :
    cache (rec :: records) = rec.written ++ cache records := List.flatMap_cons

lemma cache_append (records records' : List Record) :
    cache (records ++ records') = cache records ++ cache records' := List.flatMap_append

lemma length_cache (records : List Record) : records.length ≤ (cache records).length := by
  induction records with
  | nil => exact le_rfl
  | cons rec records ih =>
    rw [cache_cons, List.length_append, List.length_cons, Nat.add_comm]
    exact Nat.add_le_add (Nat.succ_pos _) ih

/-! ### The reading, without fuel -/

variable (D) in
/-- The rest of the reading. -/
def readOn (r : Reader (List LogItem)) : List LogItem × Option Abrupt :=
  readItems D (r.stream.length + 1) r

lemma readLogCache_eq (stream : Bytes) :
    readLogCache D stream = readOn D (nextItem (fun _ => 0) stream 0 []) := by
  have hlen : (nextItem (fun _ => 0) stream 0 ([] : List LogItem)).stream.length ≤
      stream.length := by
    rw [nextItem, List.length_drop]
    exact Nat.sub_le _ _
  exact readItems_fuel (Nat.lt_succ_of_le hlen) (Nat.lt_succ_self _)

/-- Without the first bytes of a record the loop ends. -/
lemma readItems_of_lt (h : r.read < 5) : readItems D fuel r = (r.vpn, none) := by
  unfold readItems
  rw [if_neg (Int.not_le.mpr h)]

lemma readOn_of_lt (h : r.read < 5) : readOn D r = (r.vpn, none) := readItems_of_lt h

/-- The loop goes on with what a pass leaves. -/
lemma readOn_ok {r' : Reader (List LogItem)} (h5 : 5 ≤ r.read)
    (h : LogFileHandler.round (restorer D) r = .ok r') : readOn D r = readOn D r' := by
  have hpass : readOn D r = readItems D r.stream.length r' := by
    rw [readOn, readItems, if_pos h5, h]
  rw [hpass]
  by_cases h5' : 5 ≤ r'.read
  · have hlt := round_length h h5'
    exact readItems_fuel hlt (Nat.lt_succ_self _)
  · rw [readItems_of_lt (Int.not_le.mp h5'), readOn_of_lt (Int.not_le.mp h5')]

lemma readOn_error {e : Abrupt} (h5 : 5 ≤ r.read)
    (h : LogFileHandler.round (restorer D) r = .error e) : readOn D r = (r.vpn, some e) := by
  rw [readOn, readItems, if_pos h5, h]

lemma readOn_short (h : rest.length < 5) :
    readOn D (nextItem buf rest itemsRead log) = (log, none) := by
  refine readOn_of_lt ?_
  simp only [nextItem, readCount]
  split_ifs
  · decide
  · omega

/-- Beyond the limit the loop ends. -/
lemma readOn_stopped (h : 2 * MAXLOGENTRIES < itemsRead) :
    readOn D (afterItem (restorer D) buf rest itemsRead log) = (log, none) := by
  rw [afterItem, if_pos h]
  exact readOn_of_lt (by decide : (0 : ℤ) < 5)

/-- At the end of the file the loop ends. -/
lemma readOn_nil : readOn D (afterItem (restorer D) buf [] itemsRead log) = (log, none) := by
  by_cases h : 2 * MAXLOGENTRIES < itemsRead
  · exact readOn_stopped h
  · rw [afterItem_of_le (Nat.not_lt.mp h)]
    exact readOn_short (by decide)

/-! ### A pass over a magic byte and a length -/

section Head

variable {w bytes : Bytes} {len : ℤ} (hw : w.length = 4) (hlen : lengthOf w = len)
include hw hlen

lemma nextItem_pass (buf : Buffer) (stream : Bytes) (itemsRead : ℕ) (log : List LogItem) :
    ∃ buf1 : Buffer, buf1 0 = MAGIC_BYTE ∧ LogFileHandler.getInt buf1 1 = len ∧
      nextItem buf ((MAGIC_BYTE :: w) ++ stream) itemsRead log =
        ⟨5, buf1, stream, itemsRead, log⟩ :=
  ⟨_, readTo_magic hw stream buf, (getInt_head hw stream buf).trans hlen,
    nextItem_head hw stream buf itemsRead log⟩

/-- The constructor of the item throws. -/
lemma readOn_head_error {e : Malformed}
    (hp : readPayload len bufLength 0 (fun _ => 0) stream = .ok (.item (contents bytes), rest))
    (hbytes : bytes.length = len.toNat) (hroom : bytes.length ≤ bufLength)
    (hof : ofBytes D bytes len = .error e) :
    readOn D (nextItem buf ((MAGIC_BYTE :: w) ++ stream) itemsRead log) =
      (log, some e.abrupt) := by
  obtain ⟨buf1, hmagic, hint, hnext⟩ := nextItem_pass hw hlen buf stream itemsRead log
  have hround := round_item (R := restorer D) (r := ⟨5, buf1, stream, itemsRead, log⟩) hmagic
    hint hp
  rw [restorer_restoreLogItem, restoreLogItem_contents hbytes hroom, hof] at hround
  rw [hnext]
  exact readOn_error (Int.le_refl 5) hround

/-- An item is made of the bytes. -/
lemma readOn_head_item {item : LogItem}
    (hp : readPayload len bufLength 0 (fun _ => 0) stream = .ok (.item (contents bytes), rest))
    (hbytes : bytes.length = len.toNat) (hroom : bytes.length ≤ bufLength)
    (hof : ofBytes D bytes len = .ok item) :
    ∃ buf', readOn D (nextItem buf ((MAGIC_BYTE :: w) ++ stream) itemsRead log) =
      readOn D (afterItem (restorer D) buf' rest (itemsRead + 1)
        (if item.verify then log ++ [item] else log)) := by
  obtain ⟨buf1, hmagic, hint, hnext⟩ := nextItem_pass hw hlen buf stream itemsRead log
  have hround := round_item (R := restorer D) (r := ⟨5, buf1, stream, itemsRead, log⟩) hmagic
    hint hp
  rw [restorer_restoreLogItem, restoreLogItem_contents hbytes hroom, hof] at hround
  rw [hnext]
  exact ⟨buf1, readOn_ok (Int.le_refl 5) hround⟩

/-- The item is longer than the array. -/
lemma readOn_head_overflow {e : Abrupt}
    (hp : readPayload len bufLength 0 (fun _ => 0) stream = .error e) :
    readOn D (nextItem buf ((MAGIC_BYTE :: w) ++ stream) itemsRead log) = (log, some e) := by
  obtain ⟨buf1, hmagic, hint, hnext⟩ := nextItem_pass hw hlen buf stream itemsRead log
  have hround := round_of_magic (R := restorer D) (r := ⟨5, buf1, stream, itemsRead, log⟩)
    hmagic
  rw [hint, hp] at hround
  rw [hnext]
  exact readOn_error (Int.le_refl 5) hround

/-- **After an item that is aborted**, whatever the reason, the reader takes what follows for
the bytes after a magic byte. -/
lemma readOn_head_aborted {n : Notice}
    (hp : readPayload len bufLength 0 (fun _ => 0) stream = .ok (.aborted n, rest)) :
    ∃ buf', readOn D (nextItem buf ((MAGIC_BYTE :: w) ++ stream) itemsRead log) =
      readOn D (nextItem buf' (MAGIC_BYTE :: rest) itemsRead log) := by
  obtain ⟨buf1, hmagic, hint, hnext⟩ := nextItem_pass hw hlen buf stream itemsRead log
  have hround := round_of_magic (R := restorer D) (r := ⟨5, buf1, stream, itemsRead, log⟩)
    hmagic
  rw [hint, hp] at hround
  rw [hnext]
  refine ⟨buf1, (readOn_ok (Int.le_refl 5) hround).trans ?_⟩
  by_cases hnil : rest = []
  · rw [hnil, readOn_short (by decide : [MAGIC_BYTE].length < 5)]
    exact readOn_of_lt (by decide : readCount 4 [] + 1 < 5)
  · have hbuf' : readTo buf1 1 4 rest = readTo buf1 0 5 (MAGIC_BYTE :: rest) := by
      funext i
      unfold readTo
      rw [List.length_cons]
      obtain _ | i := i
      · rw [if_neg (by omega), if_pos (by omega), hmagic]
        rfl
      · rw [Nat.sub_zero, List.getD_cons_succ, Nat.add_sub_cancel]
        by_cases hi : i < min 4 rest.length
        · rw [if_pos (by omega), if_pos (by omega)]
        · rw [if_neg (by omega), if_neg (by omega)]
    have hread : readCount 4 rest + 1 = readCount 5 (MAGIC_BYTE :: rest) := by
      rw [readCount, if_neg hnil, readCount, if_neg (List.cons_ne_nil _ _), List.length_cons]
      omega
    rw [hbuf', hread]
    rfl

end Head

/-! ### Whole records -/

/-- A pass over a record restores its item. -/
lemma readOn_record {rec : Record} (h : rec.item.Restorable) (itemsRead : ℕ) (buf : Buffer)
    (rest : Bytes) (log : List LogItem) :
    ∃ buf', readOn D (nextItem buf (rec.written ++ rest) itemsRead log) =
      readOn D (afterItem (restorer D) buf' rest (itemsRead + 1) (log ++ [rec.item])) := by
  have hp : readPayload rec.bytes.length bufLength 0 (fun _ => 0)
      (rec.bytes.flatMap escapeByte ++ rest) = .ok (.item (contents rec.bytes), rest) := by
    rw [readPayload_escaped (by rw [Nat.cast_zero, Int.zero_add]) (length_record rec), fill_zero]
  obtain ⟨buf', hread⟩ := readOn_head_item (D := D) rfl (lengthOf_lenBytes (length_record rec))
    hp (Int.toNat_natCast _).symm (length_record rec) (ofBytes_record h)
  rw [if_pos h.verify] at hread
  rw [Record.written, writeEscapedBytes_append]
  exact ⟨buf', hread⟩

/-- **Whole records** are restored one after the other. -/
lemma readOn_cache {records : List Record} (h : ∀ rec ∈ records, rec.item.Restorable)
    (itemsRead : ℕ) (hn : itemsRead + records.length ≤ 2 * MAXLOGENTRIES) (buf : Buffer)
    (rest : Bytes) (log : List LogItem) :
    ∃ buf', readOn D (nextItem buf (cache records ++ rest) itemsRead log) =
      readOn D (nextItem buf' rest (itemsRead + records.length)
        (log ++ records.map Record.item)) := by
  induction records generalizing buf itemsRead log with
  | nil =>
    refine ⟨buf, ?_⟩
    rw [List.map_nil, List.append_nil]
    rfl
  | cons rec records ih =>
    rw [List.length_cons] at hn
    obtain ⟨buf1, hrec⟩ := readOn_record (D := D) (h rec List.mem_cons_self) itemsRead buf
      (cache records ++ rest) log
    rw [afterItem_of_le (by omega)] at hrec
    obtain ⟨buf2, hrecords⟩ := ih (fun r hr => h r (List.mem_cons_of_mem _ hr)) (itemsRead + 1)
      (by omega) buf1 (log ++ [rec.item])
    refine ⟨buf2, ?_⟩
    rw [List.length_cons, cache_cons, List.append_assoc, hrec, hrecords, List.map_cons,
      List.append_assoc, List.singleton_append, Nat.add_right_comm, Nat.add_assoc]

/-- Of more records than the limit, those up to the limit are restored. -/
lemma readOn_cache_many {records : List Record} (h : ∀ rec ∈ records, rec.item.Restorable)
    (ha : itemsRead ≤ 2 * MAXLOGENTRIES) (hn : 2 * MAXLOGENTRIES < itemsRead + records.length)
    (buf : Buffer) (rest : Bytes) (log : List LogItem) :
    readOn D (nextItem buf (cache records ++ rest) itemsRead log) =
      (log ++ (records.map Record.item).take (2 * MAXLOGENTRIES + 1 - itemsRead), none) := by
  induction records generalizing buf itemsRead log with
  | nil =>
    rw [List.length_nil] at hn
    omega
  | cons rec records ih =>
    rw [List.length_cons] at hn
    obtain ⟨buf1, hrec⟩ := readOn_record (D := D) (h rec List.mem_cons_self) itemsRead buf
      (cache records ++ rest) log
    have htake : 2 * MAXLOGENTRIES + 1 - itemsRead =
        2 * MAXLOGENTRIES + 1 - (itemsRead + 1) + 1 := by omega
    rw [cache_cons, List.append_assoc, hrec, htake, List.map_cons, List.take_succ_cons]
    by_cases hlast : 2 * MAXLOGENTRIES < itemsRead + 1
    · have hzero : 2 * MAXLOGENTRIES + 1 - (itemsRead + 1) = 0 := by omega
      rw [readOn_stopped hlast, hzero, List.take_zero]
    · rw [afterItem_of_le (Nat.not_lt.mp hlast),
        ih (fun r hr => h r (List.mem_cons_of_mem _ hr)) (by omega) (by omega), List.append_assoc]
      rfl

/-- Records up to the end of the file. -/
lemma readOn_cache_end {records : List Record} (h : ∀ rec ∈ records, rec.item.Restorable)
    (ha : itemsRead ≤ 2 * MAXLOGENTRIES) (buf : Buffer) (log : List LogItem) :
    readOn D (nextItem buf (cache records) itemsRead log) =
      (log ++ (records.map Record.item).take (2 * MAXLOGENTRIES + 1 - itemsRead), none) := by
  rw [← List.append_nil (cache records)]
  by_cases hn : itemsRead + records.length ≤ 2 * MAXLOGENTRIES
  · obtain ⟨buf', hread⟩ := readOn_cache (D := D) h itemsRead hn buf [] log
    rw [hread, readOn_short (by decide), List.take_of_length_le (by rw [List.length_map]; omega)]
  · exact readOn_cache_many h ha (Nat.not_le.mp hn) buf [] log

end BuludTechVPN.LogCache
