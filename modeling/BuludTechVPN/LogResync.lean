import BuludTechVPN.CutLog

/-!
How the reader of the log cache finds the next record: it skips bytes up to a magic byte, or the
magic byte ends an item that is longer than its bytes.
-/

namespace BuludTechVPN.LogCache

open JavaLang LogFileHandler

variable {D : Utf8.Decoder} {itemsRead i : ℕ} {buf : Buffer} {junk rest stream : Bytes}
  {log : List LogItem}

/-! ### Skipping to a magic byte -/

/-- The array holds the first five of the bytes from the index on. -/
def Window (buf : Buffer) (i : ℕ) (bytes : Bytes) : Prop :=
  ∀ k < 5, buf (i + k) = bytes.getD k 0

lemma window_nextItem (buf : Buffer) (h : 5 ≤ stream.length) :
    Window (readTo buf 0 5 stream) 0 stream := by
  intro k hk
  rw [Nat.zero_add, readTo, if_pos ⟨Nat.zero_le k, by omega⟩, Nat.sub_zero]

/-- The next byte is read behind the window, which moves on. -/
lemma Window.next {b c : UInt8} {bytes : Bytes} (h : Window buf i (c :: bytes))
    (hb : bytes.getD 4 0 = b) :
    Window (readTo buf (i + 5) 1 [b]) (i + 1) bytes := by
  intro k hk
  unfold readTo
  rw [List.length_singleton, Nat.min_self]
  by_cases hk4 : k = 4
  · rw [if_pos (by omega), hk4, hb, show i + 1 + 4 - (i + 5) = 0 by omega]
    rfl
  · rw [if_neg (by omega), show i + 1 + k = i + (k + 1) by omega, h (k + 1) (by omega),
      List.getD_cons_succ]

/-- **A magic byte is found** behind bytes that are none, if they fit into the array. -/
lemma skipToMagic_found (hjunk : MAGIC_BYTE ∉ junk) (hrest : 4 ≤ rest.length)
    (hroom : i + junk.length + 10 ≤ bufLength)
    (hbuf : Window buf i (junk ++ MAGIC_BYTE :: rest)) :
    ∃ buf', skipToMagic i buf ((junk ++ MAGIC_BYTE :: rest).drop 5) =
        (true, i + junk.length, buf', rest.drop 4) ∧
      Window buf' (i + junk.length) (MAGIC_BYTE :: rest) := by
  induction junk generalizing i buf with
  | nil =>
    have hmagic : buf i = MAGIC_BYTE := hbuf 0 (by omega)
    refine ⟨buf, ?_, hbuf⟩
    rw [List.nil_append, List.drop_succ_cons]
    cases rest.drop 4 with
    | nil => rw [skipToMagic, if_pos hmagic]; rfl
    | cons b s => rw [skipToMagic, if_pos hmagic]; rfl
  | cons c junk ih =>
    rw [List.mem_cons, not_or] at hjunk
    rw [List.length_cons] at hroom
    have hc : buf i ≠ MAGIC_BYTE := by
      rw [show buf i = c from hbuf 0 (by omega)]
      exact fun h => hjunk.1 h.symm
    have hlen : 5 ≤ (junk ++ MAGIC_BYTE :: rest).length := by
      rw [List.length_append, List.length_cons]
      omega
    have hdrop : (c :: junk ++ MAGIC_BYTE :: rest).drop 5 =
        (junk ++ MAGIC_BYTE :: rest).getD 4 0 :: (junk ++ MAGIC_BYTE :: rest).drop 5 := by
      rw [List.cons_append, List.drop_succ_cons, List.getD_eq_getElem _ _ (by omega),
        ← List.drop_eq_getElem_cons]
    rw [List.cons_append] at hbuf
    obtain ⟨buf', hskip, hbuf'⟩ := ih hjunk.2 (by omega) (hbuf.next rfl)
    refine ⟨buf', ?_, ?_⟩
    · rw [hdrop, skipToMagic, if_neg hc]
      dsimp only
      rw [if_neg (by omega), hskip, List.length_cons, Nat.add_assoc, Nat.add_comm 1]
    · rw [List.length_cons, Nat.add_comm junk.length, ← Nat.add_assoc]
      exact hbuf'

/-- **No magic byte is found** where there is none, or behind too many bytes. -/
lemma skipToMagic_none (hjunk : MAGIC_BYTE ∉ junk) (hne : junk ≠ [])
    (hlen : 5 ≤ (junk ++ rest).length)
    (hroom : rest = [] ∨ bufLength < i + junk.length + 10) (hbuf : Window buf i (junk ++ rest)) :
    (skipToMagic i buf ((junk ++ rest).drop 5)).1 = false := by
  induction junk generalizing i buf with
  | nil => exact absurd rfl hne
  | cons c junk ih =>
    rw [List.mem_cons, not_or] at hjunk
    rw [List.length_cons] at hroom
    have hc : buf i ≠ MAGIC_BYTE := by
      rw [show buf i = c from hbuf 0 (by omega)]
      exact fun h => hjunk.1 h.symm
    rw [List.cons_append, List.drop_succ_cons]
    rw [List.cons_append] at hbuf
    rw [List.cons_append, List.length_cons] at hlen
    by_cases hend : (junk ++ rest).length = 4
    · rw [List.drop_eq_nil_of_le hend.le, skipToMagic, if_neg hc]
    · have hdrop : (junk ++ rest).drop 4 = (junk ++ rest).getD 4 0 :: (junk ++ rest).drop 5 := by
        rw [List.getD_eq_getElem _ _ (by omega), ← List.drop_eq_getElem_cons]
      rw [hdrop, skipToMagic, if_neg hc]
      dsimp only
      split_ifs with hlong
      · rfl
      · have hjunk' : junk ≠ [] := by
          rintro rfl
          rcases hroom with rfl | hroom
          · exact absurd hlen (by decide)
          · rw [List.length_nil] at hroom
            omega
        refine ih hjunk.2 hjunk' (by omega) ?_ (hbuf.next rfl)
        exact hroom.imp_right fun h => by omega

/-- Without a magic byte the loop ends. -/
lemma readOn_noMagic {r : Reader (List LogItem)} (h5 : 5 ≤ r.read)
    (h : (skipToMagic 0 r.buf r.stream).1 = false) : readOn D r = (r.vpn, none) := by
  obtain ⟨r', hround, hread, hlog⟩ : ∃ r', LogFileHandler.round (restorer D) r = .ok r' ∧
      r'.read = 0 ∧ r'.vpn = r.vpn := by
    unfold LogFileHandler.round
    dsimp only
    rw [if_pos (by rw [h]; rfl)]
    exact ⟨_, rfl, rfl, rfl⟩
  rw [readOn_ok h5 hround, readOn_of_lt (by rw [hread]; decide), hlog]

lemma nextItem_of_le (buf : Buffer) (h : 5 ≤ stream.length) (itemsRead : ℕ)
    (log : List LogItem) : nextItem buf stream itemsRead log =
      ⟨5, readTo buf 0 5 stream, stream.drop 5, itemsRead, log⟩ := by
  have hne : stream ≠ [] := List.ne_nil_of_length_pos (by omega)
  simp only [nextItem, readCount, if_neg hne, Reader.mk.injEq, and_true]
  omega

/-- A record behind bytes that are none. -/
lemma readOn_junk_record {rec : Record} (h : rec.item.Restorable) (hjunk : MAGIC_BYTE ∉ junk)
    (hroom : junk.length + 10 ≤ bufLength) (itemsRead : ℕ) (buf : Buffer) (rest : Bytes)
    (log : List LogItem) :
    ∃ buf', readOn D (nextItem buf (junk ++ (rec.written ++ rest)) itemsRead log) =
      readOn D (afterItem (restorer D) buf' rest (itemsRead + 1) (log ++ [rec.item])) := by
  have hwritten : rec.written ++ rest =
      MAGIC_BYTE :: (lenBytes rec.bytes.length ++ (rec.bytes.flatMap escapeByte ++ rest)) :=
    writeEscapedBytes_append _ _
  generalize htail : lenBytes rec.bytes.length ++ (rec.bytes.flatMap escapeByte ++ rest) = tail
    at hwritten
  have h4 : 4 ≤ tail.length := by
    rw [← htail, List.length_append]
    exact Nat.le_add_right 4 _
  have hlen : 5 ≤ (junk ++ MAGIC_BYTE :: tail).length := by
    rw [List.length_append, List.length_cons]
    omega
  obtain ⟨buf1, hskip, hbuf1⟩ := skipToMagic_found hjunk h4 (by rw [Nat.zero_add]; exact hroom)
    (window_nextItem buf hlen)
  rw [Nat.zero_add] at hskip hbuf1
  have hint : LogFileHandler.getInt buf1 (junk.length + 1) = rec.bytes.length := by
    have hrec := length_record rec
    unfold bufLength at hrec
    refine getInt_lenBytes (by omega) fun k hk => ?_
    have hwindow := hbuf1 (1 + k) (by omega)
    rw [← Nat.add_assoc] at hwindow
    rw [hwindow, Nat.add_comm, List.getD_cons_succ, ← htail,
      List.getD_append _ _ _ _ (show k < (lenBytes rec.bytes.length).length from hk)]
  have hdrop : tail.drop 4 = rec.bytes.flatMap escapeByte ++ rest := by
    rw [← htail]
    rfl
  have hp : readPayload rec.bytes.length bufLength 0 (fun _ => 0) (tail.drop 4) =
      .ok (.item (contents rec.bytes), rest) := by
    rw [hdrop, readPayload_escaped (by rw [Nat.cast_zero, Int.zero_add]) (length_record rec),
      fill_zero]
  have hrestore : restoreLogItem D (contents rec.bytes) rec.bytes.length log =
      .ok (log ++ [rec.item]) := by
    rw [restoreLogItem_contents (Int.toNat_natCast _).symm (length_record rec), ofBytes_record h]
    dsimp only
    rw [if_pos h.verify]
  have hround := round_found (R := restorer D) (r := ⟨5, readTo buf 0 5
    (junk ++ MAGIC_BYTE :: tail), (junk ++ MAGIC_BYTE :: tail).drop 5, itemsRead, log⟩) hskip
  rw [hint, hp, afterPayload_item, restorer_restoreLogItem] at hround
  simp only [restorer_log, ite_self, hrestore] at hround
  rw [hwritten, nextItem_of_le buf hlen]
  exact ⟨buf1, readOn_ok (Int.le_refl 5) hround⟩

/-- **Records behind bytes that are none** are restored, unless these are too many. -/
lemma readOn_junk {records : List Record} (h : ∀ rec ∈ records, rec.item.Restorable)
    (hjunk : MAGIC_BYTE ∉ junk) (ha : itemsRead ≤ 2 * MAXLOGENTRIES) (buf : Buffer)
    (log : List LogItem) :
    readOn D (nextItem buf (junk ++ cache records) itemsRead log) =
      (log ++ if junk.length + 10 ≤ bufLength
        then (records.map Record.item).take (2 * MAXLOGENTRIES + 1 - itemsRead) else [], none) := by
  by_cases hnil : junk = []
  · rw [hnil, List.nil_append, readOn_cache_end h ha, if_pos (by decide)]
  obtain _ | ⟨rec, records⟩ := records
  · have hend : readOn D (nextItem buf (junk ++ []) itemsRead log) = (log, none) := by
      by_cases hshort : (junk ++ []).length < 5
      · exact readOn_short hshort
      · have h5 := Nat.not_lt.mp hshort
        rw [nextItem_of_le buf h5]
        exact readOn_noMagic (Int.le_refl 5)
          (skipToMagic_none hjunk hnil h5 (.inl rfl) (window_nextItem buf h5))
    rw [show cache [] = [] from rfl, hend, List.map_nil, List.take_nil, ite_self,
      List.append_nil]
  · have hlen : 5 ≤ (junk ++ cache (rec :: records)).length := by
      rw [List.length_append, cache_cons, List.length_append]
      have : 5 ≤ rec.written.length := Nat.le_add_left 5 _
      omega
    split_ifs with hroom
    · rw [cache_cons]
      obtain ⟨buf', hread⟩ := readOn_junk_record (D := D) (h rec List.mem_cons_self) hjunk hroom
        itemsRead buf (cache records) log
      have htake : 2 * MAXLOGENTRIES + 1 - itemsRead =
          2 * MAXLOGENTRIES + 1 - (itemsRead + 1) + 1 := by omega
      rw [hread, htake, List.map_cons, List.take_succ_cons]
      by_cases hlast : 2 * MAXLOGENTRIES < itemsRead + 1
      · have hzero : 2 * MAXLOGENTRIES + 1 - (itemsRead + 1) = 0 := by omega
        rw [readOn_stopped hlast, hzero, List.take_zero]
      · rw [afterItem_of_le (Nat.not_lt.mp hlast), readOn_cache_end
          (fun r hr => h r (List.mem_cons_of_mem _ hr)) (by omega), List.append_assoc]
        rfl
    · rw [nextItem_of_le buf hlen, List.append_nil]
      exact readOn_noMagic (Int.le_refl 5) (skipToMagic_none hjunk hnil hlen
        (.inr (by omega)) (window_nextItem buf hlen))

end BuludTechVPN.LogCache
