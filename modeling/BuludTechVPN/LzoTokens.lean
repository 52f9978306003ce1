import BuludTechVPN.LzoCompress
import Mathlib.Data.Nat.Bitwise

/-!
What the decompressor makes of the lengths and matches that the compressor writes.
-/

namespace BuludTechVPN.Lzo

open ByteBuffer Lookbehind Stopping

variable {w : LzoUint} {cap : ℕ} {m : Machine} {x behind rest out : Bytes} {code : Code}
  {n t s k o off base marker : ℕ}

/-! ### The tests that are passed -/

lemma needIp_eq (h : n ≤ m.ahead.length) (hw : m.ahead.length < w.size) : m.needIp w n = .ok () := by
  unfold Machine.needIp
  rw [w.wrap_of_lt hw, w.wrap_of_lt (h.trans_lt hw), if_neg (not_lt.2 h)]

lemma needOp_eq (h : m.out.length + n ≤ cap) (hw : cap < w.size) : m.needOp w cap n = .ok () := by
  unfold Machine.needOp
  rw [w.wrap_of_lt (by omega), w.wrap_of_lt (by omega), if_neg (by omega)]

lemma testLb_eq (h : off ≤ m.out.length) (hpos : 0 < off) : m.testLb off = .ok () := by
  unfold Machine.testLb
  rw [if_neg (by omega)]

lemma testLength_eq (h : t ≤ w.size - 511) : m.testLength w code t = .ok () := by
  unfold Machine.testLength
  rw [if_neg (not_lt.2 h)]

lemma assertPos_eq (h : 0 < t) : m.assertPos t = .ok () := if_pos h

lemma get_cons (b : UInt8) :
    Machine.get ⟨behind, b :: rest, out⟩ = .ok (b, ⟨b :: behind, rest, out⟩) :=
  rfl

/-! ### Bytes -/

lemma toNat_byte (h : n < 256) : (byte n).toNat = n := by
  rw [byte, UInt8.toNat_ofNat', Nat.mod_eq_of_lt h]

lemma byte_toNat (b : UInt8) : byte b.toNat = b := UInt8.ofNat_toNat

/-- The two low bits are free. -/
lemma toNat_orBits {a : UInt8} (ha : a.toNat % 4 = 0) (hs : s < 4) :
    (byte (a.toNat ||| s)).toNat = a.toNat + s := by
  have hlt : a.toNat < 256 := a.toNat_lt
  have hor : (a.toNat / 4) <<< 2 + s = (a.toNat / 4) <<< 2 ||| s :=
    Nat.shiftLeft_add_eq_or_of_lt hs _
  have hdiv : (a.toNat / 4) <<< 2 = a.toNat := by
    rw [Nat.shiftLeft_eq]
    omega
  rw [hdiv] at hor
  rw [← hor, toNat_byte (by omega)]

lemma and_eight (a : ℕ) : a &&& 8 = a / 8 % 2 * 8 := by
  have h := Nat.and_two_pow a 3
  rwa [Nat.toNat_testBit] at h

/-! ### Lengths -/

/-- A length is written as zero bytes and a rest. -/
lemma lengthBytes_spec (h : 0 < t) : ∃ z b, lengthBytes t = List.replicate z 0 ++ [b] ∧ b ≠ 0 ∧
    t = 255 * z + b.toNat := by
  induction t using Nat.strong_induction_on with
  | _ t ih =>
    rw [lengthBytes]
    split_ifs with hmany
    · obtain ⟨z, b, hz, hb, ht⟩ := ih (t - 255) (by omega) (by omega)
      refine ⟨z + 1, b, ?_, hb, by omega⟩
      rw [hz]
      rfl
    · have ht : (byte t).toNat = t := toNat_byte (by omega)
      refine ⟨0, byte t, rfl, fun h0 => ?_, by omega⟩
      rw [h0] at ht
      exact absurd ht (by rw [UInt8.toNat_zero]; omega)

variable (code) (behind) (rest) (out) in
lemma zeroRun_replicate {z : ℕ} {b : UInt8} (hb : b ≠ 0) (ht : t + 255 * z ≤ w.size - 511)
    (hlength : z + rest.length < w.size) :
    zeroRun w code out t behind (List.replicate z 0 ++ b :: rest) =
      .ok (t + 255 * z, ⟨List.replicate z 0 ++ behind, b :: rest, out⟩) := by
  have hlarge := w.size_large
  induction z generalizing t behind with
  | zero =>
    rw [List.replicate_zero, List.nil_append, zeroRun, if_neg hb]
    rfl
  | succ z ih =>
    have hsplit : t + 255 * (z + 1) = t + 255 + 255 * z := by ring
    rw [hsplit] at ht ⊢
    have hlong : t + 255 ≤ w.size - 511 := (Nat.le_add_right _ _).trans ht
    have hwrap : w.wrap (t + 255) = t + 255 := w.wrap_of_lt (by omega)
    have hnext := ih (0 :: behind) (t := t + 255) ht (by omega)
    have hmore : (List.replicate z 0 ++ b :: rest).length = z + rest.length + 1 := by
      rw [List.length_append, List.length_replicate, List.length_cons]
      omega
    have hip : Machine.needIp w ⟨0 :: behind, List.replicate z 0 ++ b :: rest, out⟩ 1 = .ok () := by
      refine needIp_eq ?_ ?_
      · change 1 ≤ (List.replicate z 0 ++ b :: rest).length
        omega
      · change (List.replicate z 0 ++ b :: rest).length < w.size
        omega
    have hzero : (0 : UInt8) = 0 := rfl
    rw [List.replicate_succ, List.cons_append, zeroRun, if_pos hzero, hwrap, testLength_eq hlong,
      ok_bind, hip, ok_bind, hnext]
    have hzeros : List.replicate z (0 : UInt8) ++ 0 :: behind =
        0 :: (List.replicate z 0 ++ behind) := by
      rw [List.append_cons, ← List.replicate_succ', List.replicate_succ, List.cons_append]
    rw [hzeros]
    rfl

variable (code) (behind) (rest) (out) in
/-- **A length is read back.** -/
lemma longLength_eq (h : 0 < t) (hbase : base ≤ 31) (ht : t + 511 ≤ w.size)
    (hlength : (lengthBytes t).length + rest.length < w.size) :
    longLength w code base ⟨behind, lengthBytes t ++ rest, out⟩ =
      .ok (base + t, ⟨(lengthBytes t).reverse ++ behind, rest, out⟩) := by
  obtain ⟨z, b, hz, hb, hvalue⟩ := lengthBytes_spec h
  rw [hz, List.length_append, List.length_replicate, List.length_singleton] at hlength
  have hrun := zeroRun_replicate behind rest out code (w := w) (t := 0) (z := z) hb (by omega)
    (by omega)
  have hwrap : w.wrap (0 + 255 * z + (base + b.toNat)) = base + t := by
    rw [w.wrap_of_lt (by omega)]
    omega
  rw [hz, List.append_assoc, List.singleton_append]
  unfold longLength
  simp only [hrun, ok_bind, get_cons, hwrap]
  rw [List.reverse_append, List.reverse_replicate]
  rfl

/-! ### Matches -/

lemma length_take_reverse (h : k ≤ x.length) : (x.take k).reverse.length = k := by
  rw [List.length_reverse, List.length_take]
  omega

/-- A match that was found is copied. -/
lemma longMatch_eq (hrep : Repeats x k (t + 2) off) (ht : 0 < t) (hcap : x.length ≤ cap)
    (hw : cap < w.size) : longMatch w cap off t ⟨behind, rest, (x.take k).reverse⟩ =
      .ok (.matchDone, ⟨behind, rest, (x.take (k + (t + 2))).reverse⟩) := by
  have hbound := hrep.bound
  have hk : (x.take k).reverse.length = k := length_take_reverse (by omega)
  have hlb : Machine.testLb ⟨behind, rest, (x.take k).reverse⟩ off = .ok () :=
    testLb_eq (hrep.within.trans hk.ge) hrep.pos
  have hop : (x.take k).reverse.length + (t + 2) ≤ cap := by omega
  have hcopy := copyBack_take hrep.pos hrep.within hrep.bound hrep.same
  unfold longMatch
  rw [hlb, ok_bind, assertPos_eq ht, ok_bind, needOp_eq hop hw, ok_bind,
    copyMatch_eq hrep.pos hcopy hop]
  rfl

/-- The two bytes of an offset, with the bits for the next literals. -/
def farBytes (o s : ℕ) : Bytes := [byte ((byte (o <<< 2)).toNat ||| s), byte (o >>> 6)]

lemma toNat_far (o : ℕ) : (byte (o <<< 2)).toNat = o * 4 % 256 := by
  rw [byte, UInt8.toNat_ofNat', Nat.shiftLeft_eq]

/-- An offset is read back. -/
lemma farOffset_eq (hs : s < 4) : farOffset ⟨behind, farBytes o s ++ rest, out⟩ =
    .ok (o % 2 ^ 14, ⟨(farBytes o s).reverse ++ behind, rest, out⟩) := by
  have hlow := toNat_far o
  have hhigh : (byte (o >>> 6)).toNat = o / 64 % 256 := by
    rw [byte, UInt8.toNat_ofNat', Nat.shiftRight_eq_div_pow]
  have hbits : (byte ((byte (o <<< 2)).toNat ||| s)).toNat = o * 4 % 256 + s := by
    rw [toNat_orBits (by omega) hs, hlow]
  change farOffset ⟨behind, byte ((byte (o <<< 2)).toNat ||| s) :: byte (o >>> 6) :: rest, out⟩ = _
  unfold farOffset
  simp only [get_cons, ok_bind, hbits, hhigh]
  have hvalue : (o * 4 % 256 + s) >>> 2 + (o / 64 % 256) <<< 6 = o % 2 ^ 14 := by
    rw [Nat.shiftRight_eq_div_pow, Nat.shiftLeft_eq]
    omega
  rw [hvalue]
  rfl

/-- The length of a match is read back. -/
lemma matchHeader_spec {i : ℕ} (hi : i ≤ 5) (hi' : 2 ≤ i) (hmarker : 2 ^ i ∣ marker)
    (hlt : marker + 2 ^ i ≤ 256) (hn : 4 ≤ n) (hw : n + 511 ≤ w.size) :
    ∃ t tail, matchHeader marker (2 ^ i + 1) n = t :: tail ∧ marker ≤ t.toNat ∧
      t.toNat < marker + 2 ^ i ∧ ∀ behind rest out, 2 ≤ rest.length →
        tail.length + rest.length < w.size →
          matchLength w (2 ^ i - 1) (t.toNat &&& (2 ^ i - 1)) ⟨behind, tail ++ rest, out⟩ =
            .ok (n - 2, ⟨tail.reverse ++ behind, rest, out⟩) := by
  have hfour : 2 ^ 2 ≤ 2 ^ i := Nat.pow_le_pow_right (by decide) hi'
  have hthirty : 2 ^ i ≤ 2 ^ 5 := Nat.pow_le_pow_right (by decide) hi
  obtain ⟨q, rfl⟩ := hmarker
  unfold matchHeader
  split_ifs with hshort
  · have hor : q <<< i + (n - 2) = q <<< i ||| (n - 2) :=
      Nat.shiftLeft_add_eq_or_of_lt (by omega) _
    rw [Nat.shiftLeft_eq, Nat.mul_comm q] at hor
    have hbyte : (byte (2 ^ i * q ||| (n - 2))).toNat = 2 ^ i * q + (n - 2) := by
      rw [← hor, toNat_byte (by omega)]
    refine ⟨_, [], rfl, by omega, by omega, fun behind rest out _ _ => ?_⟩
    have hlow : 2 ^ i * q + (n - 2) &&& 2 ^ i - 1 = n - 2 := by
      rw [Nat.and_two_pow_sub_one_eq_mod, Nat.mul_add_mod, Nat.mod_eq_of_lt (by omega)]
    rw [hbyte, hlow, matchLength, if_neg (by omega)]
    rfl
  · have hbyte : (byte (2 ^ i * q)).toNat = 2 ^ i * q := toNat_byte (by omega)
    refine ⟨_, _, rfl, hbyte.ge, by omega, fun behind rest out hrest hlength => ?_⟩
    have hlow : 2 ^ i * q &&& 2 ^ i - 1 = 0 := by
      rw [Nat.and_two_pow_sub_one_eq_mod, Nat.mul_mod_right]
    have hmask : 2 ^ i - 1 ≤ 31 := by omega
    have hread := longLength_eq behind rest out .outputOverrun (w := w) (t := n - (2 ^ i + 1))
      (by omega) hmask (by omega) hlength
    have hip : Machine.needIp w ⟨(lengthBytes (n - (2 ^ i + 1))).reverse ++ behind, rest, out⟩ 2 =
        .ok () := needIp_eq hrest (by change rest.length < w.size; omega)
    rw [hbyte, hlow, matchLength, if_pos rfl]
    simp only [hread, ok_bind, hip]
    have hvalue : 2 ^ i - 1 + (n - (2 ^ i + 1)) = n - 2 := by omega
    rw [hvalue]
    rfl

variable (s) (o) in
/-- The length is read back where an offset follows. -/
lemma matchHeader_far {i : ℕ} (hi : i ≤ 5) (hi' : 2 ≤ i) (hmarker : 2 ^ i ∣ marker)
    (hlt : marker + 2 ^ i ≤ 256) (hn : 4 ≤ n) (hw : n + 511 ≤ w.size) :
    ∃ t tail, matchHeader marker (2 ^ i + 1) n = t :: tail ∧ marker ≤ t.toNat ∧
      t.toNat < marker + 2 ^ i ∧ ∀ behind rest out,
        (t :: tail ++ farBytes o s).length + rest.length < w.size →
          matchLength w (2 ^ i - 1) (t.toNat &&& (2 ^ i - 1))
              ⟨behind, tail ++ (farBytes o s ++ rest), out⟩ =
            .ok (n - 2, ⟨tail.reverse ++ behind, farBytes o s ++ rest, out⟩) := by
  obtain ⟨t, tail, hheader, hge, hless, hread⟩ := matchHeader_spec (w := w) hi hi' hmarker hlt hn hw
  refine ⟨t, tail, hheader, hge, hless, fun behind rest out hlength => ?_⟩
  have hlength' : tail.length + (farBytes o s ++ rest).length < w.size := by
    simp only [List.length_append, List.length_cons] at hlength ⊢
    omega
  refine hread behind (farBytes o s ++ rest) out ?_ hlength'
  rw [List.length_append]
  exact Nat.le_add_right 2 _

/-- The bit of the offset that stands in the marker. -/
lemma marker_M4 (ho : o < 2 ^ 15) : M4_MARKER ||| (o >>> 11 &&& 8) = 16 + o / 2 ^ 14 * 8 := by
  have hand : o >>> 11 &&& 8 = o / 2 ^ 14 * 8 := by
    rw [and_eight, Nat.shiftRight_eq_div_pow, Nat.div_div_eq_div_mul]
    change o / 2 ^ 14 % 2 * 8 = o / 2 ^ 14 * 8
    omega
  rw [hand]
  obtain h | h : o / 2 ^ 14 = 0 ∨ o / 2 ^ 14 = 1 := by omega
  · rw [h]
    rfl
  · rw [h]
    rfl

lemma toNat_near (hn : 4 ≤ n) (hshort : n ≤ M2_MAX_LEN) :
    (byte ((n - 1) <<< 5 ||| (o &&& 7) <<< 2)).toNat = (n - 1) * 32 + o % 8 * 4 := by
  change n ≤ 8 at hshort
  have hlow : o &&& 7 = o % 8 := Nat.and_two_pow_sub_one_eq_mod o 3
  have hor : (n - 1) <<< 5 + (o % 8) <<< 2 = (n - 1) <<< 5 ||| (o % 8) <<< 2 := by
    refine Nat.shiftLeft_add_eq_or_of_lt ?_ _
    rw [Nat.shiftLeft_eq]
    omega
  rw [hlow, ← hor, Nat.shiftLeft_eq, Nat.shiftLeft_eq, toNat_byte (by omega)]

/-- A token is read as a match of `n` bytes. -/
def Decodes (w : LzoUint) (cap : ℕ) (x : Bytes) (k n : ℕ) (token : Bytes) : Prop :=
  ∃ t tail, token = t :: tail ∧ 16 ≤ t.toNat ∧ ∀ behind rest, 0 < rest.length →
    token.length + rest.length < w.size →
      matchTop w cap t.toNat ⟨t :: behind, tail ++ rest, (x.take k).reverse⟩ =
        .ok (.matchDone, ⟨token.reverse ++ behind, rest, (x.take (k + n)).reverse⟩)

section Tokens

variable (hn : 4 ≤ n) (hs : s < 4) (hcap : x.length ≤ cap) (hw : cap + 511 ≤ w.size)

include hn hs hcap hw

lemma decodes_M2 (hshort : n ≤ M2_MAX_LEN) (ho : o < M2_MAX_OFFSET) (hrep : Repeats x k n (o + 1)) :
    Decodes w cap x k n
      [byte ((byte ((n - 1) <<< 5 ||| (o &&& 7) <<< 2)).toNat ||| s), byte (o >>> 3)] := by
  have hbyte := toNat_near (o := o) hn hshort
  change n ≤ 8 at hshort
  change o < 2048 at ho
  have hbits : (byte ((byte ((n - 1) <<< 5 ||| (o &&& 7) <<< 2)).toNat ||| s)).toNat =
      (n - 1) * 32 + o % 8 * 4 + s := by
    rw [toNat_orBits (by omega) hs, hbyte]
  have hnext : (byte (o >>> 3)).toNat = o / 8 := by
    rw [Nat.shiftRight_eq_div_pow, toNat_byte (by omega)]
  refine ⟨_, _, rfl, by omega, fun behind rest _ _ => ?_⟩
  have hoff : 1 + (((n - 1) * 32 + o % 8 * 4 + s) >>> 2 &&& 7) + (o / 8) <<< 3 = o + 1 := by
    have hand : ((n - 1) * 32 + o % 8 * 4 + s) >>> 2 &&& 7 =
        ((n - 1) * 32 + o % 8 * 4 + s) >>> 2 % 8 := Nat.and_two_pow_sub_one_eq_mod _ 3
    rw [hand, Nat.shiftRight_eq_div_pow, Nat.shiftLeft_eq]
    omega
  have hlen : ((n - 1) * 32 + o % 8 * 4 + s) >>> 5 - 1 = n - 2 := by
    rw [Nat.shiftRight_eq_div_pow]
    omega
  have htwo : n - 2 + 2 = n := by omega
  rw [hbits, matchTop, if_pos (by omega), List.singleton_append, get_cons, ok_bind]
  simp only [hnext, hoff, hlen]
  rw [longMatch_eq (by rwa [htwo]) (by omega) hcap (by omega), htwo]
  rfl

lemma decodes_M3 (ho : o < M3_MAX_OFFSET) (hrep : Repeats x k n (o + 1)) :
    Decodes w cap x k n (matchHeader M3_MARKER M3_MAX_LEN n ++ farBytes o s) := by
  have hbound := hrep.bound
  change o < 2 ^ 14 at ho
  obtain ⟨t, tail, hheader, hge, hlt, hread⟩ := matchHeader_far s o (w := w) (i := 5)
    le_rfl (by decide) (show 2 ^ 5 ∣ M3_MARKER by decide) (by decide) hn (by omega)
  change matchHeader M3_MARKER M3_MAX_LEN n = t :: tail at hheader
  change 32 ≤ t.toNat at hge
  change t.toNat < 64 at hlt
  rw [hheader]
  refine ⟨t, tail ++ farBytes o s, rfl, by omega, fun behind rest _ hlength => ?_⟩
  have hmatch := hread (t :: behind) rest (x.take k).reverse hlength
  have htwo : n - 2 + 2 = n := by omega
  have hoff : Repeats x k (n - 2 + 2) (1 + o) := by rwa [htwo, Nat.add_comm]
  rw [matchTop, if_neg (by omega), if_pos (by omega), List.append_assoc]
  change (matchLength w (2 ^ 5 - 1) (t.toNat &&& (2 ^ 5 - 1)) _ >>= _) = _
  simp only [hmatch, ok_bind, farOffset_eq hs, Nat.mod_eq_of_lt ho]
  rw [longMatch_eq hoff (by omega) hcap (by omega), htwo]
  simp only [List.reverse_append, List.reverse_cons, List.append_assoc, List.singleton_append]

lemma decodes_M4 (ho : o < 2 ^ 15) (hpos : 0 < o) (hrep : Repeats x k n (o + 0x4000)) :
    Decodes w cap x k n
      (matchHeader (M4_MARKER ||| (o >>> 11 &&& 8)) M4_MAX_LEN n ++ farBytes o s) := by
  have hbound := hrep.bound
  rw [marker_M4 ho]
  have hdvd : 2 ^ 3 ∣ 16 + o / 2 ^ 14 * 8 := ⟨2 + o / 2 ^ 14, by ring⟩
  obtain ⟨t, tail, hheader, hge, hlt, hread⟩ := matchHeader_far s o (w := w) (i := 3) (by decide)
    (by decide) hdvd (by omega) hn (by omega)
  change matchHeader (16 + o / 2 ^ 14 * 8) M4_MAX_LEN n = t :: tail at hheader
  rw [hheader]
  refine ⟨t, tail ++ farBytes o s, rfl, by omega, fun behind rest _ hlength => ?_⟩
  have hmatch := hread (t :: behind) rest (x.take k).reverse hlength
  have htwo : n - 2 + 2 = n := by omega
  have hhigh : (t.toNat &&& 8) <<< 11 + o % 2 ^ 14 = o := by
    have hbit : t.toNat / 8 % 2 = o / 2 ^ 14 := by omega
    rw [and_eight, hbit, Nat.shiftLeft_eq]
    omega
  have hoff : Repeats x k (n - 2 + 2) (o + 0x4000) := by rwa [htwo]
  rw [matchTop, if_neg (by omega), if_neg (by omega), if_pos (by omega), List.append_assoc]
  change (matchLength w (2 ^ 3 - 1) (t.toNat &&& (2 ^ 3 - 1)) _ >>= _) = _
  simp only [hmatch, ok_bind, farOffset_eq hs, hhigh]
  rw [if_neg (by omega), longMatch_eq hoff (by omega) hcap (by omega), htwo]
  simp only [List.reverse_append, List.reverse_cons, List.append_assoc, List.singleton_append]

end Tokens

/-- **Every match is read back**, also with the number of the literals behind it in the byte before
its last one. -/
lemma matchToken_spec (hn : 4 ≤ n) (hfar : off ≤ M4_MAX_OFFSET) (hcap : x.length ≤ cap)
    (hw : cap + 511 ≤ w.size) (hrep : Repeats x k n off) :
    ∃ front a b, matchToken n off = front ++ [a, b] ∧ a.toNat % 4 = 0 ∧
      ∀ s < 4, Decodes w cap x k n (front ++ [byte (a.toNat ||| s), b]) := by
  have hpos := hrep.pos
  unfold matchToken
  split_ifs with hM2 hM3
  · obtain ⟨hshort, hnear⟩ := hM2
    refine ⟨[], _, _, rfl, ?_, fun s hs => decodes_M2 hn hs hcap hw hshort ?_ ?_⟩
    · rw [toNat_near hn hshort]
      omega
    · omega
    · rwa [Nat.sub_add_cancel hpos]
  · refine ⟨_, _, _, rfl, ?_, fun s hs => decodes_M3 hn hs hcap hw ?_ ?_⟩
    · rw [toNat_far]
      omega
    · omega
    · rwa [Nat.sub_add_cancel hpos]
  · change ¬ off ≤ 0x4000 at hM3
    change off ≤ 0xbfff at hfar
    refine ⟨_, _, _, rfl, ?_, fun s hs => decodes_M4 hn hs hcap hw ?_ ?_ ?_⟩
    · rw [toNat_far]
      omega
    · omega
    · omega
    · rwa [Nat.sub_add_cancel (by omega)]

end BuludTechVPN.Lzo
