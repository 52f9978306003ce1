import Mathlib.Data.List.Basic
import Mathlib.Data.BitVec

/-!
Numbers of a fixed width in a sequence of bytes, the most significant byte first, as a buffer of
bytes writes and reads them.

Writing and reading are inverse to each other: what is read from some bytes is what writes them.
So the outcome of a read says what the bytes are.
-/

namespace BuludTechVPN.ByteBuffer

abbrev Bytes := List UInt8

/-- The last `k` bytes of a number. -/
def bytesOf : ℕ → ℕ → Bytes
  | 0, _ => []
  | k + 1, n => UInt8.ofNat (n / 256 ^ k) :: bytesOf k n

/-- The number that the bytes write. -/
def valueOf : Bytes → ℕ
  | [] => 0
  | b :: bs => b.toNat * 256 ^ bs.length + valueOf bs

variable {b : UInt8} {bs rest : Bytes} {k n w : ℕ}

@[simp] lemma length_bytesOf (k n : ℕ) : (bytesOf k n).length = k := by
  induction k with
  | zero => rfl
  | succ k ih => rw [bytesOf, List.length_cons, ih]

lemma valueOf_lt (bs : Bytes) : valueOf bs < 256 ^ bs.length := by
  induction bs with
  | nil => exact Nat.one_pos
  | cons b bs ih =>
    have hb : b.toNat + 1 ≤ 256 := b.toNat_lt
    rw [valueOf, List.length_cons, pow_succ]
    calc b.toNat * 256 ^ bs.length + valueOf bs
        < b.toNat * 256 ^ bs.length + 256 ^ bs.length := Nat.add_lt_add_left ih _
      _ = (b.toNat + 1) * 256 ^ bs.length := by rw [Nat.add_mul, Nat.one_mul]
      _ ≤ 256 * 256 ^ bs.length := Nat.mul_le_mul_right _ hb
      _ = 256 ^ bs.length * 256 := Nat.mul_comm _ _

/-- **Reading back**: the bytes of a number write it, up to the width. -/
lemma valueOf_bytesOf (k n : ℕ) : valueOf (bytesOf k n) = n % 256 ^ k := by
  induction k with
  | zero => exact (Nat.mod_one n).symm
  | succ k ih =>
    have hdigit : (UInt8.ofNat (n / 256 ^ k)).toNat = n / 256 ^ k % 256 := UInt8.toNat_ofNat'
    rw [bytesOf, valueOf, length_bytesOf, ih, hdigit, pow_succ, Nat.mod_mul, Nat.mul_comm,
      Nat.add_comm]

/-- The bytes do not depend on what is beyond the width. -/
lemma bytesOf_add (k c n : ℕ) : bytesOf k (c * 256 ^ k + n) = bytesOf k n := by
  induction k generalizing c with
  | zero => rfl
  | succ k ih =>
    have hpos : 0 < 256 ^ k := Nat.pow_pos (by decide)
    have hsplit : c * 256 ^ (k + 1) = c * 256 * 256 ^ k := by
      rw [pow_succ, Nat.mul_comm (256 ^ k), Nat.mul_assoc]
    rw [bytesOf, bytesOf, hsplit, ih, Nat.mul_comm (c * 256), Nat.mul_add_div hpos]
    congr 1
    apply UInt8.toNat_inj.mp
    rw [UInt8.toNat_ofNat', UInt8.toNat_ofNat']
    omega

/-- **Writing back**: bytes are those of the number that they write. -/
lemma bytesOf_valueOf (bs : Bytes) : bytesOf bs.length (valueOf bs) = bs := by
  induction bs with
  | nil => rfl
  | cons b bs ih =>
    have hlt := valueOf_lt bs
    have hpos : 0 < 256 ^ bs.length := Nat.pow_pos (by decide)
    have hhigh : (b.toNat * 256 ^ bs.length + valueOf bs) / 256 ^ bs.length = b.toNat := by
      rw [Nat.mul_comm, Nat.mul_add_div hpos, Nat.div_eq_of_lt hlt, Nat.add_zero]
    rw [List.length_cons, valueOf, bytesOf, hhigh, bytesOf_add, ih, UInt8.ofNat_toNat]

/-! ### Numbers of a fixed width -/

/-- A number is written. -/
def put (k : ℕ) (x : BitVec w) : Bytes := bytesOf k x.toNat

/-- Some bytes are taken, if there are as many. -/
def take (k : ℕ) (bs : Bytes) : Option (Bytes × Bytes) :=
  if bs.length < k then none else some (bs.take k, bs.drop k)

/-- A number is read, if there are enough bytes. -/
def get (w k : ℕ) (bs : Bytes) : Option (BitVec w × Bytes) :=
  (take k bs).map fun p => (BitVec.ofNat w (valueOf p.1), p.2)

@[simp] lemma length_put (k : ℕ) (x : BitVec w) : (put k x).length = k := length_bytesOf _ _

lemma take_append (h : bs.length = k) : take k (bs ++ rest) = some (bs, rest) := by
  subst h
  rw [take, if_neg (by rw [List.length_append]; omega), List.take_left, List.drop_left]

lemma take_eq_some {p : Bytes × Bytes} (h : take k bs = some p) :
    bs = p.1 ++ p.2 ∧ p.1.length = k := by
  unfold take at h
  split_ifs at h with hk
  obtain rfl := Option.some.inj h
  exact ⟨(List.take_append_drop k bs).symm, by rw [List.length_take]; omega⟩

lemma take_eq_none : take k bs = none ↔ bs.length < k := by
  unfold take
  split_ifs with h
  · exact iff_of_true rfl h
  · exact iff_of_false nofun h

/-- **A read says what the bytes are.** -/
lemma get_eq_some (hw : w = 8 * k) {x : BitVec w} :
    get w k bs = some (x, rest) ↔ bs = put k x ++ rest := by
  have hpow : 256 ^ k = 2 ^ w := by
    rw [hw, pow_mul]
    rfl
  constructor
  · intro h
    obtain ⟨p, hp, hx⟩ := Option.map_eq_some_iff.mp h
    obtain ⟨rfl, rfl⟩ := Prod.mk.inj hx
    obtain ⟨hbs, hlen⟩ := take_eq_some hp
    have hlt := valueOf_lt p.1
    rw [hlen, hpow] at hlt
    rw [put, BitVec.toNat_ofNat, Nat.mod_eq_of_lt hlt, ← hlen, bytesOf_valueOf]
    exact hbs
  · rintro rfl
    rw [get, take_append (length_put k x), Option.map_some, put, valueOf_bytesOf, hpow,
      Nat.mod_eq_of_lt x.isLt, BitVec.ofNat_toNat, BitVec.setWidth_eq]

lemma get_put (hw : w = 8 * k) (x : BitVec w) (rest : Bytes) :
    get w k (put k x ++ rest) = some (x, rest) := (get_eq_some hw).mpr rfl

lemma get_eq_none : get w k bs = none ↔ bs.length < k := by
  rw [get, Option.map_eq_none_iff, take_eq_none]

end BuludTechVPN.ByteBuffer
