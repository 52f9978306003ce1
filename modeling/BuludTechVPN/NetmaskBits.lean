import BuludTechVPN.Cidr

/-!
How far the constructor of `CIDRIP` recognises a netmask by its bits, and on which one mask it
does not return.
-/

namespace BuludTechVPN.Cidr

open JavaLang

/-- The mask is made of four octets. -/
structure HasOctets (mask : Text) (octets : List ℕ) : Prop where
  parts : (splitAt (· = '.') mask).map signedOf = octets.map fun o => some (o : ℤ)
  length : octets.length = 4
  range : ∀ o ∈ octets, o ≤ 255

/-- The number that the octets write, the first the most significant. -/
def octetsValue (octets : List ℕ) : ℕ := octets.foldl (fun v o => v * 256 + o) 0

/-- The 32 bits of a mask, the most significant first. -/
def maskBits (octets : List ℕ) : List Bool :=
  List.ofFn fun i : Fin 32 => (octetsValue octets).testBit (31 - i)

/-- The first `n` bits are ones, and the others zeros. -/
def ConsistsOfOnes (octets : List ℕ) (n : ℕ) : Prop :=
  n ≤ 32 ∧ maskBits octets = List.replicate n true ++ List.replicate (32 - n) false

/-- What the constructor is there for: it returns with a prefix length, which is the number of
ones of a netmask, and that of a single host for every other mask. -/
structure Recognised (ip mask : Text) (c : CIDRIP) : Prop where
  returns : ofMask ip mask = .ok c
  nonneg : 0 ≤ c.len
  le : c.len ≤ 32
  ones : ∀ octets, HasOctets mask octets → ∀ n, ConsistsOfOnes octets n → c.len = n
  other : ∀ octets, HasOctets mask octets → (∀ n, ¬ ConsistsOfOnes octets n) → c.len = 32

/-! ### The bits of a netmask -/

lemma testBit_netmask {n : ℕ} (hn : n ≤ 32) (i : ℕ) :
    (2 ^ 32 - 2 ^ (32 - n) : ℕ).testBit i = decide (32 - n ≤ i ∧ i < 32) := by
  have hmul : (2 ^ 32 - 2 ^ (32 - n) : ℕ) = (2 ^ n - 1) * 2 ^ (32 - n) := by
    rw [Nat.sub_mul, ← pow_add, one_mul]
    congr 2
    omega
  rw [hmul, Nat.testBit_mul_two_pow, Nat.testBit_two_pow_sub_one, ← Bool.decide_and]
  apply decide_eq_decide.mpr
  omega

/-- **A netmask by its value**: the bits are `n` ones and then zeros for one number only. -/
lemma consistsOfOnes_iff {octets : List ℕ} (hv : octetsValue octets < 2 ^ 32) {n : ℕ} :
    ConsistsOfOnes octets n ↔ n ≤ 32 ∧ octetsValue octets = 2 ^ 32 - 2 ^ (32 - n) := by
  refine and_congr_right fun hn => ?_
  have hbit : ∀ i < 32, (maskBits octets)[i]? = some ((octetsValue octets).testBit (31 - i)) := by
    intro i hi
    rw [maskBits, List.getElem?_ofFn, dif_pos hi]
  have hones : ∀ i < 32, (List.replicate n true ++ List.replicate (32 - n) false)[i]? =
      some (decide (i < n)) := by
    intro i hi
    by_cases hin : i < n
    · rw [List.getElem?_append_left (by simpa using hin), List.getElem?_replicate_of_lt hin]
      simp [hin]
    · rw [List.getElem?_append_right (by simpa using hin), List.length_replicate,
        List.getElem?_replicate_of_lt (by omega)]
      simp [hin]
  constructor
  · intro h
    apply Nat.eq_of_testBit_eq
    intro i
    rw [testBit_netmask hn]
    by_cases hi : i < 32
    · have heq := (hbit (31 - i) (by omega)).symm.trans (h ▸ hones (31 - i) (by omega))
      rw [show 31 - (31 - i) = i by omega] at heq
      rw [Option.some.inj heq]
      apply decide_eq_decide.mpr
      omega
    · have hlt : octetsValue octets < 2 ^ i :=
        hv.trans_le (Nat.pow_le_pow_right (by decide) (by omega))
      rw [Nat.testBit_lt_two_pow hlt]
      exact (decide_eq_false fun hb => hi hb.2).symm
  · intro h
    apply List.ext_getElem?
    intro i
    by_cases hi : i < 32
    · rw [hbit i hi, hones i hi, h, testBit_netmask hn]
      congr 1
      apply decide_eq_decide.mpr
      omega
    · rw [List.getElem?_eq_none (by simpa [maskBits] using hi),
        List.getElem?_eq_none (by simp; omega)]

/-! ### What the mask is read as -/

lemma parseSigned_of_some {w : ℕ} {s : Text} {n : ℤ} (h : signedOf s = some n)
    (h1 : -2 ^ (w - 1) ≤ n) (h2 : n < 2 ^ (w - 1)) : parseSigned w s = .ok n := by
  unfold parseSigned
  rw [h]
  exact if_pos ⟨h1, h2⟩

lemma HasOctets.four {mask : Text} {octets : List ℕ} (h : HasOctets mask octets) :
    ∃ a b c d, octets = [a, b, c, d] := by
  match octets, h.length with
  | [a, b, c, d], _ => exact ⟨a, b, c, d, rfl⟩

lemma HasOctets.lt {mask : Text} {octets : List ℕ} (h : HasOctets mask octets) :
    octetsValue octets < 2 ^ 32 := by
  obtain ⟨a, b, c, d, rfl⟩ := h.four
  have hr := h.range
  simp only [List.mem_cons, List.not_mem_nil, or_false, forall_eq_or_imp, forall_eq] at hr
  simp only [octetsValue, List.foldl_cons, List.foldl_nil]
  omega

/-- Four octets are read as the number that they write. -/
lemma HasOctets.getInt {mask : Text} {octets : List ℕ} (h : HasOctets mask octets) :
    getInt mask = .ok (octetsValue octets : ℤ) := by
  obtain ⟨a, b, c, d, rfl⟩ := h.four
  have hr := h.range
  simp only [List.mem_cons, List.not_mem_nil, or_false, forall_eq_or_imp, forall_eq] at hr
  have hparts := h.parts
  match hsplit : splitAt (· = '.') mask with
  | [p0, p1, p2, p3] =>
    rw [hsplit] at hparts
    obtain ⟨h0, hparts⟩ := List.cons.inj hparts
    obtain ⟨h1, hparts⟩ := List.cons.inj hparts
    obtain ⟨h2, hparts⟩ := List.cons.inj hparts
    obtain ⟨h3, -⟩ := List.cons.inj hparts
    have hlong : parseLong p0 = .ok (a : ℤ) := parseSigned_of_some h0 (by omega) (by omega)
    have hint1 : parseInt p1 = .ok (b : ℤ) := parseSigned_of_some h1 (by omega) (by omega)
    have hint2 : parseInt p2 = .ok (c : ℤ) := parseSigned_of_some h2 (by omega) (by omega)
    have hint3 : parseInt p3 = .ok (d : ℤ) := parseSigned_of_some h3 (by omega) (by omega)
    simp only [Cidr.getInt, hsplit, arrayGet, List.getElem?_cons_zero, List.getElem?_cons_succ,
      hlong, hint1, hint2, hint3, bind, Except.bind, pure, Except.pure]
    simp only [octetsValue, List.foldl_cons, List.foldl_nil]
    refine congrArg Except.ok ?_
    push_cast
    unfold toLong toInt
    omega
  | [] | [_] | [_, _] | [_, _, _] | _ :: _ :: _ :: _ :: _ :: _ =>
    rw [hsplit] at hparts
    simp at hparts

/-! ### What is counted -/

lemma shiftZeros_mul {fuel : ℕ} {netmask z m k : ℤ}
    (h : shiftZeros fuel netmask z = some (m, k)) : netmask = m * 2 ^ (k - z).toNat := by
  induction fuel generalizing netmask z with
  | zero => cases h
  | succ fuel ih =>
    rw [shiftZeros] at h
    split at h
    next heven =>
      have hz := (shiftZeros_some h).2
      have hsucc : (k - z).toNat = (k - (z + 1)).toNat + 1 := by omega
      rw [hsucc, pow_succ, ← mul_assoc, ← ih h]
      omega
    next =>
      obtain ⟨rfl, rfl⟩ := Prod.mk.inj (Option.some.inj h)
      rw [sub_self, Int.toNat_zero, pow_zero, mul_one]

/-- Only a netmask gets a prefix length other than that of a single host. -/
lemma ofMask_other {ip mask : Text} {v : ℤ} {c : CIDRIP} (hget : getInt mask = .ok v)
    (h0 : 0 ≤ v) (hv : v < 2 ^ 32) (h : ofMask ip mask = .ok c) :
    c.len = 32 ∨ ∃ n ≤ 32, v = netmask n := by
  have hlong : toLong (v + 2 ^ 32) = v + 2 ^ 32 := toLong_of_range (by omega) (by omega)
  rw [ofMask, hget] at h
  simp only [bind, Except.bind, hlong] at h
  split at h
  · cases h
  next m k hk =>
    split at h
    next =>
      obtain rfl := Except.ok.inj h
      exact .inl rfl
    next heq =>
      right
      obtain ⟨hodd, hpos⟩ := shiftZeros_some hk
      obtain ⟨z, rfl⟩ := Int.eq_ofNat_of_zero_le hpos
      have hmul := shiftZeros_mul hk
      simp only [sub_zero, Int.toNat_natCast, not_not] at hmul heq
      have hz : z ≤ 32 := by
        -- the thirty-third shift leaves nothing of the netmask
        by_contra hlt
        have hbig : (2 : ℤ) ^ 33 ≤ 2 ^ z := pow_le_pow_right₀ (by norm_num) (by omega)
        rw [heq, Int.ediv_eq_zero_of_lt (by norm_num) (by omega)] at hodd
        omega
      have hpow : (2 : ℤ) ^ (33 - z) * 2 ^ z = 2 ^ 33 := by
        rw [← pow_add, Nat.sub_add_cancel (by omega : z ≤ 33)]
      rw [heq, allOnes_div (by omega), sub_mul, hpow, one_mul] at hmul
      refine ⟨32 - z, by omega, ?_⟩
      rw [netmask, show 32 - (32 - z) = z by omega]
      linarith only [hmul]

/-- The value of a netmask as a number that is read. -/
lemma cast_netmask {v n : ℕ} : (v : ℤ) = netmask n ↔ v = 2 ^ 32 - 2 ^ (32 - n) := by
  have hle : 2 ^ (32 - n) ≤ 2 ^ 32 := Nat.pow_le_pow_right (by decide) (by omega)
  have hcast : ((2 ^ 32 - 2 ^ (32 - n) : ℕ) : ℤ) = netmask n := by
    rw [netmask, Nat.cast_sub hle]
    push_cast
    rfl
  rw [← hcast, Nat.cast_inj]

/-- **Netmasks are recognised, and nothing else is**: the constructor does what it is there for
on every mask that is read as a number, except on the one that the thirty-third bit makes zero. -/
theorem netmask_recognised_iff (ip : Text) {mask : Text} {n : ℤ} (h : getInt mask = .ok n) :
    (∃ c, Recognised ip mask c) ↔ n ≠ -2 ^ 32 := by
  constructor
  · rintro ⟨c, hc⟩ rfl
    have hloop : ofMask ip mask = .error .endlessLoop := ofMask_of_loop h
    rw [hc.returns] at hloop
    cases hloop
  · intro hn
    obtain ⟨c, hc⟩ := ofMask_of_ok ip h hn
    obtain ⟨h0, h32⟩ := ofMask_len hc
    refine ⟨c, hc, h0, h32, ?_, ?_⟩
    · intro octets ho k hk
      obtain ⟨hk32, hval⟩ := (consistsOfOnes_iff ho.lt).mp hk
      have hget : getInt mask = .ok (netmask k) := cast_netmask.mpr hval ▸ ho.getInt
      rw [ofMask_of_netmask ip hk32 hget] at hc
      obtain rfl := Except.ok.inj hc
      rfl
    · intro octets ho hother
      have hlt : (octetsValue octets : ℤ) < 2 ^ 32 := by exact_mod_cast ho.lt
      refine (ofMask_other ho.getInt (Int.natCast_nonneg _) hlt hc).resolve_right ?_
      rintro ⟨k, hk, hval⟩
      exact hother k ((consistsOfOnes_iff ho.lt).mpr ⟨hk, cast_netmask.mp hval⟩)

/-- A mask of sixteen ones. -/
theorem netmask_recognised_iff_sixteen :
    (∃ c, Recognised "10.8.0.0".toList "255.255.0.0".toList c) ↔ (0xffff0000 : ℤ) ≠ -2 ^ 32 :=
  netmask_recognised_iff _ (by decide)

/-- **The loop that the thirty-third bit should end** does not on a negative first part. -/
theorem negative_mask_loops : ¬ ∀ (ip mask : Text) (n : ℤ), getInt mask = .ok n →
    ∃ c, Recognised ip mask c := by
  intro h
  obtain ⟨c, hc⟩ := h "10.8.0.0".toList "-256.0.0.0".toList (-2 ^ 32) (by decide)
  have hloop : ofMask "10.8.0.0".toList "-256.0.0.0".toList = .error .endlessLoop :=
    ofMask_of_loop (by decide)
  rw [hc.returns] at hloop
  cases hloop

end BuludTechVPN.Cidr
