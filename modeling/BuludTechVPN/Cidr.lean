import BuludTechVPN.JavaLang

/-!
`CIDRIP`: an IPv4 address with a prefix length, and the reading of a dotted netmask.
-/

namespace BuludTechVPN.Cidr

open JavaLang

structure CIDRIP where
  mIp : Text
  len : ℤ
  deriving DecidableEq, Repr

/-- `CIDRIP.getInt`. The first octet is shifted as a `long`, the others as an `int`. -/
def getInt (ipaddr : Text) : Call ℤ := do
  let ipt := splitAt (· = '.') ipaddr
  let ip0 ← parseLong (← arrayGet ipt 0)
  let ip1 ← parseInt (← arrayGet ipt 1)
  let ip2 ← parseInt (← arrayGet ipt 2)
  let ip3 ← parseInt (← arrayGet ipt 3)
  return toLong (toLong (toLong (toLong (ip0 * 2 ^ 24) + toInt (ip1 * 2 ^ 16)) +
    toInt (ip2 * 2 ^ 8)) + ip3)

/-- The loop that shifts the zeros out of the netmask, for at most `fuel` rounds. -/
def shiftZeros : ℕ → ℤ → ℤ → Option (ℤ × ℤ)
  | 0, _, _ => none
  | fuel + 1, netmask, lenZeros =>
    if netmask % 2 = 0 then shiftZeros fuel (netmask / 2) (lenZeros + 1)
    else some (netmask, lenZeros)

/-- `new CIDRIP(ip, mask)`. A `long` that is not zero shows a one within 64 rounds, so a loop
that needs more never ends. -/
def ofMask (ip mask : Text) : Call CIDRIP := do
  let netmask := toLong ((← getInt mask) + 2 ^ 32)
  match shiftZeros 64 netmask 0 with
  | none => .error .endlessLoop
  | some (netmask, lenZeros) =>
    if netmask ≠ 0x1ffffffff / 2 ^ lenZeros.toNat then return ⟨ip, 32⟩
    else return ⟨ip, 32 - lenZeros⟩

lemma shiftZeros_some {fuel : ℕ} {netmask z m k : ℤ} (h : shiftZeros fuel netmask z = some (m, k)) :
    m % 2 = 1 ∧ z ≤ k := by
  induction fuel generalizing netmask z with
  | zero => cases h
  | succ fuel ih =>
    rw [shiftZeros] at h
    split at h
    next =>
      have := ih h
      omega
    next =>
      obtain ⟨rfl, rfl⟩ := Prod.mk.inj (Option.some.inj h)
      omega

/-- The prefix length is one of IPv4. -/
lemma ofMask_len {ip mask : Text} {c : CIDRIP} (h : ofMask ip mask = .ok c) :
    0 ≤ c.len ∧ c.len ≤ 32 := by
  unfold ofMask at h
  obtain ⟨n, -, h⟩ := bind_eq_ok.mp h
  simp only at h
  split at h
  · cases h
  next m k hk =>
    obtain ⟨hodd, hpos⟩ := shiftZeros_some hk
    split at h
    next =>
      obtain rfl := Except.ok.inj h
      simp
    next heq =>
      obtain rfl := Except.ok.inj h
      refine ⟨?_, by simp only; omega⟩
      -- the thirty-third shift leaves nothing of the netmask
      by_contra hneg
      have hpow : (2 : ℤ) ^ 33 ≤ 2 ^ k.toNat :=
        pow_le_pow_right₀ (by norm_num) (by simp only at hneg; omega)
      have hzero : (0x1ffffffff : ℤ) / 2 ^ k.toNat = 0 :=
        Int.ediv_eq_zero_of_lt (by norm_num) (by omega)
      rw [not_not.mp heq, hzero] at hodd
      omega

lemma ofMask_mIp {ip mask : Text} {c : CIDRIP} (h : ofMask ip mask = .ok c) : c.mIp = ip := by
  unfold ofMask at h
  rw [bind_eq_ok] at h
  obtain ⟨n, -, h⟩ := h
  dsimp only at h
  split at h
  · cases h
  · split_ifs at h <;> cases h <;> rfl

/-- `CIDRIP.toString`. -/
def CIDRIP.toString (c : CIDRIP) : Text := c.mIp ++ '/' :: showInt c.len

/-- `%d.%d.%d.%d` of the four octets. The mask `0xff000000` is a negative `int`, so it keeps
every bit above the third octet. -/
def dotted (ip : ℤ) : Text :=
  showInt (ip / 2 ^ 24) ++ '.' :: showInt (ip / 2 ^ 16 % 2 ^ 8) ++
    '.' :: showInt (ip / 2 ^ 8 % 2 ^ 8) ++ '.' :: showInt (ip % 2 ^ 8)

/-- `CIDRIP.normalise`: the object afterwards, and whether it changed. -/
def CIDRIP.normalise (c : CIDRIP) : Call (CIDRIP × Bool) := do
  let ip ← getInt c.mIp
  -- `0xffffffffL << (32 - len)`: the distance of a `long` shift counts modulo 64
  let shift := ((32 - c.len) % 64).toNat
  let newip := toLong (ip - ip % 2 ^ shift - ip / 2 ^ (32 + shift) * 2 ^ (32 + shift))
  if newip ≠ ip then return (⟨dotted newip, c.len⟩, true) else return (c, false)

/-- Texts with a character between them are the parts at it. -/
lemma splitAt_intercalate {c : Char} {ws : List Text} (hws : ∀ w ∈ ws, c ∉ w ∧ w ≠ [])
    (h : 1 < ws.length) : splitAt (· = c) ([c].intercalate ws) = ws := by
  have hany : ([c].intercalate ws).any (· = c) = true := by
    match ws, h with
    | w :: v :: ws, _ => simp [List.intercalate_cons_cons]
  have hne : ws ≠ [] := by
    rintro rfl
    cases h
  have hsplit : ([c].intercalate ws).splitOnP (· = c) = ws :=
    List.splitOn_intercalate c (fun w hw => (hws w hw).1) hne
  rw [splitAt, if_pos hany, hsplit, List.rdropWhile_eq_self_iff]
  intro hne
  simpa using (hws _ (List.getLast_mem hne)).2

/-- The text that `dotted` writes reads as the number it was written from. -/
lemma getInt_dotted {n : ℤ} (h1 : -2 ^ 63 ≤ n) (h2 : n < 2 ^ 63) : getInt (dotted n) = .ok n := by
  let octets : List ℤ := [n / 2 ^ 24, n / 2 ^ 16 % 2 ^ 8, n / 2 ^ 8 % 2 ^ 8, n % 2 ^ 8]
  have hjoin : dotted n = ['.'].intercalate (octets.map showInt) := by
    simp [dotted, octets, List.intercalate_cons_cons]
  have hparts : splitAt (· = '.') (['.'].intercalate (octets.map showInt)) =
      octets.map showInt := by
    refine splitAt_intercalate (fun w hw => ?_) (by simp [octets])
    obtain ⟨m, -, rfl⟩ := List.mem_map.mp hw
    exact ⟨other_not_mem_showInt (by decide) (by decide) m, showInt_ne_nil m⟩
  have hlong : parseLong (showInt (n / 2 ^ 24)) = .ok (n / 2 ^ 24) :=
    parseSigned_showInt (by norm_num; omega) (by norm_num; omega)
  have hint : ∀ m : ℤ, parseInt (showInt (m % 2 ^ 8)) = .ok (m % 2 ^ 8) := fun m =>
    parseSigned_showInt (by norm_num; omega) (by norm_num; omega)
  rw [getInt, hjoin, hparts]
  simp only [octets, List.map_cons, List.map_nil, arrayGet, List.getElem?_cons_zero,
    List.getElem?_cons_succ, hlong, hint, bind, Except.bind, pure, Except.pure]
  congr 1
  unfold toLong toInt
  omega

/-- **Normalising clears the host bits**: afterwards the text of the address is one of a
multiple of the size of the network. -/
theorem normalise_spec {c c' : CIDRIP} {changed : Bool} (h : c.normalise = .ok (c', changed))
    (h0 : 0 ≤ c.len) (h32 : c.len ≤ 32) :
    c'.len = c.len ∧ ∃ n, getInt c'.mIp = .ok n ∧ (2 : ℤ) ^ (32 - c.len).toNat ∣ n := by
  unfold CIDRIP.normalise at h
  obtain ⟨ip, hip, h⟩ := bind_eq_ok.mp h
  have hshift : ((32 - c.len) % 64).toNat = (32 - c.len).toNat := by omega
  simp only [hshift] at h
  have hle : (32 - c.len).toNat ≤ 32 := by omega
  generalize (32 - c.len).toNat = shift at h hle ⊢
  have hdvd : (2 : ℤ) ^ shift ∣
      toLong (ip - ip % 2 ^ shift - ip / 2 ^ (32 + shift) * 2 ^ (32 + shift)) := by
    have hlong : ∀ x : ℤ, (2 : ℤ) ^ shift ∣ x → (2 : ℤ) ^ shift ∣ toLong x := fun x hx => by
      have h64 : (2 : ℤ) ^ shift ∣ 2 ^ 64 := pow_dvd_pow 2 (by omega)
      have hwrap : toLong x = x - 2 ^ 64 * ((x + 2 ^ 63) / 2 ^ 64) := by unfold toLong; omega
      rw [hwrap]
      exact Int.dvd_sub hx (h64.mul_right _)
    refine hlong _ (Int.dvd_sub ?_ ((pow_dvd_pow 2 (by omega)).mul_left _))
    exact Int.dvd_self_sub_emod
  split at h
  next =>
    obtain ⟨rfl, -⟩ := Prod.mk.inj (Except.ok.inj h)
    exact ⟨rfl, _, getInt_dotted (toLong_range _).1 (toLong_range _).2, hdvd⟩
  next heq =>
    obtain ⟨rfl, -⟩ := Prod.mk.inj (Except.ok.inj h)
    exact ⟨rfl, ip, hip, not_not.mp heq ▸ hdvd⟩

lemma shiftZeros_zero (fuel : ℕ) (z : ℤ) : shiftZeros fuel 0 z = none := by
  induction fuel generalizing z with
  | zero => rfl
  | succ fuel ih => simpa [shiftZeros] using ih (z + 1)

lemma shiftZeros_isSome (fuel : ℕ) {netmask : ℤ} (h0 : netmask ≠ 0) (h1 : -2 ^ fuel ≤ netmask)
    (h2 : netmask ≤ 2 ^ fuel) (z : ℤ) : (shiftZeros (fuel + 1) netmask z).isSome := by
  induction fuel generalizing netmask z with
  | zero =>
    have : netmask % 2 ≠ 0 := by simp only [pow_zero] at h1 h2; omega
    simp [shiftZeros, this]
  | succ fuel ih =>
    rw [shiftZeros]
    split_ifs with h
    · rw [pow_succ] at h1 h2
      exact ih (by omega) (by omega) (by omega) _
    · rfl

/-- **64 rounds decide**: the loop of the constructor ends exactly on a netmask that is not
zero, however long it may run. -/
theorem shiftZeros_none_iff {netmask : ℤ} (h1 : -2 ^ 63 ≤ netmask) (h2 : netmask < 2 ^ 63) :
    shiftZeros 64 netmask 0 = none ↔ ∀ fuel, shiftZeros fuel netmask 0 = none := by
  constructor
  · intro h fuel
    have : netmask = 0 := by
      by_contra h0
      have := shiftZeros_isSome 63 h0 h1 h2.le 0
      simp [h] at this
    rw [this, shiftZeros_zero]
  · exact fun h => h 64

/-! ### How the constructor ends -/

lemma getInt_range {s : Text} {n : ℤ} (h : getInt s = .ok n) : -2 ^ 63 ≤ n ∧ n < 2 ^ 63 := by
  simp only [getInt, bind_eq_ok] at h
  obtain ⟨_, _, _, _, _, _, _, _, _, _, _, _, _, _, _, _, h⟩ := h
  cases h
  exact toLong_range _

lemma getInt_error {s : Text} {e : Abrupt} (h : getInt s = .error e) :
    e = .arrayIndexOutOfBounds ∨ e = .numberFormat := by
  simp only [getInt, bind_eq_error] at h
  rcases h with h | ⟨_, _, h | ⟨_, _, h | ⟨_, _, h | ⟨_, _, h | ⟨_, _, h | ⟨_, _, h |
    ⟨_, _, h | ⟨_, _, h⟩⟩⟩⟩⟩⟩⟩⟩
  all_goals first
    | exact .inl (arrayGet_error h)
    | exact .inr (parseLong_error h)
    | exact .inr (parseInt_error h)
    | cases h

lemma toLong_eq_zero_iff {n : ℤ} (h1 : -2 ^ 63 ≤ n) (h2 : n < 2 ^ 63) :
    toLong (n + 2 ^ 32) = 0 ↔ n = -2 ^ 32 := by
  unfold toLong
  omega

/-- **Which masks the constructor reads**: the loop that shifts the zeros out of the netmask does
not end on the one mask that the addition makes zero. -/
theorem ofMask_of_ok (ip : Text) {mask : Text} {n : ℤ} (h : getInt mask = .ok n)
    (hn : n ≠ -2 ^ 32) : ∃ c, ofMask ip mask = .ok c := by
  obtain ⟨h1, h2⟩ := getInt_range h
  have h0 : toLong (n + 2 ^ 32) ≠ 0 := fun e => hn ((toLong_eq_zero_iff h1 h2).1 e)
  obtain ⟨l1, l2⟩ := toLong_range (n + 2 ^ 32)
  obtain ⟨r, hr⟩ := Option.isSome_iff_exists.1 (shiftZeros_isSome 63 h0 l1 l2.le 0)
  rw [ofMask, h]
  simp only [bind, Except.bind, hr]
  split_ifs
  · exact ⟨_, rfl⟩
  · exact ⟨_, rfl⟩

lemma ofMask_of_loop {ip mask : Text} (h : getInt mask = .ok (-2 ^ 32)) :
    ofMask ip mask = .error .endlessLoop := by
  rw [ofMask, h]
  rfl

lemma ofMask_of_error {ip mask : Text} {e : Abrupt} (h : getInt mask = .error e) :
    ofMask ip mask = .error e := by
  rw [ofMask, h]
  rfl

/-! ### Netmasks -/

/-- The netmask of a prefix length. -/
def netmask (len : ℕ) : ℤ := 2 ^ 32 - 2 ^ (32 - len)

lemma shiftZeros_mul_pow {fuel z : ℕ} {m : ℤ} (hm : m % 2 = 1) (hz : z < fuel) (k : ℤ) :
    shiftZeros fuel (m * 2 ^ z) k = some (m, k + z) := by
  induction z generalizing fuel k with
  | zero =>
    obtain ⟨fuel, rfl⟩ := Nat.exists_eq_succ_of_ne_zero hz.ne'
    simp [shiftZeros, hm]
  | succ z ih =>
    obtain ⟨fuel, rfl⟩ := Nat.exists_eq_succ_of_ne_zero (Nat.ne_zero_of_lt hz)
    have hdouble : m * 2 ^ (z + 1) = 2 * (m * 2 ^ z) := by rw [pow_succ, ← mul_assoc, mul_comm]
    have heven : m * 2 ^ (z + 1) % 2 = 0 := by omega
    have hhalf : m * 2 ^ (z + 1) / 2 = m * 2 ^ z := by omega
    rw [shiftZeros, if_pos heven, hhalf, ih (by omega)]
    push_cast
    rw [add_right_comm, add_assoc]

/-- What is left of 33 ones after shifting. -/
lemma allOnes_div {z : ℕ} (hz : z ≤ 33) : (0x1ffffffff : ℤ) / 2 ^ z = 2 ^ (33 - z) - 1 := by
  have hpos : (0 : ℤ) < 2 ^ z := by positivity
  have hpow : (2 : ℤ) ^ (33 - z) * 2 ^ z = 0x200000000 := by
    rw [← pow_add, Nat.sub_add_cancel hz]
    norm_num
  have hrest : (0x1ffffffff : ℤ) = 2 ^ z - 1 + (2 ^ (33 - z) - 1) * 2 ^ z := by
    rw [sub_mul, hpow]
    linarith
  rw [hrest, Int.add_mul_ediv_right _ _ hpos.ne',
    Int.ediv_eq_zero_of_lt (by omega) (by omega), zero_add]

/-- A netmask in any spelling has its prefix length. -/
lemma ofMask_of_netmask (ip : Text) {mask : Text} {len : ℕ} (h : len ≤ 32)
    (hread : getInt mask = .ok (netmask len)) : ofMask ip mask = .ok ⟨ip, len⟩ := by
  have hpow : (2 : ℤ) ^ (len + 1) * 2 ^ (32 - len) = 2 ^ 33 := by
    rw [← pow_add]
    congr 1
    omega
  have hpos : (0 : ℤ) < 2 ^ (32 - len) := by positivity
  have hodd : ((2 : ℤ) ^ (len + 1) - 1) % 2 = 1 := by
    rw [pow_succ]
    omega
  have hle : (2 : ℤ) ^ (32 - len) ≤ 2 ^ 32 := pow_le_pow_right₀ (by norm_num) (by omega)
  have hmul : netmask len + 2 ^ 32 = (2 ^ (len + 1) - 1) * 2 ^ (32 - len) := by
    rw [netmask, sub_mul, hpow]
    omega
  have hquot : (0x1ffffffff : ℤ) / 2 ^ (32 - len) = 2 ^ (len + 1) - 1 := by
    rw [allOnes_div (by omega), show 33 - (32 - len) = len + 1 by omega]
  have hlong : toLong (netmask len + 2 ^ 32) = (2 ^ (len + 1) - 1) * 2 ^ (32 - len) := by
    rw [← hmul]
    unfold netmask
    exact toLong_of_range (by omega) (by omega)
  have hz : (0 : ℤ) + ↑(32 - len) = ((32 - len : ℕ) : ℤ) := zero_add _
  rw [ofMask, hread]
  simp only [bind, Except.bind, hlong, shiftZeros_mul_pow hodd (by omega : 32 - len < 64), hz,
    Int.toNat_natCast, hquot, ne_eq, not_true_eq_false, if_false]
  congr 2
  omega

/-- **A netmask is read as its prefix length.** -/
theorem ofMask_netmask (ip : Text) {len : ℕ} (h : len ≤ 32) :
    ofMask ip (dotted (netmask len)) = .ok ⟨ip, len⟩ := by
  have hpos : (0 : ℤ) < 2 ^ (32 - len) := by positivity
  have hle : (2 : ℤ) ^ (32 - len) ≤ 2 ^ 32 := pow_le_pow_right₀ (by norm_num) (by omega)
  apply ofMask_of_netmask ip h
  unfold netmask
  exact getInt_dotted (by omega) (by omega)

/-! ### Dotted quads -/

/-- Decimal digits that denote a number of eight bits. -/
structure IsOctet (w : Text) (n : ℕ) : Prop where
  digits : ∀ c ∈ w, c.isDigit = true
  value : digitsOf w = some n
  lt : n < 256

/-- Four octets with points between them, and the number that they are the digits of. -/
inductive IsQuad : Text → ℤ → Prop
  | mk {w0 w1 w2 w3 : Text} {n0 n1 n2 n3 : ℕ} (h0 : IsOctet w0 n0) (h1 : IsOctet w1 n1)
      (h2 : IsOctet w2 n2) (h3 : IsOctet w3 n3) :
      IsQuad (['.'].intercalate [w0, w1, w2, w3])
        (n0 * 2 ^ 24 + n1 * 2 ^ 16 + n2 * 2 ^ 8 + n3)

lemma IsOctet.ne_nil {w : Text} {n : ℕ} (h : IsOctet w n) : w ≠ [] := by
  rintro rfl
  cases h.value

lemma IsOctet.not_mem {w : Text} {n : ℕ} (h : IsOctet w n) : '.' ∉ w := fun hm => by
  have := h.digits '.' hm
  revert this
  decide

lemma IsOctet.parseSigned {w : Text} {n b : ℕ} (h : IsOctet w n) (hb : 8 < b) :
    parseSigned b w = .ok (n : ℤ) := by
  have hsign : ∀ c t, c.isDigit = false → w ≠ c :: t := by
    rintro c t hc rfl
    have := h.digits c List.mem_cons_self
    rw [hc] at this
    cases this
  have hlt := h.lt
  have hpow : (2 : ℤ) ^ 8 ≤ 2 ^ (b - 1) := pow_le_pow_right₀ (by norm_num) (by omega)
  have hsigned : signedOf w = some (n : ℤ) := by
    rw [signedOf_unsigned (fun t => hsign '-' t (by decide)) (fun t => hsign '+' t (by decide)),
      h.value]
    rfl
  rw [JavaLang.parseSigned, hsigned]
  exact if_pos ⟨by omega, by omega⟩

/-- A remainder is no larger than the number. -/
lemma mod_le {n m : ℤ} (hn : 0 ≤ n) (hm : 0 < m) : n % m ≤ n := by
  by_cases h : n < m
  · exact (Int.emod_eq_of_lt hn h).le
  · exact (Int.emod_lt_of_pos n hm).le.trans (not_lt.1 h)

lemma IsQuad.range {s : Text} {n : ℤ} (h : IsQuad s n) : 0 ≤ n ∧ n < 2 ^ 32 := by
  obtain ⟨h0, h1, h2, h3⟩ := h
  have := h0.lt
  have := h1.lt
  have := h2.lt
  have := h3.lt
  omega

/-- A dotted quad is read as its number. -/
lemma IsQuad.getInt {s : Text} {n : ℤ} (h : IsQuad s n) : getInt s = .ok n := by
  obtain @⟨w0, w1, w2, w3, n0, n1, n2, n3, h0, h1, h2, h3⟩ := h
  have hparts : splitAt (· = '.') (['.'].intercalate [w0, w1, w2, w3]) = [w0, w1, w2, w3] := by
    apply splitAt_intercalate
    · simp only [List.forall_mem_cons]
      exact ⟨⟨h0.not_mem, h0.ne_nil⟩, ⟨h1.not_mem, h1.ne_nil⟩, ⟨h2.not_mem, h2.ne_nil⟩,
        ⟨h3.not_mem, h3.ne_nil⟩, by simp⟩
    · simp
  have hint : ∀ {w n}, IsOctet w n → parseInt w = .ok (n : ℤ) := fun h =>
    h.parseSigned (by norm_num)
  have hlong : parseLong w0 = .ok (n0 : ℤ) := h0.parseSigned (by norm_num)
  rw [Cidr.getInt, hparts]
  simp only [arrayGet, List.getElem?_cons_zero, List.getElem?_cons_succ, hlong, hint h1, hint h2,
    hint h3, bind, Except.bind, pure, Except.pure]
  refine congrArg Except.ok ?_
  have := h0.lt
  have := h1.lt
  have := h2.lt
  have := h3.lt
  unfold toLong toInt
  omega

/-- What normalising does to the address that was read. -/
lemma normalise_of_getInt {c : CIDRIP} {n : ℤ} (h : getInt c.mIp = .ok n) (hn0 : 0 ≤ n)
    (hn : n < 2 ^ 32) (h0 : 0 ≤ c.len) (h32 : c.len ≤ 32) :
    c.normalise = .ok (if n % 2 ^ (32 - c.len).toNat = 0 then (c, false)
      else (⟨dotted (n - n % 2 ^ (32 - c.len).toNat), c.len⟩, true)) := by
  have hshift : ((32 - c.len) % 64).toNat = (32 - c.len).toNat := by omega
  unfold CIDRIP.normalise
  rw [h]
  simp only [bind, Except.bind, hshift]
  generalize (32 - c.len).toNat = shift
  have hpos : (0 : ℤ) < 2 ^ shift := by positivity
  have hmod := Int.emod_nonneg n hpos.ne'
  have hle : n % 2 ^ shift ≤ n := mod_le hn0 hpos
  have hhigh : n / 2 ^ (32 + shift) = 0 := by
    apply Int.ediv_eq_zero_of_lt hn0
    calc n < 2 ^ 32 := hn
      _ ≤ 2 ^ (32 + shift) := pow_le_pow_right₀ (by norm_num) (by omega)
  rw [hhigh, zero_mul, sub_zero, toLong_of_range (by omega) (by omega)]
  by_cases hz : n % 2 ^ shift = 0
  · rw [if_pos hz, hz, sub_zero, if_neg (not_not.2 rfl)]
    rfl
  · rw [if_neg hz, if_pos (by omega)]
    rfl

/-- **Normalising clears the host bits and nothing else**, and doing it again does nothing. -/
theorem normalise_clears {c : CIDRIP} {n : ℤ} (h : IsQuad c.mIp n) (h0 : 0 ≤ c.len)
    (h32 : c.len ≤ 32) : ∃ c' changed, c.normalise = .ok (c', changed) ∧
      getInt c'.mIp = .ok (n - n % 2 ^ (32 - c.len).toNat) ∧ c'.len = c.len ∧
      (changed = true ↔ n % 2 ^ (32 - c.len).toNat ≠ 0) ∧ c'.normalise = .ok (c', false) := by
  obtain ⟨hn0, hn⟩ := h.range
  have hfirst := normalise_of_getInt h.getInt hn0 hn h0 h32
  have hpos : (0 : ℤ) < 2 ^ (32 - c.len).toNat := by positivity
  have hmod := Int.emod_nonneg n hpos.ne'
  have hle := mod_le hn0 hpos
  by_cases hz : n % 2 ^ (32 - c.len).toNat = 0
  · rw [if_pos hz] at hfirst
    exact ⟨c, false, hfirst, by rw [hz, sub_zero]; exact h.getInt, rfl, by simp [hz], hfirst⟩
  · rw [if_neg hz] at hfirst
    have hread := getInt_dotted (n := n - n % 2 ^ (32 - c.len).toNat) (by omega) (by omega)
    refine ⟨_, _, hfirst, hread, rfl, by simp [hz], ?_⟩
    have hagain := normalise_of_getInt (c := ⟨dotted (n - n % 2 ^ (32 - c.len).toNat), c.len⟩)
      hread (by omega) (by omega) h0 h32
    rwa [if_pos (Int.emod_eq_zero_of_dvd Int.dvd_self_sub_emod)] at hagain

/-- A network with host bits, and a leading zero in its address. -/
theorem normalise_clears_hosts : ∃ c' changed,
    CIDRIP.normalise ⟨"192.168.07.9".toList, 21⟩ = .ok (c', changed) ∧
      getInt c'.mIp = .ok (3232237321 - 3232237321 % 2 ^ (32 - (21 : ℤ)).toNat) ∧ c'.len = 21 ∧
      (changed = true ↔ (3232237321 : ℤ) % 2 ^ (32 - (21 : ℤ)).toNat ≠ 0) ∧
      c'.normalise = .ok (c', false) :=
  have h0 : IsOctet "192".toList 192 := ⟨by decide, by decide, by decide⟩
  have h1 : IsOctet "168".toList 168 := ⟨by decide, by decide, by decide⟩
  have h2 : IsOctet "07".toList 7 := ⟨by decide, by decide, by decide⟩
  have h3 : IsOctet "9".toList 9 := ⟨by decide, by decide, by decide⟩
  normalise_clears (c := ⟨"192.168.07.9".toList, 21⟩) (n := 3232237321) (IsQuad.mk h0 h1 h2 h3)
    (by decide) (by decide)

end BuludTechVPN.Cidr
