import BuludTechVPN.LzoDecompress

/-!
`lzo1x_1_compress` and `lzo1x_1_15_compress`: the compressor of the native library, which works on
blocks and keeps a dictionary of positions for each of them.
-/

namespace BuludTechVPN.Lzo

open ByteBuffer

/-- `LZO_BYTE`. -/
def byte (x : ℕ) : UInt8 := UInt8.ofNat x

/-- A read of `t` bytes at `i`. -/
def readAt (x : Bytes) (i t : ℕ) : Option Bytes :=
  if i + t ≤ x.length then some ((x.drop i).take t) else none

/-- `UA_GET_LE32`. -/
def getLe32 (x : Bytes) (i : ℕ) : Option ℕ := do
  let b0 ← x[i]?
  let b1 ← x[i + 1]?
  let b2 ← x[i + 2]?
  let b3 ← x[i + 3]?
  return b0.toNat + b1.toNat <<< 8 + b2.toNat <<< 16 + b3.toNat <<< 24

/-! ### What is written -/

/-- `while (t > 255) { t -= 255; *op++ = 0; } *op++ = LZO_BYTE(t);` -/
def lengthBytes (t : ℕ) : Bytes :=
  if 255 < t then 0 :: lengthBytes (t - 255) else [byte t]

/-- `op[-2] = LZO_BYTE(op[-2] | t);`, where the last byte stands first. -/
def orBefore (t : ℕ) : Bytes → Option Bytes
  | b :: a :: op => some (b :: byte (a.toNat ||| t) :: op)
  | _ => none

/-- What goes before `t` literals. -/
def literalHeader (t : ℕ) (op : Bytes) : Option Bytes :=
  if t ≤ 3 then orBefore t op
  else if t ≤ 18 then some (byte (t - 3) :: op)
  else some ((0 :: lengthBytes (t - 18)).reverse ++ op)

/-- What goes before the last literals. -/
def lastHeader (t : ℕ) (op : Bytes) : Option Bytes :=
  if op = [] ∧ t ≤ 238 then some [byte (17 + t)] else literalHeader t op

/-- `t` literals from `ii`, if there are any. -/
def emitLiterals (header : ℕ → Bytes → Option Bytes) (x : Bytes) (ii t : ℕ) (op : Bytes) :
    Option Bytes :=
  if t = 0 then some op
  else do
    let op ← header t op
    let literals ← readAt x ii t
    return literals.reverse ++ op

def matchHeader (marker maxLen mLen : ℕ) : Bytes :=
  if mLen ≤ maxLen then [byte (marker ||| (mLen - 2))] else byte marker :: lengthBytes (mLen - maxLen)

def matchToken (mLen mOff : ℕ) : Bytes :=
  if mLen ≤ M2_MAX_LEN ∧ mOff ≤ M2_MAX_OFFSET then
    [byte ((mLen - 1) <<< 5 ||| ((mOff - 1) &&& 7) <<< 2), byte ((mOff - 1) >>> 3)]
  else if mOff ≤ M3_MAX_OFFSET then
    matchHeader M3_MARKER M3_MAX_LEN mLen ++ [byte ((mOff - 1) <<< 2), byte ((mOff - 1) >>> 6)]
  else
    matchHeader (M4_MARKER ||| ((mOff - 0x4000) >>> 11 &&& 8)) M4_MAX_LEN mLen ++
      [byte ((mOff - 0x4000) <<< 2), byte ((mOff - 0x4000) >>> 6)]

/-! ### A block -/

/-- `DINDEX`. -/
def dindex (dBits dv : ℕ) : ℕ := (0x1824429d * dv % 2 ^ 32) >>> (32 - dBits) % 2 ^ dBits

structure Compressor where
  ip : ℕ
  ii : ℕ
  ti : ℕ
  /-- What was written, the last byte first. -/
  op : Bytes
  dict : ℕ → ℕ

/-- The length of a match, which is compared byte by byte; whether the end is reached is tested after
every eighth byte. -/
def matchedLength (x : Bytes) (ipEnd ip mPos : ℕ) : ℕ → ℕ → Option ℕ
  | 0, _ => none
  | n + 1, mLen =>
    if 4 < mLen ∧ (mLen - 4) % 8 = 0 ∧ ipEnd ≤ ip + mLen then some mLen
    else do
      let a ← x[ip + mLen]?
      let b ← x[mPos + mLen]?
      if a = b then matchedLength x ipEnd ip mPos n (mLen + 1) else return mLen

namespace Compressor

variable (x : Bytes) (dBits base ipEnd : ℕ) (c : Compressor)

/-- The label `literal`. -/
def literal : Compressor := { c with ip := c.ip + (1 + (c.ip - c.ii) >>> 5) }

/-- A match at `mPos`. -/
def emitMatch (mPos : ℕ) : Option Compressor := do
  let op ← emitLiterals literalHeader x (c.ii - c.ti) (c.ip - (c.ii - c.ti)) c.op
  let mLen ← matchedLength x ipEnd c.ip mPos x.length 4
  return { ip := c.ip + mLen, ii := c.ip + mLen, ti := 0,
           op := (matchToken mLen (c.ip - mPos)).reverse ++ op, dict := c.dict }

/-- From the label `next` to the next time there. -/
def next : Option Compressor := do
  let dv ← getLe32 x c.ip
  let c' := { c with dict := Function.update c.dict (dindex dBits dv) ((c.ip - base) % 2 ^ 16) }
  let mPos := base + c.dict (dindex dBits dv)
  if dv ≠ (← getLe32 x mPos) then return c'.literal else c'.emitMatch x ipEnd mPos

def loop : ℕ → Compressor → Option Compressor
  | 0, _ => none
  | n + 1, c => if ipEnd ≤ c.ip then some c else do loop n (← c.next x dBits base ipEnd)

end Compressor

/-- A block of `ll` bytes at `base`: what was written, and the literals that are left over. -/
def doCompress (x : Bytes) (dBits base ll ti : ℕ) (op : Bytes) : Option (ℕ × Bytes) := do
  let c : Compressor := ⟨base + (if ti < 4 then 4 - ti else 0), base, ti, op, fun _ => 0⟩
  let c ← Compressor.loop x dBits base (base + ll - 20) ll c.literal
  return (base + ll - (c.ii - c.ti), c.op)

/-! ### The whole input -/

/-- The test that ends the blocks early, where the addresses of the input begin at `addr`. -/
def endsEarly (w : LzoUint) (addr ip t ll : ℕ) : Prop :=
  w.wrap (w.wrap (addr + ip + ll) + (t + ll) >>> 5) ≤ w.wrap (addr + ip + ll)

instance (w : LzoUint) (addr ip t ll : ℕ) : Decidable (endsEarly w addr ip t ll) :=
  inferInstanceAs (Decidable (_ ≤ _))

/-- The loop over the blocks, which begin at `ip`. -/
def compressBlocks (w : LzoUint) (addr dBits : ℕ) (x : Bytes) : ℕ → ℕ → ℕ → Bytes → Option (ℕ × Bytes)
  | 0, _, _, _ => none
  | n + 1, ip, t, op =>
    if x.length - ip ≤ 20 ∨ endsEarly w addr ip t (min (x.length - ip) 49152) then
      some (t + (x.length - ip), op)
    else do
      let p ← doCompress x dBits ip (min (x.length - ip) 49152) t op
      compressBlocks w addr dBits x n (ip + min (x.length - ip) 49152) p.1 p.2

/-- The `t` literals at the end, and the marker of the end. -/
def finish (x : Bytes) (t : ℕ) (op : Bytes) : Option Bytes := do
  let op ← emitLiterals lastHeader x (x.length - t) t op
  return op.reverse ++ [byte (M4_MARKER ||| 1), 0, 0]

/-- `DO_COMPRESS`. -/
def compress (w : LzoUint) (addr dBits : ℕ) (x : Bytes) : Option Bytes := do
  let (t, op) ← compressBlocks w addr dBits x (x.length + 1) 0 0 []
  finish x t op

def lzo1x_1_compress (w : LzoUint) (addr : ℕ) (x : Bytes) : Option Bytes := compress w addr 14 x
def lzo1x_1_11_compress (w : LzoUint) (addr : ℕ) (x : Bytes) : Option Bytes := compress w addr 11 x
def lzo1x_1_12_compress (w : LzoUint) (addr : ℕ) (x : Bytes) : Option Bytes := compress w addr 12 x
def lzo1x_1_15_compress (w : LzoUint) (addr : ℕ) (x : Bytes) : Option Bytes := compress w addr 13 x

/-! ### What is compared -/

/-- `n` bytes at `i` are the same as those `off` before them. -/
structure Repeats (x : Bytes) (i n off : ℕ) : Prop where
  pos : 0 < off
  within : off ≤ i
  bound : i + n ≤ x.length
  same : ∀ j < n, x[i + j]? = x[i + j - off]?

variable {x op op' : Bytes} {i j n t k off ip mPos ipEnd mLen base dBits : ℕ}

lemma getLe32_eq (h : i + 4 ≤ x.length) : getLe32 x i = some (x[i].toNat + x[i + 1].toNat <<< 8 +
    x[i + 2].toNat <<< 16 + x[i + 3].toNat <<< 24) := by
  have h0 : x[i]? = some x[i] := List.getElem?_eq_getElem (by omega)
  have h1 : x[i + 1]? = some x[i + 1] := List.getElem?_eq_getElem (by omega)
  have h2 : x[i + 2]? = some x[i + 2] := List.getElem?_eq_getElem (by omega)
  have h3 : x[i + 3]? = some x[i + 3] := List.getElem?_eq_getElem (by omega)
  unfold getLe32
  rw [h0, h1, h2, h3]
  rfl

/-- Four equal bytes are what two equal values say. -/
lemma same_of_getLe32_eq (hi : i + 4 ≤ x.length) (hj : j + 4 ≤ x.length)
    (h : getLe32 x i = getLe32 x j) : ∀ a < 4, x[i + a]? = x[j + a]? := by
  rw [getLe32_eq hi, getLe32_eq hj, Option.some_inj] at h
  simp only [Nat.shiftLeft_eq] at h
  have hbytes : ∀ b : UInt8, b.toNat < 256 := fun b => b.toNat_lt
  have := hbytes x[i]
  have := hbytes x[i + 1]
  have := hbytes x[i + 2]
  have := hbytes x[i + 3]
  have := hbytes x[j]
  have := hbytes x[j + 1]
  have := hbytes x[j + 2]
  have := hbytes x[j + 3]
  have h0 : x[i] = x[j] := UInt8.toNat_inj.1 (by omega)
  have h1 : x[i + 1] = x[j + 1] := UInt8.toNat_inj.1 (by omega)
  have h2 : x[i + 2] = x[j + 2] := UInt8.toNat_inj.1 (by omega)
  have h3 : x[i + 3] = x[j + 3] := UInt8.toNat_inj.1 (by omega)
  intro a ha
  rw [List.getElem?_eq_getElem (by omega), List.getElem?_eq_getElem (by omega), Option.some_inj]
  obtain rfl | rfl | rfl | rfl : a = 0 ∨ a = 1 ∨ a = 2 ∨ a = 3 := by omega
  · exact h0
  · exact h1
  · exact h2
  · exact h3

/-- The comparison ends before the last bytes of the block. -/
lemma matchedLength_spec (hback : mPos < ip) (hip : ip < ipEnd) (hend : ipEnd + 20 ≤ x.length)
    (hfour : 4 ≤ mLen) (hsame : ∀ a < mLen, x[ip + a]? = x[mPos + a]?)
    (hbound : ip + mLen ≤ ipEnd + 3 + (mLen - 4) % 8 ∨
      (mLen - 4) % 8 = 0 ∧ ip + mLen ≤ ipEnd + 11) (hn : x.length < ip + mLen + n) :
    ∃ m, matchedLength x ipEnd ip mPos n mLen = some m ∧ 4 ≤ m ∧ ip + m ≤ ipEnd + 11 ∧
      ∀ a < m, x[ip + a]? = x[mPos + a]? := by
  induction n generalizing mLen with
  | zero => omega
  | succ n ih =>
    rw [matchedLength]
    split_ifs with hdone
    · exact ⟨mLen, rfl, hfour, by omega, hsame⟩
    have ha : x[ip + mLen]? = some x[ip + mLen] := List.getElem?_eq_getElem (by omega)
    have hb : x[mPos + mLen]? = some x[mPos + mLen] := List.getElem?_eq_getElem (by omega)
    rw [ha, hb]
    simp only [Option.bind_eq_bind, Option.bind_some]
    split_ifs with heq
    · refine ih (by omega) (fun a hlt => ?_) (by omega) (by omega)
      rcases Nat.lt_succ_iff_lt_or_eq.1 hlt with hlt | rfl
      · exact hsame a hlt
      · rw [ha, hb, heq]
    · exact ⟨mLen, rfl, hfour, by omega, hsame⟩

/-! ### What is written -/

/-- There is a byte for the number of the next literals. -/
def Shaped (op : Bytes) : Prop := op = [] ∨ 2 ≤ op.length

lemma exists_literalHeader (h : 4 ≤ t ∨ 2 ≤ op.length) : ∃ op', literalHeader t op = some op' := by
  unfold literalHeader
  split_ifs with hfew hshort
  · rcases op with - | ⟨b, - | ⟨a, op⟩⟩
    · exact absurd h (by simp; omega)
    · exact absurd h (by simp; omega)
    · exact ⟨_, rfl⟩
  · exact ⟨_, rfl⟩
  · exact ⟨_, rfl⟩

lemma exists_emitLiterals {header : ℕ → Bytes → Option Bytes} (h : ∃ op', header t op = some op')
    (hbound : k + t ≤ x.length) : ∃ op', emitLiterals header x k t op = some op' := by
  unfold emitLiterals
  split_ifs with hnone
  · exact ⟨op, rfl⟩
  · obtain ⟨op', hop⟩ := h
    rw [hop, readAt, if_pos hbound]
    exact ⟨_, rfl⟩

lemma length_matchToken (n off : ℕ) : 2 ≤ (matchToken n off).length := by
  unfold matchToken
  split_ifs
  · exact le_rfl
  · rw [List.length_append]
    exact Nat.le_add_left 2 _
  · rw [List.length_append]
    exact Nat.le_add_left 2 _

/-! ### Whole runs

What holds of what was written, for so many bytes of the input, is carried along: it is enough that a
match may be added, with the literals before it. -/

/-- A match may be added to what was written, with the literals before it. -/
def Extends (x : Bytes) (W : ℕ → Bytes → Prop) : Prop :=
  ∀ k t n off op op', W k op → (op = [] → 4 ≤ t) → 4 ≤ n → off ≤ M4_MAX_OFFSET →
    Repeats x (k + t) n off → emitLiterals literalHeader x k t op = some op' →
      W (k + t + n) ((matchToken n off).reverse ++ op')

variable {W : ℕ → Bytes → Prop} {c : Compressor}

/-- What a change of the dictionary leaves. -/
structure Kept (W : ℕ → Bytes → Prop) (ipEnd : ℕ) (c : Compressor) : Prop where
  written : W (c.ii - c.ti) c.op
  shaped : Shaped c.op
  pending : c.ii ≤ c.ip
  first : c.op = [] → 4 ≤ c.ip - (c.ii - c.ti)
  inside : c.ii ≤ ipEnd + 20

/-- What holds at the label `next`. -/
structure Running (W : ℕ → Bytes → Prop) (base ipEnd : ℕ) (c : Compressor) : Prop
    extends Kept W ipEnd c where
  begun : base < c.ip
  known : ∀ i, base + c.dict i < c.ip

lemma literal_spec (h : Kept W ipEnd c) (hbegun : base ≤ c.ip)
    (hknown : ∀ i, base + c.dict i ≤ c.ip) :
    Running W base ipEnd c.literal ∧ c.ip < c.literal.ip := by
  have hip : c.ip < c.literal.ip := by
    change c.ip < c.ip + (1 + (c.ip - c.ii) >>> 5)
    omega
  refine ⟨⟨⟨h.written, h.shaped, h.pending.trans hip.le, fun hnil => ?_, h.inside⟩,
    hbegun.trans_lt hip, fun i => (hknown i).trans_lt hip⟩, hip⟩
  have hfour := h.first hnil
  change 4 ≤ c.literal.ip - (c.ii - c.ti)
  omega

lemma emitMatch_spec (hW : Extends x W) (h : Kept W ipEnd c) (hip : c.ip < ipEnd)
    (hend : ipEnd + 20 ≤ x.length) (hbegun : base ≤ c.ip) (hknown : ∀ i, base + c.dict i ≤ c.ip)
    (hfar : c.ip ≤ mPos + M4_MAX_OFFSET) (hback : mPos < c.ip)
    (hsame : ∀ a < 4, x[c.ip + a]? = x[mPos + a]?) :
    ∃ c', c.emitMatch x ipEnd mPos = some c' ∧ Running W base ipEnd c' ∧ c.ip < c'.ip := by
  have hpending := h.pending
  obtain ⟨op', hop⟩ : ∃ op', emitLiterals literalHeader x (c.ii - c.ti) (c.ip - (c.ii - c.ti)) c.op =
      some op' := by
    refine exists_emitLiterals (exists_literalHeader ?_) (by omega)
    exact h.shaped.imp_left h.first
  obtain ⟨n, hn, hfour, hbound, hequal⟩ := matchedLength_spec (n := x.length) hback hip hend le_rfl
    hsame (Or.inl (by omega)) (by omega)
  have hposition : c.ii - c.ti + (c.ip - (c.ii - c.ti)) = c.ip := by omega
  have hrepeats : Repeats x (c.ii - c.ti + (c.ip - (c.ii - c.ti))) n (c.ip - mPos) := by
    rw [hposition]
    refine ⟨by omega, by omega, by omega, fun a ha => ?_⟩
    rw [hequal a ha]
    congr 1
    omega
  have hwritten := hW _ _ _ _ _ _ h.written h.first hfour (by omega) hrepeats hop
  rw [hposition] at hwritten
  have hlong : 2 ≤ ((matchToken n (c.ip - mPos)).reverse ++ op').length := by
    have hlength := length_matchToken n (c.ip - mPos)
    rw [List.length_append, List.length_reverse]
    omega
  refine ⟨⟨c.ip + n, c.ip + n, 0, (matchToken n (c.ip - mPos)).reverse ++ op', c.dict⟩, ?_,
    ⟨⟨hwritten, Or.inr hlong, le_rfl, fun hnil => ?_, ?_⟩, ?_, fun i => ?_⟩, ?_⟩
  · unfold Compressor.emitMatch
    rw [hop, hn]
    rfl
  · have hnone := congrArg List.length hnil
    change ((matchToken n (c.ip - mPos)).reverse ++ op').length = 0 at hnone
    omega
  · change c.ip + n ≤ ipEnd + 20
    omega
  · change base < c.ip + n
    omega
  · have hle := hknown i
    change base + c.dict i < c.ip + n
    omega
  · change c.ip < c.ip + n
    omega

/-- `UPDATE_I`. -/
lemma update_known (hbegun : base ≤ c.ip) (hknown : ∀ i, base + c.dict i < c.ip) (d : ℕ) :
    ∀ i, base + Function.update c.dict d ((c.ip - base) % 2 ^ 16) i ≤ c.ip := fun i => by
  rw [Function.update_apply]
  split_ifs
  · have hle := Nat.mod_le (c.ip - base) (2 ^ 16)
    omega
  · exact (hknown i).le

variable (dBits) in
/-- **One pass**: a literal is left for later, or a match is written. -/
lemma next_spec (hW : Extends x W) (h : Running W base ipEnd c) (hip : c.ip < ipEnd)
    (hend : ipEnd + 20 ≤ x.length) (hblock : ipEnd ≤ base + M4_MAX_OFFSET) :
    ∃ c', c.next x dBits base ipEnd = some c' ∧ Running W base ipEnd c' ∧ c.ip < c'.ip := by
  have hbegun := h.begun.le
  obtain ⟨dv, hdv⟩ : ∃ dv, getLe32 x c.ip = some dv := ⟨_, getLe32_eq (by omega)⟩
  have hback := h.known (dindex dBits dv)
  obtain ⟨mv, hmv⟩ : ∃ mv, getLe32 x (base + c.dict (dindex dBits dv)) = some mv :=
    ⟨_, getLe32_eq (by omega)⟩
  have hkept : Kept W ipEnd
      { c with dict := Function.update c.dict (dindex dBits dv) ((c.ip - base) % 2 ^ 16) } :=
    ⟨h.written, h.shaped, h.pending, h.first, h.inside⟩
  have hknown := update_known hbegun h.known (dindex dBits dv)
  unfold Compressor.next
  simp only [Option.bind_eq_bind, hdv, hmv, Option.bind_some]
  split_ifs with hne
  · exact ⟨_, rfl, literal_spec hkept hbegun hknown⟩
  · refine emitMatch_spec hW hkept hip hend hbegun hknown ?_ hback (same_of_getLe32_eq ?_ ?_ ?_)
    · change c.ip ≤ base + c.dict (dindex dBits dv) + M4_MAX_OFFSET
      omega
    · change c.ip + 4 ≤ x.length
      omega
    · omega
    · rw [hmv, ← not_not.1 hne]
      exact hdv

variable (dBits) in
lemma loop_spec (hW : Extends x W) (hend : ipEnd + 20 ≤ x.length)
    (hblock : ipEnd ≤ base + M4_MAX_OFFSET) (h : Running W base ipEnd c) (hn : ipEnd - c.ip < n) :
    ∃ c', c.loop x dBits base ipEnd n = some c' ∧ Running W base ipEnd c' := by
  induction n generalizing c with
  | zero => omega
  | succ n ih =>
    rw [Compressor.loop]
    split_ifs with hdone
    · exact ⟨c, rfl, h⟩
    obtain ⟨c', hnext, hrunning, hless⟩ := next_spec dBits hW h (by omega) hend hblock
    rw [hnext]
    exact ih hrunning (by omega)

variable (dBits) in
/-- **A block**: the literals that are left over begin where what was written ends. -/
lemma doCompress_spec (ll : ℕ) (hW : Extends x W) (hwritten : W k op) (hshaped : Shaped op)
    (hk : k ≤ base) (hlong : 20 < ll) (hshort : ll ≤ 49152) (hend : base + ll ≤ x.length) :
    ∃ k' op', doCompress x dBits base ll (base - k) op = some (base + ll - k', op') ∧ W k' op' ∧
      Shaped op' ∧ k' ≤ base + ll := by
  have hback : base - (base - k) = k := by omega
  have hkept : Kept W (base + ll - 20)
      ⟨base + (if base - k < 4 then 4 - (base - k) else 0), base, base - k, op, fun _ => 0⟩ := by
    refine ⟨?_, hshaped, Nat.le_add_right _ _, fun _ => ?_, ?_⟩
    · rwa [hback]
    · rw [hback]
      change 4 ≤ base + (if base - k < 4 then 4 - (base - k) else 0) - k
      split_ifs <;> omega
    · change base ≤ base + ll - 20 + 20
      omega
  obtain ⟨hrunning, hless⟩ := literal_spec hkept (Nat.le_add_right _ _) fun _ => Nat.le_add_right _ _
  have hfar : base + ll - 20 ≤ base + M4_MAX_OFFSET := by
    change base + ll - 20 ≤ base + 49151
    omega
  have hbegun := hrunning.begun
  obtain ⟨c, hloop, hc⟩ := loop_spec dBits (n := ll) hW (by omega) hfar hrunning (by omega)
  have hinside := hc.inside
  refine ⟨c.ii - c.ti, c.op, ?_, hc.written, hc.shaped, by omega⟩
  unfold doCompress
  simp only [hloop]
  rfl

variable (w : LzoUint) (addr : ℕ)

variable (dBits) in
lemma compressBlocks_spec (hW : Extends x W) (hwritten : W k op) (hshaped : Shaped op) (hk : k ≤ ip)
    (hip : ip ≤ x.length) (hn : x.length - ip < n) :
    ∃ k' op', compressBlocks w addr dBits x n ip (ip - k) op = some (x.length - k', op') ∧ W k' op' ∧
      Shaped op' ∧ k' ≤ x.length := by
  induction n generalizing k op ip with
  | zero => omega
  | succ n ih =>
    rw [compressBlocks]
    split_ifs with hlast
    · refine ⟨k, op, ?_, hwritten, hshaped, by omega⟩
      congr 2
      omega
    obtain ⟨k', op', hblock, hwritten, hshaped, hk'⟩ := doCompress_spec dBits
      (min (x.length - ip) 49152) hW hwritten hshaped hk (by omega) (by omega) (by omega)
    simp only [hblock, Option.bind_eq_bind, Option.bind_some]
    exact ih hwritten hshaped hk' (by omega) (by omega)

variable (dBits) in
/-- **The rule for the compressor**: it comes to its end, and what it wrote before the last literals
is what matches were added to. -/
theorem compress_rule (hW : Extends x W) (hnone : W 0 []) :
    ∃ k op, compress w addr dBits x = finish x (x.length - k) op ∧ W k op ∧ Shaped op ∧
      k ≤ x.length := by
  obtain ⟨k, op, hblocks, hrest⟩ := compressBlocks_spec dBits w addr
    (n := x.length + 1) hW hnone (Or.inl rfl) le_rfl (Nat.zero_le _) (by omega)
  refine ⟨k, op, ?_, hrest⟩
  unfold compress
  simp only [Nat.sub_self] at hblocks
  rw [hblocks]
  rfl

/-! ### The size of the output -/

lemma length_lengthBytes (h : 0 < t) : 255 * (lengthBytes t).length ≤ t + 254 := by
  induction t using Nat.strong_induction_on with
  | _ t ih =>
    rw [lengthBytes]
    split_ifs with hmany
    · have hless := ih (t - 255) (by omega) (by omega)
      rw [List.length_cons]
      omega
    · rw [List.length_singleton]
      omega

/-- A header is paid for by its literals, but for one byte. -/
lemma length_literalHeader (h : literalHeader t op = some op') :
    16 * op'.length ≤ 16 * op.length + t + 16 := by
  unfold literalHeader at h
  split_ifs at h with hfew hshort
  · rcases op with - | ⟨b, - | ⟨a, op⟩⟩
    · cases h
    · cases h
    · cases h
      simp only [List.length_cons]
      omega
  · cases h
    rw [List.length_cons]
    omega
  · cases h
    have hlength := length_lengthBytes (t := t - 18) (by omega)
    simp only [List.reverse_cons, List.length_append, List.length_reverse, List.length_cons,
      List.length_nil]
    omega

lemma length_lastHeader (h : lastHeader t op = some op') :
    16 * op'.length ≤ 16 * op.length + t + 16 := by
  unfold lastHeader at h
  split_ifs at h
  · cases h
    rw [List.length_singleton]
    omega
  · exact length_literalHeader h

lemma length_readAt {l : Bytes} (h : readAt x i t = some l) : l.length = t := by
  unfold readAt at h
  split_ifs at h with hbound
  cases h
  rw [List.length_take, List.length_drop]
  omega

lemma length_emitLiterals {header : ℕ → Bytes → Option Bytes}
    (hheader : ∀ op', header t op = some op' → 16 * op'.length ≤ 16 * op.length + t + 16)
    (h : emitLiterals header x k t op = some op') :
    16 * op'.length ≤ 16 * op.length + 17 * t + 16 := by
  unfold emitLiterals at h
  split_ifs at h
  · cases h
    omega
  · obtain ⟨op'', hop, h⟩ := Option.bind_eq_some_iff.1 h
    obtain ⟨l, hl, h⟩ := Option.bind_eq_some_iff.1 h
    cases h
    have hlength := hheader op'' hop
    have hliterals := length_readAt hl
    rw [List.length_append, List.length_reverse]
    omega

lemma length_matchHeader {maxLen : ℕ} (marker : ℕ) (hn : 4 ≤ n) (hmax : 9 ≤ maxLen) :
    16 * (matchHeader marker maxLen n).length + 48 ≤ 17 * n := by
  unfold matchHeader
  split_ifs with hshort
  · rw [List.length_singleton]
    omega
  · have hlength := length_lengthBytes (t := n - maxLen) (by omega)
    rw [List.length_cons]
    omega

/-- A match pays for its token, and for one byte more. -/
lemma length_matchToken_le (off : ℕ) (hn : 4 ≤ n) : 16 * (matchToken n off).length + 16 ≤ 17 * n := by
  unfold matchToken
  split_ifs
  · change 16 * 2 + 16 ≤ 17 * n
    omega
  · have hlength := length_matchHeader M3_MARKER hn (show 9 ≤ M3_MAX_LEN by decide)
    rw [List.length_append]
    change 16 * (_ + 2) + 16 ≤ 17 * n
    omega
  · have hlength := length_matchHeader (M4_MARKER ||| ((off - 0x4000) >>> 11 &&& 8)) hn
      (show 9 ≤ M4_MAX_LEN by decide)
    rw [List.length_append]
    change 16 * (_ + 2) + 16 ≤ 17 * n
    omega

lemma extends_length (x : Bytes) : Extends x fun k op => 16 * op.length ≤ 17 * k := by
  intro k t n off op op' hk _ hn _ _ hop
  have hliterals := length_emitLiterals (fun _ => length_literalHeader) hop
  have htoken := length_matchToken_le off hn
  change 16 * ((matchToken n off).reverse ++ op').length ≤ 17 * (k + t + n)
  rw [List.length_append, List.length_reverse]
  omega

lemma length_finish {z : Bytes} (h : finish x t op = some z) :
    16 * z.length ≤ 16 * op.length + 17 * t + 64 := by
  obtain ⟨op', hop, h⟩ := Option.bind_eq_some_iff.1 h
  cases h
  have hliterals := length_emitLiterals (fun _ => length_lastHeader) hop
  rw [List.length_append, List.length_reverse]
  change 16 * (op'.length + 3) ≤ _
  omega

lemma exists_finish (hshaped : Shaped op) (ht : t ≤ x.length) : ∃ z, finish x t op = some z := by
  have hheader : ∃ op', lastHeader t op = some op' := by
    unfold lastHeader
    split_ifs with hfirst
    · exact ⟨_, rfl⟩
    · refine exists_literalHeader ?_
      rcases hshaped with hnil | hlong
      · exact Or.inl (by by_contra hfew; exact hfirst ⟨hnil, by omega⟩)
      · exact Or.inr hlong
  obtain ⟨op', hop⟩ := exists_emitLiterals (x := x) (k := x.length - t) hheader (by omega)
  exact ⟨op'.reverse ++ [byte (M4_MARKER ||| 1), 0, 0], by rw [finish, hop]; rfl⟩

variable (dBits) in
lemma compress_length (x : Bytes) : ∃ z, compress w addr dBits x = some z ∧
    16 * z.length ≤ 17 * x.length + 64 := by
  obtain ⟨k, op, hcompress, hlength, hshaped, hk⟩ :=
    compress_rule dBits w addr (extends_length x) (Nat.zero_le _)
  obtain ⟨z, hz⟩ := exists_finish hshaped (Nat.sub_le x.length k)
  have hfinish := length_finish hz
  exact ⟨z, hcompress.trans hz, by omega⟩

end BuludTechVPN.Lzo
