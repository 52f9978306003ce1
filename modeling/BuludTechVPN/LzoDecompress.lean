import BuludTechVPN.ByteBuffer
import BuludTechVPN.Lookbehind
import BuludTechVPN.Stopping

/-!
`lzo1x_decompress_safe`: the decompressor of the native library, with its tests for overruns.

The labels of the function are those of a machine, which goes from one to the next. The pointers
`ip` and `op` are zippers: what is before them stands with the nearest byte first.
-/

namespace BuludTechVPN.Lzo

open ByteBuffer Lookbehind Stopping

/-- The type `lzo_uint`. -/
structure LzoUint where
  bits : ℕ
  large : 16 ≤ bits

namespace LzoUint

variable (w : LzoUint)

def size : ℕ := 2 ^ w.bits
def wrap (x : ℕ) : ℕ := x % w.size

lemma size_large : 2 ^ 16 ≤ w.size := Nat.pow_le_pow_right (by omega) w.large

lemma wrap_le (x : ℕ) : w.wrap x ≤ x := Nat.mod_le _ _

lemma wrap_of_lt {x : ℕ} (h : x < w.size) : w.wrap x = x := Nat.mod_eq_of_lt h

end LzoUint

def M2_MAX_LEN : ℕ := 8
def M3_MAX_LEN : ℕ := 33
def M4_MAX_LEN : ℕ := 9
def M2_MAX_OFFSET : ℕ := 0x0800
def M3_MAX_OFFSET : ℕ := 0x4000
def M4_MAX_OFFSET : ℕ := 0xbfff
def M3_MARKER : ℕ := 32
def M4_MARKER : ℕ := 16

/-- What the function returns. A fault is a read or a write outside the buffers, or an assertion
that fails. -/
inductive Code
  | ok
  | inputOverrun
  | outputOverrun
  | lookbehindOverrun
  | inputNotConsumed
  | fault
  deriving DecidableEq, Repr

/-- The result, with the bytes that were written. -/
structure Stop where
  code : Code
  out : Bytes
  deriving DecidableEq, Repr

structure Machine where
  /-- What was read. -/
  behind : Bytes
  ahead : Bytes
  out : Bytes
  deriving DecidableEq, Repr

namespace Machine

variable (w : LzoUint) (cap : ℕ) (m : Machine)

def stop {α : Type} (code : Code) : Except Stop α := .error ⟨code, m.out.reverse⟩

/-- `*ip++`. -/
def get : Except Stop (UInt8 × Machine) :=
  match m.ahead with
  | [] => m.stop .fault
  | b :: ahead => .ok (b, { m with behind := b :: m.behind, ahead := ahead })

/-- `*op++ = b`. -/
def put (b : UInt8) : Except Stop Machine :=
  if m.out.length < cap then .ok { m with out := b :: m.out } else m.stop .fault

/-- `*m_pos`, where `m_pos` is `off` before `op`. -/
def lookback (off : ℕ) : Except Stop UInt8 :=
  match m.out[off - 1]? with
  | some b => if off = 0 then m.stop .fault else .ok b
  | none => m.stop .fault

def needIp (x : ℕ) : Except Stop Unit :=
  if w.wrap m.ahead.length < w.wrap x then m.stop .inputOverrun else .ok ()

def needOp (x : ℕ) : Except Stop Unit :=
  if w.wrap (cap - m.out.length) < w.wrap x then m.stop .outputOverrun else .ok ()

def testLb (off : ℕ) : Except Stop Unit :=
  if m.out.length < off ∨ off = 0 then m.stop .lookbehindOverrun else .ok ()

/-- The test for the overflow of a length, which goes on to `code`. -/
def testLength (code : Code) (t : ℕ) : Except Stop Unit :=
  if w.size - 511 < t then m.stop code else .ok ()

def assertPos (t : ℕ) : Except Stop Unit := if 0 < t then .ok () else m.stop .fault

end Machine

variable (w : LzoUint) (cap : ℕ)

def copyLiterals : ℕ → Machine → Except Stop Machine
  | 0, m => .ok m
  | n + 1, m => do
    let (b, m) ← m.get
    copyLiterals n (← m.put cap b)

def copyMatch (off : ℕ) : ℕ → Machine → Except Stop Machine
  | 0, m => .ok m
  | n + 1, m => do
    let b ← m.lookback off
    copyMatch off n (← m.put cap b)

/-- The loop over the zero bytes of a length. -/
def zeroRun (code : Code) (out : Bytes) : ℕ → Bytes → Bytes → Except Stop (ℕ × Machine)
  | _, behind, [] => Machine.stop ⟨behind, [], out⟩ .fault
  | t, behind, b :: ahead =>
    if b = 0 then do
      Machine.testLength w ⟨0 :: behind, ahead, out⟩ code (w.wrap (t + 255))
      Machine.needIp w ⟨0 :: behind, ahead, out⟩ 1
      zeroRun code out (w.wrap (t + 255)) (0 :: behind) ahead
    else .ok (t, ⟨behind, b :: ahead, out⟩)

/-- A length that did not fit into the first byte. -/
def longLength (code : Code) (base : ℕ) (m : Machine) : Except Stop (ℕ × Machine) := do
  let (t, m) ← zeroRun w code m.out 0 m.behind m.ahead
  let (b, m) ← m.get
  return (w.wrap (t + (base + b.toNat)), m)

inductive Label
  | start
  | loop
  | firstLiteralRun
  | matchTop (t : ℕ)
  | matchDone
  | matchNext (t : ℕ)
  deriving DecidableEq, Repr

/-- A match of `n` bytes. -/
def shortMatch (off n : ℕ) (m : Machine) : Except Stop (Label × Machine) := do
  m.testLb off
  m.needOp w cap n
  return (.matchDone, ← copyMatch cap off n m)

/-- A match that has its length in `t`. -/
def longMatch (off t : ℕ) (m : Machine) : Except Stop (Label × Machine) := do
  m.testLb off
  m.assertPos t
  m.needOp w cap (t + 2)
  return (.matchDone, ← copyMatch cap off (t + 2) m)

/-- `do *op++ = *ip++; while (--t > 0);`, with the tests before it. -/
def literals (t : ℕ) (m : Machine) : Except Stop (Label × Machine) := do
  m.needOp w cap t
  m.needIp w (t + 3)
  return (.firstLiteralRun, ← copyLiterals cap t m)

def start (m : Machine) : Except Stop (Label × Machine) := do
  m.needIp w 1
  let (b, m') ← m.get
  if b.toNat > 17 then
    if b.toNat - 17 < 4 then .ok (.matchNext (b.toNat - 17), m')
    else
      m'.assertPos (b.toNat - 17)
      literals w cap (b.toNat - 17) m'
  else .ok (.loop, m)

/-- The length of a literal run. -/
def literalLength (b : UInt8) (m : Machine) : Except Stop (ℕ × Machine) :=
  if b = 0 then longLength w .inputOverrun 15 m else .ok (b.toNat, m)

def literalRun (m : Machine) : Except Stop (Label × Machine) := do
  m.needIp w 3
  let (b, m) ← m.get
  if b.toNat ≥ 16 then .ok (.matchTop b.toNat, m)
  else
    let (t, m) ← literalLength w b m
    m.assertPos t
    literals w cap (t + 3) m

def firstLiteralRun (m : Machine) : Except Stop (Label × Machine) := do
  let (t, m) ← m.get
  if t.toNat ≥ 16 then .ok (.matchTop t.toNat, m)
  else
    let (b, m) ← m.get
    shortMatch w cap (1 + M2_MAX_OFFSET + t.toNat >>> 2 + b.toNat <<< 2) 3 m

/-- The length of a match. -/
def matchLength (base t : ℕ) (m : Machine) : Except Stop (ℕ × Machine) :=
  if t = 0 then do
    let (t, m) ← longLength w .outputOverrun base m
    m.needIp w 2
    return (t, m)
  else .ok (t, m)

/-- `(ip[0] >> 2) + (ip[1] << 6)`. -/
def farOffset (m : Machine) : Except Stop (ℕ × Machine) := do
  let (b0, m) ← m.get
  let (b1, m) ← m.get
  return (b0.toNat >>> 2 + b1.toNat <<< 6, m)

def matchTop (t : ℕ) (m : Machine) : Except Stop (Label × Machine) :=
  if t ≥ 64 then do
    let (b, m) ← m.get
    longMatch w cap (1 + (t >>> 2 &&& 7) + b.toNat <<< 3) (t >>> 5 - 1) m
  else if t ≥ 32 then do
    let (n, m) ← matchLength w 31 (t &&& 31) m
    let (off, m) ← farOffset m
    longMatch w cap (1 + off) n m
  else if t ≥ 16 then do
    let (n, m) ← matchLength w 7 (t &&& 7) m
    let (off, m) ← farOffset m
    if (t &&& 8) <<< 11 + off = 0 then m.stop (if m.ahead = [] then .ok else .inputNotConsumed)
    else longMatch w cap ((t &&& 8) <<< 11 + off + 0x4000) n m
  else do
    let (b, m) ← m.get
    shortMatch w cap (1 + t >>> 2 + b.toNat <<< 2) 2 m

/-- The two low bits of `ip[-2]`. -/
def matchDone (m : Machine) : Except Stop (Label × Machine) :=
  match m.behind with
  | _ :: b :: _ =>
    let t := b.toNat &&& 3
    if t = 0 then .ok (.loop, m) else .ok (.matchNext t, m)
  | _ => m.stop .fault

def matchNext (t : ℕ) (m : Machine) : Except Stop (Label × Machine) := do
  m.assertPos t
  if t ≥ 4 then m.stop .fault
  else
    m.needOp w cap t
    m.needIp w (t + 3)
    let m ← copyLiterals cap t m
    let (b, m) ← m.get
    return (.matchTop b.toNat, m)

def step : Label → Machine → Except Stop (Label × Machine)
  | .start, m => start w cap m
  | .loop, m => literalRun w cap m
  | .firstLiteralRun, m => firstLiteralRun w cap m
  | .matchTop t, m => matchTop w cap t m
  | .matchDone, m => matchDone m
  | .matchNext t, m => matchNext w cap t m

/-- At most `n` steps. -/
def run : ℕ → Label → Machine → Option Stop
  | 0, _, _ => none
  | n + 1, l, m =>
    match step w cap l m with
    | .error s => some s
    | .ok (l, m) => run n l m

/-- A step from `match_done` reads nothing, every other one a byte at least. -/
def steps (src : Bytes) : ℕ := 2 * src.length + 3

def lzo1x_decompress_safe (src : Bytes) : Stop :=
  (run w cap (steps src) .start ⟨[], src, []⟩).getD ⟨.fault, []⟩

/-! ### The operations -/

variable {w} {cap} {m m' : Machine} {n t off x : ℕ} {code : Code} {out' : Bytes}

/-- Literals are moved from the input to the output. -/
lemma copyLiterals_eq (hip : n ≤ m.ahead.length) (hop : m.out.length + n ≤ cap) :
    copyLiterals cap n m = .ok ⟨(m.ahead.take n).reverse ++ m.behind, m.ahead.drop n,
      (m.ahead.take n).reverse ++ m.out⟩ := by
  induction n generalizing m with
  | zero => rfl
  | succ n ih =>
    obtain ⟨behind, ahead, out⟩ := m
    change out.length + (n + 1) ≤ cap at hop
    cases ahead with
    | nil => simp at hip
    | cons b ahead =>
      have hput : Machine.put cap ⟨b :: behind, ahead, out⟩ b =
          .ok ⟨b :: behind, ahead, b :: out⟩ := by
        refine if_pos ?_
        change out.length < cap
        omega
      have hmore : (b :: out).length + n ≤ cap := by
        rw [List.length_cons]
        omega
      have hrest := ih (m := ⟨b :: behind, ahead, b :: out⟩) (Nat.le_of_succ_le_succ hip) hmore
      simp only [copyLiterals, Machine.get, bind, Except.bind, hput, hrest]
      simp

/-- A match is copied from behind. -/
lemma copyMatch_eq (hoff : 0 < off) (hcopy : copyBack off n m.out = some out')
    (hop : m.out.length + n ≤ cap) : copyMatch cap off n m = .ok { m with out := out' } := by
  induction n generalizing m with
  | zero =>
    cases hcopy
    rfl
  | succ n ih =>
    obtain ⟨b, hb, hcopy⟩ := Option.bind_eq_some_iff.1 hcopy
    have hback : m.lookback off = .ok b := by
      unfold Machine.lookback
      simp only [hb]
      exact if_neg (by omega)
    have hput : m.put cap b = .ok { m with out := b :: m.out } := if_pos (by omega)
    have hrest := ih (m := { m with out := b :: m.out }) hcopy
      (by simp only [List.length_cons]; omega)
    simp only [copyMatch, bind, Except.bind, hback, hput, hrest]

/-! ### What a step can do -/

/-- The result of a decompression without a fault. -/
def Sound (cap : ℕ) (s : Stop) : Prop := s.code ≠ .fault ∧ s.out.length ≤ cap

/-- Only input was read. -/
structure Reads (m m' : Machine) : Prop where
  out : m'.out = m.out
  total : m'.behind.length + m'.ahead.length = m.behind.length + m.ahead.length
  forward : m'.ahead.length ≤ m.ahead.length

lemma Reads.refl (m : Machine) : Reads m m := ⟨rfl, rfl, le_rfl⟩

lemma Reads.trans {m m' m'' : Machine} (h : Reads m m') (h' : Reads m' m'') : Reads m m'' :=
  ⟨h'.out.trans h.out, h'.total.trans h.total, h'.forward.trans h.forward⟩

lemma Reads.outLength {m m' : Machine} (h : Reads m m') (hout : m.out.length ≤ cap) :
    m'.out.length ≤ cap := by
  rwa [h.out]

lemma stop_spec {α : Type} {P : α → Prop} (hout : m.out.length ≤ cap) (h : code ≠ .fault) :
    Meets (Sound cap) (m.stop code) P :=
  of_error ⟨h, by rwa [List.length_reverse]⟩

lemma needIp_spec (hout : m.out.length ≤ cap) :
    Meets (Sound cap) (m.needIp w x) fun _ => w.wrap x ≤ m.ahead.length := by
  unfold Machine.needIp
  refine Meets.ite (fun _ => stop_spec hout (by decide)) fun h => of_ok ?_
  exact (not_lt.1 h).trans (w.wrap_le _)

lemma needOp_spec (hout : m.out.length ≤ cap) :
    Meets (Sound cap) (m.needOp w cap x) fun _ => m.out.length + w.wrap x ≤ cap := by
  unfold Machine.needOp
  refine Meets.ite (fun _ => stop_spec hout (by decide)) fun h => of_ok ?_
  have hroom := (not_lt.1 h).trans (w.wrap_le _)
  omega

lemma testLb_spec (hout : m.out.length ≤ cap) :
    Meets (Sound cap) (m.testLb off) fun _ => off ≤ m.out.length ∧ 0 < off := by
  unfold Machine.testLb
  refine Meets.ite (fun _ => stop_spec hout (by decide)) fun h => of_ok ?_
  omega

lemma testLength_spec (hout : m.out.length ≤ cap) (hcode : code ≠ .fault) :
    Meets (Sound cap) (m.testLength w code t) fun _ => t ≤ w.size - 511 := by
  unfold Machine.testLength
  exact Meets.ite (fun _ => stop_spec hout hcode) fun h => of_ok (not_lt.1 h)

lemma get_spec {E : Stop → Prop} (h : 0 < m.ahead.length) : Meets E m.get fun p =>
    Reads m p.2 ∧ p.2.behind.length = m.behind.length + 1 ∧
      p.2.ahead.length + 1 = m.ahead.length := by
  obtain ⟨behind, ahead, out⟩ := m
  cases ahead with
  | nil => simp at h
  | cons b ahead =>
    refine of_ok ⟨⟨rfl, ?_, ?_⟩, rfl, rfl⟩
    · simp only [List.length_cons]
      omega
    · exact Nat.le_succ _

lemma assertPos_spec {E : Stop → Prop} (h : 0 < t) : Meets E (m.assertPos t) fun _ => True := by
  rw [Machine.assertPos, if_pos h]
  exact of_ok trivial

lemma copyLiterals_spec {E : Stop → Prop} (hip : n ≤ m.ahead.length) (hop : m.out.length + n ≤ cap) :
    Meets E (copyLiterals cap n m) fun m' => m'.out.length ≤ cap ∧
      m'.behind.length = m.behind.length + n ∧ m'.ahead.length + n = m.ahead.length := by
  rw [copyLiterals_eq hip hop]
  refine of_ok ⟨?_, ?_, ?_⟩
  · simp only [List.length_append, List.length_reverse, List.length_take]
    omega
  · simp only [List.length_append, List.length_reverse, List.length_take]
    omega
  · rw [List.length_drop]
    omega

lemma copyMatch_spec {E : Stop → Prop} (hoff : off ≤ m.out.length) (hpos : 0 < off)
    (hop : m.out.length + n ≤ cap) : Meets E (copyMatch cap off n m) fun m' =>
      m'.out.length ≤ cap ∧ m'.behind = m.behind ∧ m'.ahead = m.ahead := by
  obtain ⟨out', h⟩ := exists_copyBack hoff hpos n
  rw [copyMatch_eq hpos h hop]
  refine of_ok ⟨?_, rfl, rfl⟩
  rwa [length_copyBack h]

lemma wrap_one : w.wrap 1 = 1 := w.wrap_of_lt (by have := w.size_large; omega)

lemma zeroRun_spec {out behind ahead : Bytes} (hout : out.length ≤ cap) (h : 0 < ahead.length)
    (ht : t ≤ w.size - 511) (hcode : code ≠ .fault) :
    Meets (Sound cap) (zeroRun w code out t behind ahead) fun p =>
      p.1 ≤ w.size - 511 ∧ Reads ⟨behind, ahead, out⟩ p.2 ∧ 0 < p.2.ahead.length := by
  induction ahead generalizing t behind with
  | nil => simp at h
  | cons b ahead ih =>
    rw [zeroRun]
    refine Meets.ite (fun _ => ?_) fun _ => of_ok ⟨ht, Reads.refl _, h⟩
    refine (testLength_spec hout hcode).bind fun _ hle => ?_
    refine (needIp_spec hout).bind fun _ hmore => ?_
    rw [wrap_one] at hmore
    have hread : Reads ⟨behind, b :: ahead, out⟩ ⟨0 :: behind, ahead, out⟩ := by
      refine ⟨rfl, ?_, Nat.le_succ _⟩
      simp only [List.length_cons]
      omega
    exact (ih hmore hle).mono fun p hp => ⟨hp.1, hread.trans hp.2.1, hp.2.2⟩

lemma longLength_spec {base : ℕ} (hout : m.out.length ≤ cap) (h : 0 < m.ahead.length)
    (hbase : 0 < base) (hsmall : base ≤ 31) (hcode : code ≠ .fault) :
    Meets (Sound cap) (longLength w code base m) fun p =>
      0 < p.1 ∧ p.1 + 200 < w.size ∧ Reads m p.2 := by
  have hlarge := w.size_large
  unfold longLength
  refine (zeroRun_spec hout h (by omega) hcode).bind fun p hp => ?_
  obtain ⟨hle, hreads, hmore⟩ := hp
  refine (get_spec hmore).bind fun q hq => of_ok ?_
  have hb : q.1.toNat < 256 := q.1.toNat_lt
  have hlt : p.1 + (base + q.1.toNat) < w.size := by omega
  change 0 < w.wrap (p.1 + (base + q.1.toNat)) ∧ w.wrap (p.1 + (base + q.1.toNat)) + 200 < w.size ∧
    Reads m q.2
  rw [w.wrap_of_lt hlt]
  exact ⟨by omega, by omega, hreads.trans hq.1⟩

/-! ### The labels -/

/-- What is known at a label. -/
def Known : Label → Machine → Prop
  | .start, _ => True
  | .loop, _ => True
  | .firstLiteralRun, m => 3 ≤ m.ahead.length
  | .matchTop t, m => 2 ≤ m.ahead.length ∧ 0 < m.behind.length ∧ t < 256
  | .matchDone, m => 2 ≤ m.behind.length
  | .matchNext t, _ => 0 < t ∧ t < 4

/-- The input that is left, twice, as `match_done` and the start read nothing. -/
def weight : Label → Machine → ℕ
  | .start, m => 2 * m.ahead.length + 1
  | .matchDone, m => 2 * m.ahead.length + 1
  | _, m => 2 * m.ahead.length

/-- A step that leads on: nothing is written behind the buffer, and it cannot go on for ever. -/
structure Onwards (cap bound : ℕ) (p : Label × Machine) : Prop where
  room : p.2.out.length ≤ cap
  known : Known p.1 p.2
  less : weight p.1 p.2 < bound

lemma shortMatch_spec {bound : ℕ} (hout : m.out.length ≤ cap) (hn : n < w.size)
    (hbehind : 2 ≤ m.behind.length) (hless : 2 * m.ahead.length + 1 < bound) :
    Meets (Sound cap) (shortMatch w cap off n m) (Onwards cap bound) := by
  unfold shortMatch
  refine (testLb_spec hout).bind fun _ hoff => (needOp_spec hout).bind fun _ hop => ?_
  rw [w.wrap_of_lt hn] at hop
  refine (copyMatch_spec hoff.1 hoff.2 hop).bind fun m' hm => of_ok ⟨hm.1, ?_, ?_⟩
  · change 2 ≤ m'.behind.length
    rwa [hm.2.1]
  · change 2 * m'.ahead.length + 1 < bound
    rwa [hm.2.2]

lemma longMatch_spec {bound : ℕ} (hout : m.out.length ≤ cap) (ht : 0 < t) (hn : t + 2 < w.size)
    (hbehind : 2 ≤ m.behind.length) (hless : 2 * m.ahead.length + 1 < bound) :
    Meets (Sound cap) (longMatch w cap off t m) (Onwards cap bound) := by
  unfold longMatch
  refine (testLb_spec hout).bind fun _ hoff => ?_
  refine (assertPos_spec ht).bind fun _ _ => (needOp_spec hout).bind fun _ hop => ?_
  rw [w.wrap_of_lt hn] at hop
  refine (copyMatch_spec hoff.1 hoff.2 hop).bind fun m' hm => of_ok ⟨hm.1, ?_, ?_⟩
  · change 2 ≤ m'.behind.length
    rwa [hm.2.1]
  · change 2 * m'.ahead.length + 1 < bound
    rwa [hm.2.2]

lemma literals_spec {bound : ℕ} (hout : m.out.length ≤ cap) (ht : t + 3 < w.size)
    (hless : 2 * m.ahead.length < bound) :
    Meets (Sound cap) (literals w cap t m) (Onwards cap bound) := by
  unfold literals
  refine (needOp_spec hout).bind fun _ hop => (needIp_spec hout).bind fun _ hip => ?_
  rw [w.wrap_of_lt (by omega)] at hop
  rw [w.wrap_of_lt ht] at hip
  refine (copyLiterals_spec (by omega) hop).bind fun m' hm => of_ok ⟨hm.1, ?_, ?_⟩
  · change 3 ≤ m'.ahead.length
    omega
  · change 2 * m'.ahead.length < bound
    omega

lemma start_spec (hout : m.out.length ≤ cap) :
    Meets (Sound cap) (start w cap m) (Onwards cap (weight .start m)) := by
  have hlarge := w.size_large
  unfold start
  refine (needIp_spec hout).bind fun _ hip => ?_
  rw [wrap_one] at hip
  refine (get_spec hip).bind fun p hp => ?_
  have hroom := hp.1.outLength hout
  have hless : 2 * p.2.ahead.length < weight .start m := by
    change 2 * p.2.ahead.length < 2 * m.ahead.length + 1
    omega
  have hb : p.1.toNat < 256 := p.1.toNat_lt
  refine Meets.ite (fun hbig => ?_) fun _ => of_ok ⟨hout, trivial, Nat.lt_succ_self _⟩
  refine Meets.ite (fun hfew => of_ok ⟨hroom, ⟨by omega, hfew⟩, hless⟩) fun _ => ?_
  exact (assertPos_spec (by omega)).bind fun _ _ => literals_spec hroom (by omega) hless

lemma literalLength_spec {b : UInt8} (hout : m.out.length ≤ cap) (h : 0 < m.ahead.length) :
    Meets (Sound cap) (literalLength w b m) fun p =>
      0 < p.1 ∧ p.1 + 200 < w.size ∧ Reads m p.2 := by
  unfold literalLength
  refine Meets.ite (fun _ => longLength_spec hout h (by decide) (by decide) (by decide)) fun hb => ?_
  have hlt : b.toNat < 256 := b.toNat_lt
  have hpos : b.toNat ≠ 0 := fun h0 => hb (UInt8.toNat_inj.1 h0)
  have hlarge := w.size_large
  exact of_ok ⟨Nat.pos_of_ne_zero hpos, by change b.toNat + 200 < w.size; omega, Reads.refl m⟩

lemma literalRun_spec (hout : m.out.length ≤ cap) :
    Meets (Sound cap) (literalRun w cap m) (Onwards cap (weight .loop m)) := by
  have hlarge := w.size_large
  unfold literalRun
  refine (needIp_spec hout).bind fun _ hip => ?_
  rw [w.wrap_of_lt (by omega)] at hip
  refine (get_spec (by omega)).bind fun p hp => ?_
  obtain ⟨hreads, hbehind, hahead⟩ := hp
  have hroom := hreads.outLength hout
  refine Meets.ite (fun _ => of_ok ⟨hroom, ⟨?_, ?_, p.1.toNat_lt⟩, ?_⟩) fun _ => ?_
  · change 2 ≤ p.2.ahead.length
    omega
  · change 0 < p.2.behind.length
    omega
  · change 2 * p.2.ahead.length < 2 * m.ahead.length
    omega
  · refine (literalLength_spec hroom (by omega)).bind fun q hq => ?_
    obtain ⟨hpos, hsmall, hmore⟩ := hq
    refine (assertPos_spec hpos).bind fun _ _ => ?_
    refine literals_spec (hmore.outLength hroom) (by omega) ?_
    have hforward := hmore.forward
    change 2 * q.2.ahead.length < 2 * m.ahead.length
    omega

lemma firstLiteralRun_spec (hout : m.out.length ≤ cap) (h : 3 ≤ m.ahead.length) :
    Meets (Sound cap) (firstLiteralRun w cap m) (Onwards cap (weight .firstLiteralRun m)) := by
  have hlarge := w.size_large
  unfold firstLiteralRun
  refine (get_spec (by omega)).bind fun p hp => ?_
  obtain ⟨hreads, hbehind, hahead⟩ := hp
  have hroom := hreads.outLength hout
  refine Meets.ite (fun _ => of_ok ⟨hroom, ⟨?_, ?_, p.1.toNat_lt⟩, ?_⟩) fun _ => ?_
  · change 2 ≤ p.2.ahead.length
    omega
  · change 0 < p.2.behind.length
    omega
  · change 2 * p.2.ahead.length < 2 * m.ahead.length
    omega
  · refine (get_spec (by omega)).bind fun q hq => ?_
    obtain ⟨hmore, hbehind', hahead'⟩ := hq
    refine shortMatch_spec (hmore.outLength hroom) (by omega) (by omega) ?_
    change 2 * q.2.ahead.length + 1 < 2 * m.ahead.length
    omega

lemma matchLength_spec {base : ℕ} (hout : m.out.length ≤ cap) (h : 2 ≤ m.ahead.length) (ht : t < 32)
    (hbase : 0 < base) (hsmall : base ≤ 31) :
    Meets (Sound cap) (matchLength w base t m) fun p =>
      0 < p.1 ∧ p.1 + 200 < w.size ∧ Reads m p.2 ∧ 2 ≤ p.2.ahead.length := by
  have hlarge := w.size_large
  unfold matchLength
  refine Meets.ite (fun _ => ?_) fun hpos => of_ok ⟨Nat.pos_of_ne_zero hpos, ?_, Reads.refl m, h⟩
  · refine (longLength_spec hout (by omega) hbase hsmall (by decide)).bind fun p hp => ?_
    refine (needIp_spec (hp.2.2.outLength hout)).bind fun _ hip => of_ok ?_
    rw [w.wrap_of_lt (by omega)] at hip
    exact ⟨hp.1, hp.2.1, hp.2.2, hip⟩
  · change t + 200 < w.size
    omega

lemma farOffset_spec {E : Stop → Prop} (h : 2 ≤ m.ahead.length) :
    Meets E (farOffset m) fun p => Reads m p.2 ∧ p.2.behind.length = m.behind.length + 2 ∧
      p.2.ahead.length + 2 = m.ahead.length := by
  unfold farOffset
  refine (get_spec (by omega)).bind fun p hp => ?_
  refine (get_spec (by omega)).bind fun q hq => of_ok ⟨hp.1.trans hq.1, ?_, ?_⟩
  · change q.2.behind.length = m.behind.length + 2
    omega
  · change q.2.ahead.length + 2 = m.ahead.length
    omega

lemma matchTop_spec (hout : m.out.length ≤ cap) (h : Known (.matchTop t) m) :
    Meets (Sound cap) (matchTop w cap t m) (Onwards cap (weight (.matchTop t) m)) := by
  obtain ⟨hahead, hbehind, ht⟩ := h
  have hlarge := w.size_large
  change Meets _ _ (Onwards cap (2 * m.ahead.length))
  unfold matchTop
  refine Meets.ite (fun hM2 => ?_) fun _ => Meets.ite (fun hM3 => ?_) fun _ =>
    Meets.ite (fun hM4 => ?_) fun hM1 => ?_
  · refine (get_spec (by omega)).bind fun p hp => ?_
    have hhigh : t >>> 5 = t / 32 := Nat.shiftRight_eq_div_pow t 5
    exact longMatch_spec (hp.1.outLength hout) (by omega) (by omega) (by omega) (by omega)
  · have hlow : t &&& 31 < 32 := Nat.lt_succ_of_le Nat.and_le_right
    refine (matchLength_spec hout hahead hlow (by decide) (by decide)).bind fun p hp => ?_
    obtain ⟨hpos, hsmall, hreads, hmore⟩ := hp
    refine (farOffset_spec hmore).bind fun q hq => ?_
    have hforward := hreads.forward
    exact longMatch_spec ((hreads.trans hq.1).outLength hout) hpos (by omega) (by omega) (by omega)
  · have hlow : t &&& 7 < 32 := Nat.lt_of_le_of_lt Nat.and_le_right (by decide)
    refine (matchLength_spec hout hahead hlow (by decide) (by decide)).bind fun p hp => ?_
    obtain ⟨hpos, hsmall, hreads, hmore⟩ := hp
    refine (farOffset_spec hmore).bind fun q hq => ?_
    have hforward := hreads.forward
    have hroom := (hreads.trans hq.1).outLength hout
    refine Meets.ite (fun _ => stop_spec hroom ?_) fun _ => ?_
    · split_ifs <;> decide
    · exact longMatch_spec hroom hpos (by omega) (by omega) (by omega)
  · refine (get_spec (by omega)).bind fun p hp => ?_
    exact shortMatch_spec (hp.1.outLength hout) (by omega) (by omega) (by omega)

lemma matchDone_spec (hout : m.out.length ≤ cap) (h : 2 ≤ m.behind.length) :
    Meets (Sound cap) (matchDone m) (Onwards cap (weight .matchDone m)) := by
  obtain ⟨behind, ahead, out⟩ := m
  obtain ⟨b, a, behind, rfl⟩ : ∃ b a rest, behind = b :: a :: rest := by
    rcases behind with - | ⟨b, - | ⟨a, rest⟩⟩
    · simp at h
    · simp at h
    · exact ⟨b, a, rest, rfl⟩
  refine Meets.ite (fun _ => of_ok ⟨hout, trivial, Nat.lt_succ_self _⟩) fun hpos => ?_
  have hlow : a.toNat &&& 3 < 4 := Nat.lt_succ_of_le Nat.and_le_right
  exact of_ok ⟨hout, ⟨Nat.pos_of_ne_zero hpos, hlow⟩, Nat.lt_succ_self _⟩

lemma matchNext_spec (hout : m.out.length ≤ cap) (hpos : 0 < t) (hfew : t < 4) :
    Meets (Sound cap) (matchNext w cap t m) (Onwards cap (weight (.matchNext t) m)) := by
  have hlarge := w.size_large
  unfold matchNext
  refine (assertPos_spec hpos).bind fun _ _ => Meets.ite (fun hmany => ?_) fun _ => ?_
  · exact absurd hmany (by omega)
  refine (needOp_spec hout).bind fun _ hop => (needIp_spec hout).bind fun _ hip => ?_
  rw [w.wrap_of_lt (by omega)] at hop hip
  refine (copyLiterals_spec (by omega) hop).bind fun m' hm => ?_
  refine (get_spec (by omega)).bind fun p hp => of_ok ⟨?_, ⟨?_, ?_, p.1.toNat_lt⟩, ?_⟩
  · exact hp.1.outLength hm.1
  · change 2 ≤ p.2.ahead.length
    omega
  · change 0 < p.2.behind.length
    omega
  · change 2 * p.2.ahead.length < 2 * m.ahead.length
    omega

/-! ### Whole runs -/

/-- **No step leaves the buffers**: it stops without a fault, or leads on to a label with what is
known there. -/
lemma step_spec {l : Label} (hout : m.out.length ≤ cap) (h : Known l m) :
    Meets (Sound cap) (step w cap l m) (Onwards cap (weight l m)) := by
  cases l with
  | start => exact start_spec hout
  | loop => exact literalRun_spec hout
  | firstLiteralRun => exact firstLiteralRun_spec hout h
  | matchTop t => exact matchTop_spec hout h
  | matchDone => exact matchDone_spec hout h
  | matchNext t => exact matchNext_spec hout h.1 h.2

/-- The weight bounds the steps. -/
lemma run_spec {l : Label} (hout : m.out.length ≤ cap) (h : Known l m) (hn : weight l m < n) :
    ∃ s, run w cap n l m = some s ∧ Sound cap s := by
  induction n generalizing l m with
  | zero => omega
  | succ n ih =>
    have hspec := step_spec (w := w) hout h
    rw [run]
    cases hstep : step w cap l m with
    | error s => exact ⟨s, rfl, hspec.of_eq_error hstep⟩
    | ok p =>
      obtain ⟨hroom, hknown, hless⟩ := hspec.of_eq_ok hstep
      exact ih hroom hknown (by omega)

/-- More steps do not change the result. -/
lemma run_mono {l : Label} {n' : ℕ} {s : Stop} (h : run w cap n l m = some s) (hle : n ≤ n') :
    run w cap n' l m = some s := by
  induction n generalizing n' l m with
  | zero => cases h
  | succ n ih =>
    obtain ⟨n', rfl⟩ : ∃ j, n' = j + 1 := ⟨n' - 1, by omega⟩
    rw [run] at h ⊢
    cases hstep : step w cap l m with
    | error e =>
      rw [hstep] at h
      exact h
    | ok p =>
      rw [hstep] at h
      exact ih h (by omega)

variable (w cap) in
lemma exists_decompress (src : Bytes) :
    ∃ s, run w cap (steps src) .start ⟨[], src, []⟩ = some s ∧ Sound cap s := by
  have hless : weight .start ⟨[], src, []⟩ < steps src := by
    change 2 * src.length + 1 < 2 * src.length + 3
    omega
  exact run_spec (Nat.zero_le cap) (l := .start) trivial hless

variable (w cap) in
/-- **Whatever bytes come in**, the decompressor comes to an end, reads and writes only inside its
buffers and does not run into one of its assertions. -/
theorem lzo1x_decompress_safe_sound (src : Bytes) : Sound cap (lzo1x_decompress_safe w cap src) := by
  obtain ⟨s, hrun, hs⟩ := exists_decompress w cap src
  rw [lzo1x_decompress_safe, hrun]
  exact hs

end BuludTechVPN.Lzo
