import BuludTechVPN.LzoDecompress

/-!
Bytes behind the marker of the end: the decompressor says that it did not consume them, and does not
look at them.
-/

namespace BuludTechVPN.Lzo

open ByteBuffer Stopping

variable {w : LzoUint} {cap : ℕ} {m : Machine} {rest : Bytes} {n t off base : ℕ} {code : Code}

/-- The machine with more input. -/
def Machine.more (rest : Bytes) (m : Machine) : Machine := { m with ahead := m.ahead ++ rest }

/-- Where a run stops that ended well, if there is more input. -/
def unconsumed (s : Stop) : Option Stop :=
  if s.code = .ok then some ⟨.inputNotConsumed, s.out⟩ else none

/-- All of the input has a length. -/
def Fits (w : LzoUint) (rest : Bytes) (m : Machine) : Prop := m.ahead.length + rest.length < w.size

/-- The same result, with more input left. -/
def More {α : Type} (w : LzoUint) (rest : Bytes) (p p' : α × Machine) : Prop :=
  p' = (p.1, p.2.more rest) ∧ Fits w rest p.2

/-- With more input the run goes on as before. -/
abbrev Same {α β : Type} (R : α → β → Prop) (r : Except Stop α) (u : Except Stop β) : Prop :=
  Follows unconsumed R r u

lemma stop_more {α β : Type} {R : α → β → Prop} {u : Except Stop β} (h : code ≠ .ok) :
    Same R (m.stop code) u :=
  Follows.of_free (if_neg h)

/-! ### The operations -/

lemma needIp_more (h : Fits w rest m) :
    Same (fun _ _ => True) (m.needIp w n) ((m.more rest).needIp w n) := by
  unfold Machine.needIp
  split_ifs with hless hmore hmore
  · exact stop_more (by decide)
  · exact stop_more (by decide)
  · have hwrap : w.wrap (m.more rest).ahead.length = m.ahead.length + rest.length := by
      change w.wrap (m.ahead ++ rest).length = _
      rw [List.length_append, w.wrap_of_lt h]
    have hle := w.wrap_le m.ahead.length
    omega
  · exact Follows.of_ok trivial

/-- What only looks at the output. -/
lemma same_tests {c : Prop} [Decidable c] (h : code ≠ .ok) :
    Same (fun _ _ => True) (if c then m.stop code else .ok ())
      (if c then (m.more rest).stop code else .ok ()) :=
  Follows.ite (fun _ => stop_more h) fun _ => Follows.of_ok trivial

lemma needOp_more : Same (fun _ _ => True) (m.needOp w cap n) ((m.more rest).needOp w cap n) :=
  same_tests (by decide)

lemma testLb_more : Same (fun _ _ => True) (m.testLb off) ((m.more rest).testLb off) :=
  same_tests (by decide)

variable (rest) in
lemma testLength_more (h : code ≠ .ok) :
    Same (fun _ _ => True) (m.testLength w code t) ((m.more rest).testLength w code t) :=
  same_tests h

lemma assertPos_more : Same (fun _ _ => True) (m.assertPos t) ((m.more rest).assertPos t) :=
  Follows.ite (fun _ => Follows.of_ok trivial) fun _ => stop_more (by decide)

lemma get_more (h : Fits w rest m) : Same (More w rest) m.get (m.more rest).get := by
  obtain ⟨behind, ahead, out⟩ := m
  cases ahead with
  | nil => exact stop_more (by decide)
  | cons b ahead =>
    have hless : ahead.length + rest.length < w.size := by
      change ahead.length + 1 + rest.length < w.size at h
      omega
    exact Follows.of_ok ⟨rfl, hless⟩

/-- More input for a machine without a result. -/
def MoreInput (w : LzoUint) (rest : Bytes) (m m' : Machine) : Prop := m' = m.more rest ∧ Fits w rest m

lemma put_more {b : UInt8} (h : Fits w rest m) :
    Same (MoreInput w rest) (m.put cap b) ((m.more rest).put cap b) :=
  Follows.ite (fun _ => Follows.of_ok ⟨rfl, h⟩) fun _ => stop_more (by decide)

lemma lookback_more : Same Eq (m.lookback off) ((m.more rest).lookback off) := by
  have hout : (m.more rest).out[off - 1]? = m.out[off - 1]? := rfl
  unfold Machine.lookback
  rw [hout]
  cases m.out[off - 1]? with
  | none => exact stop_more (by decide)
  | some b => exact Follows.ite (fun _ => stop_more (by decide)) fun _ => Follows.of_ok rfl

lemma copyLiterals_more (h : Fits w rest m) :
    Same (MoreInput w rest) (copyLiterals cap n m) (copyLiterals cap n (m.more rest)) := by
  induction n generalizing m with
  | zero => exact Follows.of_ok ⟨rfl, h⟩
  | succ n ih =>
    refine (get_more h).bind fun p p' hp => ?_
    obtain ⟨rfl, hfits⟩ := hp
    refine (put_more hfits).bind fun m' m'' hm => ?_
    obtain ⟨rfl, hfits'⟩ := hm
    exact ih hfits'

lemma copyMatch_more (h : Fits w rest m) :
    Same (MoreInput w rest) (copyMatch cap off n m) (copyMatch cap off n (m.more rest)) := by
  induction n generalizing m with
  | zero => exact Follows.of_ok ⟨rfl, h⟩
  | succ n ih =>
    refine lookback_more.bind fun b b' hb => ?_
    subst hb
    refine (put_more h).bind fun m' m'' hm => ?_
    obtain ⟨rfl, hfits⟩ := hm
    exact ih hfits

lemma zeroRun_more {out behind ahead : Bytes} (hcode : code ≠ .ok)
    (h : Fits w rest ⟨behind, ahead, out⟩) : Same (More w rest) (zeroRun w code out t behind ahead)
      (zeroRun w code out t behind (ahead ++ rest)) := by
  induction ahead generalizing t behind with
  | nil => exact stop_more (by decide)
  | cons b ahead ih =>
    have hless : Fits w rest ⟨0 :: behind, ahead, out⟩ := by
      change ahead.length + rest.length < w.size
      change ahead.length + 1 + rest.length < w.size at h
      omega
    rw [List.cons_append, zeroRun, zeroRun]
    refine Follows.ite (fun _ => ?_) fun _ => Follows.of_ok ⟨rfl, h⟩
    refine (testLength_more rest hcode).bind fun _ _ _ => ?_
    exact (needIp_more hless).bind fun _ _ _ => ih hless

lemma longLength_more (hcode : code ≠ .ok) (h : Fits w rest m) :
    Same (More w rest) (longLength w code base m) (longLength w code base (m.more rest)) := by
  unfold longLength
  refine (zeroRun_more hcode h).bind fun p p' hp => ?_
  obtain ⟨rfl, hfits⟩ := hp
  refine (get_more hfits).bind fun q q' hq => ?_
  obtain ⟨rfl, hfits'⟩ := hq
  exact Follows.of_ok ⟨rfl, hfits'⟩

lemma shortMatch_more (h : Fits w rest m) :
    Same (More w rest) (shortMatch w cap off n m) (shortMatch w cap off n (m.more rest)) := by
  refine testLb_more.bind fun _ _ _ => needOp_more.bind fun _ _ _ => ?_
  refine (copyMatch_more h).bind fun m' m'' hm => ?_
  obtain ⟨rfl, hfits⟩ := hm
  exact Follows.of_ok ⟨rfl, hfits⟩

lemma longMatch_more (h : Fits w rest m) :
    Same (More w rest) (longMatch w cap off t m) (longMatch w cap off t (m.more rest)) := by
  refine testLb_more.bind fun _ _ _ => assertPos_more.bind fun _ _ _ => ?_
  refine needOp_more.bind fun _ _ _ => ?_
  refine (copyMatch_more h).bind fun m' m'' hm => ?_
  obtain ⟨rfl, hfits⟩ := hm
  exact Follows.of_ok ⟨rfl, hfits⟩

lemma literals_more (h : Fits w rest m) :
    Same (More w rest) (literals w cap t m) (literals w cap t (m.more rest)) := by
  refine needOp_more.bind fun _ _ _ => (needIp_more h).bind fun _ _ _ => ?_
  refine (copyLiterals_more h).bind fun m' m'' hm => ?_
  obtain ⟨rfl, hfits⟩ := hm
  exact Follows.of_ok ⟨rfl, hfits⟩

lemma matchLength_more (h : Fits w rest m) :
    Same (More w rest) (matchLength w base t m) (matchLength w base t (m.more rest)) := by
  refine Follows.ite (fun _ => ?_) fun _ => Follows.of_ok ⟨rfl, h⟩
  refine (longLength_more (by decide) h).bind fun p p' hp => ?_
  obtain ⟨rfl, hfits⟩ := hp
  exact (needIp_more hfits).bind fun _ _ _ => Follows.of_ok ⟨rfl, hfits⟩

lemma literalLength_more {b : UInt8} (h : Fits w rest m) :
    Same (More w rest) (literalLength w b m) (literalLength w b (m.more rest)) :=
  Follows.ite (fun _ => longLength_more (by decide) h) fun _ => Follows.of_ok ⟨rfl, h⟩

lemma farOffset_more (h : Fits w rest m) :
    Same (More w rest) (farOffset m) (farOffset (m.more rest)) := by
  refine (get_more h).bind fun p p' hp => ?_
  obtain ⟨rfl, hfits⟩ := hp
  refine (get_more hfits).bind fun q q' hq => ?_
  obtain ⟨rfl, hfits'⟩ := hq
  exact Follows.of_ok ⟨rfl, hfits'⟩

/-! ### The labels -/

lemma start_more (h : Fits w rest m) :
    Same (More w rest) (start w cap m) (start w cap (m.more rest)) := by
  refine (needIp_more h).bind fun _ _ _ => (get_more h).bind fun p p' hp => ?_
  obtain ⟨rfl, hfits⟩ := hp
  refine Follows.ite (fun _ => ?_) fun _ => Follows.of_ok ⟨rfl, h⟩
  refine Follows.ite (fun _ => Follows.of_ok ⟨rfl, hfits⟩) fun _ => ?_
  exact assertPos_more.bind fun _ _ _ => literals_more hfits

lemma literalRun_more (h : Fits w rest m) :
    Same (More w rest) (literalRun w cap m) (literalRun w cap (m.more rest)) := by
  refine (needIp_more h).bind fun _ _ _ => (get_more h).bind fun p p' hp => ?_
  obtain ⟨rfl, hfits⟩ := hp
  refine Follows.ite (fun _ => Follows.of_ok ⟨rfl, hfits⟩) fun _ => ?_
  refine (literalLength_more hfits).bind fun q q' hq => ?_
  obtain ⟨rfl, hfits'⟩ := hq
  exact assertPos_more.bind fun _ _ _ => literals_more hfits'

lemma firstLiteralRun_more (h : Fits w rest m) :
    Same (More w rest) (firstLiteralRun w cap m) (firstLiteralRun w cap (m.more rest)) := by
  refine (get_more h).bind fun p p' hp => ?_
  obtain ⟨rfl, hfits⟩ := hp
  refine Follows.ite (fun _ => Follows.of_ok ⟨rfl, hfits⟩) fun _ => ?_
  refine (get_more hfits).bind fun q q' hq => ?_
  obtain ⟨rfl, hfits'⟩ := hq
  exact shortMatch_more hfits'

/-- The marker of the end is the only place where a run ends well. -/
lemma end_more (hrest : rest ≠ []) :
    Same (More w rest)
      ((m.stop (if m.ahead = [] then .ok else .inputNotConsumed)) : Except Stop (Label × Machine))
      ((m.more rest).stop (if (m.more rest).ahead = [] then .ok else .inputNotConsumed)) := by
  have hmore : (m.more rest).ahead ≠ [] := List.append_ne_nil_of_right_ne_nil m.ahead hrest
  rw [if_neg hmore]
  split_ifs
  · exact Follows.of_stop rfl
  · exact stop_more (by decide)

lemma matchTop_more (hrest : rest ≠ []) (h : Fits w rest m) :
    Same (More w rest) (matchTop w cap t m) (matchTop w cap t (m.more rest)) := by
  unfold matchTop
  refine Follows.ite (fun _ => ?_) fun _ => Follows.ite (fun _ => ?_) fun _ =>
    Follows.ite (fun _ => ?_) fun _ => ?_
  · refine (get_more h).bind fun p p' hp => ?_
    obtain ⟨rfl, hfits⟩ := hp
    exact longMatch_more hfits
  · refine (matchLength_more h).bind fun p p' hp => ?_
    obtain ⟨rfl, hfits⟩ := hp
    refine (farOffset_more hfits).bind fun q q' hq => ?_
    obtain ⟨rfl, hfits'⟩ := hq
    exact longMatch_more hfits'
  · refine (matchLength_more h).bind fun p p' hp => ?_
    obtain ⟨rfl, hfits⟩ := hp
    refine (farOffset_more hfits).bind fun q q' hq => ?_
    obtain ⟨rfl, hfits'⟩ := hq
    exact Follows.ite (fun _ => end_more hrest) fun _ => longMatch_more hfits'
  · refine (get_more h).bind fun p p' hp => ?_
    obtain ⟨rfl, hfits⟩ := hp
    exact shortMatch_more hfits

lemma matchDone_more (h : Fits w rest m) :
    Same (More w rest) (matchDone m) (matchDone (m.more rest)) := by
  obtain ⟨behind, ahead, out⟩ := m
  rcases behind with - | ⟨b, - | ⟨a, behind⟩⟩
  · exact stop_more (by decide)
  · exact stop_more (by decide)
  · exact Follows.ite (fun _ => Follows.of_ok ⟨rfl, h⟩) fun _ => Follows.of_ok ⟨rfl, h⟩

lemma matchNext_more (h : Fits w rest m) :
    Same (More w rest) (matchNext w cap t m) (matchNext w cap t (m.more rest)) := by
  refine assertPos_more.bind fun _ _ _ => Follows.ite (fun _ => stop_more (by decide)) fun _ => ?_
  refine needOp_more.bind fun _ _ _ => (needIp_more h).bind fun _ _ _ => ?_
  refine (copyLiterals_more h).bind fun m' m'' hm => ?_
  obtain ⟨rfl, hfits⟩ := hm
  refine (get_more hfits).bind fun p p' hp => ?_
  obtain ⟨rfl, hfits'⟩ := hp
  exact Follows.of_ok ⟨rfl, hfits'⟩

variable (cap) in
/-- **A step does not look beyond** what it needs: with more input it is the same, but for the test at
the end. -/
lemma step_more {l : Label} (hrest : rest ≠ []) (h : Fits w rest m) :
    Same (More w rest) (step w cap l m) (step w cap l (m.more rest)) := by
  cases l with
  | start => exact start_more h
  | loop => exact literalRun_more h
  | firstLiteralRun => exact firstLiteralRun_more h
  | matchTop t => exact matchTop_more hrest h
  | matchDone => exact matchDone_more h
  | matchNext t => exact matchNext_more h

lemma run_more {l : Label} {s s' : Stop} (hrest : rest ≠ []) (h : Fits w rest m)
    (hrun : run w cap n l m = some s) (hs : unconsumed s = some s') :
    run w cap n l (m.more rest) = some s' := by
  induction n generalizing l m with
  | zero => cases hrun
  | succ n ih =>
    have hsame := step_more cap (l := l) hrest h
    rw [run] at hrun ⊢
    cases hstep : step w cap l m with
    | error e =>
      rw [hstep] at hrun hsame
      cases hrun
      rw [hsame s' hs]
    | ok p =>
      rw [hstep] at hrun hsame
      obtain ⟨p', hp', rfl, hfits⟩ := hsame
      rw [hp']
      exact ih hfits hrun

/-- **What is accepted does not begin anything else that is**: bytes behind the marker of the end are
found, and the output is the same. -/
theorem lzo1x_decompress_safe_trailing (w : LzoUint) (cap : ℕ) (z rest : Bytes) (hrest : rest ≠ [])
    (hw : z.length + rest.length < w.size) (hok : (lzo1x_decompress_safe w cap z).code = .ok) :
    lzo1x_decompress_safe w cap (z ++ rest) =
      ⟨.inputNotConsumed, (lzo1x_decompress_safe w cap z).out⟩ := by
  obtain ⟨s, hrun, -⟩ := exists_decompress w cap z
  have hs : lzo1x_decompress_safe w cap z = s := by
    rw [lzo1x_decompress_safe, hrun]
    rfl
  rw [hs] at hok ⊢
  have hfits : Fits w rest ⟨[], z, []⟩ := hw
  have hmore := run_more hrest hfits hrun (if_pos hok)
  have hsteps : steps z ≤ steps (z ++ rest) := by
    unfold steps
    rw [List.length_append]
    omega
  have hlonger : run w cap (steps (z ++ rest)) .start ⟨[], z ++ rest, []⟩ = _ := run_mono hmore hsteps
  rw [lzo1x_decompress_safe, hlonger]
  rfl

/-- Three literals, and a byte too many. -/
theorem lzo1x_decompress_safe_trailing_literals :
    lzo1x_decompress_safe ⟨64, by decide⟩ 3 ([20, 1, 2, 3, 17, 0, 0] ++ [9]) =
      ⟨.inputNotConsumed, (lzo1x_decompress_safe ⟨64, by decide⟩ 3 [20, 1, 2, 3, 17, 0, 0]).out⟩ :=
  lzo1x_decompress_safe_trailing ⟨64, by decide⟩ 3 [20, 1, 2, 3, 17, 0, 0] [9] (by decide) (by decide)
    rfl

end BuludTechVPN.Lzo
