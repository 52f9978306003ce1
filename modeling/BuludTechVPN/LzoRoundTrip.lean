import BuludTechVPN.LzoTokens
import Mathlib.Logic.Relation

/-!
What was compressed is decompressed to what it was.

Along the way the decompressor reads what was written so far, and stands behind the last match with
the first bytes of the input; the bits for the number of the next literals, which are added later,
do not disturb it.
-/

namespace BuludTechVPN.Lzo

open ByteBuffer Stopping Relation

variable {w : LzoUint} {cap : ℕ} {x z l op op' behind rest out before : Bytes} {m m' : Machine}
  {p q : Label × Machine} {r : Stop} {lab lab' : Label} {a b c : UInt8} {n s t k addr dBits : ℕ}

/-! ### Runs of the decompressor -/

/-- One step that leads on. -/
def Leads (w : LzoUint) (cap : ℕ) (p q : Label × Machine) : Prop := step w cap p.1 p.2 = .ok q

/-- Some steps from the beginning of the input `z`. -/
def Reaches (w : LzoUint) (cap : ℕ) (z : Bytes) (lab : Label) (m : Machine) : Prop :=
  ReflTransGen (Leads w cap) (.start, ⟨[], z, []⟩) (lab, m)

lemma Reaches.next (h : Reaches w cap z lab m) (hstep : step w cap lab m = .ok (lab', m')) :
    Reaches w cap z lab' m' :=
  ReflTransGen.tail h hstep

lemma exists_run (h : ReflTransGen (Leads w cap) p q) (hlast : step w cap q.1 q.2 = .error r) :
    ∃ n, run w cap n p.1 p.2 = some r := by
  induction h using ReflTransGen.head_induction_on with
  | refl => exact ⟨1, by rw [run, hlast]⟩
  | head hfirst _ ih =>
    obtain ⟨n, hn⟩ := ih
    refine ⟨n + 1, ?_⟩
    rw [run, hfirst]
    exact hn

lemma decompress_of_reaches (h : Reaches w cap z lab m) (hlast : step w cap lab m = .error r) :
    lzo1x_decompress_safe w cap z = r := by
  obtain ⟨n, hn⟩ := exists_run h hlast
  obtain ⟨r', hrun, -⟩ := exists_decompress w cap z
  have hr := run_mono hn (le_max_left n (steps z))
  have hr' := run_mono hrun (le_max_right n (steps z))
  rw [lzo1x_decompress_safe, hrun]
  exact Option.some_inj.1 (hr'.symm.trans hr)

/-! ### Literals -/

/-- A byte from 16 on begins a match. -/
lemma literalRun_match (hc : 16 ≤ c.toNat) (hrest : 2 ≤ rest.length) (hw : rest.length + 1 < w.size) :
    literalRun w cap ⟨behind, c :: rest, out⟩ =
      .ok (.matchTop c.toNat, ⟨c :: behind, rest, out⟩) := by
  have hip : Machine.needIp w ⟨behind, c :: rest, out⟩ 3 = .ok () := by
    refine needIp_eq ?_ hw
    change 3 ≤ rest.length + 1
    omega
  unfold literalRun
  rw [hip, ok_bind, get_cons, ok_bind]
  exact if_pos hc

lemma firstLiteralRun_match (hc : 16 ≤ c.toNat) : firstLiteralRun w cap ⟨behind, c :: rest, out⟩ =
    .ok (.matchTop c.toNat, ⟨c :: behind, rest, out⟩) := by
  unfold firstLiteralRun
  rw [get_cons, ok_bind]
  exact if_pos hc

/-- The bits for the number of the next literals. -/
lemma matchDone_eq (ha : a.toNat % 4 = 0) (hs : s < 4) :
    matchDone ⟨b :: byte (a.toNat ||| s) :: before, rest, out⟩ =
      .ok (if s = 0 then .loop else .matchNext s,
        ⟨b :: byte (a.toNat ||| s) :: before, rest, out⟩) := by
  have hlow : (byte (a.toNat ||| s)).toNat &&& 3 = s := by
    have hand : (byte (a.toNat ||| s)).toNat &&& 3 = (byte (a.toNat ||| s)).toNat % 4 :=
      Nat.and_two_pow_sub_one_eq_mod _ 2
    rw [hand, toNat_orBits ha hs]
    omega
  unfold matchDone
  simp only [hlow]
  split_ifs <;> rfl

lemma copyLiterals_append (hop : out.length + l.length ≤ cap) :
    copyLiterals cap l.length ⟨behind, l ++ rest, out⟩ =
      .ok ⟨l.reverse ++ behind, rest, l.reverse ++ out⟩ := by
  have hip : l.length ≤ (l ++ rest).length := by
    rw [List.length_append]
    exact Nat.le_add_right _ _
  have hcopy := copyLiterals_eq (m := ⟨behind, l ++ rest, out⟩) hip hop
  rw [List.take_left, List.drop_left] at hcopy
  exact hcopy

lemma matchNext_eq (hpos : 0 < l.length) (hfew : l.length < 4) (hop : out.length + l.length ≤ cap)
    (hcap : cap < w.size) (hrest : 2 ≤ rest.length) (hw : l.length + rest.length + 1 < w.size) :
    matchNext w cap l.length ⟨behind, l ++ c :: rest, out⟩ =
      .ok (.matchTop c.toNat, ⟨c :: (l.reverse ++ behind), rest, l.reverse ++ out⟩) := by
  have hlength : (l ++ c :: rest).length = l.length + rest.length + 1 := by
    rw [List.length_append, List.length_cons]
    omega
  have hip : Machine.needIp w ⟨behind, l ++ c :: rest, out⟩ (l.length + 3) = .ok () := by
    refine needIp_eq ?_ ?_
    · change l.length + 3 ≤ (l ++ c :: rest).length
      omega
    · change (l ++ c :: rest).length < w.size
      omega
  have hroom : Machine.needOp w cap ⟨behind, l ++ c :: rest, out⟩ l.length = .ok () :=
    needOp_eq hop hcap
  unfold matchNext
  rw [assertPos_eq hpos, ok_bind, if_neg (by omega), hroom, ok_bind, hip, ok_bind,
    copyLiterals_append hop, ok_bind, get_cons, ok_bind]
  rfl

lemma literals_eq (hop : out.length + l.length ≤ cap) (hcap : cap < w.size) (hrest : 3 ≤ rest.length)
    (hw : l.length + rest.length < w.size) : literals w cap l.length ⟨behind, l ++ rest, out⟩ =
      .ok (.firstLiteralRun, ⟨l.reverse ++ behind, rest, l.reverse ++ out⟩) := by
  have hip : Machine.needIp w ⟨behind, l ++ rest, out⟩ (l.length + 3) = .ok () := by
    refine needIp_eq ?_ ?_
    · change l.length + 3 ≤ (l ++ rest).length
      rw [List.length_append]
      omega
    · change (l ++ rest).length < w.size
      rwa [List.length_append]
  have hroom : Machine.needOp w cap ⟨behind, l ++ rest, out⟩ l.length = .ok () := needOp_eq hop hcap
  unfold literals
  rw [hroom, ok_bind, hip, ok_bind, copyLiterals_append hop]
  rfl

/-- A run whose length was read. -/
lemma literalRun_eq {hd : Bytes} (hlong : 4 ≤ l.length) (hc : c.toNat < 16)
    (hread : literalLength w c ⟨c :: behind, hd ++ (l ++ rest), out⟩ =
      .ok (l.length - 3, ⟨hd.reverse ++ c :: behind, l ++ rest, out⟩))
    (hop : out.length + l.length ≤ cap) (hcap : cap < w.size) (hrest : 3 ≤ rest.length)
    (hw : hd.length + 1 + l.length + rest.length < w.size) :
    literalRun w cap ⟨behind, c :: hd ++ (l ++ rest), out⟩ =
      .ok (.firstLiteralRun, ⟨l.reverse ++ (hd.reverse ++ c :: behind), rest, l.reverse ++ out⟩) := by
  have hlength : (c :: hd ++ (l ++ rest)).length = hd.length + 1 + l.length + rest.length := by
    simp only [List.length_append, List.length_cons]
    omega
  have hip : Machine.needIp w ⟨behind, c :: hd ++ (l ++ rest), out⟩ 3 = .ok () := by
    refine needIp_eq ?_ ?_
    · change 3 ≤ (c :: hd ++ (l ++ rest)).length
      omega
    · change (c :: hd ++ (l ++ rest)).length < w.size
      omega
  have hthree : l.length - 3 + 3 = l.length := by omega
  unfold literalRun
  rw [hip, ok_bind, List.cons_append, get_cons, ok_bind]
  simp only [if_neg (show ¬ c.toNat ≥ 16 by omega), hread, ok_bind,
    assertPos_eq (show 0 < l.length - 3 by omega), hthree]
  exact literals_eq hop hcap hrest (by omega)

/-- A run of four literals at least has its length before it. -/
lemma literalHeader_spec (hlong : 4 ≤ l.length) (hl : l.length ≤ cap) (hcap : cap + 511 ≤ w.size) :
    ∃ c hd, (∀ op, literalHeader l.length op = some ((c :: hd).reverse ++ op)) ∧ c.toNat ≤ 17 ∧
      ∀ behind rest out, out.length + l.length ≤ cap → 3 ≤ rest.length →
        hd.length + 1 + l.length + rest.length < w.size →
          literalRun w cap ⟨behind, c :: hd ++ (l ++ rest), out⟩ =
            .ok (.firstLiteralRun, ⟨l.reverse ++ (hd.reverse ++ c :: behind), rest,
              l.reverse ++ out⟩) := by
  by_cases hshort : l.length ≤ 18
  · have hbyte : (byte (l.length - 3)).toNat = l.length - 3 := toNat_byte (by omega)
    have hne : byte (l.length - 3) ≠ 0 := fun h => by
      rw [h] at hbyte
      change 0 = l.length - 3 at hbyte
      omega
    refine ⟨byte (l.length - 3), [], fun op => ?_, by omega, fun behind rest out hop hrest hw => ?_⟩
    · rw [literalHeader, if_neg (by omega), if_pos hshort]
      rfl
    · refine literalRun_eq hlong (by omega) ?_ hop (by omega) hrest hw
      rw [literalLength, if_neg hne, hbyte]
      rfl
  · refine ⟨0, lengthBytes (l.length - 18), fun op => ?_, by decide,
      fun behind rest out hop hrest hw => ?_⟩
    · rw [literalHeader, if_neg (by omega), if_neg hshort]
    · have hread := longLength_eq (0 :: behind) (l ++ rest) out .inputOverrun (w := w)
        (t := l.length - 18) (by omega) (show 15 ≤ 31 by decide) (by omega)
        (by rw [List.length_append]; omega)
      have hvalue : 15 + (l.length - 18) = l.length - 3 := by omega
      rw [hvalue] at hread
      refine literalRun_eq hlong (by decide) ?_ hop (by omega) hrest hw
      rw [literalLength, if_pos rfl]
      exact hread

/-! ### What was written -/

/-- What was written stands for the first `k` bytes of the input: behind it the decompressor is done
with a match, and takes the number of the next literals from the byte before the last one. -/
def Written (w : LzoUint) (cap : ℕ) (x : Bytes) (k : ℕ) (op : Bytes) : Prop :=
  op = [] ∧ k = 0 ∨ ∃ b a before, op = b :: a :: before ∧ a.toNat % 4 = 0 ∧
    ∀ s < 4, ∀ rest, 0 < rest.length → op.length + rest.length < w.size →
      Reaches w cap ((b :: byte (a.toNat ||| s) :: before).reverse ++ rest) .matchDone
        ⟨b :: byte (a.toNat ||| s) :: before, rest, (x.take k).reverse⟩

lemma orBits_zero (a : UInt8) : byte (a.toNat ||| 0) = a := by
  rw [Nat.or_zero, byte_toNat]

variable (rest) in
/-- Where no literals were announced, the decompressor goes on to the next run or match. -/
lemma reaches_loop (h : Written w cap x k op) (hc : op = [] → c.toNat ≤ 17)
    (hw : op.length + rest.length + 1 < w.size) :
    Reaches w cap (op.reverse ++ c :: rest) .loop ⟨op, c :: rest, (x.take k).reverse⟩ := by
  rcases h with ⟨rfl, rfl⟩ | ⟨b, a, before, rfl, ha, hreach⟩
  · refine Reaches.next .refl ?_
    change start w cap ⟨[], c :: rest, []⟩ = _
    have hip : Machine.needIp w ⟨[], c :: rest, []⟩ 1 = .ok () :=
      needIp_eq (Nat.succ_le_succ (Nat.zero_le _)) (by change rest.length + 1 < w.size; omega)
    unfold start
    rw [hip, ok_bind, get_cons, ok_bind]
    exact if_neg (not_lt.2 (hc rfl))
  · have hdone := hreach 0 (by decide) (c :: rest) (Nat.succ_pos _) hw
    rw [orBits_zero] at hdone
    refine hdone.next ?_
    have hloop : matchDone ⟨b :: byte (a.toNat ||| 0) :: before, c :: rest, (x.take k).reverse⟩ = _ :=
      matchDone_eq ha (by decide)
    rw [orBits_zero, if_pos rfl] at hloop
    exact hloop

lemma readAt_spec (h : readAt x k t = some l) : l.length = t ∧ x.take (k + t) = x.take k ++ l := by
  refine ⟨length_readAt h, ?_⟩
  unfold readAt at h
  split_ifs at h
  cases h
  exact List.take_add

variable (rest) in
/-- **After the literals** the next match is begun, with the header that was written for them. -/
lemma reaches_run {op'' : Bytes} (h : Written w cap x k op) (ht : 0 < t) (hfirst : op = [] → 4 ≤ t)
    (hheader : literalHeader t op = some op'') (hl : readAt x k t = some l) (hx : k + t ≤ cap)
    (hcap : cap + 511 ≤ w.size) (hc : 16 ≤ c.toNat) (hrest : 2 ≤ rest.length)
    (hw : (l.reverse ++ op'').length + rest.length + 1 < w.size) :
    Reaches w cap ((l.reverse ++ op'').reverse ++ c :: rest) (.matchTop c.toNat)
      ⟨c :: (l.reverse ++ op''), rest, (x.take (k + t)).reverse⟩ := by
  obtain ⟨rfl, htake⟩ := readAt_spec hl
  have hout : (x.take k).reverse.length ≤ k := by
    rw [List.length_reverse]
    exact List.length_take_le k x
  have hroom : (x.take k).reverse.length + l.length ≤ cap := by omega
  rw [htake, List.reverse_append]
  rw [List.length_append, List.length_reverse] at hw
  by_cases hfew : l.length ≤ 3
  · rcases h with ⟨rfl, rfl⟩ | ⟨b, a, before, rfl, ha, hreach⟩
    · exact absurd (hfirst rfl) (by omega)
    rw [literalHeader, if_pos hfew] at hheader
    cases hheader
    have hlength : (l ++ c :: rest).length = l.length + rest.length + 1 := by
      rw [List.length_append, List.length_cons]
      omega
    simp only [List.length_cons] at hw
    have hdone := hreach l.length (by omega) (l ++ c :: rest) (by omega) (by
      simp only [List.length_cons]
      omega)
    rw [List.reverse_append, List.reverse_reverse, List.append_assoc]
    refine (hdone.next (matchDone_eq ha (by omega))).next ?_
    rw [if_neg ht.ne']
    exact matchNext_eq ht (by omega) hroom (by omega) hrest (by omega)
  · obtain ⟨c', hd, hhd, hsmall, hread⟩ :=
      literalHeader_spec (w := w) (l := l) (by omega) (by omega) hcap
    cases Option.some_inj.1 ((hhd op).symm.trans hheader)
    simp only [List.length_append, List.length_reverse, List.length_cons] at hw
    have hloop := reaches_loop (hd ++ (l ++ c :: rest)) h (fun _ => hsmall) (by
      simp only [List.length_append, List.length_cons]
      omega)
    have hliterals := hloop.next (hread op (c :: rest) _ hroom (Nat.succ_le_succ hrest) (by
      rw [List.length_cons]
      omega))
    have hmatch := hliterals.next (firstLiteralRun_match hc)
    simpa only [List.reverse_append, List.reverse_reverse, List.append_assoc, List.reverse_cons,
      List.cons_append, List.nil_append] using hmatch

variable (rest) in
/-- The next match is begun, whether there are literals before it or not. -/
lemma reaches_match (h : Written w cap x k op) (hfirst : op = [] → 4 ≤ t)
    (hop : emitLiterals literalHeader x k t op = some op') (hx : k + t ≤ cap)
    (hcap : cap + 511 ≤ w.size) (hc : 16 ≤ c.toNat) (hrest : 2 ≤ rest.length)
    (hw : op'.length + rest.length + 1 < w.size) :
    Reaches w cap (op'.reverse ++ c :: rest) (.matchTop c.toNat)
      ⟨c :: op', rest, (x.take (k + t)).reverse⟩ := by
  unfold emitLiterals at hop
  split_ifs at hop with hnone
  · cases hop
    subst hnone
    have hloop := reaches_loop rest (c := c) h (fun hnil => absurd (hfirst hnil) (by decide)) hw
    exact hloop.next (literalRun_match hc hrest (by omega))
  · obtain ⟨op'', hheader, hop⟩ := Option.bind_eq_some_iff.1 hop
    obtain ⟨l, hl, hop⟩ := Option.bind_eq_some_iff.1 hop
    cases hop
    exact reaches_run rest h (Nat.pos_of_ne_zero hnone) hfirst hheader hl hx hcap hc hrest hw

/-- A match may be added. -/
lemma extends_written (hcap : x.length ≤ cap) (hw : cap + 511 ≤ w.size) :
    Extends x (Written w cap x) := by
  intro k t n off op op' h hfirst hn hfar hrep hop
  obtain ⟨front, a, b, htoken, ha, hdecodes⟩ := matchToken_spec hn hfar hcap hw hrep
  have hbound := hrep.bound
  rw [htoken]
  refine Or.inr ⟨b, a, front.reverse ++ op', by simp, ha, fun s hs rest hrest hlength => ?_⟩
  obtain ⟨c, tail, hc, hsixteen, hread⟩ := hdecodes s hs
  have htail : front.length + 2 = tail.length + 1 := by
    have hlen := congrArg List.length hc
    rwa [List.length_append] at hlen
  have hreversed : (front ++ [a, b]).reverse ++ op' = b :: a :: (front.reverse ++ op') := by
    rw [List.reverse_append]
    rfl
  have hinput : (b :: byte (a.toNat ||| s) :: (front.reverse ++ op')).reverse ++ rest =
      op'.reverse ++ c :: (tail ++ rest) := by
    have htoken' : front ++ [byte (a.toNat ||| s), b] ++ rest = c :: (tail ++ rest) := by
      rw [hc, List.cons_append]
    rw [← htoken']
    simp only [List.reverse_cons, List.reverse_append, List.reverse_reverse, List.append_assoc,
      List.cons_append, List.nil_append]
  have hbehind : (front ++ [byte (a.toNat ||| s), b]).reverse ++ op' =
      b :: byte (a.toNat ||| s) :: (front.reverse ++ op') := by
    rw [List.reverse_append]
    rfl
  simp only [hreversed, List.length_cons, List.length_append, List.length_reverse] at hlength
  have hmatch := reaches_match (tail ++ rest) h hfirst hop (by omega) hw hsixteen
    (by rw [List.length_append]; omega) (by rw [List.length_append]; omega)
  have hdone := hmatch.next (hread op' rest hrest (by
    simp only [List.length_append, List.length_cons, List.length_nil]
    omega))
  rw [hbehind] at hdone
  rw [hinput]
  exact hdone

variable (w cap) in
/-- The marker of the end. -/
lemma matchTop_end : matchTop w cap 17 ⟨behind, [0, 0], out⟩ = .error ⟨.ok, out.reverse⟩ := rfl

variable (cap) (rest) in
/-- Where nothing was written before, a short run is announced by its first byte. -/
lemma reaches_first (hpos : 0 < l.length) (hshort : l.length ≤ 238) (hl : l.length ≤ cap)
    (hcap : cap + 511 ≤ w.size) (hc : 16 ≤ c.toNat) (hrest : 2 ≤ rest.length)
    (hw : l.length + rest.length + 2 < w.size) :
    Reaches w cap (byte (17 + l.length) :: (l ++ c :: rest)) (.matchTop c.toNat)
      ⟨c :: (l.reverse ++ [byte (17 + l.length)]), rest, l.reverse⟩ := by
  have hbyte : (byte (17 + l.length)).toNat = 17 + l.length := toNat_byte (by omega)
  have hlength : (l ++ c :: rest).length = l.length + rest.length + 1 := by
    rw [List.length_append, List.length_cons]
    omega
  have hip : Machine.needIp w ⟨[], byte (17 + l.length) :: (l ++ c :: rest), []⟩ 1 = .ok () := by
    refine needIp_eq (Nat.succ_le_succ (Nat.zero_le _)) ?_
    change (l ++ c :: rest).length + 1 < w.size
    omega
  have hout : l.reverse ++ [] = l.reverse := List.append_nil _
  have hroom : ([] : Bytes).length + l.length ≤ cap := by
    rw [List.length_nil]
    omega
  have hvalue : 17 + l.length - 17 = l.length := by omega
  by_cases hfew : l.length < 4
  · have hstart : start w cap ⟨[], byte (17 + l.length) :: (l ++ c :: rest), []⟩ =
        .ok (.matchNext l.length, ⟨[byte (17 + l.length)], l ++ c :: rest, []⟩) := by
      unfold start
      rw [hip, ok_bind, get_cons, ok_bind]
      simp only [hbyte, hvalue]
      rw [if_pos (by omega), if_pos hfew]
    have hnext : matchNext w cap l.length ⟨[byte (17 + l.length)], l ++ c :: rest, []⟩ = _ :=
      matchNext_eq hpos hfew hroom (by omega) hrest (by omega)
    rw [hout] at hnext
    exact Reaches.next (Reaches.next .refl hstart) hnext
  · have hread : literals w cap l.length ⟨[byte (17 + l.length)], l ++ c :: rest, []⟩ = _ :=
      literals_eq hroom (by omega) (Nat.succ_le_succ hrest) (by rw [List.length_cons]; omega)
    have hstart : start w cap ⟨[], byte (17 + l.length) :: (l ++ c :: rest), []⟩ =
        .ok (.firstLiteralRun, ⟨l.reverse ++ [byte (17 + l.length)], c :: rest, l.reverse⟩) := by
      unfold start
      rw [hip, ok_bind, get_cons, ok_bind]
      simp only [hbyte, hvalue]
      rw [if_pos (by omega), if_neg hfew, assertPos_eq hpos, ok_bind, hread, hout]
    exact Reaches.next (Reaches.next .refl hstart) (firstLiteralRun_match hc)

/-- **At the end** the decompressor has the whole input. -/
lemma decompress_finish (h : Written w cap x k op) (hk : k ≤ x.length) (hcap : x.length ≤ cap)
    (hw : cap + 511 ≤ w.size) (hz : finish x (x.length - k) op = some z) (hsize : z.length < w.size) :
    lzo1x_decompress_safe w cap z = ⟨.ok, x⟩ := by
  obtain ⟨op', hop, hz⟩ := Option.bind_eq_some_iff.1 hz
  cases hz
  have hsize' : op'.length + 3 < w.size := by
    rwa [List.length_append, List.length_reverse] at hsize
  have hback : x.length - (x.length - k) = k := by omega
  rw [hback] at hop
  have hall : x.take (k + (x.length - k)) = x := List.take_of_length_le (by omega)
  suffices hreach : Reaches w cap (op'.reverse ++ 17 :: [0, 0]) (.matchTop 17)
      ⟨17 :: op', [0, 0], x.reverse⟩ by
    have hlast := decompress_of_reaches hreach (matchTop_end w cap)
    rwa [List.reverse_reverse] at hlast
  unfold emitLiterals at hop
  split_ifs at hop with hnone
  · cases hop
    rw [hnone, Nat.add_zero] at hall
    have hloop := reaches_loop [0, 0] (c := 17) h (fun _ => by decide) hsize'
    rw [hall] at hloop
    exact hloop.next (literalRun_match (by decide) le_rfl (by change 3 < w.size; omega))
  obtain ⟨op'', hheader, hop⟩ := Option.bind_eq_some_iff.1 hop
  obtain ⟨l, hl, hop⟩ := Option.bind_eq_some_iff.1 hop
  cases hop
  unfold lastHeader at hheader
  split_ifs at hheader with hshort
  · cases hheader
    obtain ⟨hnil, hfew⟩ := hshort
    obtain ⟨hlength, htake⟩ := readAt_spec hl
    rcases h with ⟨-, rfl⟩ | ⟨b, a, before, hop, -, -⟩
    · have hx : x = l := hall.symm.trans htake
      have hfirst := reaches_first (w := w) cap [0, 0] (c := 17)
        (show 0 < l.length by omega) (by omega) (by omega) hw (by decide) le_rfl (by
          rw [List.length_append, List.length_reverse] at hsize'
          change l.length + 1 + 3 < w.size at hsize'
          change l.length + 2 + 2 < w.size
          omega)
      rw [hlength, ← hx] at hfirst
      rw [← hx, List.reverse_append, List.reverse_reverse]
      exact hfirst
    · exact absurd (hop.symm.trans hnil) (List.cons_ne_nil _ _)
  · have hlast := reaches_run [0, 0] (c := 17) h (Nat.pos_of_ne_zero hnone)
      (fun hnil => by
        by_contra hfew
        exact hshort ⟨hnil, by omega⟩) hheader hl (by omega) hw (by decide) le_rfl hsize'
    rw [hall] at hlast
    exact hlast

/-- **What is compressed is decompressed to what it was**, by each of the compressors that keep
offsets in their dictionary, if it fits into the buffer for the output. -/
theorem decompress_compress (w : LzoUint) (addr dBits cap : ℕ) (x : Bytes) (hcap : x.length ≤ cap)
    (hw : 2 * cap ≤ w.size) :
    ∃ z, compress w addr dBits x = some z ∧ lzo1x_decompress_safe w cap z = ⟨.ok, x⟩ := by
  have hlarge := w.size_large
  obtain ⟨k, op, hcompress, hwritten, hshaped, hk⟩ :=
    compress_rule dBits w addr (extends_written (w := w) hcap (by omega)) (Or.inl ⟨rfl, rfl⟩)
  obtain ⟨z, hz, hlength⟩ := compress_length dBits w addr x
  refine ⟨z, hz, decompress_finish hwritten hk hcap (by omega) (hcompress.symm.trans hz) (by omega)⟩

/-- Three bytes on a machine of 64 bits. -/
theorem decompress_compress_literals :
    ∃ z, lzo1x_1_15_compress ⟨64, by decide⟩ 4096 [1, 2, 3] = some z ∧
      lzo1x_decompress_safe ⟨64, by decide⟩ 3 z = ⟨.ok, [1, 2, 3]⟩ :=
  decompress_compress ⟨64, by decide⟩ 4096 13 3 [1, 2, 3] (by decide) (by decide)

end BuludTechVPN.Lzo
