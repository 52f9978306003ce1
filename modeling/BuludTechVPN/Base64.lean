import BuludTechVPN.ByteBuffer
import BuludTechVPN.JavaLang

/-!
`Base64Encoder`: bytes as a text of 64 characters, and back.

The decoder skips white space, but not everywhere: the four characters before the trailing white
space are taken as the last block as they stand.
-/

namespace BuludTechVPN.Base64

open JavaLang ByteBuffer

/-! ### Encoding -/

def encodingTable : Text :=
  "ABCDEFGHIJKLMNOPQRSTUVWXYZabcdefghijklmnopqrstuvwxyz0123456789+/".toList

def padding : Char := '='

/-- `encodingTable[i & 0x3f]`. -/
def symbol (i : ℕ) : Char := encodingTable.getD (i &&& 0x3f) padding

/-- The characters for three bytes. -/
def block (a1 a2 a3 : UInt8) : Text :=
  [symbol (a1.toNat >>> 2), symbol (a1.toNat <<< 4 ||| a2.toNat >>> 4),
    symbol (a2.toNat <<< 2 ||| a3.toNat >>> 6), symbol a3.toNat]

/-- The loop over the blocks, and the tail end after it. -/
def encode : Bytes → Text
  | a1 :: a2 :: a3 :: data => block a1 a2 a3 ++ encode data
  | [d1, d2] =>
    [symbol (d1.toNat >>> 2), symbol (d1.toNat <<< 4 ||| d2.toNat >>> 4), symbol (d2.toNat <<< 2),
      padding]
  | [d1] => [symbol (d1.toNat >>> 2), symbol (d1.toNat <<< 4), padding, padding]
  | [] => []

/-! ### Decoding -/

/-- The characters of a text as Java counts them. -/
def units (t : Text) : List ℕ :=
  t.flatMap fun c =>
    if c.toNat < 0x10000 then [c.toNat]
    else [0xD800 + (c.toNat - 0x10000) / 0x400, 0xDC00 + (c.toNat - 0x10000) % 0x400]

/-- The entry of a table of 128 bytes, of which those of the 64 characters are set. -/
def decodingTable (c : ℕ) : Call ℕ :=
  if c < 128 then
    .ok (if Char.ofNat c ∈ encodingTable then encodingTable.idxOf (Char.ofNat c) else 0)
  else .error .arrayIndexOutOfBounds

def ignore (c : ℕ) : Bool := c = 10 || c = 13 || c = 9 || c = 32

/-- `out.write`, which takes the low eight bits. -/
def write (b : ℕ) : UInt8 := UInt8.ofNat b

variable (data : List ℕ) (finish : ℕ)

/-- The value of the character at an index. -/
def valueAt (i : ℕ) : Call ℕ :=
  match data[i]? with
  | some c => decodingTable c
  | none => .error .stringIndexOutOfBounds

/-- What follows the white space at `i`, `finish` at the most. -/
def nextI (i : ℕ) : ℕ := i + (((data.take finish).drop i).takeWhile ignore).length

lemma le_nextI (i : ℕ) : i ≤ nextI data finish i := Nat.le_add_right _ _

/-- The loop over the blocks before the last one. The last characters of a block may stand behind
`finish`. -/
def decodeBlocks (i : ℕ) : Call Bytes :=
  if _h : i < finish then do
    let i2 := nextI data finish (i + 1)
    let i3 := nextI data finish (i2 + 1)
    let i4 := nextI data finish (i3 + 1)
    let b1 ← valueAt data i
    let b2 ← valueAt data i2
    let b3 ← valueAt data i3
    let b4 ← valueAt data i4
    let more ← decodeBlocks (nextI data finish (i4 + 1))
    return write (b1 <<< 2 ||| b2 >>> 4) :: write (b2 <<< 4 ||| b3 >>> 2) ::
      write (b3 <<< 6 ||| b4) :: more
  else .ok []
  termination_by finish - i
  decreasing_by
    have h1 := le_nextI data finish (i + 1)
    have h2 := le_nextI data finish (nextI data finish (i + 1) + 1)
    have h3 := le_nextI data finish (nextI data finish (nextI data finish (i + 1) + 1) + 1)
    have h4 := le_nextI data finish
      (nextI data finish (nextI data finish (nextI data finish (i + 1) + 1) + 1) + 1)
    omega

def decodeLastBlock (c1 c2 c3 c4 : ℕ) : Call Bytes := do
  if c3 = padding.toNat then
    let b1 ← decodingTable c1
    let b2 ← decodingTable c2
    return [write (b1 <<< 2 ||| b2 >>> 4)]
  else if c4 = padding.toNat then
    let b1 ← decodingTable c1
    let b2 ← decodingTable c2
    let b3 ← decodingTable c3
    return [write (b1 <<< 2 ||| b2 >>> 4), write (b2 <<< 4 ||| b3 >>> 2)]
  else
    let b1 ← decodingTable c1
    let b2 ← decodingTable c2
    let b3 ← decodingTable c3
    let b4 ← decodingTable c4
    return [write (b1 <<< 2 ||| b2 >>> 4), write (b2 <<< 4 ||| b3 >>> 2), write (b3 <<< 6 ||| b4)]

def decode : Call Bytes :=
  let data := data.rdropWhile ignore
  let finish := data.length - 4
  match data.drop finish with
  | [c1, c2, c3, c4] => do
    let first ← decodeBlocks data finish (nextI data finish 0)
    let last ← decodeLastBlock c1 c2 c3 c4
    return first ++ last
  | _ => .error .stringIndexOutOfBounds

/-! ### Bits -/

variable {data} {finish}

lemma or_low {a b n : ℕ} (h : b < 2 ^ n) : a <<< n ||| b = a * 2 ^ n + b := by
  rw [← Nat.shiftLeft_add_eq_or_of_lt h, Nat.shiftLeft_eq]

lemma and_low (a : ℕ) : a &&& 0x3f = a % 64 := Nat.and_two_pow_sub_one_eq_mod a 6

lemma write_eq {a : ℕ} {b : UInt8} (h : a % 256 = b.toNat) : write a = b := by
  apply UInt8.toNat_inj.1
  rw [write, UInt8.toNat_ofNat']
  exact h

lemma symbol_low (i : ℕ) : ∃ k < 64, k = i % 64 ∧ symbol i = encodingTable.getD k padding :=
  ⟨i % 64, Nat.mod_lt _ (by decide), rfl, by rw [symbol, and_low]⟩

/-- A character of the table is found again. -/
lemma decodingTable_symbol (i : ℕ) : decodingTable (symbol i).toNat = .ok (i % 64) := by
  have hall : ∀ k < 64, decodingTable (encodingTable.getD k padding).toNat = .ok k := by decide +kernel
  obtain ⟨k, hk, rfl, hs⟩ := symbol_low i
  rw [hs, hall _ hk]

lemma symbol_plain (i : ℕ) : ignore (symbol i).toNat = false ∧ (symbol i).toNat < 128 ∧
    (symbol i).toNat ≠ padding.toNat := by
  have hall : ∀ k < 64, ignore (encodingTable.getD k padding).toNat = false ∧
      (encodingTable.getD k padding).toNat < 128 ∧
        (encodingTable.getD k padding).toNat ≠ padding.toNat := by decide +kernel
  obtain ⟨k, hk, -, hs⟩ := symbol_low i
  rw [hs]
  exact hall k hk

section Bits

variable {x y z : ℕ}

lemma first_byte (hx : x < 256) (hy : y < 256) :
    ((x >>> 2) % 64) <<< 2 ||| ((x <<< 4 ||| y >>> 4) % 64) >>> 4 = x := by
  have hy4 : y >>> 4 < 2 ^ 4 := by
    rw [Nat.shiftRight_eq_div_pow]
    omega
  rw [or_low hy4]
  have hlow : ((x * 2 ^ 4 + y >>> 4) % 64) >>> 4 < 2 ^ 2 := by
    rw [Nat.shiftRight_eq_div_pow]
    omega
  rw [or_low hlow]
  simp only [Nat.shiftRight_eq_div_pow]
  omega

lemma second_byte (hy : y < 256) (hz : z < 256) :
    (((x <<< 4 ||| y >>> 4) % 64) <<< 4 ||| ((y <<< 2 ||| z >>> 6) % 64) >>> 2) % 256 = y := by
  have hy4 : y >>> 4 < 2 ^ 4 := by
    rw [Nat.shiftRight_eq_div_pow]
    omega
  have hz6 : z >>> 6 < 2 ^ 2 := by
    rw [Nat.shiftRight_eq_div_pow]
    omega
  rw [or_low hy4, or_low hz6]
  have hlow : ((y * 2 ^ 2 + z >>> 6) % 64) >>> 2 < 2 ^ 4 := by
    rw [Nat.shiftRight_eq_div_pow]
    omega
  rw [or_low hlow]
  simp only [Nat.shiftRight_eq_div_pow]
  omega

lemma third_byte (hz : z < 256) :
    (((y <<< 2 ||| z >>> 6) % 64) <<< 6 ||| z % 64) % 256 = z := by
  have hz6 : z >>> 6 < 2 ^ 2 := by
    rw [Nat.shiftRight_eq_div_pow]
    omega
  have hz4 : z % 64 < 2 ^ 6 := Nat.mod_lt z (by decide)
  rw [or_low hz6, or_low hz4]
  simp only [Nat.shiftRight_eq_div_pow]
  omega

end Bits

lemma toNat_lt (a : UInt8) : a.toNat < 256 := a.toNat_lt

/-- **A block is read back**, whichever of its bytes are wanted. -/
lemma block_bytes (a1 a2 a3 : UInt8) :
    write (((a1.toNat >>> 2) % 64) <<< 2 ||| ((a1.toNat <<< 4 ||| a2.toNat >>> 4) % 64) >>> 4) = a1 ∧
    write (((a1.toNat <<< 4 ||| a2.toNat >>> 4) % 64) <<< 4 |||
      ((a2.toNat <<< 2 ||| a3.toNat >>> 6) % 64) >>> 2) = a2 ∧
    write (((a2.toNat <<< 2 ||| a3.toNat >>> 6) % 64) <<< 6 ||| a3.toNat % 64) = a3 := by
  refine ⟨write_eq ?_, write_eq (second_byte (toNat_lt a2) (toNat_lt a3)),
    write_eq (third_byte (toNat_lt a3))⟩
  rw [first_byte (toNat_lt a1) (toNat_lt a2), Nat.mod_eq_of_lt (toNat_lt a1)]

/-! ### White space -/

/-- White space is skipped up to the next character before `finish`, which is looked up. -/
lemma nextI_skip {pre ws post : List ℕ} {c i : ℕ} (hdata : data = pre ++ (ws ++ c :: post))
    (hi : i = pre.length) (hws : ∀ d ∈ ws, ignore d = true) (hc : ignore c = false)
    (hfinish : (pre ++ ws).length < finish) :
    nextI data finish i = (pre ++ ws).length ∧
      valueAt data (pre ++ ws).length = decodingTable c := by
  subst hdata hi
  rw [List.length_append] at hfinish ⊢
  constructor
  · obtain ⟨n, rfl⟩ : ∃ n, finish = pre.length + (ws.length + (n + 1)) :=
      ⟨finish - pre.length - ws.length - 1, by omega⟩
    unfold nextI
    rw [List.take_length_add_append, List.drop_left, List.take_length_add_append,
      List.take_succ_cons, List.takeWhile_append_of_pos hws, List.takeWhile_cons,
      if_neg (by simp [hc]), List.append_nil]
  · unfold valueAt
    rw [List.getElem?_append_right (by omega), List.getElem?_append_right (by omega)]
    simp

/-- White space up to `finish`. -/
lemma nextI_blank {pre ws post : List ℕ} (hws : ∀ d ∈ ws, ignore d = true) :
    nextI (pre ++ (ws ++ post)) (pre ++ ws).length pre.length = (pre ++ ws).length := by
  unfold nextI
  rw [List.length_append, List.take_length_add_append, List.drop_left, List.take_left,
    List.takeWhile_eq_self_iff.2 hws]

/-- Three bytes. -/
structure Group where
  a1 : UInt8
  a2 : UInt8
  a3 : UInt8

def Group.bytes (g : Group) : Bytes := [g.a1, g.a2, g.a3]
def Group.codes (g : Group) : List ℕ := (block g.a1 g.a2 g.a3).map Char.toNat

/-- **The loop reads blocks** between which, and in which, there may be white space. -/
lemma decodeBlocks_spaced (gs : List Group) (pre : List ℕ) {body last : List ℕ}
    (hbody : body.filter (fun c => !ignore c) = gs.flatMap Group.codes) :
    decodeBlocks (pre ++ (body ++ last)) (pre ++ body).length
      (nextI (pre ++ (body ++ last)) (pre ++ body).length pre.length) =
        .ok (gs.flatMap Group.bytes) := by
  induction gs generalizing pre body with
  | nil =>
    have hblank : ∀ d ∈ body, ignore d = true := fun d hd => by
      simpa using List.filter_eq_nil_iff.1 hbody d hd
    rw [nextI_blank hblank, decodeBlocks, dif_neg (lt_irrefl _)]
    rfl
  | cons g gs ih =>
    obtain ⟨w1, r1, rfl, h1, hc1, hr1⟩ := List.filter_eq_cons_iff.1 hbody
    obtain ⟨w2, r2, rfl, h2, hc2, hr2⟩ := List.filter_eq_cons_iff.1 hr1
    obtain ⟨w3, r3, rfl, h3, hc3, hr3⟩ := List.filter_eq_cons_iff.1 hr2
    obtain ⟨w4, r4, rfl, h4, hc4, hr4⟩ := List.filter_eq_cons_iff.1 hr3
    simp only [Bool.not_eq_eq_eq_not, Bool.not_true, Bool.not_eq_false] at h1 h2 h3 h4 hc1 hc2 hc3 hc4
    obtain ⟨v1, v2, v3⟩ := block_bytes g.a1 g.a2 g.a3
    have t1 := decodingTable_symbol (g.a1.toNat >>> 2)
    have t2 := decodingTable_symbol (g.a1.toNat <<< 4 ||| g.a2.toNat >>> 4)
    have t3 := decodingTable_symbol (g.a2.toNat <<< 2 ||| g.a3.toNat >>> 6)
    have t4 := decodingTable_symbol g.a3.toNat
    generalize (symbol (g.a1.toNat >>> 2)).toNat = c1 at *
    generalize (symbol (g.a1.toNat <<< 4 ||| g.a2.toNat >>> 4)).toNat = c2 at *
    generalize (symbol (g.a2.toNat <<< 2 ||| g.a3.toNat >>> 6)).toNat = c3 at *
    generalize (symbol g.a3.toNat).toNat = c4 at *
    have hnext (l : List ℕ) (c : ℕ) : l.length + 1 = (l ++ [c]).length := by simp
    -- the data, as it is left of each of the characters
    let p2 := pre ++ w1 ++ [c1]
    let p3 := p2 ++ w2 ++ [c2]
    let p4 := p3 ++ w3 ++ [c3]
    let p5 := p4 ++ w4 ++ [c4]
    generalize hdata : pre ++ ((w1 ++ c1 :: (w2 ++ c2 :: (w3 ++ c3 :: (w4 ++ c4 :: r4)))) ++ last) =
      data
    generalize hfinish : (pre ++ (w1 ++ c1 :: (w2 ++ c2 :: (w3 ++ c3 :: (w4 ++ c4 :: r4))))).length =
      finish
    simp only [List.length_append, List.length_cons] at hfinish
    have hd1 : data = pre ++ (w1 ++ c1 :: (w2 ++ c2 :: (w3 ++ c3 :: (w4 ++ c4 :: (r4 ++ last))))) := by
      rw [← hdata]
      simp
    have hd2 : data = p2 ++ (w2 ++ c2 :: (w3 ++ c3 :: (w4 ++ c4 :: (r4 ++ last)))) := by
      rw [hd1]
      simp [p2]
    have hd3 : data = p3 ++ (w3 ++ c3 :: (w4 ++ c4 :: (r4 ++ last))) := by
      rw [hd2]
      simp [p3]
    have hd4 : data = p4 ++ (w4 ++ c4 :: (r4 ++ last)) := by
      rw [hd3]
      simp [p4]
    have hdata5 : p5 ++ (r4 ++ last) = data := by
      rw [hd4]
      simp [p5]
    have e1 : nextI data finish pre.length = (pre ++ w1).length ∧
        valueAt data (pre ++ w1).length = decodingTable c1 :=
      nextI_skip hd1 rfl h1 hc1 (by simp only [List.length_append]; omega)
    have e2 : nextI data finish ((pre ++ w1).length + 1) = (p2 ++ w2).length ∧
        valueAt data (p2 ++ w2).length = decodingTable c2 :=
      nextI_skip hd2 (hnext _ _) h2 hc2 (by simp [p2]; omega)
    have e3 : nextI data finish ((p2 ++ w2).length + 1) = (p3 ++ w3).length ∧
        valueAt data (p3 ++ w3).length = decodingTable c3 :=
      nextI_skip hd3 (hnext _ _) h3 hc3 (by simp [p3, p2]; omega)
    have e4 : nextI data finish ((p3 ++ w3).length + 1) = (p4 ++ w4).length ∧
        valueAt data (p4 ++ w4).length = decodingTable c4 :=
      nextI_skip hd4 (hnext _ _) h4 hc4 (by simp [p4, p3, p2]; omega)
    have hrest : decodeBlocks (p5 ++ (r4 ++ last)) (p5 ++ r4).length
        (nextI (p5 ++ (r4 ++ last)) (p5 ++ r4).length p5.length) = .ok (gs.flatMap Group.bytes) :=
      ih p5 hr4
    have hfinish5 : (p5 ++ r4).length = finish := by
      rw [← hfinish]
      simp [p5, p4, p3, p2]
    have hp5 : (p4 ++ w4).length + 1 = p5.length := hnext _ _
    have hlt : (pre ++ w1).length < finish := by
      simp only [List.length_append]
      omega
    rw [hdata5, hfinish5] at hrest
    rw [e1.1, decodeBlocks, dif_pos hlt]
    simp only [e2.1, e3.1, e4.1, e1.2, e2.2, e3.2, e4.2, t1, t2, t3, t4, hp5, hrest, bind, Except.bind,
      v1, v2, v3]
    rfl

/-! ### The last block -/

lemma map_block (a1 a2 a3 : UInt8) : (block a1 a2 a3).map Char.toNat =
    [(symbol (a1.toNat >>> 2)).toNat, (symbol (a1.toNat <<< 4 ||| a2.toNat >>> 4)).toNat,
      (symbol (a2.toNat <<< 2 ||| a3.toNat >>> 6)).toNat, (symbol a3.toNat).toNat] := rfl

/-- Bytes are whole blocks and a last one of one, two or three bytes, which is read back. -/
lemma encode_split {bs : Bytes} (h : bs ≠ []) : ∃ (gs : List Group) (tail : Bytes) (c1 c2 c3 c4 : ℕ),
    bs = gs.flatMap Group.bytes ++ tail ∧
      (encode bs).map Char.toNat = gs.flatMap Group.codes ++ [c1, c2, c3, c4] ∧
        decodeLastBlock c1 c2 c3 c4 = .ok tail := by
  have hlast (d1 d2 : UInt8) : symbol (d2.toNat <<< 2) =
      symbol (d2.toNat <<< 2 ||| (0 : UInt8).toNat >>> 6) ∧
      symbol (d1.toNat <<< 4) = symbol (d1.toNat <<< 4 ||| (0 : UInt8).toNat >>> 4) := by
    simp
  fun_induction encode bs with
  | case1 a1 a2 a3 data ih =>
    cases hdata : data with
    | nil =>
      obtain ⟨v1, v2, v3⟩ := block_bytes a1 a2 a3
      refine ⟨[], [a1, a2, a3], _, _, _, _, rfl, map_block a1 a2 a3, ?_⟩
      unfold decodeLastBlock
      rw [if_neg (symbol_plain _).2.2, if_neg (symbol_plain _).2.2]
      simp only [decodingTable_symbol, bind, Except.bind, v1, v2, v3]
      rfl
    | cons d data =>
      obtain ⟨gs, tail, c1, c2, c3, c4, hbs, hcodes, hlast⟩ := ih (by simp [hdata])
      rw [← hdata]
      refine ⟨⟨a1, a2, a3⟩ :: gs, tail, c1, c2, c3, c4, ?_, ?_, hlast⟩
      · rw [hbs]
        rfl
      · rw [List.map_append, hcodes]
        rfl
  | case2 d1 d2 =>
    obtain ⟨v1, v2, -⟩ := block_bytes d1 d2 0
    refine ⟨[], [d1, d2], _, _, _, _, rfl, rfl, ?_⟩
    unfold decodeLastBlock
    rw [if_neg (symbol_plain _).2.2, if_pos rfl, (hlast d1 d2).1]
    simp only [decodingTable_symbol, bind, Except.bind, v1, v2]
    rfl
  | case3 d1 =>
    obtain ⟨v1, -⟩ := block_bytes d1 0 0
    refine ⟨[], [d1], _, _, _, _, rfl, rfl, ?_⟩
    unfold decodeLastBlock
    rw [if_pos rfl, (hlast d1 d1).2]
    simp only [decodingTable_symbol, bind, Except.bind, v1]
    rfl
  | case4 => exact absurd rfl h

variable {gs : List Group} {tail : Bytes} {c1 c2 c3 c4 : ℕ} {body blank : List ℕ}

/-- Blocks with white space, a last block without, and white space after it. -/
lemma decode_groups (hbody : body.filter (fun c => !ignore c) = gs.flatMap Group.codes)
    (hlast : decodeLastBlock c1 c2 c3 c4 = .ok tail) (hend : ignore c4 = false)
    (hblank : ∀ c ∈ blank, ignore c = true) :
    decode (body ++ [c1, c2, c3, c4] ++ blank) = .ok (gs.flatMap Group.bytes ++ tail) := by
  have htrim : (body ++ [c1, c2, c3, c4] ++ blank).rdropWhile ignore = body ++ [c1, c2, c3, c4] := by
    have hblank' : ∀ c ∈ blank.reverse, ignore c = true := fun c hc =>
      hblank c (List.mem_reverse.1 hc)
    rw [List.rdropWhile, List.reverse_append, List.dropWhile_append_of_pos hblank']
    exact List.rdropWhile_eq_self_iff.2 fun _ => by simp [hend]
  have hfinish : (body ++ [c1, c2, c3, c4]).length - 4 = body.length := by simp
  unfold decode
  simp only [htrim, hfinish, List.drop_left]
  have hblocks : decodeBlocks (body ++ [c1, c2, c3, c4]) body.length
      (nextI (body ++ [c1, c2, c3, c4]) body.length 0) = .ok (gs.flatMap Group.bytes) :=
    decodeBlocks_spaced gs [] hbody
  rw [hblocks, hlast]
  rfl

/-- The characters of what was encoded. -/
lemma mem_encode (bs : Bytes) : ∀ c ∈ encode bs, c ∈ padding :: encodingTable := by
  have hsymbol (i : ℕ) : symbol i ∈ padding :: encodingTable := by
    have hall : ∀ k < 64, encodingTable.getD k padding ∈ encodingTable := by decide +kernel
    obtain ⟨k, hk, -, hs⟩ := symbol_low i
    exact hs ▸ List.mem_cons_of_mem _ (hall k hk)
  have hpadding : padding ∈ padding :: encodingTable := List.mem_cons_self
  fun_induction encode bs with
  | case1 a1 a2 a3 data ih =>
    intro c hc
    rcases List.mem_append.1 hc with hc | hc
    · simp only [block, List.mem_cons, List.not_mem_nil, or_false] at hc
      rcases hc with rfl | rfl | rfl | rfl <;> exact hsymbol _
    · exact ih c hc
  | case2 d1 d2 =>
    intro c hc
    simp only [List.mem_cons, List.not_mem_nil, or_false] at hc
    rcases hc with rfl | rfl | rfl | rfl
    · exact hsymbol _
    · exact hsymbol _
    · exact hsymbol _
    · exact hpadding
  | case3 d1 =>
    intro c hc
    simp only [List.mem_cons, List.not_mem_nil, or_false] at hc
    rcases hc with rfl | rfl | rfl | rfl
    · exact hsymbol _
    · exact hsymbol _
    · exact hpadding
    · exact hpadding
  | case4 => simp

/-- A character that is not white space, nor a mark of the texts that encoded bytes stand in. -/
structure IsPlain (c : Char) : Prop where
  ignored : ignore c.toNat = false
  unit : c.toNat < 128
  gt : ¬ c ≤ ' '
  line : c ≠ '\n' ∧ c ≠ '\r'
  mark : c ≠ '-' ∧ c ≠ ':'

lemma encode_plain {bs : Bytes} {c : Char} (h : c ∈ encode bs) : IsPlain c := by
  have hall : ∀ c ∈ padding :: encodingTable, ignore c.toNat = false ∧ c.toNat < 128 ∧ ¬ c ≤ ' ' ∧
      (c ≠ '\n' ∧ c ≠ '\r') ∧ c ≠ '-' ∧ c ≠ ':' := by decide +kernel
  obtain ⟨h1, h2, h3, h4, h5⟩ := hall c (mem_encode bs c h)
  exact ⟨h1, h2, h3, h4, h5⟩

/-- Nothing is decoded of an empty text, but an exception thrown. -/
lemma decode_eq_ok_ne_nil {data : List ℕ} {bs : Bytes} (h : decode data = .ok bs) : bs ≠ [] := by
  unfold decode at h
  simp only at h
  split at h
  · obtain ⟨first, -, h⟩ := bind_eq_ok.1 h
    obtain ⟨last, hlast, h⟩ := bind_eq_ok.1 h
    cases h
    have hne : last ≠ [] := by
      unfold decodeLastBlock at hlast
      split_ifs at hlast
      · simp only [bind_eq_ok] at hlast
        obtain ⟨_, -, _, -, h⟩ := hlast
        cases h
        exact List.cons_ne_nil _ _
      · simp only [bind_eq_ok] at hlast
        obtain ⟨_, -, _, -, _, -, h⟩ := hlast
        cases h
        exact List.cons_ne_nil _ _
      · simp only [bind_eq_ok] at hlast
        obtain ⟨_, -, _, -, _, -, _, -, h⟩ := hlast
        cases h
        exact List.cons_ne_nil _ _
    exact fun hnil => hne (List.append_eq_nil_iff.1 hnil).2
  · cases h

/-- What was encoded is read back. -/
lemma decode_encode {bs : Bytes} (h : bs ≠ []) : decode ((encode bs).map Char.toNat) = .ok bs := by
  obtain ⟨gs, tail, c1, c2, c3, c4, rfl, hcodes, hdecode⟩ := encode_split h
  have hplain : ∀ c ∈ gs.flatMap Group.codes ++ [c1, c2, c3, c4], ignore c = false := by
    intro c hc
    rw [← hcodes] at hc
    obtain ⟨d, hd, rfl⟩ := List.mem_map.1 hc
    exact (encode_plain hd).ignored
  have hbody : (gs.flatMap Group.codes).filter (fun c => !ignore c) = gs.flatMap Group.codes :=
    List.filter_eq_self.2 fun c hc => by simp [hplain c (List.mem_append_left _ hc)]
  have hspaced := decode_groups hbody hdecode (hplain c4 (by simp)) (List.forall_mem_nil _)
  rwa [List.append_nil, ← hcodes] at hspaced

/-- **White space does not matter**, unless it stands in the last block: the encoded bytes are read
back from every text that has their characters, with white space anywhere between them but for the
last four. -/
theorem decode_spaced (bs : Bytes) (hbs : bs ≠ []) (body last blank : List ℕ)
    (hcodes : (body ++ last).filter (fun c => !ignore c) = (encode bs).map Char.toNat)
    (hlast : last.length = 4 ∧ ∀ c ∈ last, ignore c = false) (hblank : ∀ c ∈ blank, ignore c = true) :
    decode (body ++ last ++ blank) = .ok bs := by
  obtain ⟨gs, tail, c1, c2, c3, c4, rfl, hencode, hdecode⟩ := encode_split hbs
  have hkeep : last.filter (fun c => !ignore c) = last :=
    List.filter_eq_self.2 fun c hc => by simp [hlast.2 c hc]
  rw [List.filter_append, hkeep, hencode] at hcodes
  obtain ⟨hbody, rfl⟩ := List.append_inj' hcodes (by simp [hlast.1])
  exact decode_groups hbody hdecode (hlast.2 c4 (by simp)) hblank

/-- `"TWFu"` and `"TQ=="`, with a line end in them, and with a blank in the last block. -/
theorem decode_spaced_man : decode (units "TW\nFuTQ== \n".toList) = .ok [77, 97, 110, 77] ∧
    decode (units "TWFuTQ= =".toList) ≠ .ok [77, 97, 110, 77] := by
  refine ⟨decode_spaced [77, 97, 110, 77] (by simp) (units "TW\nFu".toList) (units "TQ==".toList)
    (units " \n".toList) ?_ (by decide) (by decide), ?_⟩
  · decide +kernel
  · decide +kernel

end BuludTechVPN.Base64
