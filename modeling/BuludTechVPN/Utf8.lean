import Mathlib.Data.List.Basic
import Mathlib.Order.Basic

/-!
UTF-8 read by a decoder that replaces what is malformed.

Such a decoder turns every malformed sequence into one replacement character; how many bytes it
takes into a sequence differs between decoders, but no byte that could begin a character is
taken with another. So each byte that could begin a character contributes to a character of its
own, and a text of which the decoder sees only pieces keeps its length exactly if no character
is cut.
-/

namespace BuludTechVPN.Utf8

variable {t u : List Char} {bs x y : List UInt8} {c : Char}

def encode (t : List Char) : List UInt8 := t.flatMap String.utf8EncodeChar

@[simp] lemma encode_nil : encode [] = [] := rfl

@[simp] lemma encode_cons : encode (c :: t) = String.utf8EncodeChar c ++ encode t := rfl

@[simp] lemma encode_append : encode (t ++ u) = encode t ++ encode u := List.flatMap_append

/-- The bytes are those of some text, no character cut at either end. -/
def Whole (bs : List UInt8) : Prop := ∃ t, bs = encode t

/-- The character whose encoding the bytes begin with. -/
def decodeHead (bs : List UInt8) : Option Char := bs.toByteArray.utf8DecodeChar? 0

lemma decodeHead_encodeChar : decodeHead (String.utf8EncodeChar c ++ bs) = some c := by
  unfold decodeHead
  rw [List.toByteArray_append]
  exact ByteArray.utf8DecodeChar?_utf8EncodeChar_append

lemma decodeHead_eq_some (h : decodeHead bs = some c) :
    bs = String.utf8EncodeChar c ++ bs.drop c.utf8Size := by
  obtain ⟨l, hl⟩ := ByteArray.exists_of_utf8DecodeChar?_eq_some h
  have hbs : bs = String.utf8EncodeChar c ++ l.data.toList := by
    rw [← List.toByteArray_inj, List.toByteArray_append, hl]
    exact congrArg _ (ByteArray.ext (by simp [List.data_toByteArray]))
  conv_rhs => rw [hbs, ← String.length_utf8EncodeChar c, List.drop_left]
  exact hbs

/-! ### Bytes that begin a character -/

lemma first_byte_encodeChar (h : String.utf8EncodeChar c = x ++ y) (hx : x ≠ []) {b : UInt8}
    (hb : y.head? = some b) : ¬ b.IsUTF8FirstByte := by
  have hlen : 0 < x.length := List.length_pos_iff.mpr hx
  obtain ⟨y', rfl⟩ : ∃ y', y = b :: y' := by
    cases y with
    | nil => simp at hb
    | cons b' y' => exact ⟨y', by simpa using hb⟩
  have hi : x.length < (String.utf8EncodeChar c).length := by rw [h]; simp
  have hget : (String.utf8EncodeChar c)[x.length] = b := by simp [h]
  rw [← hget, UInt8.isUTF8FirstByte_getElem_utf8EncodeChar]
  omega

/-- No character of a text reaches across the border before a byte that could begin one. -/
theorem encode_eq_append (h : encode t = x ++ y)
    (hy : ∀ b, y.head? = some b → b.IsUTF8FirstByte) :
    ∃ u v, t = u ++ v ∧ x = encode u ∧ y = encode v := by
  induction t generalizing x with
  | nil =>
    obtain ⟨rfl, rfl⟩ := List.append_eq_nil_iff.mp h.symm
    exact ⟨[], [], rfl, rfl, rfl⟩
  | cons c t ih =>
    rw [encode_cons, List.append_eq_append_iff] at h
    rcases h with ⟨x', rfl, ht⟩ | ⟨y', hc, hy'⟩
    · obtain ⟨u, v, rfl, rfl, rfl⟩ := ih ht
      exact ⟨c :: u, v, rfl, rfl, rfl⟩
    · by_cases hx : x = []
      · exact ⟨[], c :: t, rfl, hx, by rw [hy', encode_cons, hc, hx, List.nil_append]⟩
      · cases y' with
        | nil =>
          exact ⟨[c], t, rfl, by simpa using hc.symm, by simpa using hy'⟩
        | cons b y' =>
          exact absurd (hy b (by rw [hy']; rfl)) (first_byte_encodeChar hc hx rfl)

section Starts

/-! ### Counting characters by the bytes that begin them -/

variable (seps : List Char)

/-- The characters of a text other than the separators. -/
def weight (t : List Char) : ℕ := t.countP fun c => c ∉ seps

/-- The byte could begin a character, and is not a separator. -/
def Starts (b : UInt8) : Prop :=
  b.IsUTF8FirstByte ∧ ∀ c ∈ seps, String.utf8EncodeChar c ≠ [b]

instance (b : UInt8) : Decidable (Starts seps b) :=
  @instDecidableAnd _ _ _ (List.decidableBAll _ _)

def starts (bs : List UInt8) : ℕ := bs.countP fun b => Starts seps b

@[simp] lemma weight_append : weight seps (t ++ u) = weight seps t + weight seps u :=
  List.countP_append

@[simp] lemma starts_append : starts seps (x ++ y) = starts seps x + starts seps y :=
  List.countP_append

lemma weight_cons (c : Char) : weight seps (c :: t) = weight seps [c] + weight seps t :=
  weight_append seps (t := [c])

lemma starts_cons (b : UInt8) : starts seps (b :: bs) = starts seps [b] + starts seps bs :=
  starts_append seps (x := [b])

variable {seps} (hseps : ∀ c ∈ seps, c.utf8Size = 1)

lemma starts_eq_zero (h : ∀ b ∈ bs, ¬ b.IsUTF8FirstByte) : starts seps bs = 0 :=
  List.countP_eq_zero.mpr fun b hb => by simp [Starts, h b hb]

lemma exists_encodeChar (c : Char) : ∃ b bs, String.utf8EncodeChar c = b :: bs ∧
    b.IsUTF8FirstByte ∧ ∀ x ∈ bs, ¬ x.IsUTF8FirstByte := by
  obtain ⟨b, bs, hc⟩ : ∃ b bs, String.utf8EncodeChar c = b :: bs := by
    have := c.utf8Size_pos
    rw [← String.length_utf8EncodeChar c] at this
    exact List.exists_cons_of_length_pos this
  refine ⟨b, bs, hc, ?_, fun x hx => ?_⟩
  · simpa [hc] using UInt8.isUTF8FirstByte_getElem_zero_utf8EncodeChar (c := c)
  · obtain ⟨l, r, rfl⟩ := List.append_of_mem hx
    exact first_byte_encodeChar (x := b :: l) (y := x :: r) hc (by simp) rfl

include hseps in
lemma starts_encodeChar (c : Char) :
    starts seps (String.utf8EncodeChar c) = weight seps [c] := by
  obtain ⟨b, bs, hc, hb, hbs⟩ := exists_encodeChar c
  have hrest : starts seps bs = 0 := starts_eq_zero hbs
  have hb' : Starts seps b ↔ c ∉ seps := by
    refine ⟨fun h hmem => h.2 c hmem ?_, fun h => ⟨hb, fun d hd hdb => h ?_⟩⟩
    · have hlen := String.length_utf8EncodeChar c
      rw [hseps c hmem, hc] at hlen
      obtain rfl : bs = [] := List.eq_nil_of_length_eq_zero (by simpa using hlen)
      exact hc
    · -- the two encodings begin alike, so the characters are the same
      have h1 : decodeHead (String.utf8EncodeChar c) = some d := by
        rw [hc, ← List.singleton_append, ← hdb]; exact decodeHead_encodeChar
      have h2 : decodeHead (String.utf8EncodeChar c ++ []) = some c := decodeHead_encodeChar
      rw [List.append_nil] at h2
      rwa [Option.some.inj (h2.symm.trans h1)]
  rw [hc, starts_cons, hrest]
  simp [starts, weight, List.countP_singleton, hb']

include hseps in
lemma starts_encode (t : List Char) : starts seps (encode t) = weight seps t := by
  induction t with
  | nil => rfl
  | cons c t ih =>
    rw [encode_cons, starts_append, starts_encodeChar hseps, ih, ← weight_cons]

end Starts

/-! ### The decoder -/

/-- How a decoder cuts malformed bytes: beyond the first one, it takes `extra bs` of them into
the same replacement, none of which could begin a character. -/
structure Decoder where
  extra : List UInt8 → ℕ
  extra_not_first : ∀ (b : UInt8) (bs : List UInt8), ∀ x ∈ bs.take (extra (b :: bs)),
    ¬ x.IsUTF8FirstByte

namespace Decoder

variable (D : Decoder) {seps : List Char}

def decode : List UInt8 → List Char
  | [] => []
  | b :: bs =>
    match decodeHead (b :: bs) with
    | some c => c :: decode (bs.drop (c.utf8Size - 1))
    | none => '\uFFFD' :: decode (bs.drop (D.extra (b :: bs)))
  termination_by bs => bs.length

@[simp] lemma decode_nil : D.decode [] = [] := by rw [decode]

lemma decode_ne_nil {bs : List UInt8} (h : bs ≠ []) : D.decode bs ≠ [] := by
  obtain _ | ⟨b, bs⟩ := bs
  · exact absurd rfl h
  · rw [decode]
    split
    · exact List.cons_ne_nil _ _
    · exact List.cons_ne_nil _ _

lemma decode_encodeChar_append :
    D.decode (String.utf8EncodeChar c ++ bs) = c :: D.decode bs := by
  obtain ⟨b, r, hc, -⟩ := exists_encodeChar c
  have hlen := String.length_utf8EncodeChar c
  have hhead : decodeHead (b :: (r ++ bs)) = some c := by
    rw [← List.cons_append, ← hc]; exact decodeHead_encodeChar
  rw [hc, List.cons_append, decode, hhead]
  rw [hc, List.length_cons] at hlen
  simp only [← hlen, Nat.add_sub_cancel, List.drop_left]

@[simp] lemma decode_encode (t : List Char) : D.decode (encode t) = t := by
  induction t with
  | nil => exact D.decode_nil
  | cons c t ih => rw [encode_cons, decode_encodeChar_append, ih]

lemma starts_le_decode (hseps : ∀ c ∈ seps, c.utf8Size = 1) (hr : '\uFFFD' ∉ seps)
    (bs : List UInt8) : starts seps bs ≤ weight seps (D.decode bs) ∧
      ∀ b, bs.head? = some b → ¬ b.IsUTF8FirstByte →
        starts seps bs < weight seps (D.decode bs) := by
  induction hn : bs.length using Nat.strongRecOn generalizing bs with
  | ind n ih =>
    cases bs with
    | nil => simp [starts]
    | cons b r =>
      subst hn
      cases hd : decodeHead (b :: r) with
      | some c =>
        have hbs := decodeHead_eq_some hd
        obtain ⟨b', r', hc, hb', -⟩ := exists_encodeChar c
        have hlt : ((b :: r).drop c.utf8Size).length < (b :: r).length := by
          have := c.utf8Size_pos
          simp; omega
        have := (ih _ hlt _ rfl).1
        rw [hbs, decode_encodeChar_append, starts_append, starts_encodeChar hseps,
          weight_cons seps (t := D.decode _)]
        refine ⟨by omega, fun x hx hf => absurd hb' ?_⟩
        rw [hc] at hx
        obtain rfl : b' = x := by simpa using hx
        exact hf
      | none =>
        have hlt : (r.drop (D.extra (b :: r))).length < (b :: r).length := by
          rw [List.length_drop, List.length_cons]
          omega
        have h1 := (ih _ hlt _ rfl).1
        have h2 : starts seps (r.take (D.extra (b :: r))) = 0 :=
          starts_eq_zero (D.extra_not_first b r)
        have h3 : starts seps (b :: r) = starts seps [b] +
              starts seps (r.drop (D.extra (b :: r))) := by
          conv_lhs => rw [starts_cons, ← List.take_append_drop (D.extra (b :: r)) r]
          rw [starts_append, h2, Nat.zero_add]
        have h4 : weight seps (D.decode (b :: r)) =
            1 + weight seps (D.decode (r.drop (D.extra (b :: r)))) := by
          rw [decode, hd, weight_cons]
          simp [weight, hr]
        have h5 : starts seps [b] ≤ 1 := List.countP_le_length
        refine ⟨by omega, fun x hx hf => ?_⟩
        obtain rfl : b = x := by simpa using hx
        have : starts seps [b] = 0 := starts_eq_zero (by simpa using hf)
        omega

/-! ### A text read in pieces -/

lemma first_of_weight_le (hseps : ∀ c ∈ seps, c.utf8Size = 1) (hr : '\uFFFD' ∉ seps)
    {reads : List (List UInt8)}
    (h : weight seps (reads.flatMap D.decode) ≤ starts seps reads.flatten) :
    ∀ bs ∈ reads, ∀ b, bs.head? = some b → b.IsUTF8FirstByte := by
  have hle : ∀ reads : List (List UInt8),
      starts seps reads.flatten ≤ weight seps (reads.flatMap D.decode) := by
    intro reads
    induction reads with
    | nil => simp [starts]
    | cons bs reads ih =>
      have := (D.starts_le_decode hseps hr bs).1
      simp only [List.flatten_cons, List.flatMap_cons, starts_append, weight_append]
      omega
  induction reads with
  | nil => simp
  | cons bs reads ih =>
    have h1 := D.starts_le_decode hseps hr bs
    have h2 := hle reads
    simp only [List.flatten_cons, List.flatMap_cons, starts_append, weight_append] at h
    intro x hx b hb
    rcases List.mem_cons.mp hx with rfl | hx
    · by_contra hf
      have := h1.2 b hb hf
      omega
    · exact ih (by omega) x hx b hb

lemma whole_of_first {reads : List (List UInt8)} (h : encode t = reads.flatten)
    (hf : ∀ bs ∈ reads, ∀ b, bs.head? = some b → b.IsUTF8FirstByte) :
    ∀ bs ∈ reads, Whole bs := by
  induction reads generalizing t with
  | nil => simp
  | cons bs reads ih =>
    have hhead : ∀ b, reads.flatten.head? = some b → b.IsUTF8FirstByte := by
      intro b hb
      rw [List.head?_flatten] at hb
      obtain ⟨y, hy, hyb⟩ := List.exists_of_findSome?_eq_some hb
      exact hf y (List.mem_cons_of_mem _ hy) b hyb
    obtain ⟨u, v, -, hu, hv⟩ := encode_eq_append h hhead
    intro x hx
    rcases List.mem_cons.mp hx with rfl | hx
    · exact ⟨u, hu⟩
    · exact ih hv.symm (fun y hy => hf y (List.mem_cons_of_mem _ hy)) x hx

/-- **What is cut grows**: if the pieces of a text decode to no more characters than the text
has, none of them cuts a character. -/
theorem whole_of_weight_le (hseps : ∀ c ∈ seps, c.utf8Size = 1) (hr : '\uFFFD' ∉ seps)
    {reads : List (List UInt8)} (h : encode t = reads.flatten)
    (hw : weight seps (reads.flatMap D.decode) ≤ weight seps t) : ∀ bs ∈ reads, Whole bs := by
  rw [← starts_encode hseps t, h] at hw
  exact whole_of_first h (D.first_of_weight_le hseps hr hw)

/-- Pieces that cut no character decode to the text. -/
theorem flatMap_decode_of_whole {reads : List (List UInt8)} (h : encode t = reads.flatten)
    (hw : ∀ bs ∈ reads, Whole bs) : reads.flatMap D.decode = t := by
  have key : ∀ reads : List (List UInt8), (∀ bs ∈ reads, Whole bs) →
      reads.flatten = encode (reads.flatMap D.decode) := by
    intro reads hw
    induction reads with
    | nil => rfl
    | cons bs reads ih =>
      obtain ⟨u, rfl⟩ := hw bs (by simp)
      rw [List.flatten_cons, List.flatMap_cons, encode_append, decode_encode,
        ih fun x hx => hw x (List.mem_cons_of_mem _ hx)]
  rw [key reads hw] at h
  rw [← D.decode_encode (reads.flatMap D.decode), ← h, decode_encode]

end Decoder

end BuludTechVPN.Utf8
