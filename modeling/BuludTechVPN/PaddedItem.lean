import BuludTechVPN.LogItem
import Mathlib.Data.List.Infix

/-!
An item whose last bytes were lost: the reader of the cache takes the end of the file for bytes
of the value `-1` and decodes the item with these in place of the lost ones.

A number of such bytes is negative or large, and a tag of them is unknown. So nothing can be
read after the loss, and the decoding succeeds only if the loss is within the last argument.
-/

namespace BuludTechVPN.LogCache

open JavaLang ByteBuffer

/-- The bytes with the last `m` of them read beyond the end of the file. -/
def pad (m : ℕ) (bs : Bytes) : Bytes := bs.take (bs.length - m) ++ List.replicate m 0xFF

/-- The argument is decoded although the last `m` bytes of it are lost: they belong to its value,
or the lost byte of its length was `0xFF`. -/
def Arg.SurvivesLoss (m : ℕ) : Arg → Prop
  | string s | other s =>
    m ≤ (Utf8.encode s).length ∨ (Utf8.encode s).length % 256 = 255 ∧
      m = (Utf8.encode s).length + 1
  | integer _ | float _ => m ≤ 4
  | double _ | long _ => m ≤ 8
  | null => False

/-- The item is decoded, and passes `verify`, although its last `m` bytes are lost. -/
structure LogItem.SurvivesLoss (m : ℕ) (li : LogItem) : Prop where
  last : ∃ a ∈ (li.mArgs.getD []).getLast?, a.SurvivesLoss m
  args : (li.mArgs.getD []).length ≤ 30
  verify : ¬ (li.mMessage.getD [] = [] ∧ li.mRessourceId = 0)

variable {D : Utf8.Decoder} {bb rest f g : Bytes} {j k m n : ℕ}

/-! ### Padding -/

lemma length_pad (h : m ≤ g.length) : (pad m g).length = g.length := by
  rw [pad, List.length_append, List.length_take, List.length_replicate]
  omega

lemma pad_self (g : Bytes) : pad g.length g = List.replicate g.length 0xFF := by
  rw [pad, Nat.sub_self, List.take_zero, List.nil_append]

/-- A loss within the second part leaves the first one. -/
lemma pad_append (h : m ≤ g.length) : pad m (f ++ g) = f ++ pad m g := by
  have hlen : (f ++ g).length - m = f.length + (g.length - m) := by
    rw [List.length_append]
    omega
  rw [pad, pad, hlen, List.take_length_add_append, List.append_assoc]

/-- A loss within the first part takes all of the second one. -/
lemma pad_append_of_le (h : g.length ≤ m) :
    pad m (f ++ g) = pad (m - g.length) f ++ List.replicate g.length 0xFF := by
  have hlen : (f ++ g).length - m = f.length - (m - g.length) := by
    rw [List.length_append]
    omega
  have hm : m = (m - g.length) + g.length := by omega
  rw [pad, pad, hlen, List.take_append_of_le_length (Nat.sub_le _ _), List.append_assoc,
    List.replicate_append_replicate, ← hm]

/-! ### Reading -/

lemma getInt_bytes (h : f.length = 4) :
    getInt (f ++ rest) = .ok (BitVec.ofNat 32 (valueOf f), rest) := by
  rw [getInt, ByteBuffer.get, take_append h]
  rfl

lemma getLong_bytes (h : f.length = 8) :
    getLong (f ++ rest) = .ok (BitVec.ofNat 64 (valueOf f), rest) := by
  rw [getLong, ByteBuffer.get, take_append h]
  rfl

lemma getChar_bytes (h : f.length = 2) :
    getChar (f ++ rest) = .ok (BitVec.ofNat 16 (valueOf f), rest) := by
  rw [getChar, ByteBuffer.get, take_append h]
  rfl

lemma getArray_bytes {len : BitVec 32} (h : 0 ≤ len.toInt) (hlen : f.length = len.toNat) :
    getArray len (f ++ rest) = .ok (f, rest) := by
  rw [getArray, if_neg (Int.not_lt.mpr h), take_append hlen]
  rfl

/-- What is read of an array is followed by the rest. -/
lemma getArray_suffix {len : BitVec 32} {a : Bytes} (h : getArray len bb = .ok (a, rest)) :
    rest <:+ bb ∧ rest.length + len.toNat = bb.length := by
  unfold getArray at h
  split_ifs at h
  cases ht : take len.toNat bb with
  | none =>
    rw [ht] at h
    cases h
  | some t =>
    rw [ht] at h
    cases h
    obtain ⟨hbb, hlen⟩ := take_eq_some ht
    refine ⟨⟨a, hbb.symm⟩, ?_⟩
    rw [hbb, List.length_append, hlen, Nat.add_comm]

/-- Only the bytes beyond the end. -/
lemma eq_replicate_of_suffix (h : rest <:+ List.replicate k 0xFF) :
    rest = List.replicate rest.length 0xFF :=
  List.eq_replicate_of_mem fun _ hb => List.eq_of_mem_replicate (h.subset hb)

/-- A length of which a part is lost. -/
lemma value_pad_length (hn : n ≤ capacity) (h1 : 1 ≤ j) (h4 : j ≤ 4) :
    valueOf (pad j (putLength n)) =
      if j = 1 then n / 256 * 256 + 255 else 256 ^ j - 1 := by
  unfold capacity at hn
  have hbytes : putLength n = [0, 0, UInt8.ofNat (n / 256), UInt8.ofNat n] := by
    have h0 : UInt8.ofNat (n / 256 ^ 3) = 0 := by rw [Nat.div_eq_of_lt (by omega)]; rfl
    have h1 : UInt8.ofNat (n / 256 ^ 2) = 0 := by rw [Nat.div_eq_of_lt (by omega)]; rfl
    have hnat : (BitVec.ofNat 32 n).toNat = n := by rw [BitVec.toNat_ofNat]; omega
    rw [putLength, put, hnat, bytesOf, bytesOf, bytesOf, bytesOf, bytesOf, h0, h1, pow_one,
      pow_zero, Nat.div_one]
  have hhigh : (UInt8.ofNat (n / 256)).toNat = n / 256 := by
    rw [UInt8.toNat_ofNat']
    omega
  rw [hbytes]
  obtain rfl | rfl | rfl | rfl : j = 1 ∨ j = 2 ∨ j = 3 ∨ j = 4 := by omega
  · show 0 * 256 ^ 3 + (0 * 256 ^ 2 + ((UInt8.ofNat (n / 256)).toNat * 256 ^ 1 +
      (255 * 256 ^ 0 + 0))) = _
    rw [hhigh, if_pos rfl]
    omega
  · show 0 * 256 ^ 3 + (0 * 256 ^ 2 + (255 * 256 ^ 1 + (255 * 256 ^ 0 + 0))) = _
    rw [if_neg (by decide)]
    rfl
  · show 0 * 256 ^ 3 + (255 * 256 ^ 2 + (255 * 256 ^ 1 + (255 * 256 ^ 0 + 0))) = _
    rw [if_neg (by decide)]
    rfl
  · show 255 * 256 ^ 3 + (255 * 256 ^ 2 + (255 * 256 ^ 1 + (255 * 256 ^ 0 + 0))) = _
    rw [if_neg (by decide)]
    rfl

/-- **A length of which a part is lost** is negative, or larger than it was. -/
lemma toInt_pad_length (hn : n ≤ capacity) (h1 : 1 ≤ j) (h4 : j ≤ 4) :
    (j = 4 ∧ (BitVec.ofNat 32 (valueOf (pad j (putLength n)))).toInt = -1) ∨
      ((BitVec.ofNat 32 (valueOf (pad j (putLength n)))).toInt =
          (BitVec.ofNat 32 (valueOf (pad j (putLength n)))).toNat ∧
        (BitVec.ofNat 32 (valueOf (pad j (putLength n)))).toNat =
          if j = 1 then n / 256 * 256 + 255 else 256 ^ j - 1) := by
  rw [value_pad_length hn h1 h4]
  unfold capacity at hn
  obtain rfl | rfl | rfl | rfl : j = 1 ∨ j = 2 ∨ j = 3 ∨ j = 4 := by omega
  · right
    rw [if_pos rfl]
    have hnat : (BitVec.ofNat 32 (n / 256 * 256 + 255)).toNat = n / 256 * 256 + 255 := by
      rw [BitVec.toNat_ofNat]
      omega
    rw [BitVec.toInt_eq_toNat_cond, hnat]
    refine ⟨by rw [if_pos (by omega)], rfl⟩
  · exact .inr ⟨rfl, rfl⟩
  · exact .inr ⟨rfl, rfl⟩
  · exact .inl ⟨rfl, rfl⟩

/-! ### Arguments -/

lemma length_putLength (n : ℕ) : (putLength n).length = 4 := length_put _ _

lemma length_putChar (c : Char) : (putChar c).length = 2 := length_put _ _

/-- A loss within the characters of a text. -/
lemma unmarschalString_pad {s : Text} (hs : (Utf8.encode s).length ≤ capacity)
    (hj : j ≤ (Utf8.encode s).length) :
    unmarschalString D (pad j (marschalString s) ++ rest) =
      .ok (D.decode (pad j (Utf8.encode s)), rest) := by
  obtain ⟨hnat, hint⟩ := length_toNat hs
  have harray : getArray _ (pad j (Utf8.encode s) ++ rest) = _ :=
    getArray_bytes (by rw [hint]; exact Int.natCast_nonneg _) ((length_pad hj).trans hnat.symm)
  rw [unmarschalString, marschalString, pad_append hj, putLength, List.append_assoc, getInt_put]
  simp only [bind, Except.bind, harray]
  rfl

/-- A loss within the length of a text. -/
lemma unmarschalString_lost {s : Text} (hj : (Utf8.encode s).length < j)
    (hj4 : j ≤ (Utf8.encode s).length + 4) :
    unmarschalString D (pad j (marschalString s) ++ rest) = (do
      let (utf8bytes, bb) ← getArray (BitVec.ofNat 32 (valueOf
          (pad (j - (Utf8.encode s).length) (putLength (Utf8.encode s).length))))
        (List.replicate (Utf8.encode s).length 0xFF ++ rest)
      return (D.decode utf8bytes, bb)) := by
  have hlen : (pad (j - (Utf8.encode s).length) (putLength (Utf8.encode s).length)).length = 4 :=
    (length_pad (by rw [length_putLength]; omega)).trans (length_putLength _)
  rw [unmarschalString, marschalString, pad_append_of_le hj.le, List.append_assoc,
    getInt_bytes hlen]
  rfl

/-- The text that is read when the last byte of its length, and all after it, is lost. -/
lemma unmarschalString_last {s : Text} (hs : (Utf8.encode s).length ≤ capacity)
    (hj : (Utf8.encode s).length < j) (hj4 : j ≤ (Utf8.encode s).length + 4) :
    (∃ t, unmarschalString D (pad j (marschalString s)) = .ok (t, [])) ↔
      (Utf8.encode s).length % 256 = 255 ∧ j = (Utf8.encode s).length + 1 := by
  have hread : unmarschalString D (pad j (marschalString s) ++ []) = _ :=
    unmarschalString_lost hj hj4
  rw [List.append_nil, List.append_nil] at hread
  rw [hread]
  have hvalue := toInt_pad_length hs (j := j - (Utf8.encode s).length) (by omega) (by omega)
  generalize hlen : BitVec.ofNat 32 (valueOf (pad (j - (Utf8.encode s).length)
    (putLength (Utf8.encode s).length))) = len at hvalue
  constructor
  · rintro ⟨t, h⟩
    obtain ⟨p, harray, h⟩ := unmarshal_bind_eq_ok.mp h
    obtain ⟨-, hnil⟩ := Prod.mk.inj (Except.ok.inj h)
    have hneg : ¬ len.toInt < 0 := by
      intro hneg
      rw [getArray, if_pos hneg] at harray
      cases harray
    obtain ⟨-, hcount⟩ := getArray_suffix harray
    rw [hnil, List.length_nil, List.length_replicate] at hcount
    rcases hvalue with ⟨-, hvalue⟩ | ⟨-, hvalue⟩
    · omega
    · unfold capacity at hs
      split_ifs at hvalue with h1
      · omega
      · have hpow : 256 ^ 2 ≤ 256 ^ (j - (Utf8.encode s).length) :=
          Nat.pow_le_pow_right (by decide) (by omega)
        omega
  · rintro ⟨hmod, rfl⟩
    rcases hvalue with ⟨h4, -⟩ | ⟨hint, hnat⟩
    · omega
    rw [if_pos (by omega)] at hnat
    have harray : getArray len (List.replicate (Utf8.encode s).length 0xFF ++ []) =
        .ok (List.replicate (Utf8.encode s).length 0xFF, []) :=
      getArray_bytes (by omega) (by rw [List.length_replicate]; omega)
    rw [List.append_nil] at harray
    rw [harray]
    exact ⟨_, rfl⟩

/-- After the loss, an argument is followed by lost bytes only. -/
lemma unmarschalString_suffix {s t : Text} (hs : (Utf8.encode s).length ≤ capacity)
    (hj4 : j ≤ (Utf8.encode s).length + 4)
    (h : unmarschalString D (pad j (marschalString s) ++ List.replicate k 0xFF) = .ok (t, rest)) :
    rest = List.replicate rest.length 0xFF := by
  by_cases hj : j ≤ (Utf8.encode s).length
  · rw [unmarschalString_pad hs hj] at h
    obtain ⟨-, rfl⟩ := Prod.mk.inj (Except.ok.inj h)
    exact eq_replicate_of_suffix (List.suffix_refl _)
  · rw [unmarschalString_lost (Nat.not_le.mp hj) hj4, List.replicate_append_replicate] at h
    obtain ⟨p, harray, h⟩ := unmarshal_bind_eq_ok.mp h
    obtain ⟨-, rfl⟩ := Prod.mk.inj (Except.ok.inj h)
    exact eq_replicate_of_suffix (getArray_suffix harray).1

lemma length_marschalString (s : Text) :
    (marschalString s).length = (Utf8.encode s).length + 4 := by
  rw [marschalString, List.length_append, length_putLength, Nat.add_comm]

/-- A number is read, whatever its bytes are. -/
lemma getInt_pad (hj : j ≤ 4) (x : BitVec 32) :
    getInt (pad j (put 4 x) ++ rest) =
      .ok (BitVec.ofNat 32 (valueOf (pad j (put 4 x))), rest) := by
  refine getInt_bytes ?_
  rw [length_pad (by rw [length_put]; exact hj), length_put]

lemma getLong_pad (hj : j ≤ 8) (x : BitVec 64) :
    getLong (pad j (put 8 x) ++ rest) =
      .ok (BitVec.ofNat 64 (valueOf (pad j (put 8 x))), rest) := by
  refine getLong_bytes ?_
  rw [length_pad (by rw [length_put]; exact hj), length_put]

/-- After a loss within the content of an argument only lost bytes are left. -/
lemma Arg.read_suffix {a a' : Arg} (hn : a.content.length ≤ capacity)
    (hj : j ≤ a.content.length)
    (h : a.read D (pad j a.content ++ List.replicate k 0xFF) = .ok (a', rest)) :
    rest = List.replicate rest.length 0xFF := by
  have hfilled : List.replicate k 0xFF = rest → rest = List.replicate rest.length 0xFF := by
    rintro rfl
    exact eq_replicate_of_suffix (List.suffix_refl _)
  cases a with
  | string s | other s =>
    rw [Arg.content, length_marschalString] at hn hj
    obtain ⟨p, hp, h⟩ := unmarshal_bind_eq_ok.mp h
    obtain ⟨-, rfl⟩ := Prod.mk.inj (Except.ok.inj h)
    exact unmarschalString_suffix (by omega) hj hp
  | integer i | float i =>
    rw [Arg.content, length_put] at hj
    rw [Arg.read, Arg.content, getInt_pad hj] at h
    exact hfilled (Prod.mk.inj (Except.ok.inj h)).2
  | double d | long d =>
    rw [Arg.content, length_put] at hj
    rw [Arg.read, Arg.content, getLong_pad hj] at h
    exact hfilled (Prod.mk.inj (Except.ok.inj h)).2
  | null =>
    obtain rfl : j = 0 := Nat.le_zero.mp hj
    exact hfilled (Prod.mk.inj (Except.ok.inj h)).2

/-- **A loss within the content of the last argument.** -/
lemma Arg.read_last {a : Arg} (hn : a.content.length ≤ capacity) (h1 : 1 ≤ j)
    (hj : j ≤ a.content.length) :
    (∃ a', a.read D (pad j a.content) = .ok (a', [])) ↔ a.SurvivesLoss j := by
  cases a with
  | string s | other s =>
    rw [Arg.content, length_marschalString] at hn hj
    have hread : (∃ a', Arg.read D (.string s) (pad j (marschalString s)) = .ok (a', [])) ↔
        ∃ t, unmarschalString D (pad j (marschalString s)) = .ok (t, []) := by
      constructor
      · rintro ⟨a', h⟩
        obtain ⟨p, hp, h⟩ := unmarshal_bind_eq_ok.mp h
        obtain ⟨-, hnil⟩ := Prod.mk.inj (Except.ok.inj h)
        exact ⟨p.1, by rw [hp, ← hnil]⟩
      · rintro ⟨t, h⟩
        exact ⟨.string t, by rw [Arg.read, h]; rfl⟩
    refine hread.trans ?_
    rw [Arg.SurvivesLoss]
    by_cases hs : j ≤ (Utf8.encode s).length
    · have hpad : unmarschalString D (pad j (marschalString s) ++ []) = _ :=
        unmarschalString_pad (by omega) hs
      rw [List.append_nil] at hpad
      exact iff_of_true ⟨_, hpad⟩ (.inl hs)
    · rw [or_iff_right hs]
      exact unmarschalString_last (by omega) (Nat.not_le.mp hs) hj
  | integer i | float i =>
    rw [Arg.content, length_put] at hj
    have hpad : getInt (pad j (put 4 i) ++ []) = _ := getInt_pad hj i
    rw [List.append_nil] at hpad
    exact iff_of_true ⟨_, by rw [Arg.read, Arg.content, hpad]; rfl⟩ hj
  | double d | long d =>
    rw [Arg.content, length_put] at hj
    have hpad : getLong (pad j (put 8 d) ++ []) = _ := getLong_pad hj d
    rw [List.append_nil] at hpad
    exact iff_of_true ⟨_, by rw [Arg.read, Arg.content, hpad]; rfl⟩ hj
  | null => exact absurd (h1.trans hj) (Nat.not_succ_le_zero 0)

lemma Arg.le_content_of_survives {a : Arg} (h : a.SurvivesLoss m) : m ≤ a.content.length := by
  cases a with
  | string s | other s =>
    rw [Arg.content, length_marschalString]
    rcases h with h | ⟨-, h⟩
    · omega
    · omega
  | integer i | float i | double d | long d =>
    rw [Arg.content, length_put]
    exact h
  | null => exact h.elim

lemma Arg.tag_mem (a : Arg) : a.tag ∈ ['s', 'i', 'f', 'd', 'l', '0'] := by
  cases a with
  | string s | other s | integer i | float f | double d | long l | null =>
    simp [Arg.tag]

lemma unmarschalArg_unknown {type : BitVec 16} (h : type = 0xFF#16 ∨ type = 0xFFFF#16) :
    unmarschalArg D type bb = .error (.unsupportedEncoding (formatMessage type)) := by
  rcases h with rfl | rfl
  · rw [unmarschalArg, if_neg (by decide), if_neg (by decide), if_neg (by decide),
      if_neg (by decide), if_neg (by decide), if_neg (by decide)]
  · rw [unmarschalArg, if_neg (by decide), if_neg (by decide), if_neg (by decide),
      if_neg (by decide), if_neg (by decide), if_neg (by decide)]

/-- A tag of which a part is lost is unknown. -/
lemma getChar_lost_tag (a : Arg) (rest : Bytes) (h1 : 1 ≤ j) (h2 : j ≤ 2) : ∃ type,
    getChar (pad j (putChar a.tag) ++ rest) = .ok (type, rest) ∧
      ∀ bb, unmarschalArg D type bb = .error (.unsupportedEncoding (formatMessage type)) := by
  have hlen : (pad j (putChar a.tag)).length = 2 :=
    (length_pad (by rw [length_putChar]; exact h2)).trans (length_putChar _)
  have hvalue : BitVec.ofNat 16 (valueOf (pad j (putChar a.tag))) = 0xFF#16 ∨
      BitVec.ofNat 16 (valueOf (pad j (putChar a.tag))) = 0xFFFF#16 := by
    have htag1 : ∀ c ∈ ['s', 'i', 'f', 'd', 'l', '0'],
        BitVec.ofNat 16 (valueOf (pad 1 (putChar c))) = 0xFF#16 := by decide
    have htag2 : ∀ c ∈ ['s', 'i', 'f', 'd', 'l', '0'],
        BitVec.ofNat 16 (valueOf (pad 2 (putChar c))) = 0xFFFF#16 := by decide
    obtain rfl | rfl : j = 1 ∨ j = 2 := by omega
    · exact .inl (htag1 _ a.tag_mem)
    · exact .inr (htag2 _ a.tag_mem)
  exact ⟨_, getChar_bytes hlen, fun bb => unmarschalArg_unknown hvalue⟩

/-- No argument can be read of lost bytes. -/
lemma unmarschalArgList_filled (n k : ℕ) (p : List Arg × Bytes) :
    unmarschalArgList D (n + 1) (List.replicate k 0xFF) ≠ .ok p := by
  intro h
  obtain ⟨type, htype, h⟩ := unmarshal_bind_eq_ok.mp h
  obtain ⟨arg, harg, -⟩ := unmarshal_bind_eq_ok.mp h
  have hread := getChar_eq_ok.mp (show getChar _ = .ok (type.1, type.2) from htype)
  have hk : 2 ≤ k := by
    have hlen := congrArg List.length hread
    rw [List.length_replicate, List.length_append, length_put] at hlen
    omega
  obtain ⟨i, rfl⟩ : ∃ i, k = 2 + i := ⟨k - 2, by omega⟩
  rw [← List.replicate_append_replicate, getChar_bytes (List.length_replicate ..)] at htype
  obtain rfl := Except.ok.inj htype
  have hvalue : BitVec.ofNat 16 (valueOf (List.replicate 2 0xFF)) = 0xFFFF#16 := by decide
  rw [unmarschalArg_unknown (.inr hvalue)] at harg
  cases harg

/-- An argument of which a part is lost is followed by lost bytes only. -/
lemma unmarschalArgList_lost {a : Arg} {p : List Arg × Bytes} (hn : a.content.length ≤ capacity)
    (hj : j ≤ a.marschal.length) :
    unmarschalArgList D (n + 2) (pad j a.marschal ++ List.replicate k 0xFF) ≠ .ok p := by
  intro h
  obtain ⟨type, htype, h⟩ := unmarshal_bind_eq_ok.mp h
  obtain ⟨arg, harg, h⟩ := unmarshal_bind_eq_ok.mp h
  obtain ⟨args, hargs, -⟩ := unmarshal_bind_eq_ok.mp h
  rw [Arg.marschal_eq, List.length_append, length_putChar] at hj
  rw [Arg.marschal_eq] at htype
  by_cases hc : j ≤ a.content.length
  · rw [pad_append hc, List.append_assoc, putChar, getChar_put] at htype
    obtain rfl := Except.ok.inj htype
    rw [unmarschalArg_tag] at harg
    have hrest := Arg.read_suffix hn hc
      (show Arg.read D a _ = .ok (arg.1, arg.2) from harg)
    rw [hrest] at hargs
    exact unmarschalArgList_filled _ _ _ hargs
  · obtain ⟨t, ht, herr⟩ := getChar_lost_tag (D := D) (j := j - a.content.length) a
      (List.replicate a.content.length 0xFF ++ List.replicate k 0xFF) (by omega) (by omega)
    rw [pad_append_of_le (Nat.not_le.mp hc).le, List.append_assoc, ht] at htype
    obtain rfl := Except.ok.inj htype
    rw [herr] at harg
    cases harg

/-- The last argument, of which a part is lost. -/
lemma unmarschalArgList_last {a : Arg} (hn : a.content.length ≤ capacity) (h1 : 1 ≤ j)
    (hj : j ≤ a.marschal.length) :
    (∃ args, unmarschalArgList D 1 (pad j a.marschal) = .ok (args, [])) ↔ a.SurvivesLoss j := by
  rw [Arg.marschal_eq, List.length_append, length_putChar] at hj
  by_cases hc : j ≤ a.content.length
  · rw [← Arg.read_last (D := D) hn h1 hc, Arg.marschal_eq, pad_append hc, putChar,
      unmarschalArgList, getChar_put]
    simp only [bind, Except.bind, unmarschalArg_tag, unmarschalArgList]
    cases a.read D (pad j a.content) with
    | error e => exact iff_of_false (by rintro ⟨_, h⟩; cases h) (by rintro ⟨_, h⟩; cases h)
    | ok p =>
      constructor
      · rintro ⟨args, h⟩
        obtain ⟨-, hnil⟩ := Prod.mk.inj (Except.ok.inj h)
        exact ⟨p.1, by rw [← hnil]⟩
      · rintro ⟨a', h⟩
        obtain rfl := Except.ok.inj h
        exact ⟨[a'], rfl⟩
  · refine iff_of_false ?_ fun h => hc (Arg.le_content_of_survives h)
    rintro ⟨args, h⟩
    obtain ⟨t, ht, herr⟩ := getChar_lost_tag (D := D) (j := j - a.content.length) a
      (List.replicate a.content.length 0xFF) (by omega) (by omega)
    rw [Arg.marschal_eq, pad_append_of_le (Nat.not_le.mp hc).le, unmarschalArgList, ht] at h
    simp only [bind, Except.bind, herr] at h
    cases h

/-- **The arguments, the last bytes of which are lost**: they are read if the loss is within the
value of the last one. -/
lemma unmarschalArgList_pad {args : List Arg} (hne : args ≠ [])
    (hn : (args.flatMap Arg.marschal).length ≤ capacity) (h1 : 1 ≤ m)
    (hm : m ≤ (args.flatMap Arg.marschal).length) :
    (∃ as, unmarschalArgList D args.length (pad m (args.flatMap Arg.marschal)) = .ok (as, [])) ↔
      ∃ a ∈ args.getLast?, a.SurvivesLoss m := by
  induction args with
  | nil => exact absurd rfl hne
  | cons a args ih =>
    have hcontent : ∀ b ∈ a :: args, b.content.length ≤ capacity :=
      fun b hb => (content_le_marschal hb).trans hn
    rw [List.flatMap_cons, List.length_append] at hn hm
    rw [List.flatMap_cons]
    by_cases hc : m ≤ (args.flatMap Arg.marschal).length
    · have hargs : args ≠ [] := by
        rintro rfl
        exact absurd (h1.trans hc) (Nat.not_succ_le_zero 0)
      obtain ⟨b, args', rfl⟩ := List.exists_cons_of_ne_nil hargs
      rw [List.getLast?_cons_cons, ← ih hargs (by omega) hc, pad_append hc, List.length_cons,
        unmarschalArgList_cons _ a (hcontent a List.mem_cons_self)]
      simp only [bind, Except.bind]
      cases unmarschalArgList D (b :: args').length
          (pad m ((b :: args').flatMap Arg.marschal)) with
      | error e =>
        exact iff_of_false (by rintro ⟨_, h⟩; cases h) (by rintro ⟨_, h⟩; cases h)
      | ok p =>
        constructor
        · rintro ⟨as, h⟩
          obtain ⟨-, hnil⟩ := Prod.mk.inj (Except.ok.inj h)
          exact ⟨p.1, by rw [← hnil]⟩
        · rintro ⟨as, h⟩
          obtain rfl := Except.ok.inj h
          exact ⟨a.stored :: as, rfl⟩
    · obtain _ | ⟨b, args'⟩ := args
      · rw [List.flatMap_nil, List.append_nil]
        rw [List.flatMap_nil, List.length_nil, Nat.add_zero] at hm
        refine (unmarschalArgList_last (hcontent a List.mem_cons_self) h1 hm).trans ?_
        simp
      · rw [pad_append_of_le (Nat.not_le.mp hc).le]
        refine iff_of_false ?_ ?_
        · rintro ⟨as, h⟩
          exact unmarschalArgList_lost (hcontent a List.mem_cons_self) (by omega) h
        · rintro ⟨c, hlast, hsurvives⟩
          have hmem := List.mem_of_getLast? hlast
          rw [List.getLast?_cons_cons] at hlast
          have hle := content_le_marschal (List.mem_of_getLast? hlast)
          have := Arg.le_content_of_survives hsurvives
          omega

/-- No arguments can be read of lost bytes. -/
lemma unmarschalArgs_filled (k : ℕ) (p : Option (List Arg) × Bytes) :
    unmarschalArgs D (List.replicate k 0xFF) ≠ .ok p := by
  intro h
  obtain ⟨q, hq, h⟩ := unmarshal_bind_eq_ok.mp h
  have hread := getInt_eq_ok.mp (show getInt _ = .ok (q.1, q.2) from hq)
  have hk : 4 ≤ k := by
    have hlen := congrArg List.length hread
    rw [List.length_replicate, List.length_append, length_put] at hlen
    omega
  obtain ⟨i, rfl⟩ : ∃ i, k = 4 + i := ⟨k - 4, by omega⟩
  rw [← List.replicate_append_replicate, getInt_bytes (List.length_replicate ..)] at hq
  obtain rfl := Except.ok.inj hq
  have hvalue : BitVec.ofNat 32 (valueOf (List.replicate 4 0xFF)) = -1#32 := by decide
  dsimp only at h
  rw [hvalue, if_neg (by decide), if_neg (by decide), if_pos (by decide)] at h
  cases h

/-- A count of which a part is lost is negative, or too large. -/
lemma unmarschalArgs_lost_count (hn : n ≤ capacity) (h1 : 1 ≤ j) (h4 : j ≤ 4)
    (p : Option (List Arg) × Bytes) :
    unmarschalArgs D (pad j (putLength n) ++ rest) ≠ .ok p := by
  intro h
  have hlen : (pad j (putLength n)).length = 4 :=
    (length_pad (by rw [length_putLength]; exact h4)).trans (length_putLength n)
  rw [unmarschalArgs, getInt_bytes hlen] at h
  have hvalue := toInt_pad_length hn h1 h4
  generalize BitVec.ofNat 32 (valueOf (pad j (putLength n))) = count at h hvalue
  simp only [bind, Except.bind] at h
  rcases hvalue with ⟨-, hneg⟩ | ⟨hint, hnat⟩
  · have hzero : count ≠ 0 := by
      rintro rfl
      exact absurd hneg (by decide)
    rw [if_neg (by omega), if_neg hzero, if_pos (by omega)] at h
    cases h
  · have hlarge : 30 < count.toInt := by
      split_ifs at hnat with hj
      · omega
      · have hpow : 256 ^ 2 ≤ 256 ^ j := Nat.pow_le_pow_right (by decide) (by omega)
        omega
    rw [if_pos hlarge] at h
    cases h

lemma marschalArgs_eq (args : Option (List Arg)) : marschalArgs args =
    putLength (args.getD []).length ++ (args.getD []).flatMap Arg.marschal := by
  unfold marschalArgs
  split_ifs with h
  · rw [h, List.flatMap_nil, List.append_nil]
    rfl
  · rfl

/-- **The arguments with their count.** -/
lemma unmarschalArgs_pad {args : Option (List Arg)}
    (hn : (marschalArgs args).length ≤ capacity) (h1 : 1 ≤ m)
    (hm : m ≤ (marschalArgs args).length) :
    (∃ as, unmarschalArgs D (pad m (marschalArgs args)) = .ok (as, [])) ↔
      (args.getD []).length ≤ 30 ∧ ∃ a ∈ (args.getD []).getLast?, a.SurvivesLoss m := by
  rw [marschalArgs_eq] at hn hm ⊢
  generalize args.getD [] = l at hn hm ⊢
  rw [List.length_append, length_putLength] at hn hm
  have hcount := length_le_marschal l
  by_cases hc : m ≤ (l.flatMap Arg.marschal).length
  · have hl : l ≠ [] := by
      rintro rfl
      exact absurd (h1.trans hc) (Nat.not_succ_le_zero 0)
    obtain ⟨hnat, hint⟩ := length_toNat (n := l.length) (by omega)
    have hne : BitVec.ofNat 32 l.length ≠ 0 := by
      intro h0
      rw [h0] at hnat
      exact hl (List.eq_nil_of_length_eq_zero hnat.symm)
    rw [pad_append hc, unmarschalArgs, putLength, getInt_put]
    simp only [bind, Except.bind, hint, hnat]
    by_cases hmany : 30 < l.length
    · rw [if_pos (by exact_mod_cast hmany)]
      exact iff_of_false (by rintro ⟨_, h⟩; cases h) fun h => absurd h.1 (Nat.not_le.mpr hmany)
    · rw [if_neg (by exact_mod_cast hmany), if_neg hne, if_neg (by omega),
        ← unmarschalArgList_pad (D := D) hl (by omega) h1 hc]
      cases unmarschalArgList D l.length (pad m (l.flatMap Arg.marschal)) with
      | error e =>
        exact iff_of_false (by rintro ⟨_, h⟩; cases h) (by rintro ⟨-, _, h⟩; cases h)
      | ok p =>
        constructor
        · rintro ⟨as, h⟩
          obtain ⟨-, hnil⟩ := Prod.mk.inj (Except.ok.inj h)
          exact ⟨Nat.not_lt.mp hmany, p.1, by rw [← hnil]⟩
        · rintro ⟨-, as, h⟩
          obtain rfl := Except.ok.inj h
          exact ⟨some as, rfl⟩
  · refine iff_of_false ?_ ?_
    · rintro ⟨as, h⟩
      rw [pad_append_of_le (Nat.not_le.mp hc).le] at h
      exact unmarschalArgs_lost_count (by omega) (by omega) (by omega) _ h
    · rintro ⟨-, a, ha, hsurvives⟩
      have hle := content_le_marschal (List.mem_of_getLast? ha)
      have := Arg.le_content_of_survives hsurvives
      omega

/-- What is read of a message is its length and as many bytes. -/
lemma unmarschalMessage_read {msg : Option Text} (h : unmarschalMessage D bb = .ok (msg, rest)) :
    ∃ len bb', getInt bb = .ok (len, bb') ∧ rest <:+ bb' ∧
      rest.length + len.toNat = bb'.length := by
  obtain ⟨p, hp, h⟩ := unmarshal_bind_eq_ok.mp h
  refine ⟨p.1, p.2, hp, ?_⟩
  dsimp only at h
  split_ifs at h with hzero
  · cases h
    rw [hzero]
    exact ⟨List.suffix_refl _, rfl⟩
  · obtain ⟨q, hq, h⟩ := unmarshal_bind_eq_ok.mp h
    obtain ⟨-, rfl⟩ := Prod.mk.inj (Except.ok.inj h)
    exact getArray_suffix hq

lemma marschalMessage_eq (msg : Option Text) :
    marschalMessage msg = marschalString (msg.getD []) := by
  unfold marschalMessage
  split_ifs with h
  · rw [h]
    rfl
  · rfl

/-- A message of which a part is lost is followed by lost bytes only. -/
lemma unmarschalMessage_lost {s : Text} {msg : Option Text}
    (hs : (Utf8.encode s).length ≤ capacity) (hj4 : j ≤ (marschalString s).length)
    (h : unmarschalMessage D (pad j (marschalString s) ++ List.replicate k 0xFF) =
      .ok (msg, rest)) : rest = List.replicate rest.length 0xFF := by
  rw [length_marschalString] at hj4
  obtain ⟨len, bb, hread, hsuffix, hlen⟩ := unmarschalMessage_read h
  by_cases hj : j ≤ (Utf8.encode s).length
  · rw [marschalString, pad_append hj, List.append_assoc, putLength, getInt_put] at hread
    obtain ⟨rfl, rfl⟩ := Prod.mk.inj (Except.ok.inj hread)
    rw [(length_toNat hs).1, List.length_append, length_pad hj] at hlen
    refine eq_replicate_of_suffix (k := k) ?_
    refine List.suffix_of_suffix_length_le hsuffix (List.suffix_append _ _) ?_
    rw [List.length_replicate] at hlen ⊢
    omega
  · have hfield :
        (pad (j - (Utf8.encode s).length) (putLength (Utf8.encode s).length)).length = 4 :=
      (length_pad (by rw [length_putLength]; omega)).trans (length_putLength _)
    rw [marschalString, pad_append_of_le (Nat.not_le.mp hj).le, List.append_assoc,
      getInt_bytes hfield] at hread
    obtain ⟨-, rfl⟩ := Prod.mk.inj (Except.ok.inj hread)
    rw [List.replicate_append_replicate] at hsuffix
    exact eq_replicate_of_suffix hsuffix

lemma unmarschalBody_filled (k : ℕ) (p : Option Text × Option (List Arg)) :
    unmarschalBody D (List.replicate k 0xFF) ≠ .ok p := by
  intro h
  obtain ⟨q, hq, h⟩ := unmarshal_bind_eq_ok.mp h
  obtain ⟨r, hr, -⟩ := unmarshal_bind_eq_ok.mp h
  obtain ⟨len, bb, hread, hsuffix, -⟩ := unmarschalMessage_read
    (show unmarschalMessage D _ = .ok (q.1, q.2) from hq)
  have hbb := getInt_eq_ok.mp hread
  have hq2 : q.2 <:+ List.replicate k 0xFF := by
    rw [hbb]
    exact hsuffix.trans (List.suffix_append _ _)
  rw [eq_replicate_of_suffix hq2] at hr
  exact unmarschalArgs_filled _ _ hr

/-- **The body of an item, the last bytes of which are lost.** -/
lemma unmarschalBody_pad {li : LogItem} (hn : li.body.length ≤ capacity) (h1 : 1 ≤ m)
    (hm : m ≤ li.body.length) (msg : Option Text) :
    (∃ as, unmarschalBody D (pad m li.body) = .ok (msg, as)) ↔
      msg = storedMessage li.mMessage ∧ (li.mArgs.getD []).length ≤ 30 ∧
        ∃ a ∈ (li.mArgs.getD []).getLast?, a.SurvivesLoss m := by
  rw [LogItem.body, List.length_append] at hn hm
  have hs : (Utf8.encode (li.mMessage.getD [])).length ≤ capacity := by
    rw [marschalMessage_eq, length_marschalString] at hn
    omega
  by_cases hc : m ≤ (marschalArgs li.mArgs).length
  · rw [LogItem.body, pad_append hc, unmarschalBody, unmarschalMessage_marschal hs,
      ← unmarschalArgs_pad (D := D) (by omega) h1 hc]
    simp only [bind, Except.bind]
    cases unmarschalArgs D (pad m (marschalArgs li.mArgs)) with
    | error e =>
      exact iff_of_false (by rintro ⟨_, h⟩; cases h) (by rintro ⟨-, _, h⟩; cases h)
    | ok p =>
      dsimp only
      split_ifs with hnil
      · constructor
        · rintro ⟨as, h⟩
          obtain ⟨rfl, -⟩ := Prod.mk.inj (Except.ok.inj h)
          exact ⟨rfl, p.1, by rw [← hnil]⟩
        · rintro ⟨rfl, -⟩
          exact ⟨p.1, rfl⟩
      · refine iff_of_false (by rintro ⟨_, h⟩; cases h) ?_
        rintro ⟨-, as, h⟩
        exact hnil (congrArg Prod.snd (Except.ok.inj h))
  · refine iff_of_false ?_ ?_
    · rintro ⟨as, h⟩
      obtain ⟨q, hq, h⟩ := unmarshal_bind_eq_ok.mp h
      obtain ⟨r, hr, -⟩ := unmarshal_bind_eq_ok.mp h
      rw [LogItem.body, pad_append_of_le (Nat.not_le.mp hc).le, marschalMessage_eq] at hq
      rw [marschalMessage_eq] at hm
      have hrest := unmarschalMessage_lost hs (by omega)
        (show unmarschalMessage D _ = .ok (q.1, q.2) from hq)
      rw [hrest] at hr
      exact unmarschalArgs_filled _ _ hr
    · rintro ⟨-, -, a, ha, hsurvives⟩
      have hle := content_le_marschal (List.mem_of_getLast? ha)
      have := Arg.le_content_of_survives hsurvives
      rw [marschalArgs_eq, List.length_append] at hc
      omega

lemma LogItem.le_body_of_survives {li : LogItem} (h : li.SurvivesLoss m) :
    m ≤ li.body.length := by
  obtain ⟨a, ha, hsurvives⟩ := h.last
  have hle := content_le_marschal (List.mem_of_getLast? ha)
  have := Arg.le_content_of_survives hsurvives
  rw [LogItem.body, marschalArgs_eq, List.length_append, List.length_append]
  omega

/-- **What is read of an item**: its fields, with a first byte that is not looked at, and a body. -/
lemma ofBytes_fields {input : Bytes} {length : ℤ} {item : LogItem}
    (h : ofBytes D input length = .ok item) :
    ∃ (first : BitVec 8) (level : BitVec 32) (bb : Bytes)
      (body : Option Text × Option (List Arg)),
      input.take length.toNat = put 1 first ++ (put 8 item.logtime ++ (put 4 item.mVerbosityLevel ++
        (put 4 level ++ (put 4 item.mRessourceId ++ bb)))) ∧
      item.mLevel = LogLevel.getEnumByValue level ∧ unmarschalBody D bb = .ok body := by
  unfold ofBytes at h
  split_ifs at h
  obtain ⟨p, hp, h⟩ := unmarshal_bind_eq_ok.mp h
  obtain ⟨q, hq, h⟩ := unmarshal_bind_eq_ok.mp h
  obtain ⟨r, hr, h⟩ := unmarshal_bind_eq_ok.mp h
  obtain ⟨s, hs, h⟩ := unmarshal_bind_eq_ok.mp h
  obtain ⟨t, ht, h⟩ := unmarshal_bind_eq_ok.mp h
  obtain ⟨body, hbody, h⟩ := unmarshal_bind_eq_ok.mp h
  have hp := getByte_eq_ok.mp (show getByte _ = .ok (p.1, p.2) from hp)
  have hq := getLong_eq_ok.mp (show getLong _ = .ok (q.1, q.2) from hq)
  have hr := getInt_eq_ok.mp (show getInt _ = .ok (r.1, r.2) from hr)
  have hs := getInt_eq_ok.mp (show getInt _ = .ok (s.1, s.2) from hs)
  have ht := getInt_eq_ok.mp (show getInt _ = .ok (t.1, t.2) from ht)
  obtain rfl : _ = item := Except.ok.inj h
  exact ⟨p.1, s.1, t.2, body, by rw [hp, hq, hr, hs, ht], rfl, hbody⟩

/-- What is read of an item is a header of 21 bytes and a body. -/
lemma ofBytes_read {input : Bytes} {length : ℤ} {item : LogItem}
    (h : ofBytes D input length = .ok item) :
    ∃ bytes bb body, input.take length.toNat = bytes ++ bb ∧ bytes.length = 21 ∧
      unmarschalBody D bb = .ok body := by
  obtain ⟨first, level, bb, body, hbytes, -, hbody⟩ := ofBytes_fields h
  refine ⟨put 1 first ++ (put 8 item.logtime ++ (put 4 item.mVerbosityLevel ++
    (put 4 level ++ put 4 item.mRessourceId))), bb, body, ?_, ?_, hbody⟩
  · rw [hbytes]
    simp only [List.append_assoc]
  · simp only [List.length_append, length_put]

/-- An item that was written passes `verify` unless it has no message and no resource. -/
lemma verify_stored {msg : Option Text} {args : Option (List Arg)} {t : BitVec 64}
    {v r : BitVec 32} {level : LogLevel} :
    (LogItem.mk args (storedMessage msg) r (LogLevel.getEnumByValue level.getInt) t v).verify =
      true ↔ ¬ (msg.getD [] = [] ∧ r = 0) := by
  have hnone : (storedMessage msg).isNone = true ↔ msg.getD [] = [] := by
    unfold storedMessage
    split_ifs with h
    · exact iff_of_true rfl h
    · refine iff_of_false ?_ h
      cases msg with
      | none => exact absurd rfl h
      | some s => exact nofun
  rw [LogItem.verify, LogLevel.getEnumByValue_getInt]
  simp only [Option.isSome_some, Bool.true_and, Bool.not_eq_true', ← Bool.not_eq_true,
    Bool.and_eq_true, decide_eq_true_eq, hnone]

/-- **What is restored of an item whose last bytes are lost.** The bytes that are read in their
place make an item of it if and only if the loss is within the value of the last argument. -/
theorem ofBytes_pad {li : LogItem} {bytes : Bytes} (hbytes : li.getMarschaledBytes = .ok bytes)
    (h1 : 1 ≤ m) (hm : m ≤ bytes.length) :
    (∃ item, ofBytes D (pad m bytes) bytes.length = .ok item ∧ item.verify = true) ↔
      li.SurvivesLoss m := by
  obtain ⟨level, -, hlen, hb⟩ := getMarschaledBytes_eq_ok.mp hbytes
  have hbody : bytes.length = 21 + li.body.length := by
    rw [hb, List.length_append, length_header]
  have htake : (pad m bytes).take (bytes.length : ℤ).toNat = pad m bytes := by
    rw [Int.toNat_natCast, ← length_pad hm, List.take_length]
  by_cases hc : m ≤ li.body.length
  · have hread : ofBytes D (pad m bytes) bytes.length = _ :=
      ofBytes_header li.logtime li.mVerbosityLevel level.getInt li.mRessourceId
        (Int.natCast_nonneg _) (by rw [length_pad hm]) (by rw [htake, hb, pad_append hc])
    rw [hread]
    have hdecoded := fun msg => unmarschalBody_pad (D := D) (by omega) h1 hc msg
    constructor
    · rintro ⟨item, h, hverify⟩
      cases hbody : unmarschalBody D (pad m li.body) with
      | error e =>
        rw [hbody] at h
        cases h
      | ok body =>
        rw [hbody] at h
        obtain rfl := Except.ok.inj h
        obtain ⟨hmsg, hfew, hlast⟩ := (hdecoded body.1).mp ⟨body.2, hbody⟩
        dsimp only at hverify
        rw [hmsg, verify_stored] at hverify
        exact ⟨hlast, hfew, hverify⟩
    · intro h
      obtain ⟨as, has⟩ := (hdecoded (storedMessage li.mMessage)).mpr ⟨rfl, h.args, h.last⟩
      rw [has]
      exact ⟨_, rfl, verify_stored.mpr h.verify⟩
  · refine iff_of_false ?_ fun h => ?_
    · rintro ⟨item, h, -⟩
      obtain ⟨head, bb, body, htake', hhead, hbb⟩ := ofBytes_read h
      rw [htake, hb, pad_append_of_le (Nat.not_le.mp hc).le] at htake'
      obtain ⟨-, rfl⟩ := List.append_inj htake' (by
        rw [length_pad (by rw [length_header]; omega), length_header, hhead])
      exact unmarschalBody_filled _ _ hbb
    · exact hc (LogItem.le_body_of_survives h)

end BuludTechVPN.LogCache
