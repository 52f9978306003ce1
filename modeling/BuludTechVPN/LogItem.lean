import BuludTechVPN.ByteBuffer
import BuludTechVPN.JavaLang
import BuludTechVPN.Utf8

/-!
`LogItem`: the bytes that a line of the log is marshalled to, and the item that is made of bytes.

A number keeps its bits, and so do the two kinds of floating-point numbers. What the decoder of
UTF-8 does with malformed bytes is a parameter.
-/

namespace BuludTechVPN.LogCache

open JavaLang ByteBuffer

/-! ### Items -/

/-- `VpnStatus.LogLevel`. -/
inductive LogLevel
  | info
  | error
  | warning
  | verbose
  | debug
  deriving DecidableEq, Repr

namespace LogLevel

def getInt : LogLevel → BitVec 32
  | info => 2
  | error => -2
  | warning => 1
  | verbose => 3
  | debug => 4

/-- `getEnumByValue`, none for null. -/
def getEnumByValue (value : BitVec 32) : Option LogLevel :=
  [info, error, warning, verbose, debug].find? fun level => level.getInt = value

lemma getEnumByValue_getInt (level : LogLevel) :
    getEnumByValue level.getInt = some level := by
  cases level <;> decide

end LogLevel

/-- An argument of a message: an object of a class that is marshalled, null, or another object
with the text that it is written as. -/
inductive Arg
  | string (s : Text)
  | integer (i : BitVec 32)
  | float (f : BitVec 32)
  | double (d : BitVec 64)
  | long (l : BitVec 64)
  | null
  | other (s : Text)
  deriving DecidableEq, Repr

structure LogItem where
  mArgs : Option (List Arg)
  mMessage : Option Text
  mRessourceId : BitVec 32
  mLevel : Option LogLevel
  logtime : BitVec 64
  mVerbosityLevel : BitVec 32
  deriving DecidableEq, Repr

/-- `verify`. -/
def LogItem.verify (li : LogItem) : Bool :=
  li.mLevel.isSome && !(li.mMessage.isNone && li.mRessourceId = 0)

/-! ### Marshalling -/

/-- `putInt`, of a length. -/
def putLength (n : ℕ) : Bytes := put 4 (BitVec.ofNat 32 n)

/-- `putChar`. -/
def putChar (c : Char) : Bytes := put 2 (BitVec.ofNat 16 c.toNat)

def marschalString (str : Text) : Bytes :=
  putLength (Utf8.encode str).length ++ Utf8.encode str

/-- The tag of an argument and its content. -/
def Arg.marschal : Arg → Bytes
  | string s | other s => putChar 's' ++ marschalString s
  | integer i => putChar 'i' ++ put 4 i
  | float f => putChar 'f' ++ put 4 f
  | double d => putChar 'd' ++ put 8 d
  | long l => putChar 'l' ++ put 8 l
  | null => putChar '0'

/-- The message, which is written as the length 0 if it is null or empty. -/
def marschalMessage (mMessage : Option Text) : Bytes :=
  if mMessage.getD [] = [] then putLength 0 else marschalString (mMessage.getD [])

def marschalArgs (mArgs : Option (List Arg)) : Bytes :=
  if mArgs.getD [] = [] then putLength 0
  else putLength (mArgs.getD []).length ++ (mArgs.getD []).flatMap Arg.marschal

/-- The capacity of the buffer. -/
def capacity : ℕ := 16384

/-- `getMarschaledBytes`. -/
def LogItem.getMarschaledBytes (li : LogItem) : Call Bytes := do
  let level ← nonNull li.mLevel
  let bytes := put 1 (0 : BitVec 8) ++ put 8 li.logtime ++ put 4 li.mVerbosityLevel ++
    put 4 level.getInt ++ put 4 li.mRessourceId ++ marschalMessage li.mMessage ++
    marschalArgs li.mArgs
  if bytes.length ≤ capacity then return bytes else .error .bufferOverflow

/-! ### Unmarshalling -/

/-- What the constructor throws. -/
inductive Malformed
  | bufferUnderflow
  | negativeArraySize
  | indexOutOfBounds (msg : Option Text)
  | unsupportedEncoding (msg : Text)
  deriving DecidableEq, Repr

/-- The class of the exception; an `UnsupportedEncodingException` is an `IOException`. -/
def Malformed.abrupt : Malformed → Abrupt
  | bufferUnderflow => .bufferUnderflow
  | negativeArraySize => .negativeArraySize
  | indexOutOfBounds _ => .indexOutOfBounds
  | unsupportedEncoding _ => .io

abbrev Unmarshal := Except Malformed

lemma unmarshal_bind_eq_ok {α β : Type} {x : Unmarshal α} {f : α → Unmarshal β} {b : β} :
    x >>= f = .ok b ↔ ∃ a, x = .ok a ∧ f a = .ok b := by
  cases x with
  | error e => exact iff_of_false nofun (by rintro ⟨a, ha, -⟩; cases ha)
  | ok a =>
    refine ⟨fun h => ⟨a, rfl, h⟩, ?_⟩
    rintro ⟨a', ha, h⟩
    cases ha
    exact h

/-- A read of the buffer. -/
def orUnderflow {α : Type} : Option α → Unmarshal α
  | some a => .ok a
  | none => .error .bufferUnderflow

def getByte (bb : Bytes) : Unmarshal (BitVec 8 × Bytes) := orUnderflow (get 8 1 bb)
def getChar (bb : Bytes) : Unmarshal (BitVec 16 × Bytes) := orUnderflow (get 16 2 bb)
def getInt (bb : Bytes) : Unmarshal (BitVec 32 × Bytes) := orUnderflow (get 32 4 bb)
def getLong (bb : Bytes) : Unmarshal (BitVec 64 × Bytes) := orUnderflow (get 64 8 bb)

/-- `new byte[len]` and `get` of as many bytes. -/
def getArray (len : BitVec 32) (bb : Bytes) : Unmarshal (Bytes × Bytes) :=
  if len.toInt < 0 then .error .negativeArraySize else orUnderflow (take len.toNat bb)

def lengthMessage (len : BitVec 32) (remaining : ℕ) : Text :=
  "String length ".toList ++ showInt len.toInt ++ " is bigger than remaining bytes ".toList ++
    showInt remaining

def argumentsMessage : Text := "Too many arguments for Logitem to unmarschal".toList

def formatMessage (type : BitVec 16) : Text :=
  "Unknown format type: ".toList ++ [Char.ofNat type.toNat]

def leftMessage (remaining : ℕ) : Text :=
  showInt remaining ++ " bytes left after unmarshaling everything".toList

variable (D : Utf8.Decoder)

def unmarschalString (bb : Bytes) : Unmarshal (Text × Bytes) := do
  let (len, bb) ← getInt bb
  let (utf8bytes, bb) ← getArray len bb
  return (D.decode utf8bytes, bb)

/-- The reading of the message. -/
def unmarschalMessage (bb : Bytes) : Unmarshal (Option Text × Bytes) := do
  let (len, bb) ← getInt bb
  if len = 0 then return (none, bb)
  else if (bb.length : ℤ) < len.toInt then
    .error (.indexOutOfBounds (some (lengthMessage len bb.length)))
  else
    let (utf8bytes, bb) ← getArray len bb
    return (some (D.decode utf8bytes), bb)

/-- The content of an argument, by its tag. -/
def unmarschalArg (type : BitVec 16) (bb : Bytes) : Unmarshal (Arg × Bytes) :=
  if type.toNat = 's'.toNat then do
    let (s, bb) ← unmarschalString D bb
    return (.string s, bb)
  else if type.toNat = 'i'.toNat then do
    let (i, bb) ← getInt bb
    return (.integer i, bb)
  else if type.toNat = 'd'.toNat then do
    let (d, bb) ← getLong bb
    return (.double d, bb)
  else if type.toNat = 'f'.toNat then do
    let (f, bb) ← getInt bb
    return (.float f, bb)
  else if type.toNat = 'l'.toNat then do
    let (l, bb) ← getLong bb
    return (.long l, bb)
  else if type.toNat = '0'.toNat then return (.null, bb)
  else .error (.unsupportedEncoding (formatMessage type))

/-- The loop over the arguments. -/
def unmarschalArgList : ℕ → Bytes → Unmarshal (List Arg × Bytes)
  | 0, bb => .ok ([], bb)
  | n + 1, bb => do
    let (type, bb) ← getChar bb
    let (arg, bb) ← unmarschalArg D type bb
    let (args, bb) ← unmarschalArgList n bb
    return (arg :: args, bb)

/-- The reading of the arguments. -/
def unmarschalArgs (bb : Bytes) : Unmarshal (Option (List Arg) × Bytes) := do
  let (numArgs, bb) ← getInt bb
  if 30 < numArgs.toInt then .error (.indexOutOfBounds (some argumentsMessage))
  else if numArgs = 0 then return (none, bb)
  else if numArgs.toInt < 0 then .error .negativeArraySize
  else
    let (args, bb) ← unmarschalArgList D numArgs.toNat bb
    return (some args, bb)

/-- The message, the arguments and the end of the buffer. -/
def unmarschalBody (bb : Bytes) : Unmarshal (Option Text × Option (List Arg)) := do
  let (mMessage, bb) ← unmarschalMessage D bb
  let (mArgs, bb) ← unmarschalArgs D bb
  if bb = [] then return (mMessage, mArgs)
  else .error (.unsupportedEncoding (leftMessage bb.length))

/-- `new LogItem(in, length)`. -/
def ofBytes (input : Bytes) (length : ℤ) : Unmarshal LogItem :=
  if length < 0 ∨ (input.length : ℤ) < length then .error (.indexOutOfBounds none)
  else do
    let (_, bb) ← getByte (input.take length.toNat)
    let (logtime, bb) ← getLong bb
    let (mVerbosityLevel, bb) ← getInt bb
    let (level, bb) ← getInt bb
    let (mRessourceId, bb) ← getInt bb
    let (mMessage, mArgs) ← unmarschalBody D bb
    return ⟨mArgs, mMessage, mRessourceId, LogLevel.getEnumByValue level, logtime,
      mVerbosityLevel⟩

/-! ### Reading what was written -/

variable {D} {bb rest bytes : Bytes}

/-- **A read of a number** says what the buffer holds. -/
lemma orUnderflow_get {w k : ℕ} (hw : w = 8 * k) {x : BitVec w} :
    orUnderflow (get w k bb) = .ok (x, rest) ↔ bb = put k x ++ rest := by
  rw [← get_eq_some hw]
  cases get w k bb with
  | none => exact iff_of_false nofun nofun
  | some p =>
    rw [orUnderflow, Option.some.injEq]
    exact ⟨Except.ok.inj, fun h => h ▸ rfl⟩

lemma getByte_eq_ok {x : BitVec 8} : getByte bb = .ok (x, rest) ↔ bb = put 1 x ++ rest :=
  orUnderflow_get (w := 8) (k := 1) (by decide)

lemma getChar_eq_ok {x : BitVec 16} : getChar bb = .ok (x, rest) ↔ bb = put 2 x ++ rest :=
  orUnderflow_get (w := 16) (k := 2) (by decide)

lemma getInt_eq_ok {x : BitVec 32} : getInt bb = .ok (x, rest) ↔ bb = put 4 x ++ rest :=
  orUnderflow_get (w := 32) (k := 4) (by decide)

lemma getLong_eq_ok {x : BitVec 64} : getLong bb = .ok (x, rest) ↔ bb = put 8 x ++ rest :=
  orUnderflow_get (w := 64) (k := 8) (by decide)

@[simp] lemma getByte_put (x : BitVec 8) : getByte (put 1 x ++ rest) = .ok (x, rest) :=
  getByte_eq_ok.mpr rfl

@[simp] lemma getChar_put (x : BitVec 16) : getChar (put 2 x ++ rest) = .ok (x, rest) :=
  getChar_eq_ok.mpr rfl

@[simp] lemma getInt_put (x : BitVec 32) : getInt (put 4 x ++ rest) = .ok (x, rest) :=
  getInt_eq_ok.mpr rfl

@[simp] lemma getLong_put (x : BitVec 64) : getLong (put 8 x ++ rest) = .ok (x, rest) :=
  getLong_eq_ok.mpr rfl

/-- A length that fits into the buffer is read as it was written. -/
lemma length_toNat {n : ℕ} (hn : n ≤ capacity) :
    (BitVec.ofNat 32 n).toNat = n ∧ (BitVec.ofNat 32 n).toInt = n := by
  unfold capacity at hn
  have hnat : (BitVec.ofNat 32 n).toNat = n := by
    rw [BitVec.toNat_ofNat]
    omega
  refine ⟨hnat, ?_⟩
  rw [BitVec.toInt_eq_toNat_cond, hnat]
  omega

lemma getArray_append (hn : bytes.length ≤ capacity) :
    getArray (BitVec.ofNat 32 bytes.length) (bytes ++ rest) = .ok (bytes, rest) := by
  obtain ⟨hnat, hint⟩ := length_toNat hn
  rw [getArray, hint, if_neg (by omega), hnat, take_append rfl]
  rfl

lemma unmarschalString_marschal {s : Text} (hn : (Utf8.encode s).length ≤ capacity) :
    unmarschalString D (marschalString s ++ rest) = .ok (s, rest) := by
  rw [unmarschalString, marschalString, putLength, List.append_assoc, getInt_put]
  simp only [bind, Except.bind, getArray_append hn, Utf8.Decoder.decode_encode]
  rfl

lemma encode_ne_nil {s : Text} (h : s ≠ []) : Utf8.encode s ≠ [] := by
  cases s with
  | nil => exact absurd rfl h
  | cons c s =>
    obtain ⟨b, bs, hc, -⟩ := Utf8.exists_encodeChar c
    rw [Utf8.encode_cons, hc]
    exact List.cons_ne_nil _ _

/-- What a message is stored as: an empty one is null. -/
def storedMessage (mMessage : Option Text) : Option Text :=
  if mMessage.getD [] = [] then none else mMessage

lemma unmarschalMessage_marschal {m : Option Text}
    (hn : (Utf8.encode (m.getD [])).length ≤ capacity) :
    unmarschalMessage D (marschalMessage m ++ rest) = .ok (storedMessage m, rest) := by
  unfold marschalMessage storedMessage
  split_ifs with hm
  · rw [unmarschalMessage, putLength, getInt_put]
    rfl
  · obtain ⟨s, rfl⟩ : ∃ s, m = some s := by
      cases m with
      | none => exact absurd rfl hm
      | some s => exact ⟨s, rfl⟩
    rw [Option.getD_some] at hm hn ⊢
    obtain ⟨hnat, hint⟩ := length_toNat hn
    have hne : BitVec.ofNat 32 (Utf8.encode s).length ≠ 0 := by
      intro h0
      rw [h0] at hnat
      exact encode_ne_nil hm (List.eq_nil_of_length_eq_zero hnat.symm)
    have hle : ¬ ((Utf8.encode s ++ rest).length : ℤ) < (Utf8.encode s).length := by
      rw [List.length_append]
      omega
    rw [unmarschalMessage, marschalString, putLength, List.append_assoc, getInt_put]
    simp only [bind, Except.bind, hint, if_neg hne, if_neg hle, getArray_append hn,
      Utf8.Decoder.decode_encode]
    rfl

/-- What an argument is stored as: an object of another class is its text. -/
def Arg.stored : Arg → Arg
  | other s => string s
  | a => a

/-- The bytes of an argument after its tag. -/
def Arg.content : Arg → Bytes
  | string s | other s => marschalString s
  | integer i => put 4 i
  | float f => put 4 f
  | double d => put 8 d
  | long l => put 8 l
  | null => []

def Arg.tag : Arg → Char
  | string _ | other _ => 's'
  | integer _ => 'i'
  | float _ => 'f'
  | double _ => 'd'
  | long _ => 'l'
  | null => '0'

lemma Arg.marschal_eq (a : Arg) : a.marschal = putChar a.tag ++ a.content := by
  cases a with
  | null => exact (List.append_nil _).symm
  | string s | other s | integer i | float f | double d | long l => rfl

variable (D) in
/-- The reading of the content of an argument, by the argument. -/
def Arg.read : Arg → Bytes → Unmarshal (Arg × Bytes)
  | string _, bb | other _, bb => do
    let (s, bb) ← unmarschalString D bb
    return (.string s, bb)
  | integer _, bb => do
    let (i, bb) ← getInt bb
    return (.integer i, bb)
  | float _, bb => do
    let (f, bb) ← getInt bb
    return (.float f, bb)
  | double _, bb => do
    let (d, bb) ← getLong bb
    return (.double d, bb)
  | long _, bb => do
    let (l, bb) ← getLong bb
    return (.long l, bb)
  | null, bb => return (.null, bb)

/-- **The tag of an argument** says how its content is read. -/
lemma unmarschalArg_tag (a : Arg) (bb : Bytes) :
    unmarschalArg D (BitVec.ofNat 16 a.tag.toNat) bb = a.read D bb := by
  cases a with
  | string s | other s =>
    show unmarschalArg D (BitVec.ofNat 16 's'.toNat) bb = _
    rw [unmarschalArg, if_pos (by decide)]
    rfl
  | integer i =>
    show unmarschalArg D (BitVec.ofNat 16 'i'.toNat) bb = _
    rw [unmarschalArg, if_neg (by decide), if_pos (by decide)]
    rfl
  | float f =>
    show unmarschalArg D (BitVec.ofNat 16 'f'.toNat) bb = _
    rw [unmarschalArg, if_neg (by decide), if_neg (by decide), if_neg (by decide),
      if_pos (by decide)]
    rfl
  | double d =>
    show unmarschalArg D (BitVec.ofNat 16 'd'.toNat) bb = _
    rw [unmarschalArg, if_neg (by decide), if_neg (by decide), if_pos (by decide)]
    rfl
  | long l =>
    show unmarschalArg D (BitVec.ofNat 16 'l'.toNat) bb = _
    rw [unmarschalArg, if_neg (by decide), if_neg (by decide), if_neg (by decide),
      if_neg (by decide), if_pos (by decide)]
    rfl
  | null =>
    show unmarschalArg D (BitVec.ofNat 16 '0'.toNat) bb = _
    rw [unmarschalArg, if_neg (by decide), if_neg (by decide), if_neg (by decide),
      if_neg (by decide), if_neg (by decide), if_pos (by decide)]
    rfl

/-- **An argument is read back**. -/
lemma Arg.read_content (a : Arg) (hn : a.content.length ≤ capacity) :
    a.read D (a.content ++ rest) = .ok (a.stored, rest) := by
  cases a with
  | string s | other s =>
    have hs : (Utf8.encode s).length ≤ capacity := by
      rw [Arg.content, marschalString, List.length_append] at hn
      omega
    rw [Arg.read, Arg.content, unmarschalString_marschal hs]
    rfl
  | integer i | float f =>
    rw [Arg.read, Arg.content, getInt_put]
    rfl
  | double d | long l =>
    rw [Arg.read, Arg.content, getLong_put]
    rfl
  | null => rfl

/-- The loop reads one argument and goes on. -/
lemma unmarschalArgList_cons (n : ℕ) (a : Arg) (hn : a.content.length ≤ capacity) :
    unmarschalArgList D (n + 1) (a.marschal ++ rest) = (do
      let (args, bb) ← unmarschalArgList D n rest
      return (a.stored :: args, bb)) := by
  rw [unmarschalArgList, Arg.marschal_eq, List.append_assoc, putChar, getChar_put]
  simp only [bind, Except.bind, unmarschalArg_tag, Arg.read_content a hn]

lemma unmarschalArgList_marschal (args : List Arg)
    (hn : ∀ a ∈ args, a.content.length ≤ capacity) :
    unmarschalArgList D args.length (args.flatMap Arg.marschal ++ rest) =
      .ok (args.map Arg.stored, rest) := by
  induction args with
  | nil => rfl
  | cons a args ih =>
    rw [List.length_cons, List.flatMap_cons, List.append_assoc,
      unmarschalArgList_cons _ a (hn a List.mem_cons_self),
      ih fun b hb => hn b (List.mem_cons_of_mem _ hb)]
    rfl

/-- What the arguments are stored as: an empty array is null. -/
def storedArgs (mArgs : Option (List Arg)) : Option (List Arg) :=
  if mArgs.getD [] = [] then none else some ((mArgs.getD []).map Arg.stored)

lemma length_le_marschal (args : List Arg) :
    args.length ≤ (args.flatMap Arg.marschal).length := by
  induction args with
  | nil => exact le_rfl
  | cons a args ih =>
    rw [List.flatMap_cons, List.length_cons, List.length_append, Arg.marschal_eq,
      List.length_append, putChar, length_put]
    omega

lemma content_le_marschal {args : List Arg} {a : Arg} (ha : a ∈ args) :
    a.content.length ≤ (args.flatMap Arg.marschal).length := by
  obtain ⟨l, r, rfl⟩ := List.append_of_mem ha
  simp only [List.flatMap_append, List.flatMap_cons, List.length_append, Arg.marschal_eq]
  omega

/-- **The arguments are read back**, unless there are more than 30. -/
lemma unmarschalArgs_marschal {m : Option (List Arg)}
    (hn : (marschalArgs m).length ≤ capacity) :
    unmarschalArgs D (marschalArgs m ++ rest) =
      if 30 < (m.getD []).length then .error (.indexOutOfBounds (some argumentsMessage))
      else .ok (storedArgs m, rest) := by
  unfold marschalArgs at hn ⊢
  unfold storedArgs
  by_cases hm : m.getD [] = []
  · rw [if_pos hm, if_pos hm, hm, unmarschalArgs, putLength, getInt_put]
    rfl
  rw [if_neg hm] at hn ⊢
  rw [if_neg hm]
  generalize m.getD [] = args at hn hm ⊢
  rw [List.length_append] at hn
  have hlen := length_le_marschal args
  obtain ⟨hnat, hint⟩ := length_toNat (n := args.length) (by omega)
  have hne : BitVec.ofNat 32 args.length ≠ 0 := by
    intro h0
    rw [h0] at hnat
    exact hm (List.eq_nil_of_length_eq_zero hnat.symm)
  rw [unmarschalArgs, putLength, List.append_assoc, getInt_put]
  simp only [bind, Except.bind, hint, hnat]
  by_cases hmany : 30 < args.length
  · rw [if_pos hmany, if_pos (by exact_mod_cast hmany)]
  · rw [if_neg hmany, if_neg (by exact_mod_cast hmany), if_neg hne, if_neg (by omega),
      unmarschalArgList_marschal args fun a ha => (content_le_marschal ha).trans (by omega)]
    rfl

/-- What an item is stored as. -/
def LogItem.stored (li : LogItem) : LogItem :=
  { li with mMessage := storedMessage li.mMessage, mArgs := storedArgs li.mArgs }

/-- The bytes before the message. -/
def header (logtime : BitVec 64) (mVerbosityLevel level mRessourceId : BitVec 32) : Bytes :=
  put 1 (0 : BitVec 8) ++ put 8 logtime ++ put 4 mVerbosityLevel ++ put 4 level ++
    put 4 mRessourceId

/-- The bytes of an item after its header. -/
def LogItem.body (li : LogItem) : Bytes := marschalMessage li.mMessage ++ marschalArgs li.mArgs

lemma length_header (t : BitVec 64) (v l r : BitVec 32) : (header t v l r).length = 21 := by
  simp only [header, List.length_append, length_put]

/-- **What is written**: a header and a body that fit into the buffer. -/
lemma getMarschaledBytes_eq_ok {li : LogItem} : li.getMarschaledBytes = .ok bytes ↔
    ∃ level, li.mLevel = some level ∧ bytes.length ≤ capacity ∧
      bytes = header li.logtime li.mVerbosityLevel level.getInt li.mRessourceId ++ li.body := by
  unfold LogItem.getMarschaledBytes header LogItem.body
  rw [bind_eq_ok]
  constructor
  · rintro ⟨level, hlevel, h⟩
    dsimp only at h
    split_ifs at h with hlen
    obtain rfl := Except.ok.inj h
    refine ⟨level, nonNull_eq_ok.mp hlevel, hlen, ?_⟩
    simp only [List.append_assoc]
  · rintro ⟨level, hlevel, hlen, rfl⟩
    refine ⟨level, nonNull_eq_ok.mpr hlevel, ?_⟩
    simp only [← List.append_assoc] at hlen ⊢
    rw [if_pos hlen]
    rfl

/-- After a header, the body decides. -/
lemma ofBytes_header {input : Bytes} {length : ℤ} (t : BitVec 64) (v l r : BitVec 32)
    (h0 : 0 ≤ length) (hlen : length ≤ input.length)
    (hin : input.take length.toNat = header t v l r ++ bb) :
    ofBytes D input length = (unmarschalBody D bb).map fun body =>
      ⟨body.2, body.1, r, LogLevel.getEnumByValue l, t, v⟩ := by
  rw [ofBytes, if_neg (by omega), hin, header]
  simp only [List.append_assoc, getByte_put, getLong_put, getInt_put, bind, Except.bind]
  cases unmarschalBody D bb with
  | error e => rfl
  | ok body => rfl

/-- The body of an item is read back, and nothing is left of it. -/
lemma unmarschalBody_marschal {li : LogItem} (hn : li.body.length ≤ capacity) :
    unmarschalBody D li.body =
      if 30 < (li.mArgs.getD []).length then .error (.indexOutOfBounds (some argumentsMessage))
      else .ok (storedMessage li.mMessage, storedArgs li.mArgs) := by
  rw [LogItem.body, List.length_append] at hn
  have hmessage : (Utf8.encode (li.mMessage.getD [])).length ≤ capacity := by
    by_cases hm : li.mMessage.getD [] = []
    · rw [hm, Utf8.encode_nil]
      exact Nat.zero_le _
    · rw [marschalMessage, if_neg hm, marschalString, List.length_append] at hn
      omega
  have hargs : unmarschalArgs D (marschalArgs li.mArgs ++ []) = _ :=
    unmarschalArgs_marschal (by omega)
  rw [List.append_nil] at hargs
  rw [unmarschalBody, LogItem.body, unmarschalMessage_marschal hmessage]
  simp only [bind, Except.bind, hargs]
  split_ifs
  · rfl
  · rfl

/-- **What is made of the bytes of an item**: what it is stored as, unless it has more than 30
arguments. -/
theorem ofBytes_marschaled {li : LogItem} (hbytes : li.getMarschaledBytes = .ok bytes)
    (rest : Bytes) : ofBytes D (bytes ++ rest) bytes.length =
      if 30 < (li.mArgs.getD []).length then .error (.indexOutOfBounds (some argumentsMessage))
      else .ok li.stored := by
  obtain ⟨level, hlevel, hlen, hb⟩ := getMarschaledBytes_eq_ok.mp hbytes
  have hbody : li.body.length ≤ capacity := by
    rw [hb, List.length_append] at hlen
    omega
  have hin : (bytes ++ rest).take (bytes.length : ℤ).toNat =
      header li.logtime li.mVerbosityLevel level.getInt li.mRessourceId ++ li.body := by
    rw [Int.toNat_natCast, List.take_left, hb]
  rw [ofBytes_header _ _ _ _ (Int.natCast_nonneg _)
    (by rw [List.length_append]; push_cast; omega) hin, unmarschalBody_marschal hbody]
  split_ifs
  · rfl
  · rw [LogItem.stored, LogLevel.getEnumByValue_getInt, ← hlevel]
    rfl

/-- An argument of one of the classes that are marshalled, or null. -/
def Arg.IsMarschaled : Arg → Prop
  | other _ => False
  | _ => True

lemma Arg.stored_of_marschaled {a : Arg} (h : a.IsMarschaled) : a.stored = id a := by
  cases a with
  | other s => exact h.elim
  | string s | integer i | float f | double d | long l | null => rfl

lemma storedMessage_eq_self {m : Option Text} (h : m ≠ some []) : storedMessage m = m := by
  unfold storedMessage
  cases m with
  | none => rfl
  | some s =>
    rw [Option.getD_some, if_neg]
    rintro rfl
    exact h rfl

lemma storedArgs_eq_self {m : Option (List Arg)}
    (h : ∀ args, m = some args → 1 ≤ args.length ∧ ∀ a ∈ args, a.IsMarschaled) :
    storedArgs m = m := by
  unfold storedArgs
  cases m with
  | none => rfl
  | some args =>
    obtain ⟨hpos, hall⟩ := h args rfl
    have hid : args.map Arg.stored = args := by
      refine (List.map_congr_left fun a ha => ?_).trans (List.map_id args)
      exact Arg.stored_of_marschaled (hall a ha)
    rw [Option.getD_some, if_neg (List.length_pos_iff.mp hpos), hid]

/-! ### What can be read -/

lemma unmarschalArg_isMarschaled {type : BitVec 16} {a : Arg}
    (h : unmarschalArg D type bb = .ok (a, rest)) : a.IsMarschaled := by
  unfold unmarschalArg at h
  split_ifs at h
  all_goals
    try obtain ⟨p, -, h⟩ := unmarshal_bind_eq_ok.mp h
    cases h
    trivial

lemma unmarschalArgList_isMarschaled {n : ℕ} {args : List Arg}
    (h : unmarschalArgList D n bb = .ok (args, rest)) :
    args.length = n ∧ ∀ a ∈ args, a.IsMarschaled := by
  induction n generalizing bb args rest with
  | zero =>
    cases h
    exact ⟨rfl, fun a ha => absurd ha List.not_mem_nil⟩
  | succ n ih =>
    obtain ⟨p, -, h⟩ := unmarshal_bind_eq_ok.mp h
    obtain ⟨q, hq, h⟩ := unmarshal_bind_eq_ok.mp h
    obtain ⟨r, hr, h⟩ := unmarshal_bind_eq_ok.mp h
    obtain ⟨hlen, hall⟩ := ih hr
    cases h
    refine ⟨by rw [List.length_cons, hlen], fun a ha => ?_⟩
    rcases List.mem_cons.mp ha with rfl | ha
    · exact unmarschalArg_isMarschaled hq
    · exact hall a ha

lemma unmarschalArgs_isMarschaled {m : Option (List Arg)}
    (h : unmarschalArgs D bb = .ok (m, rest)) (args : List Arg) (hm : m = some args) :
    1 ≤ args.length ∧ args.length ≤ 30 ∧ ∀ a ∈ args, a.IsMarschaled := by
  obtain ⟨p, -, h⟩ := unmarshal_bind_eq_ok.mp h
  dsimp only at h
  split_ifs at h with hmany hzero hneg
  · cases h
    cases hm
  · obtain ⟨q, hq, h⟩ := unmarshal_bind_eq_ok.mp h
    obtain ⟨hlen, hall⟩ := unmarschalArgList_isMarschaled hq
    cases h
    cases hm
    have hnat : p.1.toNat ≠ 0 := fun h0 => hzero (BitVec.eq_of_toNat_eq h0)
    have hint := BitVec.toInt_eq_toNat_cond p.1
    have hlt := p.1.isLt
    refine ⟨by omega, ?_, hall⟩
    rw [hlen]
    split_ifs at hint
    · omega
    · omega

lemma unmarschalMessage_ne_nil {m : Option Text}
    (h : unmarschalMessage D bb = .ok (m, rest)) : m ≠ some [] := by
  obtain ⟨p, -, h⟩ := unmarshal_bind_eq_ok.mp h
  dsimp only at h
  split_ifs at h with hzero hlong
  · cases h
    exact nofun
  · obtain ⟨q, hq, h⟩ := unmarshal_bind_eq_ok.mp h
    cases h
    unfold getArray at hq
    split_ifs at hq
    cases ht : take p.1.toNat p.2 with
    | none =>
      rw [ht] at hq
      cases hq
    | some t =>
      rw [ht] at hq
      cases hq
      have hnat : p.1.toNat ≠ 0 := fun h0 => hzero (BitVec.eq_of_toNat_eq h0)
      have hlen := (take_eq_some ht).2
      refine fun hnil => Utf8.Decoder.decode_ne_nil D ?_ (Option.some.inj hnil)
      exact List.ne_nil_of_length_pos (by omega)

/-- **Whatever is read** has a message that is null or not empty, and arguments that are null or
1 to 30 of the classes that are marshalled. -/
lemma ofBytes_wellFormed {input : Bytes} {length : ℤ} {li : LogItem}
    (h : ofBytes D input length = .ok li) :
    li.mMessage ≠ some [] ∧ ∀ args, li.mArgs = some args →
      1 ≤ args.length ∧ args.length ≤ 30 ∧ ∀ a ∈ args, a.IsMarschaled := by
  unfold ofBytes at h
  split_ifs at h
  obtain ⟨_, -, h⟩ := unmarshal_bind_eq_ok.mp h
  obtain ⟨_, -, h⟩ := unmarshal_bind_eq_ok.mp h
  obtain ⟨_, -, h⟩ := unmarshal_bind_eq_ok.mp h
  obtain ⟨_, -, h⟩ := unmarshal_bind_eq_ok.mp h
  obtain ⟨_, -, h⟩ := unmarshal_bind_eq_ok.mp h
  obtain ⟨body, hbody, h⟩ := unmarshal_bind_eq_ok.mp h
  cases h
  obtain ⟨m, hm, hbody⟩ := unmarshal_bind_eq_ok.mp hbody
  obtain ⟨a, ha, hbody⟩ := unmarshal_bind_eq_ok.mp hbody
  dsimp only at hbody
  split_ifs at hbody
  cases hbody
  exact ⟨unmarschalMessage_ne_nil hm, unmarschalArgs_isMarschaled ha⟩

/-! ### The round trip -/

/-- **An item unmarshals to itself**: every byte is read, and the item that is made of them has
the level, verbosity, resource, time, message and arguments of the original. -/
theorem unmarschal_marschaled (D : Utf8.Decoder) {li : LogItem} {bytes : Bytes}
    (hmessage : li.mMessage ≠ some [])
    (hargs : ∀ args, li.mArgs = some args →
      1 ≤ args.length ∧ args.length ≤ 30 ∧ ∀ a ∈ args, a.IsMarschaled)
    (hbytes : li.getMarschaledBytes = .ok bytes) :
    ofBytes D bytes bytes.length = .ok li := by
  have hof := ofBytes_marschaled (D := D) hbytes []
  have ha : storedArgs li.mArgs = li.mArgs :=
    storedArgs_eq_self fun args h => ⟨(hargs args h).1, (hargs args h).2.2⟩
  have hfew : ¬ 30 < (li.mArgs.getD []).length := by
    cases hl : li.mArgs with
    | none => exact Nat.not_lt_zero _
    | some args => exact Nat.not_lt.mpr (hargs args hl).2.1
  rw [List.append_nil, if_neg hfew, LogItem.stored, storedMessage_eq_self hmessage, ha] at hof
  exact hof

/-- A line with every kind of argument, and a text that is not ASCII. -/
def mixedItem : LogItem where
  mArgs := some [.string "wlan0 ü".toList, .integer (-1), .null, .long 7, .float 0x3f800000,
    .double 0]
  mMessage := none
  mRessourceId := 0x7f100001
  mLevel := some .error
  logtime := 1500000000000
  mVerbosityLevel := -1

/-- A decoder that replaces each malformed byte. -/
def byteDecoder : Utf8.Decoder := ⟨fun _ => 0, fun _ _ _ h => by simp at h⟩

theorem unmarschal_marschaled_mixed : ∃ bytes, mixedItem.getMarschaledBytes = .ok bytes ∧
    ofBytes byteDecoder bytes bytes.length = .ok mixedItem :=
  ⟨_, rfl, @unmarschal_marschaled byteDecoder mixedItem _ (by decide)
    (by
      intro args h
      obtain rfl := Option.some.inj h
      refine ⟨by decide, by decide, ?_⟩
      simp only [List.forall_mem_cons, Arg.IsMarschaled]
      exact ⟨trivial, trivial, trivial, trivial, trivial, trivial, nofun⟩)
    rfl⟩

end BuludTechVPN.LogCache
