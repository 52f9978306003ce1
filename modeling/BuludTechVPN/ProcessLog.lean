import BuludTechVPN.LogItem
import BuludTechVPN.Patterns
import Mathlib.Data.Nat.Bitwise

/-!
`OpenVPNThread`: what the output of the OpenVPN process is logged as, line by line.

A line begins with a time and with flags in hexadecimal digits, which a regular expression takes
apart. Which characters `\d` and `.` stand for depends on the platform.
-/

namespace BuludTechVPN.ProcessLog

open JavaLang LogCache Patterns

/-- `[0-9a-f]` -/
def isHex (c : Char) : Bool := ('0' ≤ c ∧ c ≤ '9') ∨ ('a' ≤ c ∧ c ≤ 'f')

/-- The character classes of regular expressions. -/
structure Classes where
  /-- `\d` -/
  isDigit : Char → Bool
  /-- The line terminators, which `.` does not match. -/
  isTerminator : Char → Bool
  digit_ascii : ∀ c, c.isDigit = true → isDigit c = true
  not_digit : isDigit '.' = false ∧ isDigit ' ' = false
  not_terminator : ∀ c, isTerminator c = true →
    isDigit c = false ∧ isHex c = false ∧ c ≠ ' ' ∧ c ≠ '.'

/-! ### The flags -/

def mFatal : ℕ := 1 <<< 4
def mNonfatal : ℕ := 1 <<< 5
def mWarn : ℕ := 1 <<< 6
def mDebug : ℕ := 1 <<< 7

def hexDigit (c : Char) : ℕ := if c ≤ '9' then c.toNat - '0'.toNat else c.toNat - 'a'.toNat + 10

def hexValue (s : Text) : ℕ := s.foldl (fun n c => n * 16 + hexDigit c) 0

/-- `Integer.parseInt(s, 16)` of digits of `[0-9a-f]`. -/
def parseHex (s : Text) : Call ℕ :=
  if s ≠ [] ∧ hexValue s < 2 ^ 31 then .ok (hexValue s) else .error .numberFormat

def logStatus (flags : ℕ) : LogLevel :=
  if flags &&& mFatal ≠ 0 then .error
  else if flags &&& mNonfatal ≠ 0 then .warning
  else if flags &&& mWarn ≠ 0 then .warning
  else if flags &&& mDebug ≠ 0 then .verbose
  else .info

def logLevel (flags : ℕ) (msg : Text) : ℕ :=
  let logLevel := flags &&& 0x0F
  if startsWith msg "MANAGEMENT: CMD".toList then max 4 logLevel else logLevel

/-! ### A line -/

variable (P : Classes) (now : BitVec 64)

/-- `(\d+).(\d+) ([0-9a-f])+ (.*)` -/
def pattern : List (Piece Char) :=
  [⟨P.isDigit, .some⟩, ⟨fun c => !P.isTerminator c, .once⟩, ⟨P.isDigit, .some⟩,
    ⟨(· = ' '), .once⟩, ⟨isHex, .some⟩, ⟨(· = ' '), .once⟩, ⟨fun c => !P.isTerminator c, .any⟩]

/-- Groups 3 and 4 of a match. The third one is repeated, so it keeps the last character. -/
def groups (parts : List Text) : Text × Text :=
  ((parts.getD 4 []).getLast?.toList, parts.getD 6 [])

/-- `new LogItem(level, ovpnlevel, message)` -/
def item (level : LogLevel) (ovpnlevel : ℤ) (message : Text) : LogItem :=
  ⟨none, some message, 0, some level, now, BitVec.ofInt 32 ovpnlevel⟩

structure OpenVPNThread where
  mDumpPath : Option Text
  mBrokenPie : Bool
  deriving DecidableEq, Repr

def dumpPathString : Text := "Dump path: ".toList
def brokenPieSupport : Text := "/data/data/de.blinkt.openvpn/cache/pievpn".toList
def brokenPieSupport2 : Text := "syntax error".toList

def weakHash : Text :=
  "OpenSSL reproted a certificate with a weak hash, please the in app FAQ about weak hashes".toList

def isWeakHash (msg : Text) : Bool :=
  (endsWith msg "md too weak".toList && startsWith msg "OpenSSL: error".toList) ||
    contains msg "error:140AB18E".toList

/-- What a message is logged as. -/
def messageItem (flags : ℕ) (msg : Text) : LogItem :=
  item now (logStatus flags) (logLevel flags msg) msg

/-- What a line looks like that the pattern does not match. -/
def plainItem (logline : Text) : LogItem := item now .info (-1) ("P:".toList ++ logline)

/-- What is logged of a line. -/
def logged (logline : Text) : Call (List LogItem) :=
  match fullMatch (pattern P) logline with
  | none => .ok [plainItem now logline]
  | some parts => do
    let flags ← parseHex (groups parts).1
    let msg := (groups parts).2
    .ok (messageItem now flags msg ::
      if isWeakHash msg then [item now .error (-1) weakHash] else [])

/-- The body of the loop of `startOpenVPNThreadArgs`. -/
def handleLine (t : OpenVPNThread) (logline : Text) : Call (OpenVPNThread × List LogItem) := do
  let mDumpPath := if startsWith logline dumpPathString then
      some (logline.drop dumpPathString.length) else t.mDumpPath
  let mBrokenPie :=
    t.mBrokenPie || startsWith logline brokenPieSupport || contains logline brokenPieSupport2
  let items ← logged P now logline
  .ok (⟨mDumpPath, mBrokenPie⟩, items)

/-! ### Lines of the process -/

/-- A line `digits.digits hexflags message`. -/
structure OutputLine where
  seconds : Text
  micros : Text
  hexflags : Text
  message : Text
  seconds_ne : seconds ≠ []
  micros_ne : micros ≠ []
  hexflags_ne : hexflags ≠ []
  seconds_digits : ∀ c ∈ seconds, c.isDigit = true
  micros_digits : ∀ c ∈ micros, c.isDigit = true
  hexflags_digits : ∀ c ∈ hexflags, isHex c = true

def OutputLine.text (l : OutputLine) : Text :=
  l.seconds ++ (['.'] ++ (l.micros ++ ([' '] ++ (l.hexflags ++ ([' '] ++ l.message)))))

/-- The severity that the bits of a flag word tell. -/
def severity (flags : ℕ) : LogLevel :=
  if flags.testBit 4 then .error
  else if flags.testBit 5 || flags.testBit 6 then .warning
  else if flags.testBit 7 then .verbose
  else .info

/-- The low four bits, at least 4 for an echo of the management interface. -/
def verbosity (flags : ℕ) (msg : Text) : ℕ :=
  if startsWith msg "MANAGEMENT: CMD".toList then max 4 (flags % 16) else flags % 16

/-- What a line of the process stands for. -/
def OutputLine.decoded (l : OutputLine) : LogItem :=
  item now (severity (hexValue l.hexflags)) (verbosity (hexValue l.hexflags) l.message) l.message

/-- The line is logged as what it stands for. -/
def Decodes (t : OpenVPNThread) (l : OutputLine) : Prop :=
  ∃ t' rest, handleLine P now t l.text = .ok (t', l.decoded now :: rest)

/-! ### Bits -/

lemma and_one_shiftLeft (flags i : ℕ) : flags &&& 1 <<< i ≠ 0 ↔ flags.testBit i = true := by
  rw [Nat.one_shiftLeft, Nat.and_two_pow]
  cases flags.testBit i <;> simp

/-- The source tests the bits. -/
lemma logStatus_eq (flags : ℕ) : logStatus flags = severity flags := by
  unfold logStatus severity mFatal mNonfatal mWarn mDebug
  simp only [and_one_shiftLeft, Bool.or_eq_true]
  split_ifs <;> simp_all

lemma logLevel_eq (flags : ℕ) (msg : Text) : logLevel flags msg = verbosity flags msg := by
  have hlow : flags &&& 0x0F = flags % 16 := Nat.and_two_pow_sub_one_eq_mod flags 4
  unfold logLevel verbosity
  rw [hlow]

lemma hexDigit_lt {c : Char} (h : isHex c = true) : hexDigit c < 16 := by
  simp only [isHex, decide_eq_true_eq, Char.le_def, UInt32.le_iff_toNat_le] at h
  simp only [hexDigit, Char.le_def, UInt32.le_iff_toNat_le]
  have h0 : ('0' : Char).val.toNat = 48 := rfl
  have h9 : ('9' : Char).val.toNat = 57 := rfl
  have ha : ('a' : Char).val.toNat = 97 := rfl
  have hf : ('f' : Char).val.toNat = 102 := rfl
  simp only [h0, h9, ha, hf, Char.toNat] at h ⊢
  split_ifs <;> omega

lemma hexValue_concat (s : Text) (c : Char) :
    hexValue (s ++ [c]) = hexValue s * 16 + hexDigit c := by
  rw [hexValue, List.foldl_append]
  rfl

/-- The last digit is the low four bits. -/
lemma hexDigit_getLast {s : Text} (hne : s ≠ []) (h : ∀ c ∈ s, isHex c = true) :
    hexDigit (s.getLast hne) = hexValue s % 16 := by
  have hlt := hexDigit_lt (h _ (List.getLast_mem hne))
  conv_rhs => rw [← List.dropLast_append_getLast hne, hexValue_concat]
  omega

lemma parseHex_singleton {c : Char} (h : isHex c = true) : parseHex [c] = .ok (hexDigit c) := by
  have hvalue : hexValue [c] = hexDigit c := Nat.zero_add _
  have hlt := hexDigit_lt h
  rw [parseHex, hvalue, if_pos ⟨List.cons_ne_nil _ _, by omega⟩]

/-- No severity is told by the low four bits. -/
lemma severity_eq_info_iff (flags : ℕ) : severity flags = .info ↔ flags / 16 % 16 = 0 := by
  unfold severity
  simp only [Nat.testBit_eq_decide_div_mod_eq, Bool.or_eq_true, decide_eq_true_eq]
  norm_num
  split_ifs <;> simp <;> omega

lemma verbosity_mod (flags : ℕ) (msg : Text) : verbosity (flags % 16) msg = verbosity flags msg := by
  unfold verbosity
  rw [Nat.mod_mod]

/-! ### How a line is taken apart -/

variable {P now} {t : OpenVPNThread} {l : OutputLine}

/-- The parts of a line are those that it was put together from, whatever its message is, as long as
`.` matches all of it. -/
lemma fullMatch_text (h : ∀ c ∈ l.message, P.isTerminator c = false) :
    fullMatch (pattern P) l.text =
      some [l.seconds, ['.'], l.micros, [' '], l.hexflags, [' '], l.message] := by
  have hdot : P.isTerminator '.' = false := by
    by_contra hc
    exact (P.not_terminator '.' (by simpa using hc)).2.2.2 rfl
  have hmessage : fullMatch [⟨fun c => !P.isTerminator c, .any⟩] l.message = some [l.message] := by
    have hnil : fullMatch ([] : List (Piece Char)) [] = some [] := rfl
    have := fullMatch_cons
      (prefers_any (p := fun c => !P.isTerminator c) (t := l.message) (by simpa using h) (by simp))
      hnil
    rwa [List.append_nil] at this
  refine fullMatch_cons (prefers_some l.seconds_ne ?_ ?_) ?_
  · exact fun c hc => P.digit_ascii c (l.seconds_digits c hc)
  · simpa using P.not_digit.1
  refine fullMatch_cons (prefers_once (by simp [hdot])) ?_
  refine fullMatch_cons (prefers_some l.micros_ne ?_ ?_) ?_
  · exact fun c hc => P.digit_ascii c (l.micros_digits c hc)
  · simpa using P.not_digit.2
  refine fullMatch_cons (prefers_once (by simp)) ?_
  refine fullMatch_cons (prefers_some l.hexflags_ne l.hexflags_digits ?_) ?_
  · simp [isHex]
  exact fullMatch_cons (prefers_once (by simp)) hmessage

/-- The line is logged with the flags that its last hexadecimal digit tells. -/
lemma logged_text (h : ∀ c ∈ l.message, P.isTerminator c = false) :
    ∃ rest, logged P now l.text =
      .ok (messageItem now (hexValue l.hexflags % 16) l.message :: rest) := by
  have hlast : l.hexflags.getLast? = some (l.hexflags.getLast l.hexflags_ne) :=
    List.getLast?_eq_some_getLast l.hexflags_ne
  have hgroups : groups [l.seconds, ['.'], l.micros, [' '], l.hexflags, [' '], l.message] =
      ([l.hexflags.getLast l.hexflags_ne], l.message) := by
    simp [groups, hlast]
  have hhex := l.hexflags_digits _ (List.getLast_mem l.hexflags_ne)
  unfold logged
  rw [fullMatch_text h]
  simp only [hgroups, parseHex_singleton hhex, hexDigit_getLast l.hexflags_ne l.hexflags_digits]
  exact ⟨_, rfl⟩

/-- A line with a line terminator in its message is logged as it is. -/
lemma logged_terminator {c : Char} (hc : c ∈ l.message) (ht : P.isTerminator c = true) :
    logged P now l.text = .ok [plainItem now l.text] := by
  have hmem : c ∈ l.text := by
    unfold OutputLine.text
    simp [hc]
  have hnone : fullMatch (pattern P) l.text = none := by
    apply fullMatch_eq_none hmem
    obtain ⟨hdigit, hhex, hspace, -⟩ := P.not_terminator c ht
    simp only [pattern, List.forall_mem_cons]
    simp [hdigit, hhex, hspace, ht]
  rw [logged, hnone]

lemma decodes_iff_logged :
    Decodes P now t l ↔ ∃ rest, logged P now l.text = .ok (l.decoded now :: rest) := by
  unfold Decodes handleLine
  constructor
  · rintro ⟨t', rest, h⟩
    obtain ⟨items, hitems, h⟩ := bind_eq_ok.1 h
    obtain ⟨-, rfl⟩ := Prod.mk.inj (Except.ok.inj h)
    exact ⟨rest, hitems⟩
  · rintro ⟨rest, h⟩
    exact ⟨_, rest, bind_eq_ok.2 ⟨_, h, rfl⟩⟩

/-- **Which lines are logged as what they stand for**: those whose flag word has none of the bits
that tell a severity, with a message that `.` matches. -/
theorem decodes_iff (P : Classes) (now : BitVec 64) (t : OpenVPNThread) (l : OutputLine) :
    Decodes P now t l ↔ (∀ c ∈ l.message, P.isTerminator c = false) ∧
      hexValue l.hexflags / 16 % 16 = 0 := by
  rw [decodes_iff_logged]
  by_cases h : ∀ c ∈ l.message, P.isTerminator c = false
  · obtain ⟨items, hlogged⟩ : ∃ rest, logged P now l.text =
        .ok (messageItem now (hexValue l.hexflags % 16) l.message :: rest) := logged_text h
    have hlow : severity (hexValue l.hexflags % 16) = .info :=
      (severity_eq_info_iff _).2 (by omega)
    have hitem : messageItem now (hexValue l.hexflags % 16) l.message =
        item now .info (verbosity (hexValue l.hexflags) l.message) l.message := by
      rw [messageItem, logStatus_eq, logLevel_eq, verbosity_mod, hlow]
    rw [hlogged, hitem, and_iff_right h, ← severity_eq_info_iff]
    constructor
    · rintro ⟨rest, heq⟩
      have hhead := (List.cons.inj (Except.ok.inj heq)).1
      exact (Option.some.inj (congrArg LogItem.mLevel hhead)).symm
    · intro hinfo
      exact ⟨items, by rw [OutputLine.decoded, hinfo]⟩
  · rw [eq_false h, false_and, iff_false]
    push Not at h
    obtain ⟨c, hc, ht⟩ := h
    rintro ⟨rest, heq⟩
    rw [logged_terminator hc (by simpa using ht)] at heq
    have hhead := (List.cons.inj (Except.ok.inj heq)).1
    -- the text of the whole line is longer than the message
    have hlen := congrArg List.length (Option.some.inj (congrArg LogItem.mMessage hhead))
    simp only [OutputLine.text, List.length_append, List.length_cons] at hlen
    omega

/-- The classes of `java.util.regex` without its flags. -/
def java : Classes where
  isDigit := Char.isDigit
  isTerminator c := c.toNat ∈ [0x0A, 0x0D, 0x85, 0x2028, 0x2029]
  digit_ascii _ h := h
  not_digit := by decide
  not_terminator := by
    intro c hc
    have hcases : ∀ n ∈ [0x0A, 0x0D, 0x85, 0x2028, 0x2029], (Char.ofNat n).isDigit = false ∧
        isHex (Char.ofNat n) = false ∧ Char.ofNat n ≠ ' ' ∧ Char.ofNat n ≠ '.' := by decide
    rw [← Char.ofNat_toNat c]
    exact hcases c.toNat (by simpa using hc)

/-- A message of a fatal error. -/
def fatalLine : OutputLine where
  seconds := ['1']
  micros := ['2']
  hexflags := ['1', '0']
  message := ['m']
  seconds_ne := by decide
  micros_ne := by decide
  hexflags_ne := by decide
  seconds_digits := by decide
  micros_digits := by decide
  hexflags_digits := by decide

/-- A fatal error is logged as information. -/
theorem fatalLine_info :
    handleLine java 0 ⟨none, false⟩ fatalLine.text =
        .ok (⟨none, false⟩, [item 0 .info 0 ['m']]) ∧
      fatalLine.decoded 0 = item 0 .error 0 ['m'] ∧
      ¬ ∀ l, Decodes java 0 ⟨none, false⟩ l := by
  have hinfo : handleLine java 0 ⟨none, false⟩ fatalLine.text =
      .ok (⟨none, false⟩, [item 0 .info 0 ['m']]) := by decide
  have herror : fatalLine.decoded 0 = item 0 .error 0 ['m'] := by decide
  refine ⟨hinfo, herror, fun h => ?_⟩
  obtain ⟨t', rest, heq⟩ := h fatalLine
  rw [hinfo, herror] at heq
  have hhead := (List.cons.inj (Prod.mk.inj (Except.ok.inj heq)).2).1
  exact absurd hhead (by decide)

end BuludTechVPN.ProcessLog
