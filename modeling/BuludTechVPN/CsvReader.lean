import BuludTechVPN.LineParser
import BuludTechVPN.VPNClass

/-!
The server list as it is downloaded: `CSVReader`, and the servers that `CSVLoadTask` makes of
the rows.

What the platform makes of bytes, of digits in a regular expression and of floating-point numbers
is a parameter.
-/

namespace BuludTechVPN.CsvReader

open JavaLang LineParser

abbrev Bytes := List UInt8

structure Platform (F : Type) where
  /-- `InputStreamReader` -/
  decode : Bytes → Text
  /-- `\d` -/
  isDigit : Char → Bool
  /-- `Float.parseFloat`, `none` where it throws a `NumberFormatException` -/
  parseFloat : Text → Option F
  ofInt : ℤ → F

/-! ### `CSVReader` -/

/-- The tokens of a row so far, and the text of the next one. -/
structure Scanned where
  tokensOnThisLine : List Text
  sb : Text
  inQuotes : Bool
  deriving DecidableEq, Repr

namespace Scanned

def append (r : Scanned) (c : Char) : Scanned := { r with sb := r.sb ++ [c] }

def endToken (r : Scanned) : Scanned :=
  { r with tokensOnThisLine := r.tokensOnThisLine ++ [r.sb], sb := [] }

/-- The row with the last token. -/
def row (r : Scanned) : List Text := r.tokensOnThisLine ++ [r.sb]

end Scanned

/-- A quote that does not follow another one: at index `i`, after `prev`. Inside a token, it is
part of the token as well. -/
def toggle (i : ℕ) (prev : Char) (rest : Text) (r : Scanned) : Scanned :=
  let r := { r with inQuotes := !r.inQuotes }
  if 2 < i ∧ prev ≠ ',' ∧ rest ≠ [] ∧ rest.head? ≠ some ',' then r.append '"' else r

/-- The loop over the characters of a line. -/
def scanLine : ℕ → Char → Text → Scanned → Scanned
  | _, _, [], r => r
  | i, prev, '"' :: '"' :: rest, r =>
    if r.inQuotes then scanLine (i + 2) '"' rest (r.append '"')
    else scanLine (i + 1) '"' ('"' :: rest) (toggle i prev ('"' :: rest) r)
  | i, prev, c :: rest, r =>
    if c = '"' then scanLine (i + 1) c rest (toggle i prev rest r)
    else if c = ',' ∧ r.inQuotes = false then scanLine (i + 1) c rest r.endToken
    else scanLine (i + 1) c rest (r.append c)

/-- The rows that `readNext` returns one after the other. While a quoted section is open, a row
goes on in the next line; the end of the text ends it. -/
def readRows : Option Scanned → List Text → List (List Text)
  | none, [] => []
  | some r, [] => [(r.append '\n').row]
  | unfinished, line :: lines =>
    let r := scanLine 0 ',' line ((unfinished.map (·.append '\n')).getD ⟨[], [], false⟩)
    if r.inQuotes then readRows (some r) lines else r.row :: readRows none lines

/-! ### `CSVLoadTask` -/

variable {F : Type} (P : Platform F)

/-- Rows of one field are passed over. -/
def parseToCSV (response : Bytes) : List (List Text) :=
  (readRows none (readLines (P.decode response))).filter fun next => 1 < next.length

/-- `^(?:[1-9]\d*|0)$` -/
def isNumber : Text → Bool
  | ['0'] => true
  | c :: s => '1' ≤ c ∧ c ≤ '9' ∧ s.all P.isDigit
  | [] => false

def tryParseInt (tryParseValue : Text) (defValue : ℤ) : Call ℤ :=
  if isNumber P tryParseValue then parseInt tryParseValue else .ok defValue

def tryParseLong (tryParseValue : Text) (defValue : ℤ) : Call ℤ :=
  if isNumber P tryParseValue then parseLong tryParseValue else .ok defValue

def tryParseFloat (tryParseValue : Text) (defValue : ℤ) : F :=
  (P.parseFloat tryParseValue).getD (P.ofInt defValue)

/-- `Integer.MIN_VALUE` -/
def minValue : ℤ := -2 ^ 31

/-- The server of a row with enough fields. -/
def parseRow (dataFields : List Text) : Call (VPNClass F) := do
  let field i := dataFields.getD i []
  let Score ← tryParseInt P (field 2) minValue
  let Ping ← tryParseInt P (field 3) minValue
  let Speed ← tryParseLong P (field 4) minValue
  let NumberOfSessions ← tryParseInt P (field 7) minValue
  let UpTime ← tryParseLong P (field 8) minValue
  let TotalUsers ← tryParseInt P (field 9) minValue
  pure {
    Id := 0, HostName := field 0, IP := field 1, Score, Ping, Speed, CountryLong := field 5,
    CountryShort := field 6, NumberOfSessions, UpTime, TotalUsers,
    TotalTraffic := tryParseFloat P (field 10) minValue, LogType := field 11,
    Operator := field 12, Message := field 13, OpenVPN_ConfigData_Base64 := field 14 }

def parseDataToClassObjects (data : List (List Text)) : Call (List (VPNClass F)) :=
  (data.filter fun dataFields => 15 ≤ dataFields.length).mapM (parseRow P)

end BuludTechVPN.CsvReader
