import BuludTechVPN.JavaLang

/-!
A server of the list, and the orders in which servers are shown.

The type of the one floating-point field is a parameter, and so is the case folding of a
character, `Character.toLowerCase` after `Character.toUpperCase`.
-/

namespace BuludTechVPN

open JavaLang

structure VPNClass (F : Type) where
  Id : ℤ
  HostName : Text
  IP : Text
  Score : ℤ
  Ping : ℤ
  Speed : ℤ
  CountryLong : Text
  CountryShort : Text
  NumberOfSessions : ℤ
  UpTime : ℤ
  TotalUsers : ℤ
  TotalTraffic : F
  LogType : Text
  Operator : Text
  Message : Text
  OpenVPN_ConfigData_Base64 : Text
  deriving DecidableEq, Repr

namespace SortComparators

variable {F : Type}

/-- `Comparator<VPNClass>` -/
abbrev Comparator (F : Type) := VPNClass F → VPNClass F → ℤ

/-- `String.compareToIgnoreCase` -/
def compareToIgnoreCase (fold : Char → Char) : Text → Text → ℤ
  | a :: s, b :: t =>
    if fold a = fold b then compareToIgnoreCase fold s t
    else (fold a).toNat - (fold b).toNat
  | s, t => s.length - t.length

/-- The comparison of the fields that are compared with `<` and `>`. -/
def compareField {α : Type} [LT α] [DecidableLT α] (field : VPNClass F → α) (sortOrder : Bool) :
    Comparator F := fun lhs rhs =>
  if sortOrder then
    if field lhs < field rhs then 1 else if field rhs < field lhs then -1 else 0
  else
    if field rhs < field lhs then 1 else if field lhs < field rhs then -1 else 0

def SpeedComparator : Bool → Comparator F := compareField VPNClass.Speed
def UpTimeComparator : Bool → Comparator F := compareField VPNClass.UpTime

def TotalTrafficComparator [LT F] [DecidableLT F] : Bool → Comparator F :=
  compareField VPNClass.TotalTraffic

def SessionComparator (sortOrder : Bool) : Comparator F := fun lhs rhs =>
  if sortOrder then toInt (rhs.NumberOfSessions - lhs.NumberOfSessions)
  else toInt (lhs.NumberOfSessions - rhs.NumberOfSessions)

/-- The comparison of the fields that are texts. -/
def compareText (fold : Char → Char) (field : VPNClass F → Text) (sortOrder : Bool) :
    Comparator F := fun lhs rhs =>
  if sortOrder then compareToIgnoreCase fold (field rhs) (field lhs)
  else compareToIgnoreCase fold (field lhs) (field rhs)

def CountryComparator (fold : Char → Char) : Bool → Comparator F :=
  compareText fold VPNClass.CountryLong

def HostNameComparator (fold : Char → Char) : Bool → Comparator F :=
  compareText fold VPNClass.HostName

/-- The comparator for addresses compares host names. -/
def IPComparator (fold : Char → Char) : Bool → Comparator F := compareText fold VPNClass.HostName

end SortComparators

end BuludTechVPN
