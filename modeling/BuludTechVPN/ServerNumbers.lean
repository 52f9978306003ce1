import BuludTechVPN.ServerBackup

/-!
The numbers of the server list: which rows are read as the servers that they describe.

The guard before a conversion is a regular expression without a bound on the length, so it lets
numbers through that the conversion throws at, and one of them costs the whole list.
-/

namespace BuludTechVPN.CsvReader

open JavaLang

variable {F : Type} (P : Platform F) (strict : Bool) (isFloat : Text → Bool)

/-! ### What a row describes -/

/-- The number that a text denotes, none if it is no decimal number. A strict reader takes neither
signs nor leading zeros. -/
def decimal (t : Text) : Option ℤ :=
  if strict = true ∧ isNumber P t = false then none else signedOf t

/-- The number is one of a type of `w` bits. -/
def InRange (w : ℕ) (n : ℤ) : Prop := -2 ^ (w - 1) ≤ n ∧ n < 2 ^ (w - 1)

instance (w : ℕ) (n : ℤ) : Decidable (InRange w n) := inferInstanceAs (Decidable (_ ∧ _))

/-- The number of a field of `w` bits: the default unless the text denotes one in range. -/
def described (w : ℕ) (t : Text) : ℤ :=
  match decimal P strict t with
  | some n => if InRange w n then n else minValue
  | none => minValue

/-- `isFloat` tells which texts are decimal numbers in the range of a `float`. -/
def describedFloat (t : Text) : F :=
  if isFloat t then (P.parseFloat t).getD (P.ofInt minValue) else P.ofInt minValue

/-- The server that a row describes. -/
def serverOf (row : List Text) : VPNClass F where
  Id := 0
  HostName := row.getD 0 []
  IP := row.getD 1 []
  Score := described P strict 32 (row.getD 2 [])
  Ping := described P strict 32 (row.getD 3 [])
  Speed := described P strict 64 (row.getD 4 [])
  CountryLong := row.getD 5 []
  CountryShort := row.getD 6 []
  NumberOfSessions := described P strict 32 (row.getD 7 [])
  UpTime := described P strict 64 (row.getD 8 [])
  TotalUsers := described P strict 32 (row.getD 9 [])
  TotalTraffic := describedFloat P isFloat (row.getD 10 [])
  LogType := row.getD 11 []
  Operator := row.getD 12 []
  Message := row.getD 13 []
  OpenVPN_ConfigData_Base64 := row.getD 14 []

/-! ### Fields that are read right -/

/-- What the guard lets through is in range, and what it keeps out is no decimal number in range
but the default. -/
structure Fits (w : ℕ) (t : Text) : Prop where
  accepted : isNumber P t = true → ∃ n, signedOf t = some n ∧ InRange w n
  rejected : strict = false → isNumber P t = false →
    ∀ n, signedOf t = some n → InRange w n → n = minValue

/-- What `Float.parseFloat` reads is a decimal number in range, or reads as the default. -/
def FloatFits (t : Text) : Prop :=
  isFloat t = false → ∀ f, P.parseFloat t = some f → f = P.ofInt minValue

/-- Every number of the row is read right. -/
structure RowFits (row : List Text) : Prop where
  ints : ∀ i ∈ [2, 3, 7, 9], Fits P strict 32 (row.getD i [])
  longs : ∀ i ∈ [4, 8], Fits P strict 64 (row.getD i [])
  float : FloatFits P isFloat (row.getD 10 [])

variable {P strict isFloat} {t : Text} {w : ℕ} {row : List Text}

lemma parseSigned_eq_ok {n : ℤ} :
    parseSigned w t = .ok n ↔ signedOf t = some n ∧ InRange w n := by
  unfold parseSigned
  constructor
  · intro h
    split at h
    next m hm =>
      split_ifs at h with hr
      cases h
      exact ⟨hm, hr⟩
    next => cases h
  · rintro ⟨hn, hr⟩
    rw [hn]
    exact if_pos hr

lemma described_of_some {n : ℤ} (h : decimal P strict t = some n) :
    described P strict w t = if InRange w n then n else minValue := by
  rw [described, h]

lemma described_of_none (h : decimal P strict t = none) : described P strict w t = minValue := by
  rw [described, h]

/-- **When a field is read right**, whichever of the two functions for integers reads it. -/
lemma tryParse_eq_described :
    (if isNumber P t then parseSigned w t else .ok minValue) = .ok (described P strict w t) ↔
      Fits P strict w t := by
  by_cases hnum : isNumber P t = true
  · have hdec : decimal P strict t = signedOf t := if_neg (by simp [hnum])
    rw [if_pos hnum, parseSigned_eq_ok]
    constructor
    · rintro ⟨hn, hr⟩
      exact ⟨fun _ => ⟨_, hn, hr⟩, fun _ h => absurd hnum (by simp [h])⟩
    · intro h
      obtain ⟨n, hn, hr⟩ := h.accepted hnum
      rw [described_of_some (hdec.trans hn), if_pos hr]
      exact ⟨hn, hr⟩
  · rw [if_neg hnum, Except.ok.injEq]
    rw [Bool.not_eq_true] at hnum
    constructor
    · refine fun h => ⟨fun h' => absurd h' (by simp [hnum]), fun hs _ n hn hr => ?_⟩
      have hdec : decimal P strict t = some n := by rw [decimal, if_neg (by simp [hs]), hn]
      rw [described_of_some hdec, if_pos hr] at h
      exact h.symm
    · intro h
      cases hdec : decimal P strict t with
      | none => exact (described_of_none hdec).symm
      | some n =>
        rw [described_of_some hdec]
        split_ifs with hr
        · unfold decimal at hdec
          split_ifs at hdec with hs
          have hstrict : strict = false := by simpa [hnum] using hs
          exact (h.rejected hstrict hnum n hdec hr).symm
        · rfl

lemma tryParseFloat_eq_described :
    tryParseFloat P t minValue = describedFloat P isFloat t ↔ FloatFits P isFloat t := by
  unfold tryParseFloat describedFloat FloatFits
  cases isFloat t with
  | true => simp
  | false => cases P.parseFloat t <;> simp

/-! ### Rows -/

/-- A row is read right if each of its numbers is. -/
lemma parseRow_eq_serverOf :
    parseRow P row = .ok (serverOf P strict isFloat row) ↔ RowFits P strict isFloat row := by
  have hint : ∀ i, tryParseInt P (row.getD i []) minValue =
      .ok (described P strict 32 (row.getD i [])) ↔ Fits P strict 32 (row.getD i []) :=
    fun _ => tryParse_eq_described
  have hlong : ∀ i, tryParseLong P (row.getD i []) minValue =
      .ok (described P strict 64 (row.getD i [])) ↔ Fits P strict 64 (row.getD i []) :=
    fun _ => tryParse_eq_described
  constructor
  · intro h
    simp only [parseRow, bind_eq_ok] at h
    obtain ⟨score, h2, ping, h3, speed, h4, sessions, h7, upTime, h8, users, h9, h⟩ := h
    have hrow := Except.ok.inj h
    simp only [serverOf, VPNClass.mk.injEq, true_and, and_true] at hrow
    obtain ⟨rfl, rfl, rfl, rfl, rfl, rfl, hfloat⟩ := hrow
    refine ⟨?_, ?_, tryParseFloat_eq_described.1 hfloat⟩
    · simp only [List.forall_mem_cons]
      exact ⟨(hint 2).1 h2, (hint 3).1 h3, (hint 7).1 h7, (hint 9).1 h9, by simp⟩
    · simp only [List.forall_mem_cons]
      exact ⟨(hlong 4).1 h4, (hlong 8).1 h8, by simp⟩
  · intro h
    have hi : ∀ i ∈ [2, 3, 7, 9], _ := fun i hi => (hint i).2 (h.ints i hi)
    have hl : ∀ i ∈ [4, 8], _ := fun i hi => (hlong i).2 (h.longs i hi)
    simp only [parseRow, hi 2 (by decide), hi 3 (by decide), hi 7 (by decide), hi 9 (by decide),
      hl 4 (by decide), hl 8 (by decide), bind, Except.bind, pure, Except.pure,
      tryParseFloat_eq_described.2 h.float]
    rfl

/-- **Which lists are read as what they describe**: those without a number out of range that the
guard lets through, and without a decimal number that it keeps out. -/
theorem parseDataToClassObjects_iff (strict : Bool) (isFloat : Text → Bool)
    (data : List (List Text)) :
    parseDataToClassObjects P data = .ok ((data.filter fun row => 15 ≤ row.length).map
      (serverOf P strict isFloat)) ↔
      ∀ row ∈ data, 15 ≤ row.length → RowFits P strict isFloat row := by
  unfold parseDataToClassObjects
  rw [mapM_eq_ok, List.forall₂_map_right_iff, List.forall₂_same]
  simp only [List.mem_filter, decide_eq_true_eq, and_imp, parseRow_eq_serverOf]

/-- A row with this score. -/
def scoreRow (score : Text) : List Text :=
  [['h'], ['i'], score] ++ List.replicate 12 ['0']

/-- A score that no `int` has costs the server of the next row as well. -/
theorem score_costs_list :
    parseDataToClassObjects ServerBackup.ascii
        [scoreRow "2147483648".toList, scoreRow "7".toList] = .error .numberFormat ∧
      ¬ ∀ data, parseDataToClassObjects ServerBackup.ascii data =
        .ok ((data.filter fun row => 15 ≤ row.length).map
          (serverOf ServerBackup.ascii true fun t => (signedOf t).isSome)) := by
  have hthrows : parseDataToClassObjects ServerBackup.ascii
      [scoreRow "2147483648".toList, scoreRow "7".toList] = .error .numberFormat := by decide
  refine ⟨hthrows, fun h => ?_⟩
  have := hthrows.symm.trans (h _)
  cases this

end BuludTechVPN.CsvReader
