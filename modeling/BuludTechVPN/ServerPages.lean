import BuludTechVPN.Runs
import BuludTechVPN.VPNClass
import Mathlib.Data.List.Sort

/-!
The lists that the pages of the dashboard show: how an adapter filters and sorts the list it is
given.

Lists are objects that an adapter and its owner share, so they are known by their addresses.
`Collections.sort`, which sorts an object in place, is a parameter, like what the platform makes
of upper and lower case.
-/

namespace BuludTechVPN.ServerPages

open JavaLang SortComparators Runs

/-- The keys of the preferences that a page reads. -/
structure Keys where
  filterCountry : Text
  filterHostName : Text
  filterIP : Text
  sortBy : Text
  sortOrder : Text

inductive Page
  | allServers
  | favorites
  deriving DecidableEq, Repr

def Page.keys : Page → Keys
  | .allServers => ⟨"PREF_FILTER_COUNTRY".toList, "PREF_FILTER_HOSTNAME".toList,
      "PREF_FILTER_IP".toList, "PREF_SORT_BY".toList, "PREF_SORT_ORDER".toList⟩
  | .favorites => ⟨"PREF_P2_FILTER_COUNTRY".toList, "PREF_P2_FILTER_HOSTNAME".toList,
      "PREF_P2_FILTER_IP".toList, "PREF_P2_SORT_BY".toList, "PREF_P2_SORT_ORDER".toList⟩

/-- The shared preferences, by key. -/
structure Preferences where
  strings : Text → Option Text
  ints : Text → Option ℤ

namespace Preferences

def getString (p : Preferences) (key defValue : Text) : Text := (p.strings key).getD defValue
def getInt (p : Preferences) (key : Text) (defValue : ℤ) : ℤ := (p.ints key).getD defValue

end Preferences

/-- What the adapters use of the platform. -/
structure Platform (F : Type) where
  toLowerCase : Text → Text
  fold : Char → Char
  sort : Comparator F → List (VPNClass F) → List (VPNClass F)

variable {F : Type} (J : Platform F) (page : Page)

/-! ### One page -/

/-- Whether the text filter lets a field pass; an empty filter lets all pass. -/
def passes (filterBy field : Text) : Bool :=
  filterBy.isEmpty || contains (J.toLowerCase field) (J.toLowerCase filterBy)

/-- Are all filters of the page empty? -/
def unfiltered (p : Preferences) : Bool :=
  (p.getString page.keys.filterCountry []).isEmpty &&
    (p.getString page.keys.filterHostName []).isEmpty &&
      (p.getString page.keys.filterIP []).isEmpty

/-- `gottaAdd` -/
def gottaAdd (p : Preferences) (v : VPNClass F) : Bool :=
  passes J (p.getString page.keys.filterCountry []) v.CountryLong &&
    passes J (p.getString page.keys.filterHostName []) v.HostName &&
      passes J (p.getString page.keys.filterIP []) v.IP

def PRELOAD_NUMBER : ℕ := 30

/-- The list objects, and what an adapter refers to. -/
structure Adapter (F : Type) where
  lists : List (List (VPNClass F))
  dataSet : Option ℕ
  displaySet : Option ℕ
  numOfLoadedVPNs : ℕ

namespace Adapter

variable (a : Adapter F)

/-- The list object at an address. -/
def get (addr : ℕ) : List (VPNClass F) := a.lists.getD addr []

/-- `displaySet(tempSet)` -/
def display (tempSet : ℕ) : Adapter F :=
  let size := (a.get tempSet).length
  { a with
    displaySet := some tempSet
    numOfLoadedVPNs :=
      if PRELOAD_NUMBER = 0 then size
      else if size < PRELOAD_NUMBER then size else PRELOAD_NUMBER }

/-- `Collections.sort(tempSet, comparator)`, where there is a comparator -/
def sortInPlace (tempSet : ℕ) : Option (Comparator F) → Adapter F
  | none => a
  | some cmp => { a with lists := a.lists.set tempSet (J.sort cmp (a.get tempSet)) }

/-- The list to be sorted and shown: a new one, or the data set itself. -/
def tempSet (p : Preferences) (dataSet : ℕ) : Adapter F × ℕ :=
  if unfiltered page p then (a, dataSet)
  else
    ({ a with lists := a.lists ++ [(a.get dataSet).filter (gottaAdd J page p)] }, a.lists.length)

end Adapter

section

variable {J page} {L : List (VPNClass F)} {a : Adapter F} {p : Preferences}

lemma filter_of_unfiltered (h : unfiltered page p = true) (L : List (VPNClass F)) :
    L.filter (gottaAdd J page p) = L := by
  simp only [unfiltered, Bool.and_eq_true] at h
  exact List.filter_eq_self.mpr fun v _ => by simp [gottaAdd, passes, h]

lemma sortInPlace_get {t : ℕ} {l : List (VPNClass F)} (ht : a.lists[t]? = some l)
    (cmp : Option (Comparator F)) :
    (a.sortInPlace J t cmp).lists[t]? = some (cmp.elim l fun cmp => J.sort cmp l) := by
  cases cmp with
  | none => exact ht
  | some cmp =>
    obtain ⟨hlt, rfl⟩ := List.getElem?_eq_some_iff.mp ht
    simp [Adapter.sortInPlace, Adapter.get, hlt]

lemma sortInPlace_other {t u : ℕ} (h : t ≠ u) (cmp : Option (Comparator F)) :
    (a.sortInPlace J t cmp).lists[u]? = a.lists[u]? := by
  cases cmp with
  | none => rfl
  | some cmp => simp [Adapter.sortInPlace, h]

lemma sortInPlace_dataSet (t : ℕ) (cmp : Option (Comparator F)) :
    (a.sortInPlace J t cmp).dataSet = a.dataSet := by
  cases cmp <;> rfl

end

variable [LT F] [DecidableLT F]

/-- The comparator that the preferences ask for, `none` where nothing is sorted. -/
def comparator (p : Preferences) : Option (Comparator F) :=
  let sortOrder : Option Bool :=
    match p.getInt page.keys.sortOrder 0 with
    | 1 => some true
    | 2 => some false
    | _ => none
  sortOrder.bind fun sortOrder =>
    match p.getInt page.keys.sortBy 0 with
    | 1 => some (SpeedComparator sortOrder)
    | 2 => some (UpTimeComparator sortOrder)
    | 3 => some (TotalTrafficComparator sortOrder)
    | 4 => some (SessionComparator sortOrder)
    | 5 => some (CountryComparator J.fold sortOrder)
    | 6 => some (HostNameComparator J.fold sortOrder)
    | 7 => some (IPComparator J.fold sortOrder)
    | _ => none

def Adapter.filterData (a : Adapter F) (p : Preferences) : Adapter F :=
  let (a, dataSet) := match a.dataSet with
    | none => ({ a with lists := a.lists ++ [[]], dataSet := some a.lists.length }, a.lists.length)
    | some dataSet => (a, dataSet)
  let (a, tempSet) := a.tempSet J page p dataSet
  (a.sortInPlace J tempSet (comparator J page p)).display tempSet

def Adapter.setDataSet (a : Adapter F) (p : Preferences) (dataSet : Option ℕ) : Adapter F :=
  { a with dataSet }.filterData J page p

/-- Only the page of all servers has this. -/
def Adapter.clearDataSet (a : Adapter F) (p : Preferences) : Adapter F :=
  let dataSet := a.lists.length
  ({ a with lists := a.lists ++ [[]], dataSet := some dataSet }.display dataSet).filterData J page p

/-! ### What a page should show -/

/-- The servers of the list that pass the filters, in the order asked for. -/
def shown (L : List (VPNClass F)) (p : Preferences) : List (VPNClass F) :=
  match comparator J page p with
  | none => L.filter (gottaAdd J page p)
  | some cmp => J.sort cmp (L.filter (gottaAdd J page p))

/-- No filter is set, and the list is not in the order asked for. -/
def Disturbs (L : List (VPNClass F)) (p : Preferences) : Prop :=
  unfiltered page p = true ∧ ∃ cmp, comparator J page p = some cmp ∧ J.sort cmp L ≠ L

/-- The list at `addr` is what it was, and the page shows what it should under the preferences
of the last call. -/
def Faithful (L : List (VPNClass F)) (addr : ℕ) (s : Adapter F × Option Preferences) : Prop :=
  s.1.lists[addr]? = some L ∧
    ∀ p, s.2 = some p → ∃ d, s.1.displaySet = some d ∧ s.1.lists[d]? = some (shown J page L p)

/-- A call of `filterData` under some preferences. -/
def call (s : Adapter F × Option Preferences) (p : Preferences) :
    Option (Adapter F × Option Preferences) :=
  some (s.1.filterData J page p, some p)

section

variable {J page} {L : List (VPNClass F)} {a : Adapter F} {addr : ℕ} {p : Preferences}

lemma shown_eq (L : List (VPNClass F)) (p : Preferences) :
    shown J page L p = (comparator J page p).elim (L.filter (gottaAdd J page p))
      fun cmp => J.sort cmp (L.filter (gottaAdd J page p)) := by
  unfold shown
  cases comparator J page p <;> rfl

lemma filterData_unfiltered (hd : a.dataSet = some addr) (hu : unfiltered page p = true) :
    a.filterData J page p = (a.sortInPlace J addr (comparator J page p)).display addr := by
  unfold Adapter.filterData Adapter.tempSet
  simp only [hd, hu, if_true]

lemma filterData_filtered (hd : a.dataSet = some addr) (hu : ¬ unfiltered page p = true) :
    a.filterData J page p =
      (({ a with lists := a.lists ++ [(a.get addr).filter (gottaAdd J page p)] } :
          Adapter F).sortInPlace J a.lists.length (comparator J page p)).display a.lists.length := by
  unfold Adapter.filterData Adapter.tempSet
  simp only [hd, hu, Bool.false_eq_true, if_false]

/-- What a call shows is right; the list itself stays, unless no filter is set. -/
lemma filterData_spec (hd : a.dataSet = some addr) (hl : a.lists[addr]? = some L) :
    (a.filterData J page p).dataSet = some addr ∧
    (a.filterData J page p).lists[addr]? = some (if unfiltered page p = true then
      (comparator J page p).elim L fun cmp => J.sort cmp L else L) ∧
    ∃ d, (a.filterData J page p).displaySet = some d ∧
      (a.filterData J page p).lists[d]? = some (shown J page L p) := by
  have hlt : addr < a.lists.length := (List.getElem?_eq_some_iff.mp hl).1
  rw [shown_eq]
  by_cases hu : unfiltered page p = true
  · rw [filterData_unfiltered hd hu, if_pos hu, filter_of_unfiltered hu]
    exact ⟨(sortInPlace_dataSet _ _).trans hd, sortInPlace_get hl _,
      addr, rfl, sortInPlace_get hl _⟩
  · have hget : a.get addr = L := by
      simp [Adapter.get, List.getD_eq_getElem?_getD, hl]
    rw [filterData_filtered hd hu, if_neg hu, hget]
    refine ⟨(sortInPlace_dataSet _ _).trans hd, ?_, a.lists.length, rfl, ?_⟩
    · refine (sortInPlace_other (Ne.symm hlt.ne) _).trans ?_
      exact (List.getElem?_append_left hlt).trans hl
    · exact sortInPlace_get (List.getElem?_concat_length) _

lemma not_faithful_of_disturbs {o : Option Preferences} (hd : a.dataSet = some addr)
    (hl : a.lists[addr]? = some L) (h : Disturbs J page L p) :
    ¬ Faithful J page L addr (a.filterData J page p, o) := by
  obtain ⟨hu, cmp, hcmp, hne⟩ := h
  rintro ⟨hkeep, -⟩
  rw [(filterData_spec hd hl).2.1, if_pos hu, hcmp] at hkeep
  exact hne (Option.some.inj hkeep)

lemma faithful_of_not_disturbs (hd : a.dataSet = some addr) (hl : a.lists[addr]? = some L)
    (h : ¬ Disturbs J page L p) :
    Faithful J page L addr (a.filterData J page p, some p) := by
  obtain ⟨-, hkeep, hshown⟩ := filterData_spec (J := J) (p := p) hd hl
  refine ⟨?_, fun q hq => by cases hq; exact hshown⟩
  rw [hkeep]
  split_ifs with hu
  · cases hcmp : comparator J page p with
    | none => rfl
    | some cmp =>
      have : J.sort cmp L = L := by_contra fun hne => h ⟨hu, cmp, hcmp, hne⟩
      exact congrArg some this
  · rfl

end

/-- A stable sort, and texts in ASCII. -/
def ascii : Platform ℤ where
  toLowerCase := List.map Char.toLower
  fold := Char.toLower
  sort cmp l := l.insertionSort fun a b => cmp a b ≤ 0

def server (hostName : Text) (speed : ℤ) : VPNClass ℤ :=
  ⟨0, hostName, [], 0, 0, speed, [], [], 0, 0, 0, 0, [], [], [], []⟩

def slow : VPNClass ℤ := server ['a'] 1
def fast : VPNClass ℤ := server ['b'] 2

/-- Preferences of the page of all servers: a filter for host names, the order of speed. -/
def sortedBySpeed (filterHostName : Text) (sortOrder : ℤ) : Preferences where
  strings key := if key = Page.allServers.keys.filterHostName then some filterHostName else none
  ints key :=
    if key = Page.allServers.keys.sortBy then some 1
    else if key = Page.allServers.keys.sortOrder then some sortOrder else none

end BuludTechVPN.ServerPages
