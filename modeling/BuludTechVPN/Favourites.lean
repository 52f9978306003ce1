import BuludTechVPN.VPNClass
import Mathlib.Data.List.Nodup
import Mathlib.Logic.Relation

/-!
The table of favourite servers: what renaming one of them does to the table.

A row is a server whose `Id` is the key of the row. A text stands between quotes in the clauses
of the queries; what SQLite makes of a clause whose text has quotes of its own is a parameter.
-/

namespace BuludTechVPN.Favourites

open JavaLang

variable {F : Type}

abbrev Table (F : Type) := List (VPNClass F)

/-- Does the row satisfy `ip = '…'`? -/
def whereIp (quoted : Text → VPNClass F → Bool) (ip : Text) (row : VPNClass F) : Bool :=
  if '\'' ∈ ip then quoted ip row else decide (row.IP = ip)

variable (quoted : Text → VPNClass F → Bool)

/-! ### `DatabaseManager` -/

def checkExistVPN (t : Table F) (v : VPNClass F) : Bool :=
  (t.filter (whereIp quoted (trim v.IP))).length > 0

/-- The new row gets the key `id`, which is free. -/
def insertVPN (t : Table F) (v : VPNClass F) (id : ℤ) : Table F := t ++ [{ v with Id := id }]

/-- All columns but the key. -/
def setColumns (v row : VPNClass F) : VPNClass F := { v with Id := row.Id }

def updateVPN (t : Table F) (v : VPNClass F) : Table F :=
  t.map fun row => if whereIp quoted v.IP row then setColumns v row else row

def deleteVPN (t : Table F) (v : VPNClass F) : Table F := t.filter fun row => row.Id ≠ v.Id

/-! ### The dialogs of `DashBoard` -/

/-- The dialog of `editVPN`, confirmed with a name. -/
def editVPN (t : Table F) (v : VPNClass F) (name : Text) : Table F :=
  if checkExistVPN quoted t v then updateVPN quoted t { v with HostName := name } else t

/-- What the dialogs can do to the table. -/
inductive Step (t : Table F) : Table F → Prop
  /-- `showOverWriteData`, of a server whose address is not in the table -/
  | insert (v : VPNClass F) (id : ℤ) : checkExistVPN quoted t v = false →
      (∀ row ∈ t, row.Id ≠ id) → Step t (insertVPN t v id)
  /-- "Add New" -/
  | addAsNew (v : VPNClass F) (id : ℤ) : checkExistVPN quoted t v = true →
      (∀ row ∈ t, row.Id ≠ id) → Step t (insertVPN t v id)
  /-- "Update" -/
  | update (v : VPNClass F) : checkExistVPN quoted t v = true → Step t (updateVPN quoted t v)
  | edit (row : VPNClass F) (name : Text) : row ∈ t → Step t (editVPN quoted t row name)
  | delete (row : VPNClass F) : row ∈ t → Step t (deleteVPN t row)

def Reachable (t : Table F) : Prop := Relation.ReflTransGen (Step quoted) [] t

/-- The table in which just the row with this key has another name. -/
def renameRow (t : Table F) (id : ℤ) (name : Text) : Table F :=
  t.map fun row => if row.Id = id then { row with HostName := name } else row

/-- Does the dialog for `r` overwrite this row? -/
def overwritten (t : Table F) (r row : VPNClass F) : Bool :=
  checkExistVPN quoted t r && whereIp quoted r.IP row

/-! ### Keys -/

variable {quoted} {t u : Table F} {r row : VPNClass F} {name : Text}

lemma keys_updateVPN (t : Table F) (v : VPNClass F) :
    (updateVPN quoted t v).map VPNClass.Id = t.map VPNClass.Id := by
  rw [updateVPN, List.map_map]
  refine List.map_congr_left fun row _ => ?_
  dsimp only [Function.comp]
  split_ifs <;> rfl

lemma keys_editVPN (t : Table F) (v : VPNClass F) (name : Text) :
    (editVPN quoted t v name).map VPNClass.Id = t.map VPNClass.Id := by
  unfold editVPN
  split_ifs
  · exact keys_updateVPN _ _
  · rfl

lemma nodup_insertVPN {v : VPNClass F} {id : ℤ} (h : (t.map VPNClass.Id).Nodup)
    (hid : ∀ row ∈ t, row.Id ≠ id) : ((insertVPN t v id).map VPNClass.Id).Nodup := by
  rw [insertVPN, List.map_append, List.nodup_append]
  refine ⟨h, List.nodup_singleton _, fun a ha b hb => ?_⟩
  obtain ⟨row, hrow, rfl⟩ := List.mem_map.mp ha
  obtain rfl : b = id := by simpa using hb
  exact hid row hrow

/-- Keys stay unique. -/
lemma nodup_keys (h : Reachable quoted t) : (t.map VPNClass.Id).Nodup := by
  induction h with
  | refl => exact List.nodup_nil
  | tail _ hstep ih =>
    cases hstep with
    | insert v id _ hid => exact nodup_insertVPN ih hid
    | addAsNew v id _ hid => exact nodup_insertVPN ih hid
    | update v _ => rw [keys_updateVPN]; exact ih
    | edit row name _ => rw [keys_editVPN]; exact ih
    | delete row _ => exact ih.sublist (List.filter_sublist.map _)

lemma eq_of_key (h : Reachable quoted t) (hr : r ∈ t) (hrow : row ∈ t) (hid : row.Id = r.Id) :
    row = r :=
  List.inj_on_of_nodup_map (nodup_keys h) hrow hr hid

/-! ### Renaming one row -/

lemma editVPN_eq_map (t : Table F) (r : VPNClass F) (name : Text) :
    editVPN quoted t r name = t.map fun row =>
      if overwritten quoted t r row then { r with Id := row.Id, HostName := name } else row := by
  unfold editVPN overwritten
  split_ifs with hex
  · simp [updateVPN, setColumns, hex]
  · simp [hex]

/-- The same for an address without quotes and blanks around it: the other rows with that
address are overwritten. -/
lemma overwritten_iff (hq : '\'' ∉ r.IP) (ht : trim r.IP = r.IP) (hr : r ∈ t) :
    overwritten quoted t r row = true ↔ row.IP = r.IP := by
  have hex : checkExistVPN quoted t r = true := by
    rw [checkExistVPN, decide_eq_true_eq]
    exact List.length_pos_of_mem (List.mem_filter.mpr ⟨hr, by simp [whereIp, ht, hq]⟩)
  simp [overwritten, hex, whereIp, hq]

/-- A server at an address that all of them share. -/
def stored (id : ℤ) (hostName : Text) : VPNClass ℤ :=
  ⟨id, hostName, ['1'], 0, 0, 0, [], [], 0, 0, 0, 0, [], [], [], []⟩

lemma reachable_one : Reachable (fun _ _ => false) [stored 1 ['a']] :=
  .single (.insert (stored 0 ['a']) 1 (by decide) (by simp))

lemma reachable_two : Reachable (fun _ _ => false) [stored 1 ['a'], stored 2 ['b']] :=
  reachable_one.tail (.addAsNew (stored 0 ['b']) 2 (by decide) (by decide))

end BuludTechVPN.Favourites
