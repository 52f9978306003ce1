import BuludTechVPN.Runs

/-!
The lists that the dashboard hands to its pages: what `RetainFragment` retains of the loads of the
server list and of the favourites, and which of it `getVPNClasses` picks.

Lists are objects of a type of their own; a load that failed has no list. The result of a load
is dropped where no activity is attached when the load ends.
-/

namespace BuludTechVPN.PageData

open Runs

variable {α : Type}

structure RetainFragment (α : Type) where
  RetainAllServerVPNs : Option α
  RetainFavoriteVPNs : Option α
  /-- The callbacks are those of an attached activity. -/
  attached : Bool

inductive Page
  | allServers
  | favorites
  deriving DecidableEq, Repr

/-- `getVPNClasses`, with the case of the server list falling through to that of the favourites. -/
def getVPNClasses (r : RetainFragment α) : Page → Option α
  | .allServers =>
    match r.RetainAllServerVPNs with
    | some l => some l
    | none => r.RetainFavoriteVPNs
  | .favorites => r.RetainFavoriteVPNs

/-- `CSVLoadTask.onPostExecute` -/
def csvPostExecute (r : RetainFragment α) (postData : Option α) : RetainFragment α :=
  if r.attached then { r with RetainAllServerVPNs := postData } else r

/-- `DatabaseLoadTask.onPostExecute` -/
def dbPostExecute (r : RetainFragment α) (postData : Option α) : RetainFragment α :=
  if r.attached then { r with RetainFavoriteVPNs := postData } else r

inductive Event (α : Type)
  | csvLoaded (postData : Option α)
  | dbLoaded (postData : Option α)
  | attach
  | detach

/-- The fragment, and the results of the last loads that ended. -/
structure History (α : Type) where
  fragment : RetainFragment α
  lastCsv : Option α
  lastDb : Option α

def start : History α := ⟨⟨none, none, true⟩, none, none⟩

def next (s : History α) : Event α → History α
  | .csvLoaded r => { s with fragment := csvPostExecute s.fragment r, lastCsv := r }
  | .dbLoaded r => { s with fragment := dbPostExecute s.fragment r, lastDb := r }
  | .attach => { s with fragment := { s.fragment with attached := true } }
  | .detach => { s with fragment := { s.fragment with attached := false } }

def step (s : History α) (e : Event α) : Option (History α) := some (next s e)

/-- Each page is handed the result of the last load that is its own. -/
def OwnData (s : History α) : Prop :=
  getVPNClasses s.fragment .allServers = s.lastCsv ∧
    getVPNClasses s.fragment .favorites = s.lastDb

/-- The server list is lost while there are favourites, the favourites come while there is no
server list, or a load ends with another list than the retained one while none is attached. -/
def Confuses (s : History α) : Event α → Prop
  | .csvLoaded r =>
    if s.fragment.attached then r = none ∧ s.fragment.RetainFavoriteVPNs ≠ none
    else r ≠ s.fragment.RetainAllServerVPNs
  | .dbLoaded r =>
    if s.fragment.attached then r ≠ none ∧ s.fragment.RetainAllServerVPNs = none
    else r ≠ s.fragment.RetainFavoriteVPNs
  | _ => False

/-- What is retained are the results of the last loads, and the favourites do not stand alone. -/
structure Inv (s : History α) : Prop where
  csv : s.fragment.RetainAllServerVPNs = s.lastCsv
  db : s.fragment.RetainFavoriteVPNs = s.lastDb
  both : s.lastCsv = none → s.lastDb = none

lemma ownData_iff {s : History α} (hcsv : s.fragment.RetainAllServerVPNs = s.lastCsv)
    (hdb : s.fragment.RetainFavoriteVPNs = s.lastDb) :
    OwnData s ↔ (s.lastCsv = none → s.lastDb = none) := by
  unfold OwnData getVPNClasses
  rw [hcsv, hdb]
  cases s.lastCsv <;> simp

lemma Inv.ownData {s : History α} (h : Inv s) : OwnData s := (ownData_iff h.csv h.db).mpr h.both

lemma Inv.next {s : History α} {e : Event α} (h : Inv s) (hnot : ¬ Confuses s e) :
    Inv (next s e) := by
  cases e with
  | attach => exact ⟨h.csv, h.db, h.both⟩
  | detach => exact ⟨h.csv, h.db, h.both⟩
  | csvLoaded r =>
    simp only [Confuses] at hnot
    split_ifs at hnot with ha
    · refine ⟨by simp [PageData.next, csvPostExecute, ha],
        by simpa [PageData.next, csvPostExecute, ha] using h.db, fun hr => ?_⟩
      by_contra hdb
      exact hnot ⟨hr, fun hfav => hdb (h.db.symm.trans hfav)⟩
    · obtain rfl := not_not.mp hnot
      have hb : s.fragment.RetainAllServerVPNs = none → s.lastDb = none := fun hn =>
        h.both (h.csv ▸ hn)
      exact ⟨by simp [PageData.next, csvPostExecute, ha],
        by simpa [PageData.next, csvPostExecute, ha] using h.db, hb⟩
  | dbLoaded r =>
    simp only [Confuses] at hnot
    split_ifs at hnot with ha
    · refine ⟨by simpa [PageData.next, dbPostExecute, ha] using h.csv,
        by simp [PageData.next, dbPostExecute, ha], fun hcsv => ?_⟩
      by_contra hr
      exact hnot ⟨hr, h.csv.trans hcsv⟩
    · obtain rfl := not_not.mp hnot
      have hb : s.lastCsv = none → s.fragment.RetainFavoriteVPNs = none := fun hn =>
        h.db.trans (h.both hn)
      exact ⟨by simpa [PageData.next, dbPostExecute, ha] using h.csv,
        by simp [PageData.next, dbPostExecute, ha], hb⟩

lemma not_ownData_of_confuses {s : History α} {e : Event α} (h : Inv s) (hconf : Confuses s e) :
    ¬ OwnData (next s e) := by
  cases e with
  | attach => exact absurd hconf not_false
  | detach => exact absurd hconf not_false
  | csvLoaded r =>
    simp only [Confuses] at hconf
    split_ifs at hconf with ha
    · obtain ⟨rfl, hfav⟩ := hconf
      rintro ⟨hall, -⟩
      exact hfav (by simpa [getVPNClasses, PageData.next, csvPostExecute, ha] using hall)
    · rintro ⟨hall, -⟩
      have hall : getVPNClasses s.fragment .allServers = r := by
        simpa [PageData.next, csvPostExecute, ha] using hall
      cases hret : s.fragment.RetainAllServerVPNs with
      | some l => exact hconf (by rw [← hall, getVPNClasses, hret])
      | none =>
        have hfav : s.fragment.RetainFavoriteVPNs = none :=
          h.db.trans (h.both (h.csv.symm.trans hret))
        exact hconf (by rw [← hall, getVPNClasses, hret, hfav])
  | dbLoaded r =>
    simp only [Confuses] at hconf
    split_ifs at hconf with ha
    · obtain ⟨hr, hret⟩ := hconf
      rintro ⟨hall, -⟩
      refine hr (Eq.trans ?_ (h.csv.symm.trans hret))
      simpa [getVPNClasses, PageData.next, dbPostExecute, ha, hret] using hall
    · rintro ⟨-, hfav⟩
      exact hconf (by simpa [getVPNClasses, PageData.next, dbPostExecute, ha] using hfav.symm)

/-- **Each page is handed its own data** all along a run exactly if no event of the run confuses
the two lists. -/
theorem ownData_iff_not_confused (es : List (Event α)) :
    Along step OwnData start es ↔ Avoids step Confuses start es := by
  refine along_iff_avoids (fun _ h => Inv.ownData h) (fun s e t h hnot ht => ?_)
    (fun s e t h hconf ht => ?_) ⟨rfl, rfl, fun _ => rfl⟩ es
  · cases ht; exact h.next hnot
  · cases ht; exact not_ownData_of_confuses h hconf

/-- The favourites are loaded before the server list. -/
theorem favourites_on_first_page :
    ¬ ∀ es : List (Event ℕ), Along step OwnData start es := by
  intro h
  obtain ⟨-, h1⟩ := h [.dbLoaded (some 1)]
  exact absurd (h1 _ rfl).1 (by decide)

end BuludTechVPN.PageData
