import BuludTechVPN.CsvReader
import BuludTechVPN.Runs

/-!
The backup of the server list: what online loads write to the backup file, and what an offline
load makes of it. Writing the file succeeds.
-/

namespace BuludTechVPN.ServerBackup

open JavaLang CsvReader Runs

variable {F : Type} (P : Platform F)

inductive ErrorCode
  | noError
  | conversionFailed
  deriving DecidableEq, Repr

structure Loaded (F : Type) where
  vpnList : Option (List (VPNClass F))
  errorCode : ErrorCode
  /-- The file `data.backup`, where there is one. -/
  backup : Option Bytes

/-- What is left of the response without its first row, `none` where it has no rows. -/
def dataRows (response : Bytes) : Option (List (List Text)) :=
  match parseToCSV P response with
  | [] => none
  | _ :: rs => some rs

/-- `CSVLoadTask.doInBackground` -/
def doInBackground (doSave : Bool) (response : Bytes) (backup : Option Bytes) : Loaded F :=
  match dataRows P response with
  | none => ⟨none, .noError, backup⟩
  | some rs =>
    let saved := if doSave then some response else backup
    match parseDataToClassObjects P rs with
    | .ok vpnList => ⟨some vpnList, .noError, saved⟩
    | .error _ => ⟨none, .conversionFailed, saved⟩

/-- `loadVPNGateViaSaveFile`: the list of the backup file; where there is no file, an online load
is started instead. -/
def offlineList (backup : Option Bytes) : Option (List (VPNClass F)) :=
  backup.bind fun bytes => (doInBackground P false bytes backup).vpnList

/-- The list a response parses to. -/
def parsed (response : Bytes) : Option (List (VPNClass F)) :=
  (doInBackground P true response none).vpnList

/-- The backup file, with the last response that parsed, or the file from before the run. -/
structure History where
  backup : Option Bytes
  lastParsed : Option Bytes

/-- An online load. -/
def load (s : History) (response : Bytes) : Option History :=
  some {
    backup := (doInBackground P true response s.backup).backup
    lastParsed := if (parsed P response).isSome then some response else s.lastParsed }

/-- The conversion of the rows throws an exception. -/
def Throws (response : Bytes) : Prop :=
  ∃ rs e, dataRows P response = some rs ∧ parseDataToClassObjects P rs = .error e

/-- A response whose conversion throws replaces a file that holds something else. -/
def Destroys (s : History) (response : Bytes) : Prop :=
  Throws P response ∧ s.backup ≠ some response

/-- Loads that failed left no trace in the file, and an offline load yields the list of the last
response that parsed. -/
def Kept (s : History) : Prop :=
  s.backup = s.lastParsed ∧
    ∀ response l, s.lastParsed = some response → parsed P response = some l →
      offlineList P s.backup = some l

variable {P}

lemma vpnList_doInBackground (doSave : Bool) (response : Bytes) (backup : Option Bytes) :
    (doInBackground P doSave response backup).vpnList = parsed P response := by
  unfold parsed doInBackground
  split
  · rfl
  · dsimp only
    split <;> rfl

lemma kept_iff (s : History) : Kept P s ↔ s.backup = s.lastParsed := by
  refine ⟨And.left, fun h => ⟨h, fun response l hr hl => ?_⟩⟩
  rw [offlineList, h, hr, Option.bind_some, vpnList_doInBackground, hl]

/-- A response is without rows, parses, or makes the conversion throw. -/
lemma load_cases (s : History) (response : Bytes) :
    (¬ Throws P response ∧ load P s response = some s) ∨
    (¬ Throws P response ∧ load P s response = some ⟨some response, some response⟩) ∨
    (Throws P response ∧ load P s response = some ⟨some response, s.lastParsed⟩) := by
  cases hrows : dataRows P response with
  | none =>
    refine .inl ⟨by simp [Throws, hrows], ?_⟩
    simp [load, parsed, doInBackground, hrows]
  | some rs =>
    cases hdata : parseDataToClassObjects P rs with
    | ok l =>
      refine .inr (.inl ⟨by simp [Throws, hrows, hdata], ?_⟩)
      simp [load, parsed, doInBackground, hrows, hdata]
    | error e =>
      refine .inr (.inr ⟨⟨rs, e, hrows, hdata⟩, ?_⟩)
      simp [load, parsed, doInBackground, hrows, hdata]

/-- **A failed refresh keeps the backup** all along a run of loads exactly if none of them makes
the conversion of its rows throw, other than on the very bytes that the file holds. -/
theorem kept_iff_not_destroyed (backup : Option Bytes) (responses : List Bytes) :
    Along (load P) (Kept P) ⟨backup, backup⟩ responses
      ↔ Avoids (load P) (Destroys P) ⟨backup, backup⟩ responses := by
  refine along_iff_avoids (I := Kept P) (fun _ h => h) (fun s response t h hnot ht => ?_)
    (fun s response t h hdes ht => ?_) ((kept_iff _).mpr rfl) responses
  · rw [kept_iff] at h ⊢
    rcases load_cases s response with ⟨-, hl⟩ | ⟨-, hl⟩ | ⟨hthr, hl⟩ <;>
      obtain rfl := Option.some.inj (hl.symm.trans ht)
    · exact h
    · rfl
    · have : s.backup = some response := by_contra fun hne => hnot ⟨hthr, hne⟩
      exact this.symm.trans h
  · rw [kept_iff] at h ⊢
    obtain ⟨hthr, hne⟩ := hdes
    rcases load_cases s response with ⟨hno, -⟩ | ⟨hno, -⟩ | ⟨-, hl⟩
    · exact absurd hthr hno
    · exact absurd hthr hno
    · obtain rfl := Option.some.inj (hl.symm.trans ht)
      exact fun heq => hne (h.trans heq.symm)

/-- A platform on which a byte is a character, and floating-point numbers are integers. -/
def ascii : Platform ℤ where
  decode := List.map fun b => Char.ofNat b.toNat
  isDigit c := '0' ≤ c ∧ c ≤ '9'
  parseFloat s := signedOf s
  ofInt n := n

/-- A response with one server, of this score. -/
def response (score : Text) : Bytes :=
  ("#,\nh,i,".toList ++ score ++ ",0,0,c,s,0,0,0,0,l,o,m,b".toList).map fun c => c.toNat.toUInt8

/-- A score beyond the range of an `int` fails the load, and replaces the backup. -/
theorem not_kept : ¬ ∀ responses, Along (load ascii) (Kept ascii) ⟨none, none⟩ responses := by
  intro h
  obtain ⟨-, h1⟩ := h [response ['0'], response "2147483648".toList]
  obtain ⟨-, h2⟩ := h1 _ rfl
  exact absurd (h2 _ rfl).1 (by decide)

end BuludTechVPN.ServerBackup
