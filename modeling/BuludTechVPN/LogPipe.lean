import BuludTechVPN.RestoredLog

/-!
The pipe through which `OpenVPNStatusService` hands its log buffer to a process that registers, and
the loop of `StatusListener` that reads it.

An item goes through the pipe as its length in two bytes and its bytes; the length `0x7fff` marks
the end. An item that cannot be marshalled ends the process that writes, and its pipe with it.
-/

namespace BuludTechVPN.LogPipe

open JavaLang ByteBuffer LogCache

/-- `writeShort`. -/
def writeShort (v : ℕ) : Bytes := put 2 (BitVec.ofNat 16 v)

/-- The mark of the end. -/
def endMark : ℕ := 0x7fff

/-- The thread `pushLogs`: what it writes, and the exception that ends it. -/
def pushLogs : List LogItem → Bytes × Option Abrupt
  | [] => (writeShort endMark, none)
  | logItem :: logbuffer =>
    match logItem.getMarschaledBytes with
    | .error e => ([], some e)
    | .ok bytes =>
      (writeShort bytes.length ++ bytes ++ (pushLogs logbuffer).1, (pushLogs logbuffer).2)

variable (D : Utf8.Decoder)

/-- The loop of `onServiceConnected`: the items that are logged, and the exception that ends it. The
array that the items are read into is longer than any of them, and what is behind an item is not
looked at. -/
def readItems : ℕ → Bytes → List LogItem × Option Abrupt
  | 0, _ => ([], some .endlessLoop)
  | fuel + 1, fd =>
    match get 16 2 fd with
    | none => ([], some .io)
    | some (len, fd) =>
      if len = BitVec.ofNat 16 endMark then ([], none)
      else if len.toInt < 0 then ([], some .indexOutOfBounds)
      else
        match take len.toNat fd with
        | none => ([], some .io)
        | some (bytes, fd) =>
          match ofBytes D bytes len.toInt with
          | .error e => ([], some e.abrupt)
          | .ok logitem => (logitem :: (readItems fuel fd).1, (readItems fuel fd).2)

def readLog (fd : Bytes) : List LogItem × Option Abrupt :=
  readItems D (fd.length + 1) fd

/-- An item that the pipe can carry: it can be marshalled, and does not have too many arguments. -/
def Carried (li : LogItem) : Prop :=
  li.getMarschaledBytes.isOk ∧ (li.mArgs.getD []).length ≤ 30

instance (li : LogItem) : Decidable (Carried li) := inferInstanceAs (Decidable (_ ∧ _))

/-! ### One item -/

variable {D} {bytes fd : Bytes} {fuel : ℕ} {li : LogItem} {logbuffer : List LogItem}

/-- The loop ends before its fuel does. -/
lemma readItems_ends (h : fd.length < fuel) : (readItems D fuel fd).2 ≠ some .endlessLoop := by
  induction fuel generalizing fd with
  | zero => exact absurd h (Nat.not_lt_zero _)
  | succ fuel ih =>
    unfold readItems
    cases hget : get 16 2 fd with
    | none => nofun
    | some p =>
      have hfd : fd = put 2 p.1 ++ p.2 := (get_eq_some (by decide)).mp hget
      have hlen : p.2.length + 2 = fd.length := by
        rw [hfd, List.length_append, length_put, Nat.add_comm]
      dsimp only
      split_ifs
      · nofun
      · nofun
      · cases htake : take p.1.toNat p.2 with
        | none => nofun
        | some q =>
          have hq := congrArg List.length (take_eq_some htake).1
          rw [List.length_append] at hq
          dsimp only
          cases ofBytes D q.1 p.1.toInt with
          | error e => cases e <;> nofun
          | ok logitem => exact ih (by omega)

/-- The length of an item is neither negative nor the mark. -/
lemma short_length (h : bytes.length ≤ capacity) :
    (BitVec.ofNat 16 bytes.length).toNat = bytes.length ∧
      (BitVec.ofNat 16 bytes.length).toInt = bytes.length ∧
      BitVec.ofNat 16 bytes.length ≠ BitVec.ofNat 16 endMark := by
  unfold capacity at h
  have hnat : (BitVec.ofNat 16 bytes.length).toNat = bytes.length := by
    rw [BitVec.toNat_ofNat]
    omega
  refine ⟨hnat, ?_, fun heq => ?_⟩
  · rw [BitVec.toInt_eq_toNat_cond, hnat]
    omega
  · have hmark := congrArg BitVec.toNat heq
    rw [hnat, endMark] at hmark
    change bytes.length = 0x7fff at hmark
    omega

/-- **An item is read** as it is stored, unless it has too many arguments. -/
lemma readItems_item (hbytes : li.getMarschaledBytes = .ok bytes) :
    readItems D (fuel + 1) (writeShort bytes.length ++ bytes ++ fd) =
      if 30 < (li.mArgs.getD []).length then ([], some .indexOutOfBounds)
      else (li.stored :: (readItems D fuel fd).1, (readItems D fuel fd).2) := by
  obtain ⟨-, -, hlen, -⟩ := getMarschaledBytes_eq_ok.mp hbytes
  obtain ⟨hnat, hint, hmark⟩ := short_length hlen
  rw [readItems, writeShort, List.append_assoc, get_put (by decide)]
  dsimp only
  rw [if_neg hmark, if_neg (by omega), hnat, take_append rfl]
  dsimp only
  have hof := ofBytes_marschaled (D := D) hbytes []
  rw [List.append_nil] at hof
  rw [hint, hof]
  split_ifs
  · rfl
  · rfl

/-- At the end mark the loop ends. -/
lemma readItems_end : readItems D (fuel + 1) (writeShort endMark) = ([], none) := by
  have hget : get 16 2 (writeShort endMark ++ []) = _ := get_put (by decide) _ []
  rw [List.append_nil] at hget
  rw [readItems, hget]
  rfl

/-! ### The whole log -/

/-- The items before the first that the pipe cannot carry are read. -/
lemma readItems_pushLogs (hfuel : (pushLogs logbuffer).1.length < fuel) :
    (readItems D fuel (pushLogs logbuffer).1).1 =
        (logbuffer.takeWhile (Carried ·)).map LogItem.stored ∧
      ((readItems D fuel (pushLogs logbuffer).1).2 = none ↔ ∀ li ∈ logbuffer, Carried li) := by
  induction logbuffer generalizing fuel with
  | nil =>
    obtain ⟨fuel, rfl⟩ : ∃ k, fuel = k + 1 := ⟨fuel - 1, by omega⟩
    rw [pushLogs, readItems_end]
    exact ⟨rfl, iff_of_true rfl (List.forall_mem_nil _)⟩
  | cons li logbuffer ih =>
    obtain ⟨fuel, rfl⟩ : ∃ k, fuel = k + 1 := ⟨fuel - 1, by omega⟩
    rw [pushLogs] at hfuel
    rw [List.forall_mem_cons, pushLogs]
    cases hbytes : li.getMarschaledBytes with
    | error e =>
      have hnot : ¬ Carried li := by
        rintro ⟨hok, -⟩
        rw [hbytes] at hok
        cases hok
      have hread : readItems D (fuel + 1) [] = ([], some .io) := rfl
      rw [hread, List.takeWhile_cons_of_neg (by simpa using hnot)]
      exact ⟨rfl, iff_of_false nofun fun h => hnot h.1⟩
    | ok bytes =>
      rw [readItems_item hbytes]
      by_cases hmany : 30 < (li.mArgs.getD []).length
      · have hnot : ¬ Carried li := fun h => absurd h.2 (by omega)
        rw [if_pos hmany, List.takeWhile_cons_of_neg (by simpa using hnot)]
        exact ⟨rfl, iff_of_false nofun fun h => hnot h.1⟩
      · have hcarried : Carried li := ⟨by rw [hbytes]; rfl, by omega⟩
        have hrest : (pushLogs logbuffer).1.length < fuel := by
          simp only [hbytes, List.length_append, writeShort, length_put] at hfuel
          omega
        obtain ⟨hitems, hend⟩ := ih hrest
        rw [if_neg hmany, List.takeWhile_cons_of_pos (by simpa using hcarried), List.map_cons,
          hitems, hend, and_iff_right hcarried]
        exact ⟨rfl, Iff.rfl⟩

/-- **The log goes through the pipe** up to the first item that the pipe cannot carry: those before
it are logged in their order, as they are stored. Without such an item the reader comes to the end
mark. -/
theorem readLog_pushLogs (D : Utf8.Decoder) (logbuffer : List LogItem) :
    (readLog D (pushLogs logbuffer).1).1 =
        (logbuffer.takeWhile (Carried ·)).map LogItem.stored ∧
      ((readLog D (pushLogs logbuffer).1).2 = none ↔ ∀ li ∈ logbuffer, Carried li) :=
  readItems_pushLogs (Nat.lt_succ_self _)

/-- Of whatever bytes, the reader comes to an end. -/
theorem readLog_ends (D : Utf8.Decoder) (fd : Bytes) : (readLog D fd).2 ≠ some .endlessLoop :=
  readItems_ends (Nat.lt_succ_self _)

end BuludTechVPN.LogPipe
