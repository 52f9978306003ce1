import BuludTechVPN.LogFileHandler
import BuludTechVPN.Runs
import Mathlib.Data.List.Sort

/-!
The log buffer of `VpnStatus` and the thread that persists it: what the log file holds when
logging, clearing and the handling of messages are interleaved.

A line is known by its number in the order of logging. The first `cached` numbers are those of
the lines that a file of an earlier process holds; the handler reads them back on `LOG_INIT`.
Which lines are too long to be marshalled is a parameter.
-/

namespace BuludTechVPN.LogQueue

open LogFileHandler Relation

inductive Message
  | logInit
  | logMessage (li : ℕ)
  | trimLogFile
  | flushToDisk
  deriving DecidableEq, Repr

def Message.logged : Message → Option ℕ
  | .logMessage li => some li
  | _ => none

/-- `VpnStatus`, and the handler with its queue. -/
structure LogState where
  logbuffer : List ℕ
  /-- `mLogFileHandler != null` -/
  handler : Bool
  queue : List Message
  /-- The lines written to the file, once it is open. -/
  mLogFile : Option (List ℕ)
  /-- The cached lines still to be restored, while `LOG_INIT` is handled. -/
  rereading : Option (List ℕ)
  /-- The number of the next line. -/
  next : ℕ
  deriving DecidableEq, Repr

inductive Event
  | log
  | clear
  | flush
  | initLogCache
  | handle
  | restore
  | openLogFile
  deriving DecidableEq, Repr

namespace LogState

/-- `sendMessage`, where there is a handler. -/
def send (s : LogState) (m : Message) : LogState :=
  if s.handler then { s with queue := s.queue ++ [m] } else s

/-- The end of `newLogItem`. -/
def trim (s : LogState) : LogState :=
  if MAXLOGENTRIES + MAXLOGENTRIES / 2 < s.logbuffer.length then
    { s with logbuffer := s.logbuffer.drop (s.logbuffer.length - MAXLOGENTRIES) }.send .trimLogFile
  else s

def newLogItem (s : LogState) (li : ℕ) (cachedLine : Bool) : LogState :=
  if cachedLine then { s with logbuffer := li :: s.logbuffer }.trim
  else ({ s with logbuffer := s.logbuffer ++ [li] }.send (.logMessage li)).trim

/-- A new line is logged. -/
def log (s : LogState) : LogState := { s with next := s.next + 1 }.newLogItem s.next false

def clearLog (s : LogState) : LogState := { s with logbuffer := [] }.log.send .trimLogFile

/-- Writing lines to the file; the first that cannot be marshalled makes the handler log an error
and its stack trace instead. -/
def writeLogItems (fits : ℕ → Bool) (s : LogState) (file items : List ℕ) : LogState :=
  let s := { s with mLogFile := some (file ++ items.takeWhile fits) }
  if items.all fits then s else s.log.log

/-- `handleMessage`. Neither message is handled before `LOG_INIT`, which comes first. -/
def handleMessage (fits : ℕ → Bool) (cached : ℕ) (s : LogState) : Message → Option LogState
  | .logInit =>
    if s.mLogFile.isSome then none else some { s with rereading := some (List.range cached) }
  | .logMessage li =>
    match s.mLogFile with
    | none => some s
    | some file => some (s.writeLogItems fits file [li])
  | .trimLogFile => s.mLogFile.map fun _ => s.writeLogItems fits [] s.logbuffer
  | .flushToDisk => some s

end LogState

open LogState

variable (fits : ℕ → Bool) (cached : ℕ)

/-- The next message is taken, unless the handler is still busy with `LOG_INIT`. -/
def handle (s : LogState) : Option LogState :=
  match s.rereading, s.queue with
  | none, m :: queue => { s with queue }.handleMessage fits cached m
  | _, _ => none

/-- A cached line is restored, unless all are. -/
def restore (s : LogState) : Option LogState :=
  match s.rereading with
  | some (li :: rest) => some ({ s with rereading := some rest }.newLogItem li true)
  | _ => none

/-- The end of `LOG_INIT`; an error may have cut the reading short. -/
def openLogFile (s : LogState) : Option LogState :=
  s.rereading.map fun _ => { s with mLogFile := some [], rereading := none }

def step (s : LogState) : Event → Option LogState
  | .log => some s.log
  | .clear => some s.clearLog
  | .flush => some (s.send .flushToDisk)
  | .initLogCache => if s.handler then none else some { s with handler := true, queue := [.logInit] }
  | .handle => handle fits cached s
  | .restore => restore s
  | .openLogFile => openLogFile s

/-- The class is loaded: `logInformation` logs a line that no handler hears of. -/
def start : LogState := (⟨[], false, [], none, none, cached⟩ : LogState).log

def Step (s t : LogState) : Prop := ∃ e, step fits cached s e = some t

/-- The file holds each line at most once, in the order of logging. -/
def PersistedOnce (s : LogState) : Prop := ∀ file, s.mLogFile = some file → file.Pairwise (· < ·)

/-- If a `TRIM_LOG_FILE` is next, no `LOG_MESSAGE` is waiting behind it, and at most one of the
lines in the buffer is a cached one. -/
def Settled (s : LogState) : Prop :=
  s.queue.head? = some .trimLogFile →
    (∀ m ∈ s.queue, m.logged = none) ∧ (s.logbuffer.filter (· < cached)).length ≤ 1

instance (s : LogState) : Decidable (Settled cached s) :=
  inferInstanceAs (Decidable (_ → _ ∧ _))

/-- A step, messages being handled in settled states only. -/
def SettledStep (s t : LogState) : Prop :=
  ∃ e, (e = .handle → Settled cached s) ∧ step fits cached s e = some t

/-! ### What the operations preserve -/

/-- The lines whose messages are waiting. -/
def pending (queue : List Message) : List ℕ := queue.filterMap Message.logged

@[simp] lemma pending_nil : pending [] = [] := rfl

@[simp] lemma pending_append (q r : List Message) : pending (q ++ r) = pending q ++ pending r :=
  List.filterMap_append

@[simp] lemma pending_logMessage (li : ℕ) (q : List Message) :
    pending (.logMessage li :: q) = li :: pending q := rfl

/-- The order of the log buffer: lines of this process follow what was logged before them, cached
lines follow only each other. -/
def Before (a b : ℕ) : Prop := (a < b ∧ cached ≤ b) ∨ (a < cached ∧ b < cached)

structure Inv (s : LogState) : Prop where
  written : (s.mLogFile.getD [] ++ pending s.queue).Pairwise (· < ·)
  written_lt : ∀ x ∈ s.mLogFile.getD [] ++ pending s.queue, x < s.next
  buffer : s.logbuffer.Pairwise (Before cached)
  buffer_lt : ∀ x ∈ s.logbuffer, x < s.next
  cached_le : cached ≤ s.next
  rereading : ∀ l, s.rereading = some l → ∀ x ∈ l, x < cached

section Preserved

variable {fits cached} {s t : LogState} {m : Message} {q : List Message} {file items : List ℕ}

lemma Inv.send (h : Inv cached s) (hm : m.logged = none) : Inv cached (s.send m) := by
  unfold LogState.send
  split_ifs
  · have hq : pending (s.queue ++ [m]) = pending s.queue := by simp [pending, hm]
    exact ⟨by rw [hq]; exact h.written, by rw [hq]; exact h.written_lt, h.buffer, h.buffer_lt,
      h.cached_le, h.rereading⟩
  · exact h

lemma Inv.sublist (h : Inv cached s) {l : List ℕ} (hl : l.Sublist s.logbuffer) :
    Inv cached { s with logbuffer := l } :=
  ⟨h.written, h.written_lt, h.buffer.sublist hl, fun x hx => h.buffer_lt x (hl.subset hx),
    h.cached_le, h.rereading⟩

lemma Inv.trim (h : Inv cached s) : Inv cached s.trim := by
  unfold LogState.trim
  split_ifs
  · exact (h.sublist (List.drop_sublist _ _)).send rfl
  · exact h

lemma Inv.log (h : Inv cached s) : Inv cached s.log := by
  have hbuf : (s.logbuffer ++ [s.next]).Pairwise (Before cached) := by
    refine List.pairwise_append.mpr ⟨h.buffer, List.pairwise_singleton _ _, fun a ha b hb => ?_⟩
    obtain rfl := List.mem_singleton.mp hb
    exact .inl ⟨h.buffer_lt a ha, h.cached_le⟩
  have hlt : ∀ x ∈ s.logbuffer ++ [s.next], x < s.next + 1 := fun x hx => by
    rcases List.mem_append.mp hx with hx | hx
    · exact (h.buffer_lt x hx).trans (Nat.lt_succ_self _)
    · exact List.mem_singleton.mp hx ▸ Nat.lt_succ_self _
  refine Inv.trim ?_
  unfold LogState.send
  split_ifs
  · refine ⟨?_, ?_, hbuf, hlt, h.cached_le.trans (Nat.le_succ _), h.rereading⟩
    · rw [pending_append, ← List.append_assoc]
      refine List.pairwise_append.mpr ⟨h.written, List.pairwise_singleton _ _, fun a ha b hb => ?_⟩
      obtain rfl := List.mem_singleton.mp hb
      exact h.written_lt a ha
    · intro x hx
      rw [pending_append, ← List.append_assoc] at hx
      rcases List.mem_append.mp hx with hx | hx
      · exact (h.written_lt x hx).trans (Nat.lt_succ_self _)
      · exact List.mem_singleton.mp hx ▸ Nat.lt_succ_self _
  · exact ⟨h.written, fun x hx => (h.written_lt x hx).trans (Nat.lt_succ_self _), hbuf, hlt,
      h.cached_le.trans (Nat.le_succ _), h.rereading⟩

lemma Inv.clearLog (h : Inv cached s) : Inv cached s.clearLog :=
  (h.sublist (List.nil_sublist _)).log.send rfl

lemma Inv.writeLogItems (h : Inv cached s) (hw : (file ++ items ++ pending s.queue).Pairwise (· < ·))
    (hlt : ∀ x ∈ file ++ items ++ pending s.queue, x < s.next) :
    Inv cached (s.writeLogItems fits file items) := by
  have hsub : (file ++ items.takeWhile fits ++ pending s.queue).Sublist
      (file ++ items ++ pending s.queue) :=
    ((List.takeWhile_sublist fits).append_left file).append_right _
  have hs : Inv cached { s with mLogFile := some (file ++ items.takeWhile fits) } :=
    ⟨hw.sublist hsub, fun x hx => hlt x (hsub.subset hx), h.buffer, h.buffer_lt, h.cached_le,
      h.rereading⟩
  unfold LogState.writeLogItems
  dsimp only
  split_ifs
  · exact hs
  · exact hs.log.log

lemma Inv.restore (h : Inv cached s) (hs : restore s = some t) : Inv cached t := by
  unfold LogQueue.restore at hs
  split at hs
  · rename_i li rest hr
    cases hs
    have hli : li < cached := h.rereading _ hr li (by simp)
    refine Inv.trim ⟨h.written, h.written_lt, ?_, ?_, h.cached_le, ?_⟩
    · refine List.pairwise_cons.mpr ⟨fun b hb => ?_, h.buffer⟩
      rcases Nat.lt_or_ge b cached with hb | hb
      · exact .inr ⟨hli, hb⟩
      · exact .inl ⟨hli.trans_le hb, hb⟩
    · intro x hx
      rcases List.mem_cons.mp hx with rfl | hx
      · exact hli.trans_le h.cached_le
      · exact h.buffer_lt x hx
    · intro l hl x hx
      cases hl
      exact h.rereading _ hr x (List.mem_cons_of_mem _ hx)
  · cases hs

lemma Inv.openLogFile (h : Inv cached s) (hs : openLogFile s = some t) : Inv cached t := by
  obtain ⟨_, -, rfl⟩ := Option.map_eq_some_iff.mp hs
  have hsub : (pending s.queue).Sublist (s.mLogFile.getD [] ++ pending s.queue) :=
    List.sublist_append_right _ _
  exact ⟨h.written.sublist hsub, fun x hx => h.written_lt x (hsub.subset hx), h.buffer,
    h.buffer_lt, h.cached_le, by simp⟩

/-- A buffer with at most one cached line is in the order of logging. -/
lemma buffer_ordered {l : List ℕ} (h : l.Pairwise (Before cached))
    (h1 : (l.filter (· < cached)).length ≤ 1) : l.Pairwise (· < ·) := by
  refine List.pairwise_iff_forall_sublist.mpr fun {a b} hab => ?_
  rcases h.forall_sublist hab with ⟨hlt, -⟩ | ⟨ha, hb⟩
  · exact hlt
  · have := (hab.filter (· < cached)).length_le
    simp [ha, hb] at this
    omega

lemma Inv.handle (h : Inv cached s) (hset : Settled cached s)
    (hs : handle fits cached s = some t) : Inv cached t := by
  unfold LogQueue.handle at hs
  split at hs
  · rename_i m q hr hq
    have hp : pending s.queue = pending (m :: q) := by rw [hq]
    have hw := h.written
    have hlt := h.written_lt
    rw [hp] at hw hlt
    have hrest : Inv cached { s with queue := q } := by
      have hsub : (pending q).Sublist (pending (m :: q)) := (List.sublist_cons_self m q).filterMap _
      exact ⟨hw.sublist (hsub.append_left _), fun x hx => hlt x ((hsub.append_left _).subset hx),
        h.buffer, h.buffer_lt, h.cached_le, h.rereading⟩
    cases m with
    | logInit =>
      unfold handleMessage at hs
      split_ifs at hs
      cases hs
      exact ⟨hrest.written, hrest.written_lt, h.buffer, h.buffer_lt, h.cached_le,
        fun l hl x hx => by cases hl; exact List.mem_range.mp hx⟩
    | logMessage li =>
      rw [handleMessage] at hs
      split at hs
      · cases hs
        exact hrest
      · rename_i file hf
        cases hs
        dsimp only at hf
        rw [hf] at hw hlt
        exact hrest.writeLogItems (by simpa using hw) (by simpa using hlt)
    | trimLogFile =>
      obtain ⟨_, -, rfl⟩ := Option.map_eq_some_iff.mp hs
      obtain ⟨hno, h1⟩ := hset (by rw [hq]; rfl)
      have hnil : pending q = [] :=
        List.filterMap_eq_nil_iff.mpr fun m hm => hno m (hq ▸ List.mem_cons_of_mem _ hm)
      refine hrest.writeLogItems ?_ ?_
      · simpa [hnil] using buffer_ordered h.buffer h1
      · simpa [hnil] using h.buffer_lt
    | flushToDisk =>
      cases hs
      exact hrest
  · cases hs

lemma Inv.step (h : Inv cached s) (hs : SettledStep fits cached s t) : Inv cached t := by
  obtain ⟨e, hset, hs⟩ := hs
  cases e with
  | log => cases hs; exact h.log
  | clear => cases hs; exact h.clearLog
  | flush => cases hs; exact h.send rfl
  | initLogCache =>
    simp only [LogQueue.step] at hs
    split_ifs at hs
    cases hs
    have hsub : (s.mLogFile.getD [] ++ pending [.logInit]).Sublist
        (s.mLogFile.getD [] ++ pending s.queue) := (List.nil_sublist _).append_left _
    exact ⟨h.written.sublist hsub, fun x hx => h.written_lt x (hsub.subset hx), h.buffer,
      h.buffer_lt, h.cached_le, h.rereading⟩
  | handle => exact h.handle (hset rfl) hs
  | restore => exact h.restore hs
  | openLogFile => exact h.openLogFile hs

end Preserved

lemma inv_start : Inv cached (start cached) :=
  Inv.log ⟨.nil, by simp, .nil, by simp, le_refl _, by simp⟩

/-- **Each line is persisted at most once**, and in the order of logging, as long as no
`TRIM_LOG_FILE` is handled with a `LOG_MESSAGE` behind it, nor with several cached lines in the
buffer. -/
theorem persistedOnce {s : LogState}
    (h : ReflTransGen (SettledStep fits cached) (start cached) s) : PersistedOnce s := by
  have hinv : Inv cached s :=
    Runs.invariant (inv_start cached) (fun u v _ hu huv => hu.step huv) h
  intro file hf
  have hw := hinv.written
  rw [hf] at hw
  exact hw.sublist (List.sublist_append_left _ _)

/-- A cleared log, each message handled before the next line is logged. -/
theorem persistedOnce_cleared :
    PersistedOnce ⟨[1, 2], true, [], some [1, 2], none, 3⟩ := by
  refine persistedOnce (fun _ => true) 0 ?_
  refine .tail (b := ⟨[1, 2], true, [.logMessage 2], some [1], none, 3⟩) ?_
    ⟨.handle, fun _ => by decide, by decide⟩
  refine .tail (b := ⟨[1], true, [], some [1], none, 2⟩) ?_ ⟨.log, nofun, by decide⟩
  refine .tail (b := ⟨[1], true, [.trimLogFile], some [1], none, 2⟩) ?_
    ⟨.handle, fun _ => by decide, by decide⟩
  refine .tail (b := ⟨[1], true, [.logMessage 1, .trimLogFile], some [], none, 2⟩) ?_
    ⟨.handle, fun _ => by decide, by decide⟩
  refine .tail (b := ⟨[0], true, [], some [], none, 1⟩) ?_ ⟨.clear, nofun, by decide⟩
  refine .tail (b := ⟨[0], true, [], none, some [], 1⟩) ?_ ⟨.openLogFile, nofun, by decide⟩
  refine .tail (b := ⟨[0], true, [.logInit], none, none, 1⟩) ?_
    ⟨.handle, fun _ => by decide, by decide⟩
  exact .single ⟨.initLogCache, nofun, by decide⟩

/-- A line is logged after the log was cleared, and before the handler rewrites the file: it is
written with the buffer, and once more for its message. -/
theorem not_persistedOnce :
    ¬ ∀ s, ReflTransGen (Step (fun _ => true) 0) (start 0) s → PersistedOnce s := by
  intro h
  have hrun : ReflTransGen (Step (fun _ => true) 0) (start 0)
      ⟨[1, 2], true, [], some [1, 2, 2], none, 3⟩ := by
    refine .tail (b := ⟨[1, 2], true, [.logMessage 2], some [1, 2], none, 3⟩) ?_
      ⟨.handle, by decide⟩
    refine .tail (b := ⟨[1, 2], true, [.trimLogFile, .logMessage 2], some [1], none, 3⟩) ?_
      ⟨.handle, by decide⟩
    refine .tail (b := ⟨[1, 2], true, [.logMessage 1, .trimLogFile, .logMessage 2], some [],
      none, 3⟩) ?_ ⟨.handle, by decide⟩
    refine .tail (b := ⟨[1], true, [.logMessage 1, .trimLogFile], some [], none, 2⟩) ?_
      ⟨.log, by decide⟩
    refine .tail (b := ⟨[0], true, [], some [], none, 1⟩) ?_ ⟨.clear, by decide⟩
    refine .tail (b := ⟨[0], true, [], none, some [], 1⟩) ?_ ⟨.openLogFile, by decide⟩
    refine .tail (b := ⟨[0], true, [.logInit], none, none, 1⟩) ?_ ⟨.handle, by decide⟩
    exact .single ⟨.initLogCache, by decide⟩
  exact absurd (h _ hrun _ rfl) (by decide)

end BuludTechVPN.LogQueue
