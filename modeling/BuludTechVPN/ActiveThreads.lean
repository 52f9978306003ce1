import BuludTechVPN.JavaLang
import BuludTechVPN.Runs
import Mathlib.Data.List.Nodup
import Mathlib.Logic.Function.Basic

/-!
The management threads of all sessions: the list `active` that `run` enters and leaves, and the
signal that `stopVPN` sends to each of them.

Threads are told apart by numbers. Whether a connected socket takes what is written to it is
decided from outside; one that was closed takes nothing.
-/

namespace BuludTechVPN.ActiveThreads

open JavaLang Runs

/-! ### `OpenVpnManagementThread` -/

inductive Socket
  | null
  | connected
  | closed
  deriving DecidableEq, Repr

structure ManagementThread where
  mSocket : Socket
  mShuttingDown : Bool
  /-- `run` was called and has not come to an end. -/
  running : Bool
  deriving DecidableEq, Repr

/-- `managmentCommand`: whether the command has been sent. -/
def ManagementThread.managmentCommand (mt : ManagementThread) (taken : Bool) : Bool :=
  mt.mSocket = .connected && taken

def ManagementThread.enterRun (mt : ManagementThread) : ManagementThread :=
  { mt with running := true }

def ManagementThread.leaveRun (mt : ManagementThread) : ManagementThread :=
  { mt with running := false }

def ManagementThread.connect (mt : ManagementThread) : ManagementThread :=
  { mt with mSocket := .connected }

/-- `mSocket.close()`, where there is a socket. -/
def ManagementThread.closeSocket (mt : ManagementThread) : ManagementThread :=
  { mt with mSocket := if mt.mSocket = .null then .null else .closed }

def ManagementThread.shutDown (mt : ManagementThread) : ManagementThread :=
  { mt with mShuttingDown := true }

/-- How `run` ends. -/
inductive Exit
  /-- `read` returns -1 -/
  | endOfFile
  /-- `accept` or `read` throws an `IOException` with this message. -/
  | ioException (message : Option Text)
  /-- `processInput` throws. -/
  | uncaught
  deriving DecidableEq, Repr

/-- `run` goes on to the end of its body, where it leaves `active`. The handler of an
`IOException` looks into the message, which throws where there is none. -/
def Exit.deregisters : Exit → Bool
  | ioException (some _) => true
  | _ => false

/-- The exits that there are already while `accept` waits. -/
def Exit.inAccept : Exit → Bool
  | ioException _ => true
  | _ => false

structure Management where
  thread : ℕ → ManagementThread
  /-- The next thread that calls `run`. -/
  started : ℕ
  active : List ℕ

namespace Management

def modify (m : Management) (mt : ℕ) (f : ManagementThread → ManagementThread) : Management :=
  { m with thread := Function.update m.thread mt (f (m.thread mt)) }

def start (m : Management) : Management :=
  { m.modify m.started .enterRun with
    started := m.started + 1, active := m.active ++ [m.started] }

def accept (m : Management) (mt : ℕ) : Management :=
  m.modify mt .connect

def exit (m : Management) (mt : ℕ) (e : Exit) : Management :=
  let m := m.modify mt .leaveRun
  if e.deregisters then { m with active := m.active.erase mt } else m

/-- The loop of `stopOpenVPN`, and the threads to whose sockets the command was written. -/
structure Loop where
  management : Management
  sendCMD : Bool
  written : List ℕ

/-- The body of the loop. -/
def signal (taken : ℕ → Bool) (l : Loop) (mt : ℕ) : Loop :=
  let sendCMD := (l.management.thread mt).managmentCommand (taken mt)
  { management := l.management.modify mt .closeSocket
    sendCMD
    written := if sendCMD then l.written ++ [mt] else l.written }

def stopOpenVPN (m : Management) (taken : ℕ → Bool) : Loop :=
  m.active.foldl (signal taken) ⟨m, false, []⟩

/-- `stopVPN` of the thread `mt`. -/
def stopVPN (m : Management) (mt : ℕ) (taken : ℕ → Bool) : Loop :=
  let l := m.stopOpenVPN taken
  let stopSucceed := l.sendCMD
  if stopSucceed then
    { l with management := l.management.modify mt .shutDown }
  else l

/-! ### Runs -/

/-- The socket of the thread takes the command. -/
def takes (m : Management) (taken : ℕ → Bool) (mt : ℕ) : Bool :=
  (m.thread mt).managmentCommand (taken mt)

end Management

inductive Event
  | start
  | accept (mt : ℕ)
  | exit (mt : ℕ) (e : Exit)
  | stopVPN (mt : ℕ) (taken : ℕ → Bool)

/-- What a call of `stopVPN` returned, and the threads to whose sockets it wrote the command. -/
structure Report where
  stopSucceed : Bool
  written : List ℕ
  deriving DecidableEq, Repr

structure History where
  management : Management
  report : Option Report

/-- Only a thread that runs and waits accepts a connection, and only one that runs comes to an end,
by an `IOException` also before it has accepted one. -/
def History.next (h : History) : Event → Option History
  | .start => some { h with management := h.management.start }
  | .accept mt =>
    let t := h.management.thread mt
    if t.running = true ∧ t.mSocket = .null then
      some { h with management := h.management.accept mt }
    else none
  | .exit mt e =>
    let t := h.management.thread mt
    if t.running = true ∧ (t.mSocket = .null → e.inAccept = true) then
      some { h with management := h.management.exit mt e }
    else none
  | .stopVPN mt taken =>
    let l := h.management.stopVPN mt taken
    some ⟨l.management, some ⟨l.sendCMD, l.written⟩⟩

/-- Only threads that run are active, and the last stop has reported what it did. -/
structure Reports (h : History) : Prop where
  running : ∀ mt ∈ h.management.active, (h.management.thread mt).running = true
  result : ∀ r, h.report = some r → (r.stopSucceed = true ↔ r.written ≠ [])

/-- The bad steps: an exit that leaves the thread behind, and a stop in which some socket takes the
command, but not that of the last thread. -/
def Misleads (h : History) : Event → Prop
  | .exit _ e => e.deregisters = false
  | .stopVPN _ taken => (∃ mt ∈ h.management.active, h.management.takes taken mt = true) ∧
      ∀ mt, h.management.active.getLast? = some mt → h.management.takes taken mt = false
  | _ => False

/-! ### The loop -/

namespace Management

variable {m : Management} {mt : ℕ} {taken : ℕ → Bool} {f : ManagementThread → ManagementThread}

lemma thread_modify_of_ne {i : ℕ} (h : i ≠ mt) : (m.modify mt f).thread i = m.thread i :=
  Function.update_of_ne h _ _

lemma thread_modify : (m.modify mt f).thread mt = f (m.thread mt) := Function.update_self _ _ _

/-- A change that leaves `running` as it is. -/
lemma running_modify (hf : ∀ t, (f t).running = t.running) (i : ℕ) :
    ((m.modify mt f).thread i).running = (m.thread i).running := by
  by_cases h : i = mt
  · rw [h, thread_modify, hf]
  · rw [thread_modify_of_ne h]

lemma running_signal (l : Loop) (i : ℕ) :
    ((signal taken l mt).management.thread i).running = (l.management.thread i).running :=
  running_modify (f := .closeSocket) (fun _ => rfl) i

/-- The loop changes sockets only. -/
lemma foldl_signal_same (taken : ℕ → Bool) (threads : List ℕ) (l : Loop) :
    (threads.foldl (signal taken) l).management.active = l.management.active ∧
      (threads.foldl (signal taken) l).management.started = l.management.started ∧
      ∀ i, ((threads.foldl (signal taken) l).management.thread i).running =
        (l.management.thread i).running := by
  induction threads generalizing l with
  | nil => exact ⟨rfl, rfl, fun _ => rfl⟩
  | cons mt threads ih =>
    obtain ⟨ha, hs, hr⟩ := ih (signal taken l mt)
    exact ⟨ha, hs, fun i => (hr i).trans (running_signal l i)⟩

/-- The loop writes to the sockets that take the command, and keeps the result of the last write. -/
lemma foldl_signal {threads : List ℕ} (hnodup : threads.Nodup) (l : Loop) :
    (threads.foldl (signal taken) l).written =
        l.written ++ threads.filter (l.management.takes taken) ∧
      (threads.foldl (signal taken) l).sendCMD =
        (threads.getLast?.map (l.management.takes taken)).getD l.sendCMD := by
  induction threads generalizing l with
  | nil => simp
  | cons mt threads ih =>
    rw [List.nodup_cons] at hnodup
    obtain ⟨hwritten, hsend⟩ := ih hnodup.2 (signal taken l mt)
    -- the body closes the socket of its own thread only
    have hothers : ∀ i ∈ threads,
        (signal taken l mt).management.takes taken i = l.management.takes taken i := fun i hi => by
      have hne : i ≠ mt := fun h => hnodup.1 (h ▸ hi)
      rw [takes, takes, signal, thread_modify_of_ne hne]
    rw [List.foldl_cons, hwritten, hsend, List.filter_congr hothers]
    constructor
    · rw [List.filter_cons]
      show (if l.management.takes taken mt then l.written ++ [mt] else l.written) ++ _ = _
      split_ifs <;> simp
    · cases hlast : threads.getLast? with
      | none =>
        obtain rfl := List.getLast?_eq_none_iff.1 hlast
        rfl
      | some i =>
        have hi := hothers i (List.mem_of_getLast? hlast)
        rw [List.getLast?_cons, hlast]
        simp [hi]

lemma stopOpenVPN_eq (taken : ℕ → Bool) (hnodup : m.active.Nodup) :
    (m.stopOpenVPN taken).written = m.active.filter (m.takes taken) ∧
      (m.stopOpenVPN taken).sendCMD = (m.active.getLast?.map (m.takes taken)).getD false :=
  foldl_signal hnodup ⟨m, false, []⟩

/-- What the stop reports is what the loop did. -/
lemma stopVPN_eq (m : Management) (mt : ℕ) (taken : ℕ → Bool) :
    (m.stopVPN mt taken).written = (m.stopOpenVPN taken).written ∧
      (m.stopVPN mt taken).sendCMD = (m.stopOpenVPN taken).sendCMD := by
  unfold stopVPN
  dsimp only
  split_ifs <;> exact ⟨rfl, rfl⟩

lemma stopVPN_same (m : Management) (mt : ℕ) (taken : ℕ → Bool) :
    (m.stopVPN mt taken).management.active = m.active ∧
      (m.stopVPN mt taken).management.started = m.started ∧
      ∀ i, ((m.stopVPN mt taken).management.thread i).running = (m.thread i).running := by
  obtain ⟨ha, hs, hr⟩ := foldl_signal_same taken m.active ⟨m, false, []⟩
  unfold stopVPN
  dsimp only
  split_ifs
  · exact ⟨ha, hs, fun i => (running_modify (f := .shutDown) (fun _ => rfl) i).trans (hr i)⟩
  · exact ⟨ha, hs, hr⟩

/-- **When the result is right**: unless some socket takes the command and the last one does not. -/
lemma stopVPN_reports (hnodup : m.active.Nodup) :
    ((m.stopVPN mt taken).sendCMD = true ↔ (m.stopVPN mt taken).written ≠ []) ↔
      ¬ ((∃ i ∈ m.active, m.takes taken i = true) ∧
        ∀ i, m.active.getLast? = some i → m.takes taken i = false) := by
  obtain ⟨hw, hs⟩ := stopVPN_eq m mt taken
  obtain ⟨hw', hs'⟩ := stopOpenVPN_eq taken hnodup
  have hsome : m.active.filter (m.takes taken) ≠ [] ↔ ∃ i ∈ m.active, m.takes taken i = true := by
    rw [ne_eq, List.filter_eq_nil_iff]
    push Not
    rfl
  rw [hw, hs, hw', hs', hsome]
  cases hlast : m.active.getLast? with
  | none =>
    rw [List.getLast?_eq_none_iff.1 hlast]
    simp
  | some i =>
    have hi := List.mem_of_getLast? hlast
    cases htakes : m.takes taken i with
    | true => simpa [htakes] using ⟨i, hi, htakes⟩
    | false => simp [htakes]

end Management

/-! ### Steps -/

/-- What every step keeps: a thread is in `active` once at most, and as long as it runs. -/
structure Registered (m : Management) : Prop where
  nodup : m.active.Nodup
  started : ∀ mt ∈ m.active, mt < m.started
  active : ∀ mt, (m.thread mt).running = true → mt ∈ m.active

open Management

variable {m : Management} {h t : History} {e : Event} {mt : ℕ}

/-- A change of sockets. -/
lemma Registered.same (hm : Registered m) {m' : Management} (ha : m'.active = m.active)
    (hs : m'.started = m.started)
    (hr : ∀ i, (m'.thread i).running = (m.thread i).running) : Registered m' := by
  refine ⟨ha ▸ hm.nodup, ?_, fun i hi => ?_⟩
  · rw [ha, hs]
    exact hm.started
  · rw [ha]
    exact hm.active i (hr i ▸ hi)

lemma thread_start_of_ne {i : ℕ} (hne : i ≠ m.started) : m.start.thread i = m.thread i :=
  thread_modify_of_ne (f := .enterRun) hne

lemma running_start (m : Management) : (m.start.thread m.started).running = true :=
  congrArg ManagementThread.running (thread_modify (f := .enterRun))

lemma Registered.start (hm : Registered m) : Registered m.start := by
  have hnew : m.started ∉ m.active := fun hi => (hm.started _ hi).false
  refine ⟨?_, fun i hi => ?_, fun i hi => ?_⟩
  · exact hm.nodup.append (List.nodup_singleton _) (by simpa using hnew)
  · show i < m.started + 1
    rcases List.mem_append.1 hi with hi | hi
    · exact (hm.started i hi).trans (Nat.lt_succ_self _)
    · rw [List.mem_singleton.1 hi]
      exact Nat.lt_succ_self _
  · by_cases hne : i = m.started
    · exact List.mem_append_right _ (List.mem_singleton.2 hne)
    · rw [thread_start_of_ne hne] at hi
      exact List.mem_append_left _ (hm.active i hi)

lemma not_running_exit (m : Management) (mt : ℕ) (e : Exit) :
    ((m.exit mt e).thread mt).running = false := by
  unfold Management.exit
  dsimp only
  split_ifs <;> exact congrArg ManagementThread.running (thread_modify (f := .leaveRun))

lemma thread_exit_of_ne {i : ℕ} (hne : i ≠ mt) (e : Exit) :
    (m.exit mt e).thread i = m.thread i := by
  unfold Management.exit
  dsimp only
  split_ifs <;> exact thread_modify_of_ne (f := .leaveRun) hne

lemma started_exit (m : Management) (mt : ℕ) (e : Exit) : (m.exit mt e).started = m.started := by
  unfold Management.exit
  dsimp only
  split_ifs <;> rfl

lemma active_exit (m : Management) (mt : ℕ) (e : Exit) :
    (m.exit mt e).active = if e.deregisters then m.active.erase mt else m.active := by
  unfold Management.exit
  dsimp only
  split_ifs <;> rfl

lemma Registered.exit (hm : Registered m) (mt : ℕ) (e : Exit) : Registered (m.exit mt e) := by
  have hsub : (m.exit mt e).active.Sublist m.active := by
    rw [active_exit]
    split_ifs
    · exact List.erase_sublist
    · exact List.Sublist.refl _
  refine ⟨hm.nodup.sublist hsub, fun i hi => ?_, fun i hi => ?_⟩
  · rw [started_exit]
    exact hm.started i (hsub.subset hi)
  · have hne : i ≠ mt := by
      rintro rfl
      rw [not_running_exit] at hi
      cases hi
    rw [thread_exit_of_ne hne] at hi
    have hmem := hm.active i hi
    rw [active_exit]
    split_ifs
    · exact (List.mem_erase_of_ne hne).2 hmem
    · exact hmem

/-- What the steps are. -/
lemma next_cases (hn : h.next e = some t) :
    (e = .start ∧ t = { h with management := h.management.start }) ∨
    (∃ mt, e = .accept mt ∧ t = { h with management := h.management.accept mt }) ∨
    (∃ mt x, e = .exit mt x ∧ (h.management.thread mt).running = true ∧
      t = { h with management := h.management.exit mt x }) ∨
    ∃ mt taken, e = .stopVPN mt taken ∧
      t = ⟨(h.management.stopVPN mt taken).management, some
        ⟨(h.management.stopVPN mt taken).sendCMD, (h.management.stopVPN mt taken).written⟩⟩ := by
  cases e with
  | start => exact .inl ⟨rfl, (Option.some.inj hn).symm⟩
  | accept mt =>
    simp only [History.next, Option.ite_none_right_eq_some, Option.some.injEq] at hn
    exact .inr (.inl ⟨mt, rfl, hn.2.symm⟩)
  | exit mt x =>
    simp only [History.next, Option.ite_none_right_eq_some, Option.some.injEq] at hn
    exact .inr (.inr (.inl ⟨mt, x, rfl, hn.1.1, hn.2.symm⟩))
  | stopVPN mt taken => exact .inr (.inr (.inr ⟨mt, taken, rfl, (Option.some.inj hn).symm⟩))

lemma running_accept (m : Management) (mt i : ℕ) :
    ((m.accept mt).thread i).running = (m.thread i).running :=
  running_modify (f := .connect) (fun _ => rfl) i

lemma registered_next (hm : Registered h.management) (hn : h.next e = some t) :
    Registered t.management := by
  rcases next_cases hn with ⟨-, rfl⟩ | ⟨mt, -, rfl⟩ | ⟨mt, x, -, -, rfl⟩ | ⟨mt, taken, -, rfl⟩
  · exact hm.start
  · exact hm.same rfl rfl fun i => running_accept _ mt i
  · exact hm.exit mt x
  · obtain ⟨ha, hs, hr⟩ := stopVPN_same h.management mt taken
    exact hm.same ha hs hr

lemma reports_next (hm : Registered h.management) (hr : Reports h) (hnot : ¬ Misleads h e)
    (hn : h.next e = some t) : Reports t := by
  rcases next_cases hn with ⟨-, rfl⟩ | ⟨mt, -, rfl⟩ | ⟨mt, x, rfl, -, rfl⟩ | ⟨mt, taken, rfl, rfl⟩
  · refine ⟨fun i hi => ?_, hr.result⟩
    by_cases hne : i = h.management.started
    · exact hne ▸ running_start h.management
    · show (h.management.start.thread i).running = true
      rw [thread_start_of_ne hne]
      rcases List.mem_append.1 hi with hi | hi
      · exact hr.running i hi
      · exact absurd (List.mem_singleton.1 hi) hne
  · exact ⟨fun i hi => (running_accept _ mt i).trans (hr.running i hi), hr.result⟩
  · refine ⟨fun i hi => ?_, hr.result⟩
    have hx : x.deregisters = true := by simpa [Misleads] using hnot
    simp only [active_exit, hx, if_true] at hi
    obtain ⟨hne, hi⟩ := hm.nodup.mem_erase_iff.1 hi
    show ((h.management.exit mt x).thread i).running = true
    rw [thread_exit_of_ne hne]
    exact hr.running i hi
  · obtain ⟨ha, -, hrun⟩ := stopVPN_same h.management mt taken
    refine ⟨fun i hi => ?_, fun r hreport => ?_⟩
    · simp only [ha] at hi
      exact (hrun i).trans (hr.running i hi)
    · obtain rfl := Option.some.inj hreport
      exact (stopVPN_reports hm.nodup).2 hnot

lemma not_reports_next (hm : Registered h.management) (hbad : Misleads h e)
    (hn : h.next e = some t) : ¬ Reports t := by
  rintro ⟨hrunning, hresult⟩
  rcases next_cases hn with
    ⟨rfl, -⟩ | ⟨mt, rfl, -⟩ | ⟨mt, x, rfl, hrun, rfl⟩ | ⟨mt, taken, rfl, rfl⟩
  · exact hbad
  · exact hbad
  · have hx : x.deregisters = false := hbad
    have hmem : mt ∈ (h.management.exit mt x).active := by
      rw [active_exit, hx]
      exact hm.active mt hrun
    have hstill := hrunning mt hmem
    rw [not_running_exit] at hstill
    cases hstill
  · exact (stopVPN_reports hm.nodup).1 (hresult _ rfl) hbad

/-- Before the first session. -/
def initial : History where
  management := ⟨fun _ => ⟨.null, false, false⟩, 0, []⟩
  report := none

/-- **Stopping reports what it did, and only running threads are active**, all along a run exactly
if no thread is left behind at its end, and at each stop the last thread has a socket that takes
the command if any has. -/
theorem reports_iff (events : List Event) :
    Along History.next Reports initial events ↔ Avoids History.next Misleads initial events := by
  refine along_iff_avoids (I := fun h => Registered h.management ∧ Reports h) (fun _ h => h.2)
    (fun h e t hI hnot hn => ⟨registered_next hI.1 hn, reports_next hI.1 hI.2 hnot hn⟩)
    (fun h e t hI hbad hn => not_reports_next hI.1 hbad hn) ?_ events
  exact ⟨⟨List.nodup_nil, by simp [initial], by simp [initial]⟩,
    by simp [initial], by simp [initial]⟩

/-- A thread that read the end of file stays in `active`; and a stop that reached the process of a
connected thread says that it did not, as a thread that still waits comes after it. -/
theorem not_reports :
    ¬ Along History.next Reports initial [.start, .accept 0, .exit 0 .endOfFile] ∧
      ¬ Along History.next Reports initial
        [.start, .accept 0, .start, .stopVPN 1 fun _ => true] := by
  constructor
  · rintro ⟨-, h⟩
    obtain ⟨-, h⟩ := h _ rfl
    obtain ⟨-, h⟩ := h _ rfl
    exact absurd ((h _ rfl).running 0) (by decide)
  · rintro ⟨-, h⟩
    obtain ⟨-, h⟩ := h _ rfl
    obtain ⟨-, h⟩ := h _ rfl
    obtain ⟨-, h⟩ := h _ rfl
    exact absurd ((h _ rfl).result _ rfl) (by decide)

end BuludTechVPN.ActiveThreads
