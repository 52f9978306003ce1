import BuludTechVPN.Mirrors
import BuludTechVPN.StatusService

/-!
What the status service keeps of its listeners, and how a part of the state of the VPN process is
mirrored in another process.

A step is seen from one of the processes: `Local` says what it does to the service and to this
process. The state, the profile and the log are each a channel, which mirrors its part.
-/

namespace BuludTechVPN.Status

open JavaLang LogCache LogPipe Relation Mirrors

variable (D : Utf8.Decoder)

/-! ### A step, seen from one process -/

/-- What a step does to the service and to the process `i`. -/
inductive Local (i : ℕ) : Event → Server → Client → Server → Client → Prop
  | perform {v : Server} {c : Client} (now : ℤ) (m : Message) :
      Local i (.perform now m) v c
        ({ v with status := (v.status.perform now m).1 }.hear (v.status.perform now m).2) c
  | clearLog {v : Server} {c : Client} (information : LogItem) :
      Local i (.clearLog information) v c
        ({ v with status := (v.status.clearLog information).1 }.hear
          (v.status.clearLog information).2) c
  | onCreate {v : Server} {c : Client} (now : ℤ) (h : v.created = false) :
      Local i (.onCreate now) v c ({ v with created := true }.hear (v.greeting now)) c
  | onDestroy {v : Server} {c : Client} (h : v.created = true) :
      Local i .onDestroy v c { v with created := false, mCallbacks := [], killed := true } c
  | handleMessage {v : Server} {c : Client} {m : Message} {queue : List Message}
      (hq : v.queue = m :: queue) :
      Local i .handleMessage v c { v with queue }
        (if i ∈ v.mCallbacks then { c with calls := c.calls ++ [m] } else c)
  | bind {v : Server} {c : Client} (h : v.created = true) (hp : c.phase = .idle) :
      Local i (.bind i) v c v { c with
        phase := .bound
        status := { c.status with
          mLastConnectedVPNUUID := v.status.mLastConnectedVPNUUID
          trafficHistory := v.status.trafficHistory } }
  | getlogbuffer {v : Server} {c : Client} (hp : c.phase = .bound) :
      Local i (.getlogbuffer i) v c v { c with phase := .copied v.status.logbuffer }
  | sendUpdate {v : Server} {c : Client} {logbuffer : List LogItem}
      (hp : c.phase = .copied logbuffer) :
      Local i (.sendUpdate i) v c v { c with
        phase := .updated logbuffer
        calls := c.calls ++ (v.mLastUpdateMessage.map Message.updateStateString).toList }
  | register {v : Server} {c : Client} {logbuffer : List LogItem}
      (hp : c.phase = .updated logbuffer) :
      Local i (.register i) v c
        { v with mCallbacks :=
          if v.killed ∨ i ∈ v.mCallbacks then v.mCallbacks else v.mCallbacks ++ [i] }
        { c with phase := .registered, pipe := (readLog D (pushLogs logbuffer).1).1 }
  | readPipe {v : Server} {c : Client} {li : LogItem} {pipe : List LogItem}
      (hp : c.pipe = li :: pipe) :
      Local i (.readPipe i) v c v { c with status := (c.status.newLogItem li).1, pipe }
  | callback {v : Server} {c : Client} {m : Message} {calls : List Message} (now : ℤ)
      (hc : c.calls = m :: calls) :
      Local i (.callback now i) v c v { c with status := (c.status.perform now m).1, calls }
  | clientDies {v : Server} {c : Client} (information : LogItem) :
      Local i (.clientDies i information) v c
        { v with mCallbacks := v.mCallbacks.filter (· ≠ i) } (.fresh information)
  | serverDies {v : Server} {c : Client} (information : LogItem) :
      Local i (.serverDies information) v c (.fresh information)
        { c with phase := .idle, pipe := [] }
  /-- A step of another process. -/
  | elsewhere {v : Server} {c : Client} {e : Event} {mCallbacks : List ℕ}
      (h : i ∈ mCallbacks ↔ i ∈ v.mCallbacks) : Local i e v c { v with mCallbacks } c

variable {D} {i j : ℕ} {e : Event} {s t : System} {v v' : Server} {c c' : Client}

@[simp] lemma setClient_server {d : Client} : (s.setClient i d).server = s.server := rfl

@[simp] lemma setClient_self {d : Client} : (s.setClient i d).client i = d :=
  Function.update_self ..

lemma setClient_of_ne {d : Client} (h : j ≠ i) : (s.setClient i d).client j = s.client j :=
  Function.update_of_ne h ..

/-- A step of a process that leaves the service alone. -/
lemma local_setClient {d : Client} (he : ∀ v c, Local D j e v c v c)
    (h : Local D i e s.server (s.client i) s.server d) (hij : i = j ∨ i ≠ j) :
    Local D j e s.server (s.client j) (s.setClient i d).server ((s.setClient i d).client j) := by
  rcases hij with rfl | hij
  · rwa [setClient_self]
  · rw [setClient_of_ne (Ne.symm hij)]
    exact he _ _

/-- A step of another process that leaves the service alone. -/
lemma local_refl (i : ℕ) (e : Event) (v : Server) (c : Client) : Local D i e v c v c :=
  .elsewhere Iff.rfl

/-- **A step is seen** from every process. -/
theorem local_step (j : ℕ) (h : step D s e = some t) :
    Local D j e s.server (s.client j) t.server (t.client j) := by
  cases e with
  | perform now m =>
    obtain rfl := Option.some.inj h
    exact .perform now m
  | clearLog information =>
    obtain rfl := Option.some.inj h
    exact .clearLog information
  | onCreate now =>
    by_cases hc : s.server.created = true
    · rw [step, if_pos hc] at h
      cases h
    · rw [step, if_neg hc] at h
      obtain rfl := Option.some.inj h
      exact .onCreate now (by simpa using hc)
  | onDestroy =>
    by_cases hc : s.server.created = true
    · rw [step, if_pos hc] at h
      obtain rfl := Option.some.inj h
      exact .onDestroy hc
    · rw [step, if_neg hc] at h
      cases h
  | handleMessage =>
    unfold step at h
    cases hq : s.server.queue with
    | nil =>
      rw [hq] at h
      cases h
    | cons m queue =>
      rw [hq] at h
      obtain rfl := Option.some.inj h
      exact .handleMessage hq
  | bind i =>
    by_cases hc : s.server.created = true ∧ (s.client i).phase = .idle
    · rw [step, if_pos hc] at h
      obtain rfl := Option.some.inj h
      exact local_setClient (local_refl j _) (.bind hc.1 hc.2) (eq_or_ne i j)
    · rw [step, if_neg hc] at h
      cases h
  | getlogbuffer i =>
    by_cases hp : (s.client i).phase = .bound
    · rw [step, if_pos hp] at h
      obtain rfl := Option.some.inj h
      exact local_setClient (local_refl j _) (.getlogbuffer hp) (eq_or_ne i j)
    · rw [step, if_neg hp] at h
      cases h
  | sendUpdate i =>
    simp only [step] at h
    cases hp : (s.client i).phase with
    | copied logbuffer =>
      rw [hp] at h
      obtain rfl := Option.some.inj h
      exact local_setClient (local_refl j _) (.sendUpdate hp) (eq_or_ne i j)
    | idle | bound | updated | registered =>
      rw [hp] at h
      cases h
  | register i =>
    simp only [step] at h
    cases hp : (s.client i).phase with
    | updated logbuffer =>
      rw [hp] at h
      obtain rfl := Option.some.inj h
      rcases eq_or_ne j i with rfl | hij
      · rw [setClient_self]
        exact .register hp
      · rw [setClient_of_ne hij]
        refine .elsewhere ?_
        split_ifs
        · exact Iff.rfl
        · rw [List.mem_append, List.mem_singleton, or_iff_left hij]
    | idle | bound | copied | registered =>
      rw [hp] at h
      cases h
  | readPipe i =>
    simp only [step] at h
    cases hp : (s.client i).pipe with
    | nil =>
      rw [hp] at h
      cases h
    | cons li pipe =>
      rw [hp] at h
      obtain rfl := Option.some.inj h
      exact local_setClient (local_refl j _) (.readPipe hp) (eq_or_ne i j)
  | callback now i =>
    simp only [step] at h
    cases hc : (s.client i).calls with
    | nil =>
      rw [hc] at h
      cases h
    | cons m calls =>
      rw [hc] at h
      obtain rfl := Option.some.inj h
      exact local_setClient (local_refl j _) (.callback now hc) (eq_or_ne i j)
  | clientDies i information =>
    obtain rfl := Option.some.inj h
    rcases eq_or_ne j i with rfl | hij
    · rw [setClient_self]
      exact .clientDies information
    · rw [setClient_of_ne hij]
      refine .elsewhere ?_
      rw [List.mem_filter, decide_eq_true hij, and_iff_left rfl]
  | serverDies information =>
    obtain rfl := Option.some.inj h
    exact .serverDies information

/-! ### What the service keeps -/

/-- What holds of the service and a process at all times. -/
structure Kept (i : ℕ) (v : Server) (c : Client) : Prop where
  update : v.created = true → v.mLastUpdateMessage = some v.status.last
  killed : v.killed = true → i ∉ v.mCallbacks
  /-- Before the service is there, nobody is connected to it. -/
  apart : v.killed = false → v.created = false → v.queue = [] ∧ c.phase = .idle
  registered : v.killed = false → (i ∈ v.mCallbacks ↔ c.phase = .registered)

@[simp] lemma hear_status {ms : List Message} : (v.hear ms).status = v.status := by
  unfold Server.hear
  split_ifs
  · rfl
  · rfl

@[simp] lemma hear_created {ms : List Message} : (v.hear ms).created = v.created := by
  unfold Server.hear
  split_ifs
  · rfl
  · rfl

@[simp] lemma hear_killed {ms : List Message} : (v.hear ms).killed = v.killed := by
  unfold Server.hear
  split_ifs
  · rfl
  · rfl

@[simp] lemma hear_mCallbacks {ms : List Message} : (v.hear ms).mCallbacks = v.mCallbacks := by
  unfold Server.hear
  split_ifs
  · rfl
  · rfl

lemma hear_queue {ms : List Message} (h : v.created = true) :
    (v.hear ms).queue = v.queue ++ ms := by
  rw [Server.hear, if_pos h]

lemma hear_of_not {ms : List Message} (h : v.created = false) : v.hear ms = v := by
  rw [Server.hear, if_neg (by rw [h]; decide)]

/-- Where the last state that is told of is that of the process, the service remembers it. -/
lemma hear_update {ms : List Message} (h : v.created = true → ms.foldl (fun last m => m.state.or last)
    v.mLastUpdateMessage = some v.status.last) :
    v.created = true → (v.hear ms).mLastUpdateMessage = some v.status.last := by
  intro hc
  rw [Server.hear, if_pos hc]
  exact h hc

/-- The service remembers the state after a call. -/
lemma perform_update {now : ℤ} {m : Message} {w : VpnStatus} {last : Option UpdateMessage}
    (h : last = some w.last) : (w.perform now m).2.foldl (fun last m => m.state.or last) last =
      some (w.perform now m).1.last := by
  cases m with
  | newLogItem logItem => exact h
  | updateStateString um =>
    simp only [VpnStatus.perform, VpnStatus.updateStateString]
    split_ifs
    · exact h
    · rfl
  | updateByteCount inBytes outBytes => exact h
  | connectedVPN uuid => exact h

/-- What the process does to its state, the service hears of. -/
lemma Kept.hear {w : VpnStatus} {ms : List Message} (h : Kept i v c)
    (hlast : ∀ last, last = some v.status.last →
      ms.foldl (fun last m => m.state.or last) last = some w.last) :
    Kept i ({ v with status := w }.hear ms) c := by
  refine ⟨fun hc => ?_, fun hk => ?_, fun hk hc => ?_, fun hk => ?_⟩
  · simp only [hear_created, hear_status] at hc ⊢
    exact hear_update (fun _ => hlast _ (h.update hc)) hc
  · simp only [hear_killed, hear_mCallbacks] at hk ⊢
    exact h.killed hk
  · simp only [hear_killed, hear_created] at hk hc
    rw [hear_of_not (by exact hc)]
    exact h.apart hk hc
  · simp only [hear_killed, hear_mCallbacks] at hk ⊢
    exact h.registered hk

/-- **A step keeps it.** -/
theorem Kept.step (h : Kept i v c) (hstep : Local D i e v c v' c') : Kept i v' c' := by
  cases hstep with
  | perform now m => exact h.hear fun _ hlast => perform_update hlast
  | clearLog information => exact h.hear fun _ hlast => hlast
  | onCreate now hc =>
    refine ⟨fun hc' => ?_, fun hk => ?_, fun hk hc' => ?_, fun hk => ?_⟩
    · exact hear_update (fun _ => rfl) rfl
    · simp only [hear_killed, hear_mCallbacks] at hk ⊢
      exact h.killed hk
    · rw [hear_created] at hc'
      cases hc'
    · simp only [hear_killed, hear_mCallbacks] at hk ⊢
      exact h.registered hk
  | onDestroy hc =>
    exact ⟨fun hc' => (by cases hc'), fun _ => List.not_mem_nil, fun hk => (by cases hk),
      fun hk => (by cases hk)⟩
  | @handleMessage _ _ m queue hq =>
    have hphase : (if i ∈ v.mCallbacks then { c with calls := c.calls ++ [m] } else c).phase =
        c.phase := by
      split_ifs
      · rfl
      · rfl
    refine ⟨h.update, h.killed, fun hk hc => ?_, fun hk => ?_⟩
    · rw [(h.apart hk hc).1] at hq
      cases hq
    · rw [hphase]
      exact h.registered hk
  | bind hc hp =>
    refine ⟨h.update, h.killed, fun hk hc' => ?_, fun hk => ?_⟩
    · rw [hc] at hc'
      cases hc'
    · rw [h.registered hk, hp]
      exact iff_of_false nofun nofun
  | getlogbuffer hp =>
    refine ⟨h.update, h.killed, fun hk hc => ?_, fun hk => ?_⟩
    · rw [(h.apart hk hc).2] at hp
      cases hp
    · rw [h.registered hk, hp]
      exact iff_of_false nofun nofun
  | sendUpdate hp =>
    refine ⟨h.update, h.killed, fun hk hc => ?_, fun hk => ?_⟩
    · rw [(h.apart hk hc).2] at hp
      cases hp
    · rw [h.registered hk, hp]
      exact iff_of_false nofun nofun
  | register hp =>
    refine ⟨h.update, fun hk => ?_, fun hk hc => ?_, fun hk => ?_⟩
    · rw [if_pos (.inl hk)]
      exact h.killed hk
    · rw [(h.apart hk hc).2] at hp
      cases hp
    · refine iff_of_true ?_ rfl
      split_ifs with hmem
      · exact hmem.resolve_left (by rw [hk]; decide)
      · exact List.mem_append_right _ (List.mem_singleton_self i)
  | readPipe hp => exact ⟨h.update, h.killed, h.apart, h.registered⟩
  | callback now hc => exact ⟨h.update, h.killed, h.apart, h.registered⟩
  | clientDies information =>
    have hnot : i ∉ v.mCallbacks.filter (· ≠ i) := fun hmem =>
      absurd rfl (of_decide_eq_true (List.mem_filter.mp hmem).2)
    exact ⟨h.update, fun _ => hnot, fun hk hc => ⟨(h.apart hk hc).1, rfl⟩,
      fun _ => iff_of_false hnot nofun⟩
  | serverDies information =>
    exact ⟨fun hc => (by cases hc), fun _ => List.not_mem_nil, fun _ _ => ⟨rfl, rfl⟩,
      fun _ => iff_of_false List.not_mem_nil nofun⟩
  | elsewhere hmem =>
    exact ⟨h.update, fun hk => fun hi => h.killed hk (hmem.mp hi), h.apart,
      fun hk => hmem.trans (h.registered hk)⟩

lemma kept_start (information : LogItem) (i : ℕ) :
    Kept i (System.start information).server ((System.start information).client i) :=
  ⟨fun hc => (by cases hc), fun _ => List.not_mem_nil, fun _ _ => ⟨rfl, rfl⟩,
    fun _ => iff_of_false List.not_mem_nil nofun⟩

/-! ### Channels -/

/-- A part of the state, with the messages about it, and the phases in which another process has
joined and listens. -/
structure Channel (σ τ μ : Type*) where
  P : Protocol σ τ μ
  select : Message → Option μ
  original : VpnStatus → σ
  /-- What a process has, apart from the calls that are still to come. -/
  base : Client → τ
  phaseOf : ClientPhase → Mirrors.Phase
  idle : phaseOf .idle = .apart
  listening (p : ClientPhase) : phaseOf p = .listening ↔ p = .registered
  perform (now : ℤ) (w : VpnStatus) (m : Message) : Leads P.Posts (original w)
    ((w.perform now m).2.filterMap select) (original (w.perform now m).1)
  clearLog (information : LogItem) (w : VpnStatus) : Leads P.Posts (original w)
    ((w.clearLog information).2.filterMap select) (original (w.clearLog information).1)
  greeting (now : ℤ) (v : Server) : Leads P.Posts (original v.status)
    ((v.greeting now).filterMap select) (original v.status)
  callback (now : ℤ) (c : Client) (m : Message) (calls : List Message) :
    P.Improves ((select m).elim (base c) (P.receive (base c)))
      (base { c with status := (c.status.perform now m).1, calls })
  readPipe (c : Client) (li : LogItem) (pipe : List LogItem) (h : c.pipe = li :: pipe) :
    base { c with status := (c.status.newLogItem li).1, pipe } = base c
  calls (c : Client) (calls : List Message) : base { c with calls } = base c

namespace Channel

variable {σ τ μ : Type*} (C : Channel σ τ μ)

/-- What a process will have when all calls have come. -/
def view (c : Client) : τ := (c.calls.filterMap C.select).foldl C.P.receive (C.base c)

/-- The channel, as a value with its mirror. -/
def mirror (v : Server) (c : Client) : Mirror σ τ μ :=
  if v.killed then ⟨C.original v.status, [], C.view c, .apart⟩
  else ⟨C.original v.status, v.queue.filterMap C.select, C.view c, C.phaseOf c.phase⟩

/-- A message of the channel is handled while the process has joined, but does not listen. -/
def Misses (v : Server) (c : Client) (e : Event) : Prop :=
  e = .handleMessage ∧ C.phaseOf c.phase = .joined ∧ ∃ m ∈ v.queue.head?, (C.select m).isSome

/-- What a statement on the way to the registration does: nothing, or it takes the snapshot, or the
process listens from now on. -/
def Connects (v : Server) (c c' : Client) : Prop :=
  (C.phaseOf c'.phase = C.phaseOf c.phase ∧ C.view c' = C.view c) ∨
  (C.phaseOf c'.phase = .joined ∧ C.P.Joins (C.original v.status) (C.view c) ∧
    C.view c' = C.P.snapshot (C.original v.status) (C.view c)) ∨
  (C.phaseOf c.phase = .joined ∧ C.phaseOf c'.phase = .listening ∧ C.view c' = C.view c)

variable {C}

lemma mirror_killed (h : v.killed = true) :
    C.mirror v c = ⟨C.original v.status, [], C.view c, .apart⟩ := if_pos h

lemma mirror_live (h : v.killed = false) :
    C.mirror v c =
      ⟨C.original v.status, v.queue.filterMap C.select, C.view c, C.phaseOf c.phase⟩ :=
  if_neg (by rw [h]; decide)

lemma view_calls (m : Message) : C.view { c with calls := c.calls ++ [m] } =
    (C.select m).elim (C.view c) (C.P.receive (C.view c)) := by
  rw [view, C.calls, List.filterMap_append, List.foldl_append, view]
  cases hm : C.select m with
  | none =>
    rw [List.filterMap_cons_none hm]
    rfl
  | some x =>
    rw [List.filterMap_cons_some hm]
    rfl

/-- **What the process does** is posted to the channel. -/
lemma mirror_hear {w : VpnStatus} {ms : List Message} (hk : Kept i v c)
    (hw : Leads C.P.Posts (C.original v.status) (ms.filterMap C.select) (C.original w)) :
    ReflTransGen (Mirrors.Step C.P) (C.mirror v c) (C.mirror ({ v with status := w }.hear ms) c) := by
  rcases Bool.eq_false_or_eq_true v.killed with hkilled | hkilled
  · rw [mirror_killed hkilled, mirror_killed (by rwa [hear_killed]), hear_status]
    exact .single (.renew _ _)
  · rw [mirror_live hkilled, mirror_live (by rwa [hear_killed]), hear_status]
    rcases Bool.eq_false_or_eq_true v.created with hc | hc
    · rw [hear_queue (by exact hc), List.filterMap_append]
      exact Step.posts hw
    · rw [hear_of_not (by exact hc), (hk.apart hkilled hc).1, (hk.apart hkilled hc).2, C.idle]
      exact .single (.renew _ _)

/-- A message is handled, and comes to the processes that are registered. -/
lemma mirror_handleMessage {m : Message} {queue : List Message} (hk : Kept i v c)
    (hq : v.queue = m :: queue) (hmiss : ¬ C.Misses v c .handleMessage) :
    ReflTransGen (Mirrors.Step C.P) (C.mirror v c) (C.mirror { v with queue }
      (if i ∈ v.mCallbacks then { c with calls := c.calls ++ [m] } else c)) := by
  rcases Bool.eq_false_or_eq_true v.killed with hkilled | hkilled
  · rw [if_neg (hk.killed hkilled), mirror_killed hkilled, mirror_killed (by exact hkilled)]
  · rw [mirror_live hkilled, mirror_live (by exact hkilled), hq]
    by_cases hi : i ∈ v.mCallbacks
    · have hphase := (C.listening _).mpr ((hk.registered hkilled).mp hi)
      rw [if_pos hi, view_calls]
      cases hm : C.select m with
      | none =>
        rw [List.filterMap_cons_none hm]
        exact .refl
      | some x =>
        rw [List.filterMap_cons_some hm]
        exact .single (.send rfl hphase)
    · rw [if_neg hi]
      cases hm : C.select m with
      | none =>
        rw [List.filterMap_cons_none hm]
      | some x =>
        rw [List.filterMap_cons_some hm]
        refine .single (.pass rfl ?_)
        change C.phaseOf c.phase = .apart
        cases hphase : C.phaseOf c.phase with
        | apart => rfl
        | joined =>
          refine absurd ⟨rfl, hphase, m, ?_, by rw [hm]; rfl⟩ hmiss
          rw [hq]
          rfl
        | listening =>
          exact absurd ((hk.registered hkilled).mpr ((C.listening _).mp hphase)) hi

/-- A call comes to the process. -/
lemma mirror_callback {m : Message} {calls : List Message} (now : ℤ) (hc : c.calls = m :: calls) :
    ReflTransGen (Mirrors.Step C.P) (C.mirror v c)
      (C.mirror v { c with status := (c.status.perform now m).1, calls }) := by
  have hview : C.view c = (calls.filterMap C.select).foldl C.P.receive
      ((C.select m).elim (C.base c) (C.P.receive (C.base c))) := by
    rw [view, hc]
    cases hm : C.select m with
    | none =>
      rw [List.filterMap_cons_none hm]
      rfl
    | some x =>
      rw [List.filterMap_cons_some hm]
      rfl
  have himproves : C.P.Improves (C.view c)
      (C.view { c with status := (c.status.perform now m).1, calls }) := by
    rw [hview]
    exact (C.callback now c m calls).foldl _
  rcases Bool.eq_false_or_eq_true v.killed with hkilled | hkilled
  · rw [mirror_killed hkilled, mirror_killed hkilled]
    exact .single (.improve himproves)
  · rw [mirror_live hkilled, mirror_live hkilled]
    exact .single (.improve himproves)

/-- A statement on the way to the registration. -/
lemma mirror_connects {mCallbacks : List ℕ}
    (h : v.killed = false → C.Connects v c c') :
    ReflTransGen (Mirrors.Step C.P) (C.mirror v c) (C.mirror { v with mCallbacks } c') := by
  rcases Bool.eq_false_or_eq_true v.killed with hkilled | hkilled
  · rw [mirror_killed hkilled, mirror_killed (by exact hkilled)]
    exact .single (.renew _ _)
  · rw [mirror_live hkilled, mirror_live (by exact hkilled)]
    rcases h hkilled with ⟨hp, hview⟩ | ⟨hp, hjoins, hview⟩ | ⟨hp, hp', hview⟩
    · rw [hp, hview]
    · rw [hp, hview]
      exact .single (.join hjoins)
    · rw [hp', hview]
      exact .single (.listen hp)

end Channel

/-- The statements on the way to the registration. -/
def Event.connects : Event → Bool
  | .bind _ | .getlogbuffer _ | .sendUpdate _ | .register _ => true
  | _ => false

/-- **A step of the system is one of the channel**, or several, if it misses no message. -/
theorem Channel.simulates {σ τ μ : Type*} {C : Channel σ τ μ} (hk : Kept i v c)
    (hstep : Local D i e v c v' c') (hmiss : ¬ C.Misses v c e)
    (hconnects : e.connects = true → v.killed = false → C.Connects v c c') :
    ReflTransGen (Mirrors.Step C.P) (C.mirror v c) (C.mirror v' c') := by
  cases hstep with
  | perform now m => exact mirror_hear hk (C.perform now _ m)
  | clearLog information => exact mirror_hear hk (C.clearLog information _)
  | onCreate now hc =>
    rcases Bool.eq_false_or_eq_true v.killed with hkilled | hkilled
    · rw [mirror_killed hkilled, mirror_killed (by rwa [hear_killed]), hear_status]
    · rw [mirror_live hkilled, mirror_live (by rwa [hear_killed]), hear_status,
        hear_queue (by rfl), List.filterMap_append]
      exact Step.posts (C.greeting now v)
  | onDestroy hc =>
    rw [mirror_killed (v := { v with created := false, mCallbacks := [], killed := true }) rfl]
    exact .single (.renew _ _)
  | handleMessage hq => exact mirror_handleMessage hk hq hmiss
  | bind hc hp => exact mirror_connects (hconnects rfl)
  | getlogbuffer hp => exact mirror_connects (hconnects rfl)
  | sendUpdate hp => exact mirror_connects (hconnects rfl)
  | register hp => exact mirror_connects (hconnects rfl)
  | @readPipe _ _ li pipe hp =>
    refine mirror_connects fun _ => .inl ⟨rfl, ?_⟩
    rw [view, C.readPipe c li pipe hp]
    rfl
  | @callback _ _ m calls now hc => exact mirror_callback now hc
  | clientDies information =>
    rcases Bool.eq_false_or_eq_true v.killed with hkilled | hkilled
    · rw [mirror_killed hkilled, mirror_killed (by exact hkilled)]
      exact .single (.renew _ _)
    · rw [mirror_live hkilled, mirror_live (by exact hkilled)]
      have hidle : C.phaseOf (Client.fresh information).phase = .apart := C.idle
      rw [hidle]
      exact .single (.leave _)
  | serverDies information =>
    rw [mirror_live (v := Server.fresh information) rfl]
    have hidle : C.phaseOf ClientPhase.idle = .apart := C.idle
    rw [hidle]
    exact .single (.renew _ _)
  | elsewhere hmem => exact mirror_connects fun _ => .inl ⟨rfl, rfl⟩

end BuludTechVPN.Status
