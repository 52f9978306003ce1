import BuludTechVPN.StatusChannels
import Mathlib.Data.Set.Insert

/-!
What other processes show of the VPN: the state, the profile and the log that have come to them
when nothing is left to be sent.

A state is ignored in another process as it is in that of the VPN. A process that still shows an
earlier connection may so ignore a state that the process of the VPN took.
-/

namespace BuludTechVPN.Status

open JavaLang LogCache LogPipe Relation Mirrors

variable {D : Utf8.Decoder} {i : ℕ} {e : Event} {s t : System} {v v' : Server} {c c' : Client}
  {information : LogItem} {B : System → Event → Prop}

/-! ### Runs -/

lemma kept_run (i : ℕ) (h : ReflTransGen (StepAvoiding D B) (System.start information) t) :
    Kept i t.server (t.client i) := by
  induction h with
  | refl => exact kept_start information i
  | tail _ hstep ih =>
    obtain ⟨e, -, he⟩ := hstep
    exact ih.step (local_step i he)

/-- **The channels of a run keep faith**, if no message is missed and the process joins as it
should. -/
theorem Channel.faithful_run {σ τ μ : Type*} (C : Channel σ τ μ) (i : ℕ)
    (hB : ∀ s e, ¬ B s e → ¬ C.Misses s.server (s.client i) e)
    (hconnects : ∀ s e v' c', ReflTransGen (StepAvoiding D B) (System.start information) s →
      ¬ B s e → Local D i e s.server (s.client i) v' c' → e.connects = true →
      s.server.killed = false → C.Connects s.server (s.client i) c')
    (h : ReflTransGen (StepAvoiding D B) (System.start information) t) :
    Faithful C.P (C.mirror t.server (t.client i)) := by
  induction h with
  | refl =>
    rw [mirror_live (v := (System.start information).server) rfl]
    have hidle : C.phaseOf ((System.start information).client i).phase = .apart := C.idle
    exact ⟨⟨_, .refl _⟩, fun hp => absurd hidle hp⟩
  | tail hrun hstep ih =>
    obtain ⟨e, he, hs⟩ := hstep
    have hlocal := local_step i hs
    exact ih.run (C.simulates (kept_run i hrun) hlocal (hB _ _ he)
      (hconnects _ _ _ _ hrun he hlocal))

/-- Where everything has come, the process has what the channel mirrors. -/
lemma Channel.settled {σ τ μ : Type*} {C : Channel σ τ μ}
    (hf : Faithful C.P (C.mirror t.server (t.client i))) (hk : Kept i t.server (t.client i))
    (h : Settled t i) : C.P.Agrees (C.original t.server.status) (C.base (t.client i)) := by
  have hlive : t.server.killed = false := by
    rcases Bool.eq_false_or_eq_true t.server.killed with hkilled | hkilled
    · exact absurd h.registered (hk.killed hkilled)
    · exact hkilled
  rw [mirror_live hlive, h.queue] at hf
  have hagrees := hf.settled
    ((C.listening _).mpr ((hk.registered hlive).mp h.registered)) rfl
  rwa [Channel.view, h.calls] at hagrees

/-! ### The state -/

/-- A state is told of: it is not ignored, or it is the present one. -/
def PostsState (last um next : UpdateMessage) : Prop :=
  next = um ∧ (um = last ∨ ¬ Ignored last um)

/-- The state is shown, or another process still shows an earlier connection. -/
def Shows (last shown : UpdateMessage) : Prop :=
  shown = last ∨ (shown.level = .connected ∧ isNoise last.state)

lemma shows_receive (um x : UpdateMessage) : Shows um (receive x um) := by
  unfold receive
  split_ifs with h
  · exact .inr h
  · exact .inl rfl

/-- **Replaying what has led to a state** leads to it, or to nothing at all. -/
lemma foldl_receive {last₀ last x : UpdateMessage} {q : List UpdateMessage}
    (h : Leads PostsState last₀ q last) :
    q.foldl receive x = last ∨ q.foldl receive x = x := by
  induction h with
  | refl => exact .inr rfl
  | @post last' next q um hq hm ih =>
    obtain ⟨rfl, hm⟩ := hm
    have hlast : receive last' next = next := by
      rcases hm with rfl | hm
      · exact receive_self _
      · exact receive_of_not hm
    rw [List.foldl_append, List.foldl_cons, List.foldl_nil]
    rcases ih with hfold | hfold
    · rw [hfold]
      exact .inl hlast
    · rw [hfold]
      exact receive_eq _ _

/-- Which processes may take the state, and how they then agree. -/
structure StateAgreement where
  Joins : UpdateMessage → UpdateMessage → Prop
  Agrees : UpdateMessage → UpdateMessage → Prop
  agrees_receive : ∀ last um next shown,
    PostsState last um next → Agrees last shown → Agrees next (receive shown um)
  agrees_snapshot : ∀ last₀ q last shown,
    Leads PostsState last₀ q last → Joins last shown →
      Agrees last (q.foldl receive (receive shown last))

/-- Any process may take it. -/
def anyProcess : StateAgreement where
  Joins _ _ := True
  Agrees := Shows
  agrees_receive := by
    rintro last um next shown ⟨rfl, -⟩ -
    exact shows_receive _ _
  agrees_snapshot := by
    intro last₀ q last shown hq _
    rcases foldl_receive (x := receive shown last) hq with hfold | hfold
    · rw [hfold]
      exact .inl rfl
    · rw [hfold]
      exact shows_receive _ _

/-- Only a process that does not ignore it takes it. -/
def freshProcess : StateAgreement where
  Joins last shown := ¬ Ignored shown last
  Agrees last shown := shown = last
  agrees_receive := by
    rintro last um next shown ⟨rfl, hm⟩ hshown
    subst hshown
    rcases hm with rfl | hm
    · exact receive_self _
    · exact receive_of_not hm
  agrees_snapshot := by
    intro last₀ q last shown hq hjoins
    rw [receive_of_not hjoins]
    exact (foldl_receive hq).elim id id

def StateAgreement.protocol (A : StateAgreement) :
    Protocol UpdateMessage UpdateMessage UpdateMessage where
  Posts := PostsState
  receive := receive
  snapshot last shown := receive shown last
  Joins := A.Joins
  Agrees := A.Agrees
  agrees_receive hm hs := A.agrees_receive _ _ _ _ hm hs
  agrees_snapshot hq hjoins := A.agrees_snapshot _ _ _ _ hq hjoins

/-- A state is told of after it has been taken, and only then. -/
lemma leads_perform_state (now : ℤ) (w : VpnStatus) (m : Message) : Leads PostsState w.last
    ((w.perform now m).2.filterMap Message.state) (w.perform now m).1.last := by
  cases m with
  | newLogItem logItem => exact .refl _
  | updateStateString um =>
    simp only [VpnStatus.perform, VpnStatus.updateStateString]
    split_ifs with h
    · exact .refl _
    · exact (Leads.refl _).post ⟨rfl, .inr h⟩
  | updateByteCount inBytes outBytes => exact .refl _
  | connectedVPN uuid => exact .refl _

/-- When a process has the state: from `sendUpdate` on. -/
def statePhase : ClientPhase → Mirrors.Phase
  | .idle | .bound | .copied _ => .apart
  | .updated _ => .joined
  | .registered => .listening

/-- The channel of the state. -/
def stateChannel (A : StateAgreement) : Channel UpdateMessage UpdateMessage UpdateMessage where
  P := A.protocol
  select := Message.state
  original := VpnStatus.last
  base c := c.status.last
  phaseOf := statePhase
  idle := rfl
  listening p := by
    cases p with
    | registered => exact iff_of_true rfl rfl
    | idle | bound | copied | updated => exact iff_of_false nofun nofun
  perform := leads_perform_state
  clearLog information w := .refl _
  greeting now v := (Leads.refl _).post ⟨rfl, .inl rfl⟩
  callback now c m calls := by
    have hlast : (c.status.perform now m).1.last =
        m.state.elim c.status.last (receive c.status.last) := by
      cases m with
      | updateStateString um => exact perform_updateStateString_last
      | newLogItem | updateByteCount | connectedVPN => rfl
    rw [hlast]
    exact .refl _
  readPipe c li pipe h := rfl
  calls c calls := rfl

/-- The state comes with `sendUpdate`. -/
lemma connects_state {A : StateAgreement} (hk : Kept i v c) (hlive : v.killed = false)
    (hstep : Local D i e v c v' c') (he : e.connects = true)
    (hjoins : ∀ logbuffer, c.phase = .copied logbuffer →
      A.Joins v.status.last ((stateChannel A).view c)) :
    (stateChannel A).Connects v c c' := by
  cases hstep with
  | bind hc hp => exact .inl ⟨by rw [hp]; rfl, rfl⟩
  | getlogbuffer hp => exact .inl ⟨by rw [hp]; rfl, rfl⟩
  | @sendUpdate _ _ logbuffer hp =>
    have hcreated : v.created = true := by
      rcases Bool.eq_false_or_eq_true v.created with hc | hc
      · exact hc
      · rw [(hk.apart hlive hc).2] at hp
        cases hp
    refine .inr (.inl ⟨rfl, hjoins logbuffer hp, ?_⟩)
    rw [hk.update hcreated]
    exact Channel.view_calls (C := stateChannel A) (.updateStateString v.status.last)
  | register hp => exact .inr (.inr ⟨by rw [hp]; rfl, rfl, rfl⟩)
  | elsewhere hmem => exact .inl ⟨rfl, rfl⟩
  | perform | clearLog | onCreate | onDestroy | handleMessage | readPipe | callback | clientDies
  | serverDies => cases he

/-- A new state is handled after it was sent to a process, and before that listens. -/
def MissesState (i : ℕ) (s : System) (e : Event) : Prop :=
  e = .handleMessage ∧ statePhase (s.client i).phase = .joined ∧
    ∃ m ∈ s.server.queue.head?, m.state.isSome

instance (i : ℕ) (s : System) (e : Event) : Decidable (MissesState i s e) :=
  inferInstanceAs (Decidable (_ ∧ _ ∧ _))

/-- A line that describes a device. -/
def device : LogItem := ⟨none, some "phone".toList, 0, some .info, 0, -1⟩

def connected : UpdateMessage := localized "CONNECTED".toList "10.8.0.2".toList

def registration (i : ℕ) : List Event :=
  [.bind i, .getlogbuffer i, .sendUpdate i, .register i]

/-- A process registers, and is told that the VPN is connected. -/
def connecting : List Event :=
  [.onCreate 0, .handleMessage, .handleMessage] ++ registration 0 ++
    [.readPipe 0, .callback 0 0, .perform 1 (.connectedVPN (some "office".toList)),
      .perform 1 (.updateStateString connected), .handleMessage, .handleMessage, .handleMessage,
      .callback 1 0, .callback 1 0, .callback 1 0]

/-- The process of the VPN dies, and connects again. -/
def reconnecting : List Event :=
  connecting ++ [.serverDies device, .perform 2 (.updateStateString (localized "WAIT".toList [])),
    .onCreate 2, .handleMessage, .handleMessage] ++ registration 0 ++
    [.readPipe 0, .readPipe 0, .callback 2 0]

/-- The process still shows that it is connected. -/
example : (runEvents byteDecoder (MissesState 0) (System.start device) reconnecting).map
    (fun t => ((t.client 0).status.last.state, t.server.status.last.state)) =
      some ("CONNECTED".toList, "WAIT".toList) := by decide +kernel

/-! ### Processes that were not there before -/

def Event.restarts : Event → Bool
  | .serverDies _ => true
  | _ => false

/-- A process that has not been sent the state shows that nothing is connected. -/
def Unheard (c : Client) : Prop :=
  statePhase c.phase = .apart → c.calls = [] ∧ c.status.last.level = .notConnected

lemma Unheard.step (h : Unheard c) (hk : Kept i v c) (hstep : Local D i e v c v' c')
    (he : e.restarts = false) : Unheard c' := by
  cases hstep with
  | perform | clearLog | onCreate | onDestroy | elsewhere => exact h
  | handleMessage hq =>
    intro hp
    split_ifs at hp ⊢ with hi
    · rcases Bool.eq_false_or_eq_true v.killed with hkilled | hkilled
      · exact absurd hi (hk.killed hkilled)
      · change statePhase c.phase = .apart at hp
        rw [(hk.registered hkilled).mp hi] at hp
        cases hp
    · exact h hp
  | bind hc hp => exact fun _ => h (by rw [hp]; rfl)
  | getlogbuffer hp => exact fun _ => h (by rw [hp]; rfl)
  | sendUpdate hp => exact fun hp' => (by cases hp')
  | register hp => exact fun hp' => (by cases hp')
  | readPipe hp => exact h
  | callback now hc =>
    intro hp
    rw [(h hp).1] at hc
    cases hc
  | clientDies information => exact fun _ => ⟨rfl, rfl⟩
  | serverDies information => cases he

lemma unheard_run (i : ℕ) (hB : ∀ s e, ¬ B s e → e.restarts = false)
    (h : ReflTransGen (StepAvoiding D B) (System.start information) t) :
    Unheard (t.client i) := by
  induction h with
  | refl => exact fun _ => ⟨rfl, rfl⟩
  | tail hrun hstep ih =>
    obtain ⟨e, he, hs⟩ := hstep
    exact ih.step (kept_run i hrun) (local_step i hs) (hB _ _ he)

/-- The VPN connects between `sendUpdate` and the registration: the process does not hear of it. -/
example : (runEvents byteDecoder (fun _ _ => False) (System.start device)
    [.onCreate 0, .handleMessage, .handleMessage, .bind 0, .getlogbuffer 0, .sendUpdate 0,
      .perform 1 (.updateStateString connected), .handleMessage, .handleMessage, .register 0,
      .readPipe 0, .callback 1 0]).map
    (fun t => (decide (Settled t 0), (t.client 0).status.last.state)) =
      some (true, "NOPROCESS".toList) := by decide +kernel

/-! ### The profile -/

/-- The profile that is connected: the last one that is told of. -/
def uuidProtocol : Protocol (Option Text) (Option Text) (Option Text) where
  Posts _ uuid next := next = uuid
  receive _ uuid := uuid
  snapshot uuid _ := uuid
  Joins _ _ := True
  Agrees uuid shown := shown = uuid
  agrees_receive hm _ := hm.symm
  agrees_snapshot hq _ := by
    cases hq with
    | refl => rfl
    | post hq hm =>
      rw [List.foldl_append]
      exact hm.symm

/-- When a process has the profile: from the beginning on. -/
def uuidPhase : ClientPhase → Mirrors.Phase
  | .idle => .apart
  | .bound | .copied _ | .updated _ => .joined
  | .registered => .listening

def uuidChannel : Channel (Option Text) (Option Text) (Option Text) where
  P := uuidProtocol
  select := Message.uuid
  original := VpnStatus.mLastConnectedVPNUUID
  base c := c.status.mLastConnectedVPNUUID
  phaseOf := uuidPhase
  idle := rfl
  listening p := by
    cases p with
    | registered => exact iff_of_true rfl rfl
    | idle | bound | copied | updated => exact iff_of_false nofun nofun
  perform now w m := by
    cases m with
    | connectedVPN uuid => exact (Leads.refl _).post rfl
    | updateStateString um =>
      simp only [VpnStatus.perform, VpnStatus.updateStateString]
      split_ifs
      · exact .refl _
      · exact .refl _
    | newLogItem | updateByteCount => exact .refl _
  clearLog information w := .refl _
  greeting now v := .refl _
  callback now c m calls := by
    have huuid : (c.status.perform now m).1.mLastConnectedVPNUUID =
        m.uuid.elim c.status.mLastConnectedVPNUUID id := by
      cases m with
      | updateStateString um =>
        simp only [VpnStatus.perform, VpnStatus.updateStateString]
        split_ifs
        · rfl
        · rfl
      | newLogItem | updateByteCount | connectedVPN => rfl
    rw [huuid]
    exact .refl _
  readPipe c li pipe h := rfl
  calls c calls := rfl

/-- The profile comes with `getLastConnectedVPN`. -/
lemma connects_uuid (hu : Unheard c) (hstep : Local D i e v c v' c') (he : e.connects = true) :
    uuidChannel.Connects v c c' := by
  cases hstep with
  | bind hc hp =>
    obtain ⟨hcalls, -⟩ := hu (by rw [hp]; rfl)
    refine .inr (.inl ⟨rfl, trivial, ?_⟩)
    change (c.calls.filterMap Message.uuid).foldl _ _ = _
    rw [hcalls]
    rfl
  | getlogbuffer hp => exact .inl ⟨by rw [hp]; rfl, rfl⟩
  | sendUpdate hp =>
    refine .inl ⟨by rw [hp]; rfl, ?_⟩
    cases v.mLastUpdateMessage with
    | none =>
      change ((c.calls ++ []).filterMap Message.uuid).foldl _ _ = _
      rw [List.append_nil]
      rfl
    | some um => exact Channel.view_calls (C := uuidChannel) (.updateStateString um)
  | register hp => exact .inr (.inr ⟨by rw [hp]; rfl, rfl, rfl⟩)
  | elsewhere hmem => exact .inl ⟨rfl, rfl⟩
  | perform | clearLog | onCreate | onDestroy | handleMessage | readPipe | callback | clientDies
  | serverDies => cases he

/-- A new profile is handled after it was sent to a process, and before that listens. -/
def MissesProfile (i : ℕ) (s : System) (e : Event) : Prop :=
  e = .handleMessage ∧ uuidPhase (s.client i).phase = .joined ∧
    ∃ m ∈ s.server.queue.head?, m.uuid.isSome

instance (i : ℕ) (s : System) (e : Event) : Decidable (MissesProfile i s e) :=
  inferInstanceAs (Decidable (_ ∧ _ ∧ _))

/-- **The profile that is connected** is known in every process that is registered and to which
everything has come, as long as the process of the VPN does not die. -/
theorem profile_agrees
    (h : ReflTransGen (StepAvoiding D fun s e => MissesProfile i s e ∨ e.restarts = true)
      (System.start information) t)
    (hs : Settled t i) :
    (t.client i).status.mLastConnectedVPNUUID = t.server.status.mLastConnectedVPNUUID := by
  have hrestarts : ∀ (s : System) e, ¬ (MissesProfile i s e ∨ e.restarts = true) →
      e.restarts = false := fun s e hB =>
    Bool.eq_false_of_not_eq_true fun hr => hB (.inr hr)
  have hf := uuidChannel.faithful_run i (fun _ _ hB hm => hB (.inl hm))
    (fun s e v' c' hrun _ hlocal he _ => connects_uuid (unheard_run i hrestarts hrun) hlocal he) h
  exact Channel.settled hf (kept_run i h) hs

theorem profile_agrees_connecting : ∃ t,
    runEvents byteDecoder (fun s e => MissesProfile 0 s e ∨ e.restarts = true)
      (System.start device) connecting = some t ∧
        (t.client 0).status.mLastConnectedVPNUUID = t.server.status.mLastConnectedVPNUUID := by
  have hrun : (runEvents byteDecoder (fun s e => MissesProfile 0 s e ∨ e.restarts = true)
      (System.start device) connecting).map (fun t => decide (Settled t 0)) = some true := by
    decide +kernel
  obtain ⟨t, ht, hs⟩ := Option.map_eq_some_iff.mp hrun
  exact ⟨t, ht, profile_agrees (steps_of_runEvents ht) (of_decide_eq_true hs)⟩

/-! ### The log -/

/-- The items that come through the pipe. -/
def piped (D : Utf8.Decoder) (logbuffer : List LogItem) : List LogItem :=
  (readLog D (pushLogs logbuffer).1).1

/-- Items that all can be carried come through the pipe, as they are stored. -/
lemma piped_carried {logbuffer : List LogItem} (h : ∀ li ∈ logbuffer, Carried li) :
    piped D logbuffer = logbuffer.map LogItem.stored := by
  have hitems : piped D logbuffer = _ := (readItems_pushLogs (Nat.lt_succ_self _)).1
  rw [hitems, List.takeWhile_eq_self_iff.mpr fun li hli => decide_eq_true (h li hli)]

/-- The log: every line of the buffer is there, as it is or as it is stored. -/
def logProtocol (D : Utf8.Decoder) : Protocol (List LogItem) (Set LogItem) LogItem where
  Posts logbuffer li next := ∀ x ∈ next, x ∈ logbuffer ∨ x = li
  receive lines li := insert li lines
  snapshot logbuffer lines := lines ∪ {x | x ∈ piped D logbuffer}
  Joins logbuffer _ := ∀ li ∈ logbuffer, Carried li
  Agrees logbuffer lines := ∀ li ∈ logbuffer, li ∈ lines ∨ li.stored ∈ lines
  agrees_receive := by
    intro logbuffer next lines li hm h x hx
    rcases hm x hx with hold | rfl
    · exact (h x hold).imp (Set.mem_insert_of_mem _) (Set.mem_insert_of_mem _)
    · exact .inl (Set.mem_insert _ _)
  agrees_snapshot := by
    intro logbuffer₀ logbuffer q lines hq hjoins li hli
    have hstored : li.stored ∈ lines ∪ {x | x ∈ piped D logbuffer} := by
      refine .inr ?_
      rw [Set.mem_ofPred_eq, piped_carried hjoins]
      exact List.mem_map_of_mem hli
    refine .inr ?_
    clear hq hjoins hli
    induction q using List.reverseRecOn with
    | nil => exact hstored
    | append_singleton q m ih =>
      rw [List.foldl_append]
      exact Set.mem_insert_of_mem _ ih

/-- What is trimmed was there. -/
lemma mem_trimLog {x : LogItem} {logbuffer : List LogItem} (h : x ∈ trimLog logbuffer) :
    x ∈ logbuffer := by
  unfold trimLog at h
  split_ifs at h
  · exact List.mem_of_mem_drop h
  · exact h

/-- A line is told of after it has been logged. -/
lemma leads_newLogItem (w : VpnStatus) (li : LogItem) : Leads (logProtocol D).Posts w.logbuffer
    [li] (w.newLogItem li).1.logbuffer := by
  refine Leads.post (.refl w.logbuffer) fun x hx => ?_
  exact (List.mem_append.mp (mem_trimLog hx)).imp id List.mem_singleton.mp

/-- When a process has the log: from `getlogbuffer` on. -/
def logPhase : ClientPhase → Mirrors.Phase
  | .idle | .bound => .apart
  | .copied _ | .updated _ => .joined
  | .registered => .listening

/-- The items that will come through the pipe. -/
def ClientPhase.toCome (D : Utf8.Decoder) : ClientPhase → List LogItem
  | .copied logbuffer | .updated logbuffer => piped D logbuffer
  | _ => []

/-- The lines that a process has logged, or will read from the pipe. -/
def Client.lines (D : Utf8.Decoder) (c : Client) : Set LogItem :=
  {x | x ∈ c.status.told ∨ x ∈ c.pipe ∨ x ∈ c.phase.toCome D}

/-- Lines that a process logs by itself do no harm. -/
lemma improves_of_subset {lines lines' : Set LogItem} (h : lines ⊆ lines') :
    (logProtocol D).Improves lines lines' := by
  intro logbuffer q hagrees li hli
  have hsub : q.foldl (logProtocol D).receive lines ⊆ q.foldl (logProtocol D).receive lines' := by
    clear hagrees hli
    induction q using List.reverseRecOn with
    | nil => exact h
    | append_singleton q m ih =>
      rw [List.foldl_append, List.foldl_append]
      exact Set.insert_subset_insert ih
  exact (hagrees li hli).imp (fun hx => hsub hx) fun hx => hsub hx

lemma told_perform (now : ℤ) (w : VpnStatus) (m : Message) : w.told ⊆ (w.perform now m).1.told ∧
    ∀ li ∈ m.logItem, li ∈ (w.perform now m).1.told := by
  cases m with
  | newLogItem li =>
    refine ⟨List.subset_append_left _ _, fun x hx => ?_⟩
    obtain rfl := Option.some.inj hx
    exact List.mem_append_right _ (List.mem_singleton_self _)
  | updateStateString um =>
    refine ⟨?_, fun x hx => (by cases hx)⟩
    simp only [VpnStatus.perform, VpnStatus.updateStateString]
    split_ifs
    · exact List.subset_append_left _ _
    · exact List.subset_append_left _ _
  | updateByteCount | connectedVPN => exact ⟨List.Subset.refl _, fun x hx => (by cases hx)⟩

def logChannel (D : Utf8.Decoder) : Channel (List LogItem) (Set LogItem) LogItem where
  P := logProtocol D
  select := Message.logItem
  original := VpnStatus.logbuffer
  base := Client.lines D
  phaseOf := logPhase
  idle := rfl
  listening p := by
    cases p with
    | registered => exact iff_of_true rfl rfl
    | idle | bound | copied | updated => exact iff_of_false nofun nofun
  perform now w m := by
    cases m with
    | newLogItem li => exact leads_newLogItem w li
    | updateStateString um =>
      simp only [VpnStatus.perform, VpnStatus.updateStateString]
      split_ifs
      · exact leads_newLogItem _ _
      · exact leads_newLogItem { w with last := um } _
    | updateByteCount | connectedVPN => exact .refl _
  clearLog information w := by
    refine Leads.post (.refl w.logbuffer) fun x hx => ?_
    exact .inr (List.mem_singleton.mp (mem_trimLog hx))
  greeting now v := .refl _
  callback now c m calls := by
    obtain ⟨hsub, hmem⟩ := told_perform now c.status m
    refine improves_of_subset fun x hx => ?_
    have hlines : x ∈ c.lines D ∨ x ∈ m.logItem := by
      cases hm : m.logItem with
      | none =>
        rw [hm] at hx
        exact .inl hx
      | some li =>
        rw [hm] at hx
        exact (Set.mem_insert_iff.mp hx).elim (fun h => .inr (h ▸ rfl)) .inl
    rcases hlines with (htold | hrest) | hli
    · exact .inl (hsub htold)
    · exact .inr hrest
    · exact .inl (hmem x hli)
  readPipe c li pipe h := by
    ext x
    change (x ∈ c.status.told ++ [li] ∨ x ∈ pipe ∨ _) ↔ (x ∈ c.status.told ∨ x ∈ c.pipe ∨ _)
    rw [h, List.mem_append, List.mem_singleton, List.mem_cons, or_assoc, or_assoc]
  calls c calls := rfl

/-- The lines do not depend on where in the connection the log is. -/
lemma view_lines (h : c'.status.told = c.status.told) (hcalls : c'.calls = c.calls)
    (hp : ∀ x, (x ∈ c'.pipe ∨ x ∈ c'.phase.toCome D) ↔ (x ∈ c.pipe ∨ x ∈ c.phase.toCome D)) :
    (logChannel D).view c' = (logChannel D).view c := by
  have hlines : c'.lines D = c.lines D := by
    ext x
    change (x ∈ c'.status.told ∨ _) ↔ (x ∈ c.status.told ∨ _)
    rw [h, hp]
  change (c'.calls.filterMap Message.logItem).foldl _ (c'.lines D) = _
  rw [hlines, hcalls]
  rfl

/-- What is received, and what comes by itself. -/
lemma foldl_insert (q : List LogItem) (lines more : Set LogItem) :
    q.foldl (logProtocol D).receive (lines ∪ more) =
      q.foldl (logProtocol D).receive lines ∪ more := by
  induction q generalizing lines with
  | nil => rfl
  | cons li q ih =>
    rw [List.foldl_cons, List.foldl_cons]
    change q.foldl _ (insert li (lines ∪ more)) = q.foldl _ (insert li lines) ∪ more
    rw [← Set.insert_union, ih]

/-- An item of the log that the pipe does not carry: the rest of the log is lost with it. -/
def LosesLog (i : ℕ) (s : System) (e : Event) : Prop :=
  e = .getlogbuffer i ∧ ∃ li ∈ s.server.status.logbuffer, ¬ Carried li

/-- A new line is handled after the log was taken for a process, and before that listens. -/
def MissesLine (i : ℕ) (s : System) (e : Event) : Prop :=
  e = .handleMessage ∧ logPhase (s.client i).phase = .joined ∧
    ∃ m ∈ s.server.queue.head?, m.logItem.isSome

instance (i : ℕ) (s : System) (e : Event) : Decidable (LosesLog i s e) :=
  inferInstanceAs (Decidable (_ ∧ _))

instance (i : ℕ) (s : System) (e : Event) : Decidable (MissesLine i s e) :=
  inferInstanceAs (Decidable (_ ∧ _ ∧ _))

/-- A process that has not asked for the log has no pipe to read. -/
def NoPipe (c : Client) : Prop := c.phase ≠ .registered → c.pipe = []

lemma NoPipe.step (h : NoPipe c) (hstep : Local D i e v c v' c') : NoPipe c' := by
  cases hstep with
  | perform | clearLog | onCreate | onDestroy | callback | elsewhere => exact h
  | handleMessage hq =>
    intro hp
    split_ifs at hp ⊢ with hi
    · exact h hp
    · exact h hp
  | bind hc hp => exact fun _ => h (by rw [hp]; nofun)
  | getlogbuffer hp => exact fun _ => h (by rw [hp]; nofun)
  | sendUpdate hp => exact fun _ => h (by rw [hp]; nofun)
  | register hp => exact fun hne => absurd rfl hne
  | readPipe hp =>
    intro hne
    rw [h hne] at hp
    cases hp
  | clientDies information => exact fun _ => rfl
  | serverDies information => exact fun _ => rfl

lemma noPipe_run (i : ℕ) (h : ReflTransGen (StepAvoiding D B) (System.start information) t) :
    NoPipe (t.client i) := by
  induction h with
  | refl => exact fun _ => rfl
  | tail _ hstep ih =>
    obtain ⟨e, -, hs⟩ := hstep
    exact ih.step (local_step i hs)

/-- The log comes with `getlogbuffer`. -/
lemma connects_log (hn : NoPipe c) (hstep : Local D i e v c v' c') (he : e.connects = true)
    (hcarried : e = .getlogbuffer i → ∀ li ∈ v.status.logbuffer, Carried li) :
    (logChannel D).Connects v c c' := by
  cases hstep with
  | bind hc hp =>
    refine .inl ⟨by rw [hp]; rfl, view_lines rfl rfl fun x => ?_⟩
    rw [hp]
    exact Iff.rfl
  | getlogbuffer hp =>
    refine .inr (.inl ⟨rfl, hcarried rfl, ?_⟩)
    have hlines : Client.lines D { c with phase := .copied v.status.logbuffer } =
        c.lines D ∪ {x | x ∈ piped D v.status.logbuffer} := by
      ext x
      change (x ∈ c.status.told ∨ x ∈ c.pipe ∨ x ∈ piped D v.status.logbuffer) ↔
        ((x ∈ c.status.told ∨ x ∈ c.pipe ∨ x ∈ c.phase.toCome D) ∨ x ∈ piped D v.status.logbuffer)
      have hnone : x ∉ ClientPhase.toCome D .bound := List.not_mem_nil
      rw [hp, or_iff_left hnone, or_assoc]
    change (c.calls.filterMap Message.logItem).foldl (logProtocol D).receive
      (Client.lines D { c with phase := .copied v.status.logbuffer }) = _
    rw [hlines, foldl_insert]
    rfl
  | @sendUpdate _ _ logbuffer hp =>
    refine .inl ⟨by rw [hp]; rfl, ?_⟩
    have hphase : (logChannel D).view { c with phase := .updated logbuffer } =
        (logChannel D).view c := view_lines rfl rfl fun x => by rw [hp]; exact Iff.rfl
    rw [← hphase]
    cases v.mLastUpdateMessage with
    | none =>
      change ((c.calls ++ []).filterMap Message.logItem).foldl _ _ = _
      rw [List.append_nil]
      rfl
    | some um =>
      exact Channel.view_calls (C := logChannel D)
        (c := { c with phase := .updated logbuffer }) (.updateStateString um)
  | @register _ _ logbuffer hp =>
    refine .inr (.inr ⟨by rw [hp]; rfl, rfl, view_lines rfl rfl fun x => ?_⟩)
    rw [hn (by rw [hp]; nofun), hp]
    change (x ∈ piped D logbuffer ∨ x ∈ []) ↔ (x ∈ [] ∨ x ∈ piped D logbuffer)
    exact or_comm
  | elsewhere hmem => exact .inl ⟨rfl, rfl⟩
  | perform | clearLog | onCreate | onDestroy | handleMessage | readPipe | callback | clientDies
  | serverDies => cases he

/-- The process is sent the state, or dies, or that of the VPN does. -/
def Event.renews (i : ℕ) : Event → Bool
  | .sendUpdate j | .clientDies j _ => j = i
  | .serverDies _ => true
  | _ => false

/-- The state that a process shows when all calls have come. -/
def Client.willShow (c : Client) : UpdateMessage :=
  (c.calls.filterMap Message.state).foldl receive c.status.last

lemma willShow_callback {m : Message} {calls : List Message} (now : ℤ) (hc : c.calls = m :: calls) :
    Client.willShow { c with status := (c.status.perform now m).1, calls } = c.willShow := by
  rw [Client.willShow, Client.willShow, hc]
  cases m with
  | updateStateString um =>
    change (calls.filterMap Message.state).foldl receive _ =
      (calls.filterMap Message.state).foldl receive (receive c.status.last um)
    rw [perform_updateStateString_last]
  | newLogItem | updateByteCount | connectedVPN => rfl

lemma deaf_step (hkilled : v.killed = true) (hi : i ∉ v.mCallbacks) (hstep : Local D i e v c v' c')
    (he : ¬ e.renews i = true) :
    (v'.killed = true ∧ i ∉ v'.mCallbacks) ∧ c'.calls <:+ c.calls ∧ c'.willShow = c.willShow := by
  cases hstep with
  | perform | clearLog | onCreate =>
    rw [hear_killed, hear_mCallbacks]
    exact ⟨⟨hkilled, hi⟩, List.suffix_rfl, rfl⟩
  | onDestroy hc => exact ⟨⟨rfl, List.not_mem_nil⟩, List.suffix_rfl, rfl⟩
  | handleMessage hq =>
    rw [if_neg hi]
    exact ⟨⟨hkilled, hi⟩, List.suffix_rfl, rfl⟩
  | bind | getlogbuffer | readPipe => exact ⟨⟨hkilled, hi⟩, List.suffix_rfl, rfl⟩
  | register hp =>
    refine ⟨⟨hkilled, ?_⟩, List.suffix_rfl, rfl⟩
    rwa [if_pos (.inl hkilled)]
  | callback now hc =>
    refine ⟨⟨hkilled, hi⟩, ?_, willShow_callback now hc⟩
    rw [hc]
    exact List.suffix_cons _ _
  | elsewhere hmem => exact ⟨⟨hkilled, fun h => hi (hmem.mp h)⟩, List.suffix_rfl, rfl⟩
  | sendUpdate | clientDies | serverDies => exact absurd (by simp [Event.renews]) he

/-- The process dies, and the service with it; both come back. -/
def comingBack : List Event :=
  connecting ++ [.clientDies 0 device, .onDestroy, .onCreate 2] ++ registration 0

/-- The VPN is disconnected. -/
def disconnecting : List Event :=
  [.perform 3 (.updateStateString (localized "EXITING".toList [])), .handleMessage, .handleMessage,
    .handleMessage, .handleMessage, .callback 3 0]

end BuludTechVPN.Status
