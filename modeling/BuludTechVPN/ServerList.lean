import BuludTechVPN.StageActions

/-!
Which connections a configuration has: what each of them takes from its own line, from its block
and from the options of the whole configuration.
-/

namespace BuludTechVPN.FileReading

open JavaLang LineParser ParseConfig VpnProfile ConvertProfile ImportChecks Stages

variable {order : KeyOrder Text} {orders : ℕ → KeyOrder Text} {conn c d : Connection}

/-- The argument of the last line of an option. -/
def lastArgument (o : Lines) (option : Text) : Option Text :=
  ((o option).getLast?).map (argument · 1)

/-- The connection that the options make of one, before a `remote`. -/
structure Defaults (o : Lines) (d conn : Connection) : Prop where
  mServerPort : conn.mServerPort = (lastArgument o "rport".toList).getD
    ((lastArgument o "port".toList).getD d.mServerPort)
  mUseUdp : (lastArgument o "proto".toList = none → conn.mUseUdp = d.mUseUdp) ∧
    ∀ proto ∈ lastArgument o "proto".toList, isUdpProto proto = .ok conn.mUseUdp
  mConnectTimeout : (lastArgument o "connect-timeout".toList = none →
      conn.mConnectTimeout = d.mConnectTimeout) ∧
    ∀ time ∈ lastArgument o "connect-timeout".toList, parseInt time = .ok conn.mConnectTimeout
  mEnabled : conn.mEnabled = d.mEnabled

lemma integerArgument_ok {arg message : Text} {n : ℤ} :
    integerArgument arg message = .ok n ↔ parseInt arg = .ok n := by
  unfold integerArgument
  cases hp : parseInt arg with
  | ok m => rfl
  | error e =>
    obtain rfl := parseInt_error hp
    exact iff_of_false (fun h => by cases h) (fun h => by cases h)

lemma portOption_eq {port : Option (List Text)} (h : portOption conn port = .ok c) :
    c = { conn with mServerPort := (port.map (argument · 1)).getD conn.mServerPort } := by
  cases port with
  | none => exact (Except.ok.inj h).symm
  | some l =>
    obtain ⟨a, ha, h⟩ := bind_eq_ok.1 h
    obtain rfl := Except.ok.inj h
    rw [arrayGet_ok ha]
    rfl

lemma protoOption_eq {proto : Option (List Text)} (h : protoOption conn proto = .ok c) :
    ∃ b, c = { conn with mUseUdp := b } ∧ (proto.map (argument · 1) = none → b = conn.mUseUdp) ∧
      ∀ arg ∈ proto.map (argument · 1), isUdpProto arg = .ok b := by
  cases proto with
  | none => exact ⟨_, (Except.ok.inj h).symm, fun _ => rfl, by simp⟩
  | some l =>
    obtain ⟨a, ha, h⟩ := bind_eq_ok.1 h
    obtain ⟨b, hb, h⟩ := bind_eq_ok.1 h
    obtain rfl := Except.ok.inj h
    rw [arrayGet_ok ha] at hb
    exact ⟨b, rfl, by simp, by simpa using hb⟩

lemma connectTimeoutOption_eq {connectTimeout : Option (List Text)}
    (h : connectTimeoutOption conn connectTimeout = .ok c) :
    ∃ n, c = { conn with mConnectTimeout := n } ∧
      (connectTimeout.map (argument · 1) = none → n = conn.mConnectTimeout) ∧
      ∀ arg ∈ connectTimeout.map (argument · 1), parseInt arg = .ok n := by
  cases connectTimeout with
  | none => exact ⟨_, (Except.ok.inj h).symm, fun _ => rfl, by simp⟩
  | some l =>
    obtain ⟨a, ha, h⟩ := bind_eq_ok.1 h
    obtain ⟨n, hn, h⟩ := bind_eq_ok.1 h
    obtain rfl := Except.ok.inj h
    rw [integerArgument_ok, arrayGet_ok ha] at hn
    exact ⟨n, rfl, by simp, by simpa using hn⟩

/-- **What the options of a connection are good for.** -/
theorem parseConnectionOptions_defaults {connDefault : Option Connection} {o : Options}
    {r : (Connection × List Connection) × Options}
    (h : parseConnectionOptions order connDefault o = .ok r) :
    Defaults o.get (connDefault.getD {}) r.1.1 ∧ Arity 1 3 (o.get "remote".toList) ∧
      List.Forall₂ (fun l c => remoteConnection r.1.1 l = .ok c) (o.get "remote".toList) r.1.2 := by
  obtain ⟨-, h⟩ := getOption_bind_ok.1 h
  obtain ⟨c1, h1, h⟩ := bind_eq_ok.1 h
  obtain ⟨-, h⟩ := getOption_bind_ok.1 h
  obtain ⟨c2, h2, h⟩ := bind_eq_ok.1 h
  obtain ⟨-, h⟩ := getOption_bind_ok.1 h
  obtain ⟨c3, h3, h⟩ := bind_eq_ok.1 h
  obtain ⟨-, h⟩ := getOption_bind_ok.1 h
  obtain ⟨c4, h4, h⟩ := bind_eq_ok.1 h
  obtain ⟨harity, h⟩ := getAllOption_bind_ok.1 h
  obtain ⟨conns, hconns, h⟩ := bind_eq_ok.1 h
  obtain rfl := Except.ok.inj h
  rw [get_rport] at h2
  rw [get_proto] at h3
  rw [get_connectTimeout] at h4
  rw [get_remote] at hconns harity
  obtain rfl := portOption_eq h1
  obtain rfl := portOption_eq h2
  obtain ⟨b, rfl, hb⟩ := protoOption_eq h3
  obtain ⟨n, rfl, hn⟩ := connectTimeoutOption_eq h4
  have hdefaults : Defaults o.get (connDefault.getD {}) { connDefault.getD {} with
      mServerPort := (lastArgument o.get "rport".toList).getD
        ((lastArgument o.get "port".toList).getD (connDefault.getD {}).mServerPort)
      mUseUdp := b
      mConnectTimeout := n } := ⟨rfl, hb, hn, rfl⟩
  refine ⟨?_, harity, mapM_eq_ok.1 hconns⟩
  cases connDefault with
  | none => exact hdefaults
  | some d => exact { hdefaults with }

/-- A `remote` names its server. -/
lemma remoteConnection_mServerName {l : List Text} (hl : 2 ≤ l.length ∧ l.length ≤ 4)
    (h : remoteConnection conn l = .ok c) : c.mServerName = argument l 1 := by
  unfold remoteConnection at h
  split at h
  · obtain ⟨b, -, h⟩ := bind_eq_ok.1 h
    obtain rfl := Except.ok.inj h
    rfl
  · obtain rfl := Except.ok.inj h
    rfl
  · obtain rfl := Except.ok.inj h
    rfl
  · next h4 h3 h2 =>
    obtain ⟨hmin, hmax⟩ := hl
    rcases l with _ | ⟨a, _ | ⟨b, _ | ⟨c, _ | ⟨d, _ | ⟨e, l⟩⟩⟩⟩⟩
    · simp only [List.length_nil] at hmin
      omega
    · simp only [List.length_cons, List.length_nil] at hmin
      omega
    · exact absurd rfl (h2 a b)
    · exact absurd rfl (h3 a b c)
    · exact absurd rfl (h4 a b c d)
    · simp only [List.length_cons] at hmax
      omega

/-! ### Blocks -/

/-- The connection comes from the block, and what the block does not say from another one. -/
def FromBlock (d : Connection) (block : List Text) (c : Connection) : Prop :=
  ∃ p conn l, parseConfig (blockText block) = .ok p ∧ Defaults p.options.get d conn ∧
    p.options.get "remote".toList = [l] ∧ (2 ≤ l.length ∧ l.length ≤ 4) ∧
    remoteConnection conn l = .ok c

lemma fromBlock_of_blockConnection {block : List Text} (h : blockConnection order d block = .ok c) :
    FromBlock d block c := by
  obtain ⟨a, ha, h⟩ := bind_eq_ok.1 h
  obtain ⟨r, hr, h⟩ := bind_eq_ok.1 h
  obtain ⟨t, ht, hr⟩ := bind_eq_ok.1 hr
  obtain ⟨p, hp, hr⟩ := bind_eq_ok.1 hr
  obtain ⟨r', hr', hr⟩ := bind_eq_ok.1 hr
  obtain rfl := Except.ok.inj hr
  have htext : t = blockText block := by
    unfold substring at ht
    split_ifs at ht
    obtain rfl := Except.ok.inj ht
    rw [blockText, arrayGet_ok ha]
  obtain ⟨hd, harity, hall⟩ := parseConnectionOptions_defaults hr'
  split at h
  · next c' hc' =>
    obtain rfl := Except.ok.inj h
    rw [hc', List.forall₂_cons_right_iff] at hall
    obtain ⟨l, ls, hl, hnil, hremotes⟩ := hall
    rw [List.forall₂_nil_right_iff.1 hnil] at hremotes
    have hlen := harity l (by rw [hremotes]; exact List.mem_cons_self)
    exact ⟨p, _, l, htext ▸ hp, hd, hremotes, ⟨hlen.1, hlen.2⟩, hl⟩
  · cases h

lemma fromBlocks_of_blockConnections {i : ℕ} {blocks : List (List Text)} {cs : List Connection}
    (h : blockConnections orders d i blocks = .ok cs) : List.Forall₂ (FromBlock d) blocks cs := by
  induction blocks generalizing i cs with
  | nil =>
    obtain rfl := Except.ok.inj h
    exact .nil
  | cons block blocks ih =>
    rw [blockConnections] at h
    obtain ⟨c, hc, h⟩ := bind_eq_ok.1 h
    obtain ⟨cs', hcs, h⟩ := bind_eq_ok.1 h
    obtain rfl := Except.ok.inj h
    exact .cons (fromBlock_of_blockConnection hc) (ih hcs)

/-- Where each of the connections comes from. -/
structure ConnectionList (o : Lines) (conn : Connection) (cs : List Connection) : Prop where
  defaults : Defaults o {} conn
  remotes : o "connection".toList = [] → Arity 1 3 (o "remote".toList) ∧
    List.Forall₂ (fun l c => remoteConnection conn l = .ok c) (o "remote".toList) cs
  blocks : o "connection".toList ≠ [] → o "remote".toList = [] ∧
    List.Forall₂ (FromBlock conn) (o "connection".toList) cs

/-- **Which connections there are.** -/
theorem connectionList_of_connections {s s' : Import} (h : connections orders s = .ok s') :
    ∃ conn, ConnectionList (view s) conn s'.np.mConnections := by
  obtain ⟨r, hr, h⟩ := bind_eq_ok.1 h
  obtain ⟨-, h⟩ := getAllOption_bind_ok.1 h
  obtain ⟨cs, hcs, h⟩ := bind_eq_ok.1 h
  obtain rfl := Except.ok.inj h
  obtain ⟨hrest, hlen⟩ := parseConnectionOptions_ok hr
  have hget : r.2.get "connection".toList = view s "connection".toList := by
    rw [hrest, get_withoutConnection (by decide), view]
  obtain ⟨hd, harity, hall⟩ := parseConnectionOptions_defaults hr
  rw [hget] at hcs
  unfold allConnections at hcs
  refine ⟨r.1.1, hd, fun hnone => ?_, fun hsome => ?_⟩
  · rw [if_neg (fun hb => hb.2 hnone), if_pos hnone] at hcs
    obtain rfl := Except.ok.inj hcs
    exact ⟨harity, hall⟩
  · split_ifs at hcs with hboth
    rw [not_and_not_right] at hboth
    have hnil : r.1.2 = [] := by
      by_contra hne
      exact hsome (hboth hne)
    refine ⟨?_, fromBlocks_of_blockConnections hcs⟩
    rw [hnil, List.length_nil] at hlen
    exact List.length_eq_zero_iff.1 hlen.symm

/-! ### The profile -/

variable {p : ConfigParser} {s s' : Import}

lemma ConnectionList.congr {o o' : Lines} {cs : List Connection} (h : ConnectionList o conn cs)
    (he : ∀ k ∈ "connection".toList :: connectionKeys, o k = o' k) :
    ConnectionList o' conn cs := by
  have hlast : ∀ k ∈ connectionKeys, lastArgument o k = lastArgument o' k := by
    intro k hk
    rw [lastArgument, he k (List.mem_cons_of_mem _ hk), lastArgument]
  obtain ⟨⟨hport, hudp, htime, henabled⟩, hremotes, hblocks⟩ := h
  rw [hlast _ (by decide), hlast _ (by decide)] at hport
  rw [hlast _ (by decide)] at hudp htime
  rw [he _ (by decide), he "remote".toList (by decide)] at hremotes hblocks
  exact ⟨⟨hport, hudp, htime, henabled⟩, hremotes, hblocks⟩

lemma protoForce_mConnections (h : protoForce s = .ok s') :
    ∃ f, s'.np.mConnections = s.np.mConnections.map f ∧ (∀ c, Switched c (f c)) ∧
      (view s "proto-force".toList = [] → f = id) := by
  obtain ⟨-, hc⟩ := does_protoForce s s' h
  cases hl : (view s "proto-force".toList).getLast? with
  | none =>
    simp only [protoForceEffect, lastEffect, hl] at hc
    rw [hc]
    exact ⟨id, (List.map_id _).symm, fun c => .inl rfl, fun _ => rfl⟩
  | some l =>
    simp only [protoForceEffect, lastEffect, hl] at hc
    obtain ⟨b, hc⟩ := hc
    rw [hc]
    refine ⟨disableProto b, rfl, fun c => ?_, fun hnil => ?_⟩
    · unfold disableProto
      split_ifs
      · exact .inr rfl
      · exact .inl rfl
    · rw [hnil] at hl
      cases hl

/-- **Which connections the profile has.** -/
theorem connectionList_of_convert (h : convertProfile orders p = .ok s) :
    ∃ conn cs f, ConnectionList p.options.get conn cs ∧ s.np.mConnections = cs.map f ∧
      (∀ c, Switched c (f c)) ∧ (p.options.get "proto-force".toList = [] → f = id) := by
  have hall := stages_act orders p.metaOptions
  obtain ⟨s₁, s₂, h1, hstage, h2, hbefore, hbehind⟩ := inTurn_at hall 39 rfl h
  obtain ⟨t1, -⟩ := inTurn_acts hbefore h1
  obtain ⟨s₃, s₄, h3, hforce, h4, hbetween, hlater⟩ := inTurn_at hbehind 1 rfl h2
  obtain ⟨t3, a3⟩ := inTurn_acts hbetween h3
  obtain ⟨-, a4⟩ := inTurn_acts hlater h4
  obtain ⟨t2, -⟩ := acts_connections s₁ s₂ hstage
  have hview : ∀ k ∈ "proto-force".toList :: "connection".toList :: connectionKeys,
      view s₁ k = p.options.get k := by
    have hfree : ∀ k ∈ "proto-force".toList :: "connection".toList :: connectionKeys,
        k ∉ (together (actions.take 39)).added ∧ k ∉ (together (actions.take 39)).names := by
      decide +kernel
    exact fun k hk => (t1 k (hfree k hk).1).trans (if_neg (hfree k hk).2)
  obtain ⟨conn, hlist⟩ := connectionList_of_connections hstage
  obtain ⟨f, hf, hswitched, hid⟩ := protoForce_mConnections hforce
  have hsame : s₃.np.mConnections = s₂.np.mConnections := a3 .mConnections (by decide)
  have hend : s.np.mConnections = s₄.np.mConnections := a4 .mConnections (by decide)
  refine ⟨conn, s₂.np.mConnections, f,
    hlist.congr fun k hk => hview k (List.mem_cons_of_mem _ hk), ?_, hswitched, fun hnone => hid ?_⟩
  · rw [hend, hf, hsame]
  · have hforced : view s₂ "proto-force".toList = view s₁ "proto-force".toList :=
      (t2 _ (by decide)).trans (if_neg (by decide))
    have hkept : view s₃ "proto-force".toList = view s₂ "proto-force".toList :=
      (t3 _ (by decide)).trans (if_neg (by decide))
    rw [hkept, hforced, hview _ List.mem_cons_self, hnone]

/-! ### Names -/

/-- The server that the block of a connection names. -/
def blockServer (block : List Text) : Text :=
  ((parseConfig (blockText block)).toOption.map fun p =>
    argument ((p.options.get "remote".toList).headD []) 1).getD []

/-- The servers of the configuration, by their names. -/
def serverNames (o : Lines) : List Text :=
  if o "connection".toList = [] then (o "remote".toList).map (argument · 1)
  else (o "connection".toList).map blockServer

lemma FromBlock.mServerName {block : List Text} (h : FromBlock d block c) :
    c.mServerName = blockServer block := by
  obtain ⟨p, conn, l, hp, -, hremote, hlen, hl⟩ := h
  have hblock : blockServer block = argument ((p.options.get "remote".toList).headD []) 1 := by
    rw [blockServer, hp]
    rfl
  rw [remoteConnection_mServerName hlen hl, hblock, hremote]
  rfl

lemma mServerName_of_remotes {lines : List (List Text)} {cs : List Connection}
    (harity : Arity 1 3 lines)
    (h : List.Forall₂ (fun l c => remoteConnection conn l = .ok c) lines cs) :
    cs.map Connection.mServerName = lines.map (argument · 1) := by
  induction h with
  | nil => rfl
  | cons hc _ ih =>
    rw [Arity, List.forall_mem_cons] at harity
    rw [List.map_cons, List.map_cons, ih harity.2, remoteConnection_mServerName harity.1 hc]

lemma mServerName_of_blocks {blocks : List (List Text)} {cs : List Connection}
    (h : List.Forall₂ (FromBlock d) blocks cs) :
    cs.map Connection.mServerName = blocks.map blockServer := by
  induction h with
  | nil => rfl
  | cons hc _ ih => rw [List.map_cons, List.map_cons, ih, hc.mServerName]

lemma ConnectionList.mServerName {o : Lines} {cs : List Connection}
    (h : ConnectionList o conn cs) : cs.map Connection.mServerName = serverNames o := by
  unfold serverNames
  split_ifs with hnone
  · obtain ⟨harity, hall⟩ := h.remotes hnone
    exact mServerName_of_remotes harity hall
  · exact mServerName_of_blocks (h.blocks hnone).2

/-- **The servers of the profile** are those of the configuration. -/
theorem mServerName_of_convert (h : convertProfile orders p = .ok s) :
    s.np.mConnections.map Connection.mServerName = serverNames p.options.get := by
  obtain ⟨conn, cs, f, hlist, hcs, hswitched, -⟩ := connectionList_of_convert h
  rw [hcs, List.map_map, ← hlist.mServerName]
  refine List.map_congr_left fun c _ => ?_
  rcases hswitched c with hc | hc
  · rw [Function.comp_apply, hc]
  · rw [Function.comp_apply, hc]

end BuludTechVPN.FileReading
