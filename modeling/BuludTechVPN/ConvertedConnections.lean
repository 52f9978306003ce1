import BuludTechVPN.ConnectionBlocks
import BuludTechVPN.ConnectionChecks

/-!
The connections of a converted profile can be written, if the options that they come from can.
-/

namespace BuludTechVPN.FileReading

open JavaLang LineParser ParseConfig VpnProfile ConvertProfile ImportChecks

variable {fails : Prop} {k custom : Text} {use : Bool} {order : KeyOrder Text} {c c' conn : Connection}

/-! ### Options of a connection -/

/-- The addresses of the connections can be written. -/
structure RemotesFit (fails : Prop) (o : Lines) : Prop where
  port : ∀ l ∈ (o "port".toList).getLast?, Raw fails (argument l 1)
  rport : ∀ l ∈ (o "rport".toList).getLast?, Raw fails (argument l 1)
  remote : ∀ l ∈ o "remote".toList, Raw fails (argument l 1) ∧ Raw fails (argument l 2)

/-- A connection with an address that can be written and a given custom configuration. -/
structure Holds (fails : Prop) (custom : Text) (use : Bool) (c : Connection) : Prop where
  mServerName : Raw fails c.mServerName
  mServerPort : Raw fails c.mServerPort
  mCustomConfiguration : c.mCustomConfiguration = custom
  mUseCustomConfig : c.mUseCustomConfig = use

lemma Holds.portOption {port : Option (List Text)} (h : Holds fails custom use conn)
    (hp : ∀ l ∈ port, Raw fails (argument l 1)) (hc : portOption conn port = .ok c) :
    Holds fails custom use c := by
  cases port with
  | none =>
    cases hc
    exact h
  | some l =>
    obtain ⟨a, ha, hc⟩ := bind_eq_ok.1 hc
    cases hc
    exact { h with mServerPort := arrayGet_ok ha ▸ hp l rfl }

lemma Holds.protoOption {proto : Option (List Text)} (h : Holds fails custom use conn)
    (hc : protoOption conn proto = .ok c) : Holds fails custom use c := by
  cases proto with
  | none =>
    cases hc
    exact h
  | some l =>
    obtain ⟨a, -, hc⟩ := bind_eq_ok.1 hc
    obtain ⟨b, -, hc⟩ := bind_eq_ok.1 hc
    cases hc
    exact { h with }

lemma Holds.connectTimeoutOption {connectTimeout : Option (List Text)}
    (h : Holds fails custom use conn)
    (hc : connectTimeoutOption conn connectTimeout = .ok c) : Holds fails custom use c := by
  cases connectTimeout with
  | none =>
    cases hc
    exact h
  | some l =>
    obtain ⟨a, -, hc⟩ := bind_eq_ok.1 hc
    obtain ⟨b, -, hc⟩ := bind_eq_ok.1 hc
    cases hc
    exact { h with }

lemma Holds.remoteConnection {l : List Text} (h : Holds fails custom use conn)
    (hl : Raw fails (argument l 1) ∧ Raw fails (argument l 2))
    (hc : remoteConnection conn l = .ok c) : Holds fails custom use c := by
  unfold ConvertProfile.remoteConnection at hc
  split at hc
  · obtain ⟨b, -, hc⟩ := bind_eq_ok.1 hc
    cases hc
    exact { h with mServerName := hl.1, mServerPort := hl.2 }
  · cases hc
    exact { h with mServerName := hl.1, mServerPort := hl.2 }
  · cases hc
    exact { h with mServerName := hl.1 }
  · cases hc
    exact h

/-- The options of a block that are not about its connection, as text. -/
def blockCustom (order : KeyOrder Text) (o : Options) : Text :=
  ((withoutConnection o).values order).flatMap getOptionStrings

/-- **What a connection takes from its options**: its address, and inside of a block all that is
left of them. -/
theorem holds_parseConnectionOptions {connDefault : Option Connection} {o : Options}
    {r : (Connection × List Connection) × Options}
    (hd : Holds fails [] false (connDefault.getD {})) (ho : RemotesFit fails o.get)
    (h : parseConnectionOptions order connDefault o = .ok r) :
    ∀ c ∈ r.1.1 :: r.1.2, Holds fails (if connDefault.isSome then blockCustom order o else [])
      (connDefault.isSome && blockCustom order o ≠ []) c := by
  obtain ⟨-, h⟩ := getOption_bind_ok.1 h
  obtain ⟨c1, h1, h⟩ := bind_eq_ok.1 h
  obtain ⟨-, h⟩ := getOption_bind_ok.1 h
  obtain ⟨c2, h2, h⟩ := bind_eq_ok.1 h
  obtain ⟨-, h⟩ := getOption_bind_ok.1 h
  obtain ⟨c3, h3, h⟩ := bind_eq_ok.1 h
  obtain ⟨-, h⟩ := getOption_bind_ok.1 h
  obtain ⟨c4, h4, h⟩ := bind_eq_ok.1 h
  obtain ⟨-, h⟩ := getAllOption_bind_ok.1 h
  obtain ⟨conns, hconns, h⟩ := bind_eq_ok.1 h
  cases h
  rw [get_rport] at h2
  rw [get_remote] at hconns
  have hc4 := (((hd.portOption ho.port h1).portOption ho.rport h2).protoOption
    h3).connectTimeoutOption h4
  have hcustom : Holds fails (if connDefault.isSome then blockCustom order o else [])
      (connDefault.isSome && blockCustom order o ≠ [])
      (customConfiguration order connDefault (withoutConnection o) c4) := by
    cases connDefault with
    | none => exact hc4
    | some d =>
      refine { hc4 with mCustomConfiguration := ?_, mUseCustomConfig := ?_ }
      · show c4.mCustomConfiguration ++ _ = _
        rw [hc4.mCustomConfiguration]
        rfl
      · show (c4.mUseCustomConfig || decide (c4.mCustomConfiguration ++ _ ≠ [])) = _
        rw [hc4.mCustomConfiguration, hc4.mUseCustomConfig]
        rfl
  refine List.forall_mem_cons.2 ⟨hcustom, fun c hc => ?_⟩
  obtain ⟨l, hl, hlc⟩ := mem_of_mapM_eq_ok hconns hc
  exact hcustom.remoteConnection (ho.remote l hl) hlc

/-! ### Blocks -/

/-- The options of a block can be written. -/
def BlockFits (fails : Prop) (conn : List Text) : Prop := ∀ p, parseConfig (blockText conn) = .ok p →
  RemotesFit fails p.options.get ∧ ∀ e ∈ withoutConnection p.options, LineFitsBlock fails e.2

/-- The connections of the options can be written. -/
structure ConnectionsFit (fails : Prop) (o : Lines) : Prop extends RemotesFit fails o where
  connection : ∀ conn ∈ o "connection".toList, BlockFits fails conn

/-- A connection of a block, with what is left of the options of the block. -/
lemma holds_blockConnection {defaultValues : Connection} {conn : List Text}
    (hd : Holds fails [] false defaultValues) (hb : BlockFits fails conn)
    (h : blockConnection order defaultValues conn = .ok c) :
    ∃ p, parseConfig (blockText conn) = .ok p ∧
      Holds fails (blockCustom order p.options) (blockCustom order p.options ≠ []) c := by
  obtain ⟨a, ha, h⟩ := bind_eq_ok.1 h
  obtain ⟨r, hr, h⟩ := bind_eq_ok.1 h
  obtain ⟨t, ht, hr⟩ := bind_eq_ok.1 hr
  obtain ⟨p, hp, hr⟩ := bind_eq_ok.1 hr
  obtain ⟨r', hr', hr⟩ := bind_eq_ok.1 hr
  cases hr
  have htext : t = blockText conn := by
    unfold substring at ht
    split_ifs at ht
    cases ht
    rw [blockText, arrayGet_ok ha]
  rw [htext] at hp
  have hall := holds_parseConnectionOptions hd (hb p hp).1 hr'
  refine ⟨p, hp, ?_⟩
  split at h
  · next c' heq =>
    cases h
    have := hall c (by rw [heq]; simp)
    simpa using this
  · cases h

lemma mem_blockConnections {orders : ℕ → KeyOrder Text} {defaultValues : Connection} {i : ℕ}
    {blocks : List (List Text)} {cs : List Connection}
    (h : blockConnections orders defaultValues i blocks = .ok cs) (hc : c ∈ cs) :
    ∃ order, ∃ conn ∈ blocks, blockConnection order defaultValues conn = .ok c := by
  induction blocks generalizing i cs with
  | nil =>
    cases h
    cases hc
  | cons conn blocks ih =>
    rw [blockConnections] at h
    obtain ⟨d, hd, h⟩ := bind_eq_ok.1 h
    obtain ⟨ds, hds, h⟩ := bind_eq_ok.1 h
    cases h
    rcases List.mem_cons.1 hc with rfl | hc
    · exact ⟨_, conn, List.mem_cons_self, hd⟩
    · obtain ⟨order, conn', hm, hb⟩ := ih hds hc
      exact ⟨order, conn', List.mem_cons_of_mem _ hm, hb⟩

/-- Where a connection of the profile comes from. -/
inductive Origin (fails : Prop) (o : Lines) (c : Connection) : Prop
  | remote (h : Holds fails [] false c)
  | block (order : KeyOrder Text) (conn : List Text) (p : ConfigParser)
      (hc : conn ∈ o "connection".toList) (hp : parseConfig (blockText conn) = .ok p)
      (h : Holds fails (blockCustom order p.options) (blockCustom order p.options ≠ []) c)

lemma Origin.congr {o o' : Lines} (h : Origin fails o c)
    (he : o "connection".toList = o' "connection".toList) : Origin fails o' c := by
  cases h with
  | remote h => exact .remote h
  | block order conn p hc hp h => exact .block order conn p (he ▸ hc) hp h

lemma Holds.customLines_nil (h : Holds fails [] use c) : c.customLines = [] := by
  rw [Connection.customLines, Connection.isOnlyRemote, h.mCustomConfiguration]
  rfl

lemma mem_of_mem_foldl_remove {o : Options} {ks : List Text} {e : Text × List Text}
    (h : e ∈ ks.foldl Multimap.remove o) : e ∈ o := by
  induction ks generalizing o with
  | nil => exact h
  | cons k ks ih => exact (Multimap.mem_remove.1 (ih h)).1

lemma Origin.fits {o : Lines} (h : Origin fails o c) (ho : ConnectionsFit fails o) :
    ConnectionFits fails c := by
  cases h with
  | remote h => exact ⟨h.mServerName, h.mServerPort, h.customLines_nil ▸ .nil⟩
  | block order conn p hc hp h =>
    refine ⟨h.mServerName, h.mServerPort, ?_⟩
    have hlines := (ho.connection conn hc p hp).2
    unfold Connection.customLines
    split_ifs
    · exact .nil
    · rw [h.mCustomConfiguration]
      refine Inside.append (Inside.flatMap fun lines hl => Inside.flatMap fun l hm => ?_)
        (.line isLine_nil (by decide))
      obtain ⟨-, name, rfl⟩ := Multimap.mem_values.1 hl
      exact inside_optionString (hlines _ (Multimap.mem_get.1 hm))

/-- What a connection writes outside of a block is about no option that its block has not. -/
lemma Origin.says_nil {o : Lines} (h : Origin fails o c) (ho : ConnectionsFit fails o)
    (hk : ∀ conn ∈ o "connection".toList, ∀ p, parseConfig (blockText conn) = .ok p →
      p.options.get k = []) : Says fails k [] c.customLines := by
  cases h with
  | remote h =>
    rw [h.customLines_nil]
    exact .nil
  | block order conn p hc hp h =>
    unfold Connection.customLines
    split_ifs
    · exact .nil
    · rw [h.mCustomConfiguration]
      refine Says.append_nil (says_values fun e he => ?_) says_blank
      refine ⟨((ho.connection conn hc p hp).2 e he).fits, fun name hname heq => ?_⟩
      have hmem := mem_of_mem_foldl_remove he
      obtain ⟨arg0, args, rfl⟩ := entry_of_mem_parseConfig hp e hmem
      obtain rfl := Option.some.inj hname
      exact Multimap.get_eq_nil_iff.1 (hk conn hc p hp) (arg0 :: args) (heq ▸ hmem)

lemma length_blockConnections {orders : ℕ → KeyOrder Text} {defaultValues : Connection} {i : ℕ}
    {blocks : List (List Text)} {cs : List Connection}
    (h : blockConnections orders defaultValues i blocks = .ok cs) : cs.length = blocks.length := by
  induction blocks generalizing i cs with
  | nil =>
    cases h
    rfl
  | cons conn blocks ih =>
    rw [blockConnections] at h
    obtain ⟨d, hd, h⟩ := bind_eq_ok.1 h
    obtain ⟨ds, hds, h⟩ := bind_eq_ok.1 h
    cases h
    rw [List.length_cons, List.length_cons, ih hds]

/-- The connections that the default of `Connection` begins with. -/
lemma holds_default : Holds fails [] false {} :=
  ⟨⟨by decide, .inr (by decide)⟩, ⟨by decide, .inr (by decide)⟩, rfl, rfl⟩

/-- **Where the connections come from**: one for each `remote`, or one for each block. -/
theorem connections_ok {orders : ℕ → KeyOrder Text} {s s' : Import}
    (ho : ConnectionsFit fails (view s)) (h : connections orders s = .ok s') :
    ∃ cs, s' = { s with
        np := { s.np with mConnections := cs }
        options := (connectionKeys ++ ["connection".toList]).foldl Multimap.remove s.options } ∧
      (∀ c ∈ cs, Origin fails (view s) c) ∧ cs.length =
        if view s "connection".toList = [] then (view s "remote".toList).length
        else (view s "connection".toList).length := by
  obtain ⟨r, hr, h⟩ := bind_eq_ok.1 h
  obtain ⟨-, h⟩ := getAllOption_bind_ok.1 h
  obtain ⟨cs, hcs, h⟩ := bind_eq_ok.1 h
  cases h
  obtain ⟨hrest, hlen⟩ := parseConnectionOptions_ok hr
  have hget : r.2.get "connection".toList = view s "connection".toList := by
    rw [hrest, get_withoutConnection (by decide), view]
  have hdefault : Holds fails [] false (Option.getD none {}) := holds_default
  have hall := holds_parseConnectionOptions hdefault ho.toRemotesFit hr
  rw [hget] at hcs
  refine ⟨cs, by rw [hrest]; rfl, ?_⟩
  unfold allConnections at hcs
  split_ifs at hcs with hboth hnone
  · cases hcs
    rw [if_pos hnone]
    exact ⟨fun c hc => .remote (hall c (List.mem_cons_of_mem _ hc)), hlen⟩
  · rw [if_neg hnone]
    refine ⟨fun c hc => ?_, length_blockConnections hcs⟩
    obtain ⟨order, conn, hm, hb⟩ := mem_blockConnections hcs hc
    obtain ⟨p, hp, hh⟩ := holds_blockConnection (hall _ List.mem_cons_self) (ho.connection conn hm) hb
    exact .block order conn p hm hp hh

end BuludTechVPN.FileReading
