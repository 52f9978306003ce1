import BuludTechVPN.CommandOptions
import BuludTechVPN.ServerList
import BuludTechVPN.KeptOptions

/-!
Servers survive an import: which connections the file of a converted profile has.

One connection is written outside of blocks, several are only if none of them has options of its
own. Outside of blocks the last timeout is that of all connections.
-/

namespace BuludTechVPN.FileReading

open JavaLang LineParser ParseConfig VpnProfile ConvertProfile ImportChecks Stages

variable {fails : Prop} {k : Text} {n : Notes} {order : KeyOrder Text} {o : Options}
variable {np : VpnProfile} {pf : Platform} {orders : ℕ → KeyOrder Text} {p : ConfigParser}
variable {s : Import} {text : Text} {c d : Connection} {cs : List Connection}

/-! ### Servers -/

/-- What of a connection is about its server. -/
def server (c : Connection) : Text × Text × Bool × ℤ :=
  (c.mServerName, c.mServerPort, c.mUseUdp, c.mConnectTimeout)

/-- The options are those of the connections, as a conversion takes them. -/
def ConnectsTo (o : Options) (cs : List Connection) : Prop :=
  ∀ (orders : ℕ → KeyOrder Text) (s : Import), s.options = o →
    ∃ s', connections orders s = .ok s' ∧ s'.np.mConnections.map server = cs.map server

/-- The file of the profile is written and read, and has the servers of the profile. -/
def KeepsServers (pf : Platform) (np : VpnProfile) : Prop :=
  ∃ t q, np.getConfigFile pf = .ok t ∧ parseConfig t = .ok q ∧ ConnectsTo q.options np.mConnections

/-! ### Lines of a connection -/

/-- The line of the server of a connection. -/
def remoteWords (c : Connection) : List Text :=
  ["remote".toList, c.mServerName, c.mServerPort,
    if c.mUseUdp then "udp".toList else "tcp-client".toList]

/-- The line of the timeout of a connection, if it has one. -/
def timeoutWords (c : Connection) : List (List Text) :=
  if c.mConnectTimeout = 0 then [] else [["connect-timeout".toList, showInt c.mConnectTimeout]]

/-- The lines of an option that are written for a connection. -/
def written (k : Text) (c : Connection) : List (List Text) :=
  (if "remote".toList = k then [remoteWords c] else []) ++
    if "connect-timeout".toList = k ∧ c.mConnectTimeout ≠ 0 then
      [["connect-timeout".toList, showInt c.mConnectTimeout]] else []

lemma written_remote : written "remote".toList c = [remoteWords c] := by
  rw [written, if_pos rfl, if_neg (by rintro ⟨h, -⟩; exact absurd h (by decide)), List.append_nil]

lemma written_timeout : written "connect-timeout".toList c = timeoutWords c := by
  rw [written, timeoutWords, if_neg (by decide), List.nil_append]
  by_cases h0 : c.mConnectTimeout = 0
  · rw [if_pos h0, if_neg fun h => h.2 h0]
  · rw [if_neg h0, if_pos ⟨rfl, h0⟩]

lemma written_other (hk : k ∉ remoteNames) : written k c = [] := by
  have hremote : "remote".toList ≠ k := ne_of_mem_of_not_mem (by decide) hk
  have htimeout : "connect-timeout".toList ≠ k := ne_of_mem_of_not_mem (by decide) hk
  rw [written, if_neg hremote, if_neg fun h => htimeout h.1, List.append_nil]

/-- The name and the port are words. -/
def HasWords (c : Connection) : Prop := IsWord c.mServerName ∧ IsWord c.mServerPort

lemma scan_remoteWords (h : HasWords c) : scan (between ["remote".toList])
    ((c.mServerName ++ ' ' :: c.mServerPort ++
      if c.mUseUdp then " udp".toList else " tcp-client".toList) ++ ['\x00']) =
      .ok (remoteWords c) := by
  have hrest : ∀ proto : Text, IsWord proto → scan (between ["remote".toList])
      ((c.mServerName ++ ' ' :: c.mServerPort ++ ' ' :: proto) ++ ['\x00']) =
        .ok ["remote".toList, c.mServerName, c.mServerPort, proto] := by
    intro proto hproto
    rw [List.append_assoc, List.append_assoc, List.cons_append, List.cons_append,
      scan_word h.1 (by decide), scan_word h.2 (by decide), scan_word hproto (by decide)]
    rfl
  unfold remoteWords
  split_ifs
  · exact hrest "udp".toList (by decide)
  · exact hrest "tcp-client".toList (by decide)

/-- **What is written for a connection** is read. -/
theorem says_writtenLines (h : Raw fails c.mServerName ∧ Raw fails c.mServerPort) (hw : HasWords c)
    (hc : Says fails k [] c.customLines) : Says fails k (written k c) c.getConnectionBlock := by
  have hname : IsName "remote".toList := by decide
  have hremote : Says fails k (if "remote".toList = k then [remoteWords c] else [])
      c.remoteLine := by
    rw [remoteLine_eq]
    exact says_args hname.opens (behind_remote h).1 (scan_remoteWords hw)
  have htimeout : Says fails k _ c.timeoutLine := says_timeout c
  exact (hremote.append htimeout).nil_append hc

/-- What is left of the options of a block is not about its connection. -/
lemma Origin.says_key {o : Lines} (h : Origin fails o c) (ho : ConnectionsFit fails o)
    (hk : k ∈ connectionKeys) : Says fails k [] c.customLines := by
  cases h with
  | remote h =>
    rw [h.customLines_nil]
    exact .nil
  | block order conn p hc hp h =>
    unfold Connection.customLines
    split_ifs
    · exact .nil
    · rw [h.mCustomConfiguration]
      refine Says.append_nil (says_values fun e he => ?_) says_blank
      refine ⟨((ho.connection conn hc p hp).2 e he).fits, fun name hname heq => ?_⟩
      obtain ⟨arg0, args, rfl⟩ := entry_of_mem_parseConfig hp e (mem_of_mem_foldl_remove he)
      obtain rfl := Option.some.inj hname
      have hget : (withoutConnection p.options).get k = [] := by
        rw [withoutConnection, Multimap.get_foldl_remove, if_pos hk]
      exact Multimap.get_eq_nil_iff.1 hget (arg0 :: args) (heq ▸ he)

lemma Switched.written {c' : Connection} (h : Switched c' c) : written k c = written k c' := by
  rcases h with rfl | rfl
  · rfl
  · rfl

/-! ### The file -/

/-- The options of the connections, and that of the blocks. -/
def serverKeys : List Text := "connection".toList :: connectionKeys

variable {t : Text}

/-- Nothing but the connections is about their options. -/
theorem Converted.says_servers {remotes blocks : List (List Text)}
    (h : Converted False n order o np) (hpf : PlatformFits False k pf)
    (hk : k ∈ serverKeys) (hremotes : Says False k remotes np.remoteLines.flatten)
    (hblocks : Says False k blocks np.blockLines.flatten) (ht : np.getConfigFile pf = .ok t) :
    Says False k (remotes ++ blocks) t ∧ Unmarked t := by
  have hfree : ∀ k ∈ serverKeys, k ∉ fixedNames ∧ k ∉ keyNames ∧ k ≠ "route".toList ∧
      k ∉ peerNames ∧ k ∈ convertedNames ++ ignoreOptions ∧ k ≠ "crl-verify".toList ∧
      k ≠ "remote-cert-tls".toList := by decide +kernel
  obtain ⟨hfixed, hkeys, hroute, hpeer, htaken, hcrl, hcert⟩ := hfree k hk
  obtain ⟨crl, rest, hcustom⟩ := h.custom
  have := says_getConfigFile hfixed hpf h.profile hremotes
    (Says.flatten (says_keyLines hkeys h.profile)) (says_ipv4RouteLines hroute h.profile)
    (fun lines hl => Says.flatten (says_peerLines hpeer h.profile hl))
    (hcustom.says_nil htaken hcrl hcert) hblocks ht
  simpa only [List.append_nil] using this

/-- A connection that is written as it is. -/
structure Writable (c : Connection) : Prop where
  enabled : c.mEnabled = true
  words : HasWords c
  raw : Raw False c.mServerName ∧ Raw False c.mServerPort
  timeout : -2 ^ 31 ≤ c.mConnectTimeout ∧ c.mConnectTimeout < 2 ^ 31
  custom : ∀ k ∈ connectionKeys, Says False k [] c.customLines

lemma Writable.saysKey (h : Writable c) (hk : k ∈ connectionKeys) :
    Says False k (written k c) c.getConnectionBlock :=
  says_writtenLines h.raw h.words (h.custom k hk)

lemma Says.flatMap_all {α : Type} {l : List α} {f : α → Text} {g : α → List (List Text)}
    (h : ∀ a ∈ l, Says fails k (g a) (f a)) : Says fails k (l.flatMap g) (l.flatMap f) := by
  induction l with
  | nil => exact .nil
  | cons a l ih =>
    rw [List.forall_mem_cons] at h
    rw [List.flatMap_cons, List.flatMap_cons]
    exact h.1.append (ih h.2)

/-- The lines of the connections outside of blocks. -/
lemma says_remotes (hk : k ∈ connectionKeys) (hall : ∀ c ∈ np.mConnections, Writable c) :
    Says False k (if np.canUsePlainRemotes = true then np.mConnections.flatMap (written k) else [])
      np.remoteLines.flatten := by
  have hblocks : Says False k (np.mConnections.flatMap (written k))
      (np.mConnections.flatMap Connection.getConnectionBlock) :=
    Says.flatMap_all fun c hc => (hall c hc).saysKey hk
  by_cases hone : ∃ c, np.mConnections = [c]
  · obtain ⟨c, hc⟩ := hone
    have hplain : np.canUsePlainRemotes = true := by
      rw [canUsePlainRemotes, hc]
      rfl
    have hlines : np.remoteLines = [c.getConnectionBlock] := by
      rw [remoteLines, hc]
    rw [if_pos hplain, hlines]
    simpa [hc] using hblocks
  · have hlines : np.remoteLines = piece np.mRemoteRandom "remote-random\n".toList ++
        if np.canUsePlainRemotes = true then
          (np.mConnections.filter Connection.mEnabled).map Connection.getConnectionBlock
        else [] := by
      rw [remoteLines]
      split
      · next c hc => exact absurd ⟨c, hc⟩ hone
      · rfl
    have hrandom : Says False k [] (piece np.mRemoteRandom "remote-random\n".toList).flatten :=
      Says.flatten fun t ht => (mem_piece.1 ht).2 ▸
        says_known (by decide : isAbout ["remote-random".toList] _)
          fun hm => absurd (List.mem_singleton.1 hm ▸ hk) (by decide)
    rw [hlines, List.flatten_append]
    refine hrandom.append_nil ?_
    split_ifs
    · have henabled : np.mConnections.filter Connection.mEnabled = np.mConnections :=
        List.filter_eq_self.2 fun c hc => (hall c hc).enabled
      rw [henabled, ← List.flatMap_def]
      exact hblocks
    · exact .nil

/-- The content of the block of a connection. -/
def blockContent (c : Connection) : Text := c.getConnectionBlock.dropLast

/-- The line of the block of a connection, as it is read. -/
def blockLine (c : Connection) : List Text := ["connection".toList, inlineTag ++ blockContent c]

/-- The lines of the blocks. -/
lemma says_blocks (hb : BlocksFit np) (hall : ∀ c ∈ np.mConnections, Writable c) :
    Says False "connection".toList
      (if np.canUsePlainRemotes = true then [] else np.mConnections.map blockLine)
      np.blockLines.flatten := by
  unfold blockLines
  split_ifs
  · exact .nil
  · have henabled : np.mConnections.filter Connection.mEnabled = np.mConnections :=
      List.filter_eq_self.2 fun c hc => (hall c hc).enabled
    have hblocks : Says False "connection".toList (np.mConnections.flatMap fun c => [blockLine c])
        (np.mConnections.flatMap connectionBlock) := by
      refine Says.flatMap_all fun c hc => ?_
      obtain ⟨t, ht, he, hr⟩ := hb c hc
      have hblock : Says False "connection".toList _ _ := says_block ht he hr
      rw [if_pos rfl] at hblock
      rw [blockLine, blockContent, ht, List.dropLast_concat]
      exact hblock
    rw [← List.map_eq_flatMap] at hblocks
    rw [henabled, List.flatten_cons, ← List.flatMap_def]
    exact says_blocksComment.append_nil hblocks

/-! ### The blocks -/

/-- An empty line does not end an inline file. -/
lemma mode_of_blank {m : Mode} {es : Options} (h : entries m [[]] = .ok (.options, es)) :
    m = .options := by
  cases m with
  | options => rfl
  | inlinefile argname inlinefile =>
    have hne : trim [] ≠ endtag argname := by
      rw [show trim [] = [] from rfl]
      simp [endtag]
    rw [entries, lineEntries, if_neg hne] at h
    cases h

/-- A text is read without the line feed at its end. -/
lemma Says.parseConfig_content {ls : List (List Text)} {t : Text}
    (h : Says False k ls (t ++ ['\n'])) (hr : '\r' ∉ t) (hu : Unmarked t) :
    ∃ p, parseConfig t = .ok p := by
  obtain ⟨es, he, -⟩ | ⟨hf, -⟩ := h.reads
  · rcases readLines_newline_end hr with hl | hl
    · rw [hl] at he
      obtain ⟨p, hp, -⟩ := parseConfig_of_entries hu he
      exact ⟨p, hp⟩
    · rw [hl, entries_append] at he
      obtain ⟨a, ha, he⟩ := bind_eq_ok.1 he
      obtain ⟨b, hb, he⟩ := bind_eq_ok.1 he
      have hmode : a.1 = .options := by
        obtain ⟨hfirst, -⟩ := Prod.mk.inj (Except.ok.inj he)
        exact mode_of_blank (hb.trans (by rw [← hfirst]))
      obtain ⟨p, hp, -⟩ := parseConfig_of_entries hu (ha.trans (by rw [← hmode]))
      exact ⟨p, hp⟩
  · exact hf.elim

/-! ### Reading the connections -/

/-- The timeout that counts outside of blocks. -/
def lastTimeout (cs : List Connection) : ℤ :=
  ((cs.map Connection.mConnectTimeout).filter (· ≠ 0)).getLast?.getD 0

lemma flatMap_timeoutWords (cs : List Connection) : cs.flatMap timeoutWords =
    ((cs.map Connection.mConnectTimeout).filter (· ≠ 0)).map
      fun n => ["connect-timeout".toList, showInt n] := by
  induction cs with
  | nil => rfl
  | cons c cs ih =>
    rw [List.flatMap_cons, List.map_cons, ih, timeoutWords]
    by_cases h0 : c.mConnectTimeout = 0
    · rw [if_pos h0, List.filter_cons_of_neg (by simpa using h0)]
      rfl
    · rw [if_neg h0, List.filter_cons_of_pos (by simpa using h0)]
      rfl

/-- The options have the lines of the connections, and none of other options of connections. -/
structure Lists (o : Options) (cs : List Connection) : Prop where
  port : o.get "port".toList = []
  rport : o.get "rport".toList = []
  proto : o.get "proto".toList = []
  timeout : o.get "connect-timeout".toList = cs.flatMap timeoutWords
  remote : o.get "remote".toList = cs.map remoteWords

lemma remoteConnection_remoteWords (d c : Connection) : remoteConnection d (remoteWords c) =
    .ok { d with
      mUseUdp := c.mUseUdp, mServerPort := c.mServerPort, mServerName := c.mServerName } := by
  have hproto : isUdpProto (if c.mUseUdp = true then "udp".toList else "tcp-client".toList) =
      .ok c.mUseUdp := by
    cases c.mUseUdp <;> decide
  exact bind_eq_ok.2 ⟨_, hproto, rfl⟩

lemma connectTimeoutOption_lines (h : ∀ c ∈ cs, Writable c) (hd : d.mConnectTimeout = 0) :
    connectTimeoutOption d (cs.flatMap timeoutWords).getLast? =
      .ok { d with mConnectTimeout := lastTimeout cs } := by
  rw [flatMap_timeoutWords, List.getLast?_map, lastTimeout]
  cases hl : ((cs.map Connection.mConnectTimeout).filter (· ≠ 0)).getLast? with
  | none =>
    rw [Option.getD_none, ← hd]
    rfl
  | some n =>
    obtain ⟨c, hc, rfl⟩ := List.mem_map.1 (List.mem_filter.1 (List.mem_of_getLast? hl)).1
    have hparse : parseInt (showInt c.mConnectTimeout) = .ok c.mConnectTimeout :=
      parseSigned_showInt (h c hc).timeout.1 (h c hc).timeout.2
    exact bind_eq_ok.2 ⟨_, rfl, bind_eq_ok.2 ⟨_, integerArgument_ok.2 hparse, rfl⟩⟩

lemma arity_timeoutWords (cs : List Connection) : Arity 1 1 (cs.flatMap timeoutWords) := by
  intro l hl
  rw [flatMap_timeoutWords, List.mem_map] at hl
  obtain ⟨n, -, rfl⟩ := hl
  exact ⟨le_rfl, le_rfl⟩

lemma arity_remoteWords (cs : List Connection) : Arity 1 3 (cs.map remoteWords) := by
  intro l hl
  obtain ⟨c, -, rfl⟩ := List.mem_map.1 hl
  have hlen : (remoteWords c).length = 4 := rfl
  omega

/-- **The lines of connections are read** as the connections, with one timeout. -/
theorem parseConnectionOptions_lists (order : KeyOrder Text) (connDefault : Option Connection)
    (h : Lists o cs) (hw : ∀ c ∈ cs, Writable c) (hd : (connDefault.getD {}).mConnectTimeout = 0) :
    ∃ conn conns, parseConnectionOptions order connDefault o =
      .ok ((conn, conns), withoutConnection o) ∧ conn.mConnectTimeout = lastTimeout cs ∧
      conns.map server =
        cs.map fun c => (c.mServerName, c.mServerPort, c.mUseUdp, lastTimeout cs) := by
  let timed : Connection := { connDefault.getD {} with mConnectTimeout := lastTimeout cs }
  let conn := customConfiguration order connDefault (withoutConnection o) timed
  have hconn : conn.mConnectTimeout = lastTimeout cs := by
    cases connDefault <;> rfl
  refine ⟨conn, cs.map fun c => { conn with
    mUseUdp := c.mUseUdp, mServerPort := c.mServerPort, mServerName := c.mServerName }, ?_, hconn, ?_⟩
  · have harity : ∀ {minarg maxarg : ℕ}, Arity minarg maxarg [] := by
      rintro _ _ l ⟨⟩
    refine getOption_bind_ok.2 ⟨h.port ▸ harity, bind_eq_ok.2
      ⟨connDefault.getD {}, by rw [h.port]; rfl, ?_⟩⟩
    refine getOption_bind_ok.2 ⟨?_, bind_eq_ok.2 ⟨connDefault.getD {}, ?_, ?_⟩⟩
    · rw [get_rport, h.rport]
      exact harity
    · rw [get_rport, h.rport]
      rfl
    refine getOption_bind_ok.2 ⟨?_, bind_eq_ok.2 ⟨connDefault.getD {}, ?_, ?_⟩⟩
    · rw [get_proto, h.proto]
      exact harity
    · rw [get_proto, h.proto]
      rfl
    refine getOption_bind_ok.2 ⟨?_, bind_eq_ok.2 ⟨timed, ?_, ?_⟩⟩
    · rw [get_connectTimeout, h.timeout]
      exact arity_timeoutWords cs
    · rw [get_connectTimeout, h.timeout]
      exact connectTimeoutOption_lines hw hd
    refine getAllOption_bind_ok.2 ⟨?_, bind_eq_ok.2 ⟨_, ?_, rfl⟩⟩
    · rw [get_remote, h.remote]
      exact arity_remoteWords cs
    · rw [get_remote, h.remote, mapM_eq_ok, List.forall₂_map_left_iff, List.forall₂_map_right_iff,
        List.forall₂_same]
      exact fun c _ => remoteConnection_remoteWords conn c
  · rw [List.map_map]
    refine List.map_congr_left fun c _ => ?_
    rw [Function.comp_apply, server, hconn]

/-- Connections outside of blocks. -/
theorem connections_of_remotes (h : Lists o cs) (hw : ∀ c ∈ cs, Writable c)
    (hnone : o.get "connection".toList = []) (hs : s.options = o) : ∃ s',
      connections orders s = .ok s' ∧ s'.np.mConnections.map server =
        cs.map fun c => (c.mServerName, c.mServerPort, c.mUseUdp, lastTimeout cs) := by
  obtain ⟨conn, conns, hparse, -, hconns⟩ :=
    parseConnectionOptions_lists (orders 0) none h hw rfl
  have hblocks : (withoutConnection o).get "connection".toList = [] := by
    rw [get_withoutConnection (by decide), hnone]
  subst hs
  refine ⟨_, bind_eq_ok.2 ⟨_, hparse, getAllOption_bind_ok.2
    ⟨?_, bind_eq_ok.2 ⟨conns, ?_, rfl⟩⟩⟩, hconns⟩
  · rw [hblocks]
    rintro l ⟨⟩
  · rw [hblocks]
    exact if_neg fun hb => hb.2 rfl

lemma blockConnection_blockLine (order : KeyOrder Text) {q : ConfigParser}
    (hq : parseConfig (blockContent c) = .ok q)
    (h : Lists q.options [c]) (hw : Writable c) (hd : d.mConnectTimeout = 0) :
    ∃ c', blockConnection order d (blockLine c) = .ok c' ∧ server c' = server c := by
  obtain ⟨conn, conns, hparse, -, hconns⟩ :=
    parseConnectionOptions_lists order (some d) h (by simpa using hw) hd
  obtain ⟨c', rfl⟩ : ∃ c', conns = [c'] := by
    rw [← List.length_eq_one_iff, ← List.length_map (f := server), hconns]
    rfl
  have htext : substring (inlineTag ++ blockContent c) inlineTag.length = .ok (blockContent c) := by
    unfold substring
    rw [if_pos (by rw [List.length_append]; omega), List.drop_left]
  have hread : parseConnection order (inlineTag ++ blockContent c) d = .ok (conn, [c']) :=
    bind_eq_ok.2 ⟨_, htext, bind_eq_ok.2 ⟨_, hq, bind_eq_ok.2 ⟨_, hparse, rfl⟩⟩⟩
  have hlast : lastTimeout [c] = c.mConnectTimeout := by
    unfold lastTimeout
    by_cases h0 : c.mConnectTimeout = 0
    · simp [h0]
    · simp [h0]
  refine ⟨c', bind_eq_ok.2 ⟨_, rfl, bind_eq_ok.2 ⟨_, hread, rfl⟩⟩, ?_⟩
  rw [List.map_singleton, List.map_singleton, hlast] at hconns
  exact List.singleton_inj.1 hconns

/-- Connections in blocks. -/
theorem connections_of_blocks (h : Lists o []) (hw : ∀ c ∈ cs, Writable c) (hne : cs ≠ [])
    (hlines : o.get "connection".toList = cs.map blockLine)
    (hblocks : ∀ c ∈ cs, ∃ q, parseConfig (blockContent c) = .ok q ∧ Lists q.options [c])
    (hs : s.options = o) : ∃ s', connections orders s = .ok s' ∧
      s'.np.mConnections.map server = cs.map server := by
  obtain ⟨conn, conns, hparse, htime, hconns⟩ :=
    parseConnectionOptions_lists (orders 0) none h (by simp) rfl
  have hnil : conns = [] := List.map_eq_nil_iff.1 hconns
  have hget : (withoutConnection o).get "connection".toList = cs.map blockLine := by
    rw [get_withoutConnection (by decide), hlines]
  have hall : ∀ (i : ℕ) (ds : List Connection), (∀ c ∈ ds, c ∈ cs) → ∃ ds',
      blockConnections orders conn i (ds.map blockLine) = .ok ds' ∧
        ds'.map server = ds.map server := by
    intro i ds hds
    induction ds generalizing i with
    | nil => exact ⟨[], rfl, rfl⟩
    | cons c ds ih =>
      rw [List.forall_mem_cons] at hds
      obtain ⟨q, hq, hlists⟩ := hblocks c hds.1
      obtain ⟨c', hc, hserver⟩ := blockConnection_blockLine (orders i) hq hlists (hw c hds.1) htime
      obtain ⟨ds', hrest, hservers⟩ := ih (i + 1) hds.2
      refine ⟨c' :: ds', bind_eq_ok.2 ⟨_, hc, bind_eq_ok.2 ⟨_, hrest, rfl⟩⟩, ?_⟩
      rw [List.map_cons, List.map_cons, hserver, hservers]
  obtain ⟨cs', hcs, hservers⟩ := hall 1 cs fun c hc => hc
  subst hs
  refine ⟨_, bind_eq_ok.2 ⟨_, hparse, getAllOption_bind_ok.2
    ⟨?_, bind_eq_ok.2 ⟨cs', ?_, rfl⟩⟩⟩, hservers⟩
  · rw [hget]
    intro l hl
    obtain ⟨c, -, rfl⟩ := List.mem_map.1 hl
    exact ⟨le_rfl, le_rfl⟩
  · rw [hget, allConnections, hnil, if_neg fun hb => hb.1 rfl,
      if_neg fun hm => hne (List.map_eq_nil_iff.1 hm)]
    exact hcs

/-! ### Imports -/

lemma parseInt_range {arg : Text} {i : ℤ} (h : parseInt arg = .ok i) :
    -2 ^ 31 ≤ i ∧ i < 2 ^ 31 := by
  unfold parseInt parseSigned at h
  split at h
  · split_ifs at h with hrange
    obtain rfl := Except.ok.inj h
    exact hrange
  · cases h

/-- The connection is switched on, and its timeout is a number of the platform. -/
def Usual (c : Connection) : Prop :=
  c.mEnabled = true ∧ -2 ^ 31 ≤ c.mConnectTimeout ∧ c.mConnectTimeout < 2 ^ 31

lemma Defaults.usual {o : Lines} (h : Defaults o d c) (hd : Usual d) : Usual c := by
  refine ⟨h.mEnabled.trans hd.1, ?_⟩
  cases ht : lastArgument o "connect-timeout".toList with
  | none =>
    rw [h.mConnectTimeout.1 ht]
    exact hd.2
  | some time => exact parseInt_range (h.mConnectTimeout.2 time ht)

lemma remoteConnection_usual {l : List Text} (h : remoteConnection d l = .ok c) (hd : Usual d) :
    Usual c := by
  unfold remoteConnection at h
  split at h
  · obtain ⟨b, -, h⟩ := bind_eq_ok.1 h
    obtain rfl := Except.ok.inj h
    exact hd
  · obtain rfl := Except.ok.inj h
    exact hd
  · obtain rfl := Except.ok.inj h
    exact hd
  · obtain rfl := Except.ok.inj h
    exact hd

lemma exists_of_forall₂ {α β : Type} {r : α → β → Prop} {as : List α} {bs : List β}
    (h : List.Forall₂ r as bs) {b : β} (hb : b ∈ bs) : ∃ a ∈ as, r a b := by
  induction h with
  | nil => cases hb
  | @cons a d as bs hr _ ih =>
    rcases List.mem_cons.1 hb with rfl | hb
    · exact ⟨a, List.mem_cons_self, hr⟩
    · obtain ⟨a', ha, hr'⟩ := ih hb
      exact ⟨a', List.mem_cons_of_mem _ ha, hr'⟩

lemma ConnectionList.usual {o : Lines} (h : ConnectionList o d cs) (hc : c ∈ cs) : Usual c := by
  have hd : Usual d := h.defaults.usual ⟨rfl, by decide, by decide⟩
  by_cases hnone : o "connection".toList = []
  · obtain ⟨l, -, hl⟩ := exists_of_forall₂ (h.remotes hnone).2 hc
    exact remoteConnection_usual hl hd
  · obtain ⟨block, -, hb⟩ := exists_of_forall₂ (h.blocks hnone).2 hc
    obtain ⟨p, conn, l, -, hdefaults, -, -, hl⟩ := hb
    exact remoteConnection_usual hl (hdefaults.usual hd)

/-- A configuration that is read back as it is written, without servers that are switched off. -/
structure ServersFit (pf : Platform) (o : Lines) : Prop where
  options : OptionsFit False o
  names : o "remote".toList = [] → o "connection".toList = [] →
    ∀ name ∈ ["tls-remote".toList, "verify-x509-name".toList],
      ∀ l ∈ (o name).getLast?, IsRealName (argument l 1)
  force : o "proto-force".toList = []
  blocks : (o "connection".toList).length = 1 → OutsideBlocks "connection".toList o
  platform : ∀ k, PlatformFits False k pf
  ready : Platform.Ready pf

lemma writable_of_convert (h : Converted False n (orders 0) p.options s.np)
    (ho : ConnectionsFit False p.options.get) (hforce : p.options.get "proto-force".toList = [])
    (hs : convertProfile orders p = .ok s) (hw : ∀ c ∈ s.np.mConnections, HasWords c) :
    ∀ c ∈ s.np.mConnections, Writable c := by
  obtain ⟨d, cs, f, hlist, hcs, -, hid⟩ := connectionList_of_convert hs
  intro c hc
  have husual : Usual c := by
    rw [hcs, hid hforce, List.map_id] at hc
    exact hlist.usual hc
  refine ⟨husual.1, hw c hc, h.profile.mConnections c hc, husual.2, fun k hk => ?_⟩
  obtain ⟨c', horigin, hswitched⟩ := h.origins c hc
  rw [hswitched.customLines]
  exact horigin.says_key ho hk

lemma eq_lastTimeout_iff : (∀ c ∈ cs, c.mConnectTimeout = lastTimeout cs) ↔
    ∀ c ∈ cs, ∀ d ∈ cs, c.mConnectTimeout = d.mConnectTimeout := by
  refine ⟨fun h c hc d hd => (h c hc).trans (h d hd).symm, fun h c hc => ?_⟩
  rw [lastTimeout]
  cases hl : ((cs.map Connection.mConnectTimeout).filter (· ≠ 0)).getLast? with
  | none =>
    have hnone := List.filter_eq_nil_iff.1 (List.getLast?_eq_none_iff.1 hl) c.mConnectTimeout
      (List.mem_map_of_mem hc)
    simpa using hnone
  | some n =>
    obtain ⟨d, hd, rfl⟩ := List.mem_map.1 (List.mem_filter.1 (List.mem_of_getLast? hl)).1
    exact h c hc d hd

lemma server_eq_iff : (cs.map fun c => (c.mServerName, c.mServerPort, c.mUseUdp, lastTimeout cs)) =
    cs.map server ↔ ∀ c ∈ cs, c.mConnectTimeout = lastTimeout cs := by
  rw [List.map_inj_left]
  refine forall₂_congr fun c _ => ?_
  simp [server, eq_comm]

/-- The options of a file, as to the connections. -/
lemma Converted.servers {t : Text} (h : Converted False n order o np)
    (ho : ConnectionsFit False o.get) (hpf : ∀ k, PlatformFits False k pf)
    (houtside : (o.get "connection".toList).length = 1 → OutsideBlocks "connection".toList o.get)
    (hall : ∀ c ∈ np.mConnections, Writable c) (ht : np.getConfigFile pf = .ok t) :
    (∀ k ∈ connectionKeys, Says False k
      (if np.canUsePlainRemotes = true then np.mConnections.flatMap (written k) else []) t) ∧
    Says False "connection".toList
      (if np.canUsePlainRemotes = true then [] else np.mConnections.map blockLine) t ∧
    Unmarked t := by
  have hnames : ∀ k ∈ connectionKeys, k ∈ serverKeys ∧ k ≠ "connection".toList := by decide
  have hkeys : ∀ k ∈ connectionKeys, Says False k
      (if np.canUsePlainRemotes = true then np.mConnections.flatMap (written k) else []) t := by
    intro k hk
    obtain ⟨hread, -⟩ := h.says_servers (hpf k) (hnames k hk).1 (says_remotes hk hall)
      (Says.flatten (says_blockLines (hnames k hk).2 (h.blocksFit ho))) ht
    rwa [List.append_nil] at hread
  obtain ⟨hread, hunmarked⟩ := h.says_servers (hpf _) (by decide)
    (says_remoteLines (by decide) h.profile (h.says_sole ho houtside))
    (says_blocks (h.blocksFit ho) hall) ht
  exact ⟨hkeys, hread, hunmarked⟩

lemma written_nil {ds : List Connection} (hk : k ∉ remoteNames) : ds.flatMap (written k) = [] :=
  List.flatMap_eq_nil_iff.2 fun _ _ => written_other hk

/-- Options that have what is written for connections have their lines. -/
lemma lists_of_written {ds : List Connection} {o : Options}
    (h : ∀ k ∈ connectionKeys, o.get k = ds.flatMap (written k)) : Lists o ds where
  port := (h _ (by decide)).trans (written_nil (by decide))
  rport := (h _ (by decide)).trans (written_nil (by decide))
  proto := (h _ (by decide)).trans (written_nil (by decide))
  timeout := (h _ (by decide)).trans (List.flatMap_congr fun _ _ => written_timeout)
  remote := by
    rw [h _ (by decide), List.map_eq_flatMap]
    exact List.flatMap_congr fun _ _ => written_remote

/-- The block of a connection is read as the connection. -/
lemma Writable.block {t : Text} (h : Writable c) (ht : c.getConnectionBlock = t ++ ['\n'])
    (hr : '\r' ∉ t) : ∃ q, parseConfig (blockContent c) = .ok q ∧ Lists q.options [c] := by
  have hcontent : blockContent c = t := by
    rw [blockContent, ht, List.dropLast_concat]
  have hunmarked := unmarked_getConnectionBlock ht
  have hread : ∀ k ∈ connectionKeys, Says False k (written k c) (t ++ ['\n']) := fun k hk => by
    rw [← ht]
    exact h.saysKey hk
  rw [hcontent]
  obtain ⟨q, hq⟩ := Says.parseConfig_content (hread "remote".toList (by decide)) hr hunmarked
  refine ⟨q, hq, lists_of_written fun k hk => ?_⟩
  rw [Says.of_parseConfig_content (hread k hk) hr hunmarked hq]
  simp

/-- The configuration of two servers with one timeout. -/
def twoRemotes : Text :=
  "remote vpn.example.com 1194\nremote 192.0.2.1 443 tcp-client\nconnect-timeout 30\n".toList

def twoRemotesParser : ConfigParser where
  options := [entry "remote".toList ["vpn.example.com".toList, "1194".toList],
    entry "remote".toList ["192.0.2.1".toList, "443".toList, "tcp-client".toList],
    entry "connect-timeout".toList ["30".toList]]
  metaOptions := []

end BuludTechVPN.FileReading
