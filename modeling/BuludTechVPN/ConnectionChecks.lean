import BuludTechVPN.ImportChecks

/-!
The checks of the connections of a configuration, inside and outside of blocks, and of the
stages behind them.
-/

namespace BuludTechVPN.ImportChecks

open JavaLang ParseConfig ConvertProfile Stages

/-! ### Connections -/

def IsProto (proto : Text) : Prop := ∃ b, isUdpProto proto = .ok b

lemma isUdpProto_outcome (proto : Text) :
    Outcome Escapes (IsProto proto) False (isUdpProto proto) := by
  unfold IsProto isUdpProto
  split_ifs
  · exact .ok _ ⟨_, rfl⟩ id
  · exact .ok _ ⟨_, rfl⟩ id
  · exact .error _ (by simp) (by simp [Escapes])

/-- The options of a connection. -/
def connectionKeys : List Text :=
  ["port".toList, "rport".toList, "proto".toList, "connect-timeout".toList, "remote".toList]

def ConnectionAccepts (o : Lines) : Prop :=
  Arity 1 1 (o "port".toList) ∧ Arity 1 1 (o "rport".toList) ∧
    Arity 1 1 (o "proto".toList) ∧
    (∀ l ∈ (o "proto".toList).getLast?, IsProto (argument l 1)) ∧
    Arity 1 1 (o "connect-timeout".toList) ∧
    (∀ l ∈ (o "connect-timeout".toList).getLast?, IsInteger (argument l 1)) ∧
    Arity 1 3 (o "remote".toList) ∧ ∀ l ∈ o "remote".toList, ∀ p ∈ l[3]?, IsProto p

/-- The options that are left behind those of a connection. -/
def withoutConnection (o : Options) : Options := connectionKeys.foldl Multimap.remove o

lemma get_withoutConnection {o : Options} {k : Text} (h : k ∉ connectionKeys) :
    (withoutConnection o).get k = o.get k := by
  rw [withoutConnection, Multimap.get_foldl_remove, if_neg h]

lemma get_rport {o : Options} :
    (o.remove "port".toList).get "rport".toList = o.get "rport".toList :=
  Multimap.get_remove_of_ne (by decide)

lemma get_proto {o : Options} : ((o.remove "port".toList).remove "rport".toList).get
    "proto".toList = o.get "proto".toList := by
  rw [Multimap.get_remove_of_ne (by decide), Multimap.get_remove_of_ne (by decide)]

lemma get_connectTimeout {o : Options} :
    (((o.remove "port".toList).remove "rport".toList).remove "proto".toList).get
      "connect-timeout".toList = o.get "connect-timeout".toList := by
  rw [Multimap.get_remove_of_ne (by decide), Multimap.get_remove_of_ne (by decide),
    Multimap.get_remove_of_ne (by decide)]

lemma get_remote {o : Options} :
    ((((o.remove "port".toList).remove "rport".toList).remove "proto".toList).remove
      "connect-timeout".toList).get "remote".toList = o.get "remote".toList := by
  rw [Multimap.get_remove_of_ne (by decide), Multimap.get_remove_of_ne (by decide),
    Multimap.get_remove_of_ne (by decide), Multimap.get_remove_of_ne (by decide)]

lemma portOption_ok {conn : Connection} {lines : List (List Text)} (h : Arity 1 1 lines) :
    ∃ c, portOption conn lines.getLast? = .ok c := by
  rcases hl : lines.getLast? with _ | l
  · exact ⟨conn, rfl⟩
  · exact ⟨_, by rw [portOption, arrayGet_argument (arity_getLast? h hl).1]; rfl⟩

lemma protoOption_outcome {conn : Connection} {lines : List (List Text)} (h : Arity 1 1 lines) :
    Outcome Escapes (∀ l ∈ lines.getLast?, IsProto (argument l 1)) False
      (protoOption conn lines.getLast?) := by
  rcases hl : lines.getLast? with _ | l
  · exact (Outcome.returns _).iff (by simp) Iff.rfl
  · refine .bind_ok (arrayGet_argument (arity_getLast? h hl).1) ?_
    exact ((isUdpProto_outcome _).bind fun b _ => .returns _).iff (by simp) (by simp)

lemma connectTimeoutOption_outcome {conn : Connection} {lines : List (List Text)}
    (h : Arity 1 1 lines) :
    Outcome Escapes (∀ l ∈ lines.getLast?, IsInteger (argument l 1)) False
      (connectTimeoutOption conn lines.getLast?) := by
  rcases hl : lines.getLast? with _ | l
  · exact (Outcome.returns _).iff (by simp) Iff.rfl
  · refine .bind_ok (arrayGet_argument (arity_getLast? h hl).1) ?_
    exact ((integerArgument_outcome _ _).bind fun b _ => .returns _).iff (by simp) (by simp)

lemma remoteConnection_outcome (conn : Connection) {l : List Text} (h : l.length ≤ 4) :
    Outcome Escapes (∀ p ∈ l[3]?, IsProto p) False (remoteConnection conn l) := by
  match l, h with
  | [], _ => exact (Outcome.returns _).iff (by simp) Iff.rfl
  | [_], _ => exact (Outcome.returns _).iff (by simp) Iff.rfl
  | [_, _], _ => exact (Outcome.returns _).iff (by simp) Iff.rfl
  | [_, _, _], _ => exact (Outcome.returns _).iff (by simp) Iff.rfl
  | [_, _, _, p], _ =>
    exact ((isUdpProto_outcome p).bind fun b _ => .returns _).iff (by simp) (by simp)

/-- **Which connection options are accepted**; none of them fails. -/
theorem parseConnectionOptions_outcome (order : KeyOrder Text) (connDefault : Option Connection)
    (o : Options) :
    Outcome Escapes (ConnectionAccepts o.get) False
      (parseConnectionOptions order connDefault o) := by
  unfold ConnectionAccepts
  rw [← get_rport, ← get_proto (o := o), ← get_connectTimeout (o := o), ← get_remote (o := o)]
  refine outcome_getOption_safe fun hport => ?_
  obtain ⟨c1, h1⟩ := portOption_ok hport
  refine .bind_ok h1 (outcome_getOption_safe fun hrport => ?_)
  obtain ⟨c2, h2⟩ := portOption_ok hrport
  refine .bind_ok h2 (outcome_getOption_safe fun hproto => ?_)
  refine (protoOption_outcome hproto).bind_safe fun c3 _ => outcome_getOption_safe fun ht => ?_
  refine (connectTimeoutOption_outcome ht).bind_safe fun c4 _ =>
    outcome_getAllOption_safe fun hr => ?_
  exact (Outcome.mapM fun l hl => remoteConnection_outcome _ (hr l hl).2).bind_pure.iff Iff.rfl
    (iff_of_false not_firstFails_false id)

/-- What is left of the options, and how many connections there are. -/
lemma parseConnectionOptions_ok {order : KeyOrder Text} {connDefault : Option Connection}
    {o : Options} {r : (Connection × List Connection) × Options}
    (h : parseConnectionOptions order connDefault o = .ok r) :
    r.2 = withoutConnection o ∧ r.1.2.length = (o.get "remote".toList).length := by
  obtain ⟨-, h⟩ := getOption_bind_ok.1 h
  obtain ⟨c1, -, h⟩ := bind_eq_ok.1 h
  obtain ⟨-, h⟩ := getOption_bind_ok.1 h
  obtain ⟨c2, -, h⟩ := bind_eq_ok.1 h
  obtain ⟨-, h⟩ := getOption_bind_ok.1 h
  obtain ⟨c3, -, h⟩ := bind_eq_ok.1 h
  obtain ⟨-, h⟩ := getOption_bind_ok.1 h
  obtain ⟨c4, -, h⟩ := bind_eq_ok.1 h
  obtain ⟨-, h⟩ := getAllOption_bind_ok.1 h
  obtain ⟨conns, hconns, h⟩ := bind_eq_ok.1 h
  cases h
  exact ⟨rfl, by rw [(mapM_eq_ok.1 hconns).length_eq.symm, get_remote]⟩

lemma parseConfig_outcome (text : Text) :
    Outcome Escapes (∃ p, parseConfig text = .ok p) False (parseConfig text) := by
  rcases h : parseConfig text with e | p
  · obtain ⟨m, rfl⟩ := parseConfig_error h
    exact .error _ (by simp) (by simp [Escapes])
  · exact .ok p ⟨p, rfl⟩ id

/-- The text of a block, behind the tag. -/
def blockText (conn : List Text) : Text := (argument conn 1).drop inlineTag.length

/-- The block is a configuration with exactly one remote. -/
def BlockAccepts (conn : List Text) : Prop :=
  inlineTag.length ≤ (argument conn 1).length ∧ ∃ p, parseConfig (blockText conn) = .ok p ∧
    ConnectionAccepts p.options.get ∧ (p.options.get "remote".toList).length = 1

/-- The argument of `connection` is shorter than the tag of an inline file. -/
def BlockShort (conn : List Text) : Prop := (argument conn 1).length < inlineTag.length

lemma parseConnection_outcome (order : KeyOrder Text) (defaultValues : Connection)
    {conn : List Text} (h : inlineTag.length ≤ (argument conn 1).length) {p : ConfigParser}
    (hp : parseConfig (blockText conn) = .ok p) :
    Outcome Escapes (ConnectionAccepts p.options.get) False
      (parseConnection order (argument conn 1) defaultValues) := by
  refine .bind_ok (show substring _ _ = .ok (blockText conn) from if_pos h) (.bind_ok hp ?_)
  exact (parseConnectionOptions_outcome order _ _).bind_pure

lemma length_parseConnection {order : KeyOrder Text} {defaultValues : Connection}
    {conn : List Text} {p : ConfigParser} (hp : parseConfig (blockText conn) = .ok p)
    {r : Connection × List Connection}
    (h : parseConnection order (argument conn 1) defaultValues = .ok r) :
    r.2.length = (p.options.get "remote".toList).length := by
  obtain ⟨t, ht, h⟩ := bind_eq_ok.1 h
  unfold substring at ht
  split_ifs at ht
  cases ht
  obtain ⟨q, hq, h⟩ := bind_eq_ok.1 h
  obtain rfl : p = q := Except.ok.inj (hp.symm.trans hq)
  obtain ⟨c, hc, h⟩ := bind_eq_ok.1 h
  cases h
  exact (parseConnectionOptions_ok hc).2

lemma blockConnection_outcome (order : KeyOrder Text) (defaultValues : Connection)
    {conn : List Text} (h : 2 ≤ conn.length) :
    Outcome Escapes (BlockAccepts conn) (BlockShort conn)
      (blockConnection order defaultValues conn) := by
  refine .bind_ok (arrayGet_argument h) ?_
  unfold BlockAccepts BlockShort
  by_cases hlen : inlineTag.length ≤ (argument conn 1).length
  · rcases hp : parseConfig (blockText conn) with e | p
    · obtain ⟨m, rfl⟩ := parseConfig_error hp
      have : parseConnection order (argument conn 1) defaultValues = .error (.configParse m) := by
        rw [parseConnection, substring, if_pos hlen]
        exact bind_eq_error.2 (.inr ⟨_, rfl, bind_eq_error.2 (.inl hp)⟩)
      rw [this]
      exact .error _ (by simp) (by simp [hlen, Escapes])
    · refine ((parseConnection_outcome order defaultValues hlen hp).bind_safe fun r hr =>
        (?_ : Outcome Escapes ((p.options.get "remote".toList).length = 1) False _)).iff
        (by simp [hlen]) (by simp [hlen])
      rw [← length_parseConnection hp hr]
      split
      · next hc => exact .ok _ (by simp [hc]) id
      · next hc =>
        refine .error _ (fun h => ?_) (by simp [Escapes])
        obtain ⟨c, hc'⟩ := List.length_eq_one_iff.1 h
        exact hc c hc'
  · rw [parseConnection, substring, if_neg hlen]
    exact .error _ (by simp [hlen]) (by simp [Escapes, not_le.1 hlen])

lemma blockConnections_outcome (orders : ℕ → KeyOrder Text) (defaultValues : Connection)
    (i : ℕ) {blocks : List (List Text)} (h : Arity 1 1 blocks) :
    Outcome Escapes (∀ b ∈ blocks, BlockAccepts b) (FirstFails BlockAccepts BlockShort blocks)
      (blockConnections orders defaultValues i blocks) := by
  induction blocks generalizing i with
  | nil => exact .ok _ (by simp) not_firstFails_nil
  | cons b blocks ih =>
    rw [List.forall_mem_cons, firstFails_cons, blockConnections]
    exact (blockConnection_outcome _ _ (h b List.mem_cons_self).1).bind fun c _ =>
      (ih (i + 1) fun l hl => h l (List.mem_cons_of_mem _ hl)).bind_pure

/-- The blocks, when there is no remote outside of them. -/
def connectionsCheck : Check Text (List (List Text)) where
  keys := connectionKeys ++ ["connection".toList]
  accepts o := ConnectionAccepts o ∧ Arity 1 1 (o "connection".toList) ∧
    ¬ (o "remote".toList ≠ [] ∧ o "connection".toList ≠ []) ∧
    ∀ b ∈ o "connection".toList, BlockAccepts b
  fails o := ConnectionAccepts o ∧ Arity 1 1 (o "connection".toList) ∧
    ¬ (o "remote".toList ≠ [] ∧ o "connection".toList ≠ []) ∧
    FirstFails BlockAccepts BlockShort (o "connection".toList)
  accepts_congr o o' h := by
    unfold ConnectionAccepts
    rw [h "port".toList (by decide), h "rport".toList (by decide), h "proto".toList (by decide),
      h "connect-timeout".toList (by decide), h "remote".toList (by decide),
      h "connection".toList (by decide)]
  fails_congr o o' h := by
    unfold ConnectionAccepts
    rw [h "port".toList (by decide), h "rport".toList (by decide), h "proto".toList (by decide),
      h "connect-timeout".toList (by decide), h "remote".toList (by decide),
      h "connection".toList (by decide)]

lemma allConnections_outcome (orders : ℕ → KeyOrder Text) (conns : Connection × List Connection)
    {blocks : List (List Text)} (h : Arity 1 1 blocks) :
    Outcome Escapes (¬ (conns.2 ≠ [] ∧ blocks ≠ []) ∧ ∀ b ∈ blocks, BlockAccepts b)
      (¬ (conns.2 ≠ [] ∧ blocks ≠ []) ∧ FirstFails BlockAccepts BlockShort blocks)
      (allConnections orders conns blocks) := by
  unfold allConnections
  split_ifs with hboth hnone
  · exact .error _ (fun h => h.1 hboth) (by simp [hboth, Escapes])
  · subst hnone
    exact .ok _ (by simp) (by simp [not_firstFails_nil])
  · exact (blockConnections_outcome orders conns.1 1 h).iff (by simp [hboth]) (by simp [hboth])

lemma meets_connections (orders : ℕ → KeyOrder Text) :
    Meets view Escapes (connections orders) connectionsCheck where
  outcome s := by
    refine (parseConnectionOptions_outcome (orders 0) none s.options).bind_after fun r hr => ?_
    obtain ⟨hrest, hlen⟩ := parseConnectionOptions_ok hr
    have hget : r.2.get "connection".toList = s.options.get "connection".toList := by
      rw [hrest, get_withoutConnection (by decide)]
    have hconns : r.1.2 ≠ [] ↔ s.options.get "remote".toList ≠ [] := by
      rw [← List.length_pos_iff, ← List.length_pos_iff, hlen]
    rw [view, ← hget, ← hconns]
    exact outcome_getAllOption fun ha => (allConnections_outcome orders r.1 ha).bind_pure
  frame s s' h k hk := by
    rw [connectionsCheck, List.mem_append, not_or, List.mem_singleton] at hk
    obtain ⟨r, hr, h⟩ := bind_eq_ok.1 h
    obtain ⟨-, h⟩ := getAllOption_bind_ok.1 h
    obtain ⟨conns, -, h⟩ := bind_eq_ok.1 h
    cases h
    rw [view, view, Multimap.get_remove_of_ne hk.2, (parseConnectionOptions_ok hr).1,
      get_withoutConnection hk.1]

def IsForcedProto (proto : Text) : Prop := proto = "udp".toList ∨ proto = "tcp".toList

def protoForceCheck : Check Text (List (List Text)) :=
  lastLine "proto-force".toList 1 1 (fun l => IsForcedProto (argument l 1)) fun _ => False

lemma meets_protoForce : Meets view Escapes protoForce protoForceCheck := by
  refine meets_onOption (fun s l h _ => ?_) fun s l s' _ h => ?_
  · refine .bind_ok (arrayGet_argument (show 1 < l.length by omega)) (.bind_pure ?_)
    unfold protoToDisable
    split_ifs with hu ht
    · exact .ok _ (.inl hu) id
    · exact .ok _ (.inr ht) id
    · exact .error _ (not_or.2 ⟨hu, ht⟩) (by simp [Escapes])
  · obtain ⟨arg, -, h⟩ := bind_eq_ok.1 h
    obtain ⟨b, -, h⟩ := bind_eq_ok.1 h
    cases h
    rfl

lemma meets_accessServerExtra (metaOptions : Multimap Text (List Text)) :
    Meets view Escapes (accessServerExtra metaOptions) (noCheck []) where
  outcome _ := .returns _
  frame s s' h k _ := by
    cases h
    rfl

lemma meets_fixup : Meets view Escapes fixup (noCheck []) where
  outcome s := by
    unfold fixup
    split_ifs <;> exact .returns _
  frame s s' h k _ := by
    unfold fixup at h
    split_ifs at h <;> cases h <;> rfl

/-- An unsupported option is refused. -/
def unsupportedCheck : Check Text (List (List Text)) where
  keys := unsupportedOptions ++ ignoreOptions
  accepts o := ∀ option ∈ unsupportedOptions, o option = []
  fails _ := False
  accepts_congr o o' h :=
    forall₂_congr fun k hk => by rw [h k (List.mem_append_left _ hk)]
  fails_congr _ _ _ := Iff.rfl

lemma meets_checkIgnoreAndInvalidOptions (order : KeyOrder Text) :
    Meets view Escapes (checkIgnoreAndInvalidOptions order) unsupportedCheck where
  outcome s := by
    unfold checkIgnoreAndInvalidOptions
    split
    · next option h =>
      refine .error _ (fun ha => ?_) (by simp [unsupportedCheck, Escapes])
      have := List.find?_some h
      simp only [ne_eq, decide_eq_true_eq] at this
      exact this (ha option (List.mem_of_find?_eq_some h))
    · next h =>
      refine .ok _ (fun option ho => ?_) id
      exact not_not.1 fun hne => List.find?_eq_none.1 h option ho (decide_eq_true hne)
  frame s s' h k hk := by
    rw [unsupportedCheck, List.mem_append, not_or] at hk
    unfold checkIgnoreAndInvalidOptions at h
    split at h
    · cases h
    · rw [← Except.ok.inj h, view, view]
      dsimp only
      rw [Multimap.get_foldl_remove, if_neg hk.2]

end BuludTechVPN.ImportChecks
