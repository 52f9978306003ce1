import BuludTechVPN.ConvertProfile

/-!
Which configurations an import accepts, and on which it fails with an exception that
`doImport` does not catch.

Every stage of the conversion has a check of its own options. The stages take different
options out of the map, so the first map already says which stage is the first to refuse.
-/

namespace BuludTechVPN.ImportChecks

open JavaLang ParseConfig ConvertProfile Stages

/-- What `doImport` does not catch. -/
def Escapes : Abrupt → Prop
  | .io | .configParse _ => False
  | _ => True

/-- The lines of each option. -/
abbrev Lines := Text → List (List Text)

def view (s : Import) : Lines := s.options.get

/-- Every line has a number of arguments in the bounds. -/
def Arity (minarg maxarg : ℕ) (lines : List (List Text)) : Prop :=
  ∀ l ∈ lines, minarg + 1 ≤ l.length ∧ l.length ≤ maxarg + 1

instance (minarg maxarg : ℕ) (lines : List (List Text)) : Decidable (Arity minarg maxarg lines) :=
  inferInstanceAs (Decidable (∀ l ∈ lines, _ ∧ _))

lemma getAllOption_of_arity {option : Text} {minarg maxarg : ℕ} {o : Options}
    (h : Arity minarg maxarg (o.get option)) :
    getAllOption option minarg maxarg o = .ok (o.get option, o.remove option) := by
  have : (o.get option).find? (fun l => l.length < minarg + 1 || maxarg + 1 < l.length) = none := by
    simp only [List.find?_eq_none, Bool.or_eq_true, decide_eq_true_eq]
    intro l hl
    have := h l hl
    omega
  rw [getAllOption, this]

lemma getAllOption_of_not_arity {option : Text} {minarg maxarg : ℕ} {o : Options}
    (h : ¬ Arity minarg maxarg (o.get option)) :
    ∃ m, getAllOption option minarg maxarg o = .error (.configParse m) := by
  unfold getAllOption
  split
  · exact ⟨_, rfl⟩
  · rename_i hn
    simp only [List.find?_eq_none, Bool.or_eq_true, decide_eq_true_eq] at hn
    exact absurd (fun l hl => by have := hn l hl; omega) h

lemma getOption_of_arity {option : Text} {minarg maxarg : ℕ} {o : Options}
    (h : Arity minarg maxarg (o.get option)) :
    getOption option minarg maxarg o = .ok ((o.get option).getLast?, o.remove option) := by
  rw [getOption, getAllOption_of_arity h]
  rfl

lemma getOption_of_not_arity {option : Text} {minarg maxarg : ℕ} {o : Options}
    (h : ¬ Arity minarg maxarg (o.get option)) :
    ∃ m, getOption option minarg maxarg o = .error (.configParse m) := by
  obtain ⟨m, hm⟩ := getAllOption_of_not_arity h
  exact ⟨m, by rw [getOption, hm]; rfl⟩

/-! ### Checks of one option -/

/-- The check of an option whose last line counts. -/
def lastLine (option : Text) (minarg maxarg : ℕ) (accepts fails : List Text → Prop) :
    Check Text (List (List Text)) where
  keys := [option]
  accepts o := Arity minarg maxarg (o option) ∧ ∀ l ∈ (o option).getLast?, accepts l
  fails o := Arity minarg maxarg (o option) ∧ ∃ l ∈ (o option).getLast?, fails l
  accepts_congr o o' h := by rw [h option List.mem_cons_self]
  fails_congr o o' h := by rw [h option List.mem_cons_self]

/-- The check of an option whose lines all count. -/
def allLines (option : Text) (minarg maxarg : ℕ) (accepts fails : List (List Text) → Prop) :
    Check Text (List (List Text)) where
  keys := [option]
  accepts o := Arity minarg maxarg (o option) ∧ accepts (o option)
  fails o := Arity minarg maxarg (o option) ∧ fails (o option)
  accepts_congr o o' h := by rw [h option List.mem_cons_self]
  fails_congr o o' h := by rw [h option List.mem_cons_self]

/-- The check of an option whose arguments are taken as they are. -/
def anyArguments (option : Text) (minarg maxarg : ℕ) : Check Text (List (List Text)) where
  keys := [option]
  accepts o := Arity minarg maxarg (o option)
  fails _ := False
  accepts_congr o o' h := by rw [h option List.mem_cons_self]
  fails_congr _ _ _ := Iff.rfl

/-- No check: the stage takes its options as they are. -/
def noCheck (keys : List Text) : Check Text (List (List Text)) where
  keys := keys
  accepts _ := True
  fails _ := False
  accepts_congr _ _ _ := Iff.rfl
  fails_congr _ _ _ := Iff.rfl

lemma not_escapes_configParse (m : Text) : ¬ Escapes (.configParse m) := id

section Get

variable {option : Text} {minarg maxarg : ℕ} {o : Options} {β : Type} {accepts fails : Prop}

/-- An option is taken out of the map, and then something is done with its last line. -/
lemma outcome_getOption {f : Option (List Text) × Options → Call β}
    (h : Arity minarg maxarg (o.get option) →
      Outcome Escapes accepts fails (f ((o.get option).getLast?, o.remove option))) :
    Outcome Escapes (Arity minarg maxarg (o.get option) ∧ accepts)
      (Arity minarg maxarg (o.get option) ∧ fails)
      (getOption option minarg maxarg o >>= f) := by
  by_cases ha : Arity minarg maxarg (o.get option)
  · exact .bind_ok (getOption_of_arity ha) ((h ha).iff (by simp [ha]) (by simp [ha]))
  · obtain ⟨m, hm⟩ := getOption_of_not_arity ha
    rw [hm]
    exact .error _ (by simp [ha]) (by simp [ha, Escapes])

lemma outcome_getAllOption {f : List (List Text) × Options → Call β}
    (h : Arity minarg maxarg (o.get option) →
      Outcome Escapes accepts fails (f (o.get option, o.remove option))) :
    Outcome Escapes (Arity minarg maxarg (o.get option) ∧ accepts)
      (Arity minarg maxarg (o.get option) ∧ fails)
      (getAllOption option minarg maxarg o >>= f) := by
  by_cases ha : Arity minarg maxarg (o.get option)
  · exact .bind_ok (getAllOption_of_arity ha) ((h ha).iff (by simp [ha]) (by simp [ha]))
  · obtain ⟨m, hm⟩ := getAllOption_of_not_arity ha
    rw [hm]
    exact .error _ (by simp [ha]) (by simp [ha, Escapes])

lemma outcome_getOption_safe {f : Option (List Text) × Options → Call β}
    (h : Arity minarg maxarg (o.get option) →
      Outcome Escapes accepts False (f ((o.get option).getLast?, o.remove option))) :
    Outcome Escapes (Arity minarg maxarg (o.get option) ∧ accepts) False
      (getOption option minarg maxarg o >>= f) :=
  (outcome_getOption h).iff Iff.rfl (by simp)

lemma outcome_getAllOption_safe {f : List (List Text) × Options → Call β}
    (h : Arity minarg maxarg (o.get option) →
      Outcome Escapes accepts False (f (o.get option, o.remove option))) :
    Outcome Escapes (Arity minarg maxarg (o.get option) ∧ accepts) False
      (getAllOption option minarg maxarg o >>= f) :=
  (outcome_getAllOption h).iff Iff.rfl (by simp)

lemma getOption_bind_ok {f : Option (List Text) × Options → Call β} {r : β} :
    getOption option minarg maxarg o >>= f = .ok r ↔
      Arity minarg maxarg (o.get option) ∧
        f ((o.get option).getLast?, o.remove option) = .ok r := by
  by_cases ha : Arity minarg maxarg (o.get option)
  · rw [getOption_of_arity ha]
    simp [ha, bind, Except.bind]
  · obtain ⟨m, hm⟩ := getOption_of_not_arity ha
    rw [hm]
    simp [ha, bind, Except.bind]

lemma getAllOption_bind_ok {f : List (List Text) × Options → Call β} {r : β} :
    getAllOption option minarg maxarg o >>= f = .ok r ↔
      Arity minarg maxarg (o.get option) ∧ f (o.get option, o.remove option) = .ok r := by
  by_cases ha : Arity minarg maxarg (o.get option)
  · rw [getAllOption_of_arity ha]
    simp [ha, bind, Except.bind]
  · obtain ⟨m, hm⟩ := getAllOption_of_not_arity ha
    rw [hm]
    simp [ha, bind, Except.bind]

end Get

lemma arity_getLast? {minarg maxarg : ℕ} {lines : List (List Text)} {l : List Text}
    (h : Arity minarg maxarg lines) (hl : lines.getLast? = some l) :
    minarg + 1 ≤ l.length ∧ l.length ≤ maxarg + 1 :=
  h l (List.mem_of_getLast? hl)

section Stage

variable {option : Text} {minarg maxarg : ℕ}

/-- A stage that uses the last line of its option and leaves the other options alone. -/
lemma meets_onOption {use : Import → List Text → Call Import} {accepts fails : List Text → Prop}
    (outcome : ∀ s l, minarg + 1 ≤ l.length → l.length ≤ maxarg + 1 →
      Outcome Escapes (accepts l) (fails l) (use s l))
    (frame : ∀ s l s', minarg + 1 ≤ l.length → use s l = .ok s' → s'.options = s.options) :
    Meets view Escapes (onOption option minarg maxarg use)
      (lastLine option minarg maxarg accepts fails) where
  outcome s := outcome_getOption fun ha => by
    rcases hl : (s.options.get option).getLast? with _ | l
    · exact (Outcome.returns _).iff (by simp [view, hl]) (by simp [view, hl])
    · obtain ⟨h1, h2⟩ := arity_getLast? ha hl
      exact (outcome _ l h1 h2).iff (by simp [view, hl]) (by simp [view, hl])
  frame s s' h k hk := by
    simp only [lastLine, List.mem_singleton] at hk
    obtain ⟨ha, h⟩ := getOption_bind_ok.1 h
    rcases hl : (s.options.get option).getLast? with _ | l
    · rw [hl] at h
      cases h
      rfl
    · rw [hl] at h
      rw [view, view, frame _ _ _ (arity_getLast? ha hl).1 h, Multimap.get_remove_of_ne hk]

/-- A stage that uses all lines of its option and leaves the other options alone. -/
lemma meets_onAllOption {use : Import → List (List Text) → Call Import}
    {accepts fails : List (List Text) → Prop} (haccepts : accepts []) (hfails : ¬ fails [])
    (outcome : ∀ s lines, Arity minarg maxarg lines →
      Outcome Escapes (accepts lines) (fails lines) (use s lines))
    (frame : ∀ s lines s', Arity minarg maxarg lines → use s lines = .ok s' →
      s'.options = s.options) :
    Meets view Escapes (onAllOption option minarg maxarg use)
      (allLines option minarg maxarg accepts fails) where
  outcome s := outcome_getAllOption fun ha => by
    rcases hl : s.options.get option with _ | ⟨l, lines⟩
    · exact (Outcome.returns _).iff (by simp [view, hl, haccepts]) (by simp [view, hl, hfails])
    · rw [hl] at ha
      exact (outcome _ _ ha).iff (by simp [view, hl]) (by simp [view, hl])
  frame s s' h k hk := by
    simp only [allLines, List.mem_singleton] at hk
    obtain ⟨ha, h⟩ := getAllOption_bind_ok.1 h
    rcases hl : s.options.get option with _ | ⟨l, lines⟩
    · rw [hl] at h
      cases h
      rfl
    · rw [hl] at h ha
      rw [view, view, frame _ _ _ ha h, Multimap.get_remove_of_ne hk]

/-- A stage that takes any arguments of its option. -/
lemma meets_onOption_any {use : Import → List Text → Call Import}
    (h : ∀ s l, minarg + 1 ≤ l.length → ∃ s', use s l = .ok s' ∧ s'.options = s.options) :
    Meets view Escapes (onOption option minarg maxarg use) (anyArguments option minarg maxarg) := by
  have key : Meets view Escapes (onOption option minarg maxarg use)
      (lastLine option minarg maxarg (fun _ => True) fun _ => False) := by
    refine meets_onOption (fun s l h1 _ => ?_) fun s l s' h1 hs => ?_
    · obtain ⟨s', hs, -⟩ := h s l h1
      rw [hs]
      exact .returns s'
    · obtain ⟨t, ht, ho⟩ := h s l h1
      rw [ht] at hs
      cases hs
      exact ho
  exact key.iff rfl (fun _ => by simp [lastLine, anyArguments])
    fun _ => by simp [lastLine, anyArguments]

lemma meets_onAllOption_any {use : Import → List (List Text) → Call Import}
    (h : ∀ s lines, Arity minarg maxarg lines → ∃ s', use s lines = .ok s' ∧
      s'.options = s.options) :
    Meets view Escapes (onAllOption option minarg maxarg use)
      (anyArguments option minarg maxarg) := by
  have key : Meets view Escapes (onAllOption option minarg maxarg use)
      (allLines option minarg maxarg (fun _ => True) fun _ => False) := by
    refine meets_onAllOption trivial id (fun s l h1 => ?_) fun s l s' h1 hs => ?_
    · obtain ⟨s', hs, -⟩ := h s l h1
      rw [hs]
      exact .returns s'
    · obtain ⟨t, ht, ho⟩ := h s l h1
      rw [ht] at hs
      cases hs
      exact ho
  exact key.iff rfl (fun _ => by simp [allLines, anyArguments])
    fun _ => by simp [allLines, anyArguments]

lemma arrayGet_of_lt {l : List Text} {i : ℕ} (h : i < l.length) : arrayGet l i = .ok l[i] := by
  rw [arrayGet, List.getElem?_eq_getElem h]

lemma meets_onFlag {set : VpnProfile → VpnProfile} :
    Meets view Escapes (onFlag option minarg maxarg set) (anyArguments option minarg maxarg) :=
  meets_onOption_any fun _ _ _ => ⟨_, rfl, rfl⟩

lemma meets_onArgument {set : VpnProfile → Text → VpnProfile} :
    Meets view Escapes (onArgument option set) (anyArguments option 1 1) :=
  meets_onOption_any fun s l h => by
    rw [arrayGet_of_lt (show 1 < l.length by omega)]
    exact ⟨_, rfl, rfl⟩

end Stage

/-! ### The stages -/

lemma meets_client : Meets view Escapes client (noCheck ["client".toList, "pull".toList]) where
  outcome s := by
    unfold client
    split_ifs <;> exact .returns _
  frame s s' h k hk := by
    unfold client at h
    simp only [noCheck, List.mem_cons, List.not_mem_nil, or_false, not_or] at hk
    split_ifs at h
    · cases h
      rw [view, view, Multimap.get_remove_of_ne hk.1, Multimap.get_remove_of_ne hk.2]
    · cases h
      rfl

lemma meets_secret : Meets view Escapes secret (anyArguments "secret".toList 1 2) :=
  meets_onOption_any fun s l h => by
    rw [arrayGet_of_lt (show 1 < l.length by omega)]
    exact ⟨_, rfl, rfl⟩

/-- The netmask is read. -/
def MaskReads (mask : Text) : Prop := ∃ n, Cidr.getInt mask = .ok n ∧ n ≠ -2 ^ 32

/-- The netmask on which the loop of the constructor does not end. -/
def MaskLoops (mask : Text) : Prop := Cidr.getInt mask = .ok (-2 ^ 32)

/-- The netmask has too few pieces. -/
def MaskShort (mask : Text) : Prop := Cidr.getInt mask = .error .arrayIndexOutOfBounds

lemma mask_cases (net mask : Text) :
    (∃ c, MaskReads mask ∧ ¬ MaskLoops mask ∧ ¬ MaskShort mask ∧
        Cidr.ofMask net mask = .ok c) ∨
      (¬ MaskReads mask ∧ MaskLoops mask ∧ ¬ MaskShort mask ∧
        Cidr.ofMask net mask = .error .endlessLoop) ∨
      (¬ MaskReads mask ∧ ¬ MaskLoops mask ∧ MaskShort mask ∧
        Cidr.ofMask net mask = .error .arrayIndexOutOfBounds) ∨
      (¬ MaskReads mask ∧ ¬ MaskLoops mask ∧ ¬ MaskShort mask ∧
        Cidr.ofMask net mask = .error .numberFormat) := by
  unfold MaskReads MaskLoops MaskShort
  rcases h : Cidr.getInt mask with e | n
  · rw [Cidr.ofMask_of_error h]
    obtain rfl | rfl := Cidr.getInt_error h <;> simp
  · by_cases hn : n = -2 ^ 32
    · subst hn
      rw [Cidr.ofMask_of_loop h]
      simp
    · obtain ⟨c, hc⟩ := Cidr.ofMask_of_ok net h hn
      exact .inl ⟨c, ⟨n, rfl, hn⟩, fun h => hn (Except.ok.inj h), nofun, hc⟩

lemma routeCidr_outcome (net mask : Text) :
    Outcome Escapes (MaskReads mask) (MaskLoops mask) (routeCidr net mask) := by
  unfold routeCidr
  obtain ⟨c, hr, hl, hs, h⟩ | ⟨hr, hl, hs, h⟩ | ⟨hr, hl, hs, h⟩ | ⟨hr, hl, hs, h⟩ :=
    mask_cases net mask <;> rw [h]
  · exact .ok c hr hl
  · exact .error _ hr (by simp [hl, Escapes])
  · exact .error _ hr (by simp [hl, Escapes])
  · exact .error _ hr (by simp [hl, Escapes])

lemma ifconfigCidr_outcome (net mask : Text) :
    Outcome Escapes (MaskReads mask) (MaskLoops mask ∨ MaskShort mask) (ifconfigCidr net mask) := by
  unfold ifconfigCidr
  obtain ⟨c, hr, hl, hs, h⟩ | ⟨hr, hl, hs, h⟩ | ⟨hr, hl, hs, h⟩ | ⟨hr, hl, hs, h⟩ :=
    mask_cases net mask <;> rw [h]
  · exact .ok c hr (by simp [hl, hs])
  · exact .error _ hr (by simp [hl, Escapes])
  · exact .error _ hr (by simp [hs, Escapes])
  · exact .error _ hr (by simp [hl, hs, Escapes])

def routesCheck : Check Text (List (List Text)) :=
  allLines "route".toList 1 4 (fun lines => ∀ l ∈ lines, MaskReads (routeNetmask l))
    (FirstFails (MaskReads <| routeNetmask ·) (MaskLoops <| routeNetmask ·))

lemma addRoute_outcome (acc : Text × Text) {l : List Text} (h : 2 ≤ l.length) :
    Outcome Escapes (MaskReads (routeNetmask l)) (MaskLoops (routeNetmask l)) (addRoute acc l) := by
  refine .bind_ok (arrayGet_of_lt (show 1 < l.length by omega)) ?_
  exact ((routeCidr_outcome _ _).bind fun c _ => .returns _).iff (by simp) (by simp)

lemma meets_route : Meets view Escapes route routesCheck := by
  refine meets_onAllOption (by simp) not_firstFails_nil (fun s lines h => ?_)
    fun s lines s' _ h => ?_
  · have added := Outcome.foldlM (fun acc l hl => addRoute_outcome acc (h l hl).1) ([], [])
    exact (added.bind fun r _ => .returns _).iff (by simp) (by simp)
  · obtain ⟨a, -, h⟩ := bind_eq_ok.1 h
    cases h
    rfl

lemma meets_routeIpv6 : Meets view Escapes routeIpv6 (anyArguments "route-ipv6".toList 1 4) :=
  meets_onAllOption_any fun s lines h => by
    obtain ⟨nets, hn⟩ := mapM_returns fun (l : List Text) (hl : l ∈ lines) =>
      ⟨_, arrayGet_of_lt (show 1 < l.length by have := h l hl; omega)⟩
    rw [hn]
    exact ⟨_, rfl, rfl⟩

lemma meets_tlsAuth : Meets view Escapes tlsAuth (anyArguments "tls-auth".toList 1 2) :=
  meets_onAllOption_any fun s lines h => by
    obtain ⟨np, hn⟩ := foldlM_returns (f := tlsAuthLine) (fun np l hl => by
      rw [tlsAuthLine, arrayGet_of_lt (show 1 < l.length by have := h l hl; omega)]
      exact ⟨_, rfl⟩) s.np
    rw [hn]
    exact ⟨_, rfl, rfl⟩

lemma meets_redirectGateway :
    Meets view Escapes redirectGateway (anyArguments "redirect-gateway".toList 0 7) :=
  meets_onAllOption_any fun _ _ _ => ⟨_, rfl, rfl⟩

lemma meets_redirectPrivate :
    Meets view Escapes redirectPrivate (anyArguments "redirect-private".toList 0 5) :=
  meets_onAllOption_any fun _ _ _ => ⟨_, rfl, rfl⟩

lemma meets_dhcpOption : Meets view Escapes dhcpOption (anyArguments "dhcp-option".toList 2 2) :=
  meets_onAllOption_any fun s lines h => by
    obtain ⟨np, hn⟩ := foldlM_returns (f := dhcpLine) (fun np l hl => by
      have := h l hl
      rw [dhcpLine, arrayGet_of_lt (show 1 < l.length by omega),
        arrayGet_of_lt (show 2 < l.length by omega)]
      exact ⟨_, rfl⟩) s.np
    rw [hn]
    exact ⟨_, rfl, rfl⟩

lemma meets_cert : Meets view Escapes cert (anyArguments "cert".toList 1 1) :=
  meets_onOption_any fun s l h => by
    rw [arrayGet_of_lt (show 1 < l.length by omega)]
    exact ⟨_, rfl, rfl⟩

lemma meets_pkcs12 : Meets view Escapes pkcs12 (anyArguments "pkcs12".toList 1 1) :=
  meets_onOption_any fun s l h => by
    rw [arrayGet_of_lt (show 1 < l.length by omega)]
    exact ⟨_, rfl, rfl⟩

lemma meets_cryptoapicert :
    Meets view Escapes cryptoapicert (anyArguments "cryptoapicert".toList 1 1) :=
  meets_onOption_any fun _ _ _ => ⟨_, rfl, rfl⟩

lemma meets_connectRetry :
    Meets view Escapes connectRetry (anyArguments "connect-retry".toList 1 2) :=
  meets_onOption_any fun s l h => by
    rw [arrayGet_of_lt (show 1 < l.length by omega)]
    exact ⟨_, rfl, rfl⟩

lemma meets_authUserPass :
    Meets view Escapes authUserPass (anyArguments "auth-user-pass".toList 0 1) :=
  meets_onOption_any fun s l h => by
    cases l[1]? <;> exact ⟨_, rfl, rfl⟩

lemma meets_crlVerify : Meets view Escapes crlVerify (anyArguments "crl-verify".toList 1 2) :=
  meets_onOption_any fun s l h => by
    rw [arrayGet_of_lt (show 1 < l.length by omega)]
    split_ifs <;> exact ⟨_, rfl, rfl⟩

/-! ### Stages with a check of their own -/

/-- An argument, or nothing where there is none. -/
def argument (l : List Text) (i : ℕ) : Text := l[i]?.getD []

lemma arrayGet_argument {l : List Text} {i : ℕ} (h : i < l.length) :
    arrayGet l i = .ok (argument l i) := by
  rw [arrayGet_of_lt h, argument, List.getElem?_eq_getElem h, Option.getD_some]

lemma arrayGet_ok {l : List Text} {i : ℕ} {a : Text} (h : arrayGet l i = .ok a) :
    a = argument l i := by
  unfold arrayGet at h
  split at h
  · next b hb =>
    cases h
    rw [argument, hb, Option.getD_some]
  · cases h

def IsInteger (arg : Text) : Prop := ∃ n, parseInt arg = .ok n

lemma integerArgument_outcome (arg message : Text) :
    Outcome Escapes (IsInteger arg) False (integerArgument arg message) := by
  unfold integerArgument IsInteger
  rcases h : parseInt arg with e | n
  · rw [parseInt_error h]
    exact (Outcome.refuses (not_escapes_configParse _)).iff (by simp) Iff.rfl
  · exact .ok n ⟨n, rfl⟩ id

def IsTun (dev devtype : Option (List Text)) : Prop :=
  (∃ l ∈ devtype, argument l 1 = "tun".toList) ∨
    (∃ l ∈ dev, startsWith (argument l 1) "tun".toList) ∨ devtype = none ∧ dev = none

def devCheck : Check Text (List (List Text)) where
  keys := ["dev".toList, "dev-type".toList]
  accepts o := Arity 1 1 (o "dev".toList) ∧ Arity 1 1 (o "dev-type".toList) ∧
    IsTun (o "dev".toList).getLast? (o "dev-type".toList).getLast?
  fails _ := False
  accepts_congr o o' h := by rw [h "dev".toList (by simp), h "dev-type".toList (by simp)]
  fails_congr _ _ _ := Iff.rfl

lemma checkTun_ok {dev devtype : Option (List Text)} (hd : ∀ l ∈ dev, 2 ≤ l.length)
    (ht : ∀ l ∈ devtype, 2 ≤ l.length) :
    ∃ b, checkTun dev devtype = .ok b ∧ (b = true ↔ IsTun dev devtype) := by
  have arg : ∀ l : List Text, 2 ≤ l.length → arrayGet l 1 = .ok (argument l 1) :=
    fun l h => arrayGet_argument h
  rcases dev with _ | d <;> rcases devtype with _ | t
  · exact ⟨true, rfl, by simp [IsTun]⟩
  · rw [checkTun, arg t (ht t rfl)]
    exact ⟨_, rfl, by simp [IsTun]⟩
  · rw [checkTun, arg d (hd d rfl)]
    exact ⟨_, rfl, by simp [IsTun]⟩
  · rw [checkTun, arg d (hd d rfl), arg t (ht t rfl)]
    exact ⟨_, rfl, by simp [IsTun]⟩

lemma meets_dev : Meets view Escapes dev devCheck where
  outcome s := by
    have checked : Outcome Escapes (_ ∧ _ ∧ IsTun _ _) (_ ∧ _ ∧ False) (dev s) :=
      outcome_getOption fun hd => outcome_getOption fun ht => by
        obtain ⟨b, hb, htun⟩ := checkTun_ok (fun l hl => (arity_getLast? hd hl).1)
          fun l hl => (arity_getLast? ht hl).1
        refine .bind_ok hb ?_
        split_ifs with h
        · exact .ok _ (htun.1 h) id
        · exact .error _ (fun ht => h (htun.2 ht)) (by simp [Escapes])
    rw [Multimap.get_remove_of_ne (show "dev-type".toList ≠ "dev".toList by decide)] at checked
    exact checked.iff Iff.rfl (by simp [devCheck])
  frame s s' h k hk := by
    simp only [devCheck, List.mem_cons, List.not_mem_nil, or_false, not_or] at hk
    obtain ⟨-, h⟩ := getOption_bind_ok.1 h
    obtain ⟨-, h⟩ := getOption_bind_ok.1 h
    obtain ⟨b, -, h⟩ := bind_eq_ok.1 h
    split at h
    · cases h
      rw [view, view, Multimap.get_remove_of_ne hk.2, Multimap.get_remove_of_ne hk.1]
    · cases h

def mssfixCheck : Check Text (List (List Text)) :=
  lastLine "mssfix".toList 0 1 (fun l => ∀ arg ∈ l[1]?, IsInteger arg) fun _ => False

lemma meets_mssfix : Meets view Escapes mssfix mssfixCheck := by
  refine meets_onOption (fun s l _ _ => ?_) fun s l s' _ h => ?_
  · rcases l[1]? with _ | arg
    · exact (Outcome.returns _).iff (by simp) Iff.rfl
    · exact ((integerArgument_outcome _ _).bind fun n _ => .returns _).iff (by simp) (by simp)
  · revert h
    rcases l[1]? with _ | arg <;> intro h
    · cases h
      rfl
    · obtain ⟨n, -, h⟩ := bind_eq_ok.1 h
      cases h
      rfl

def mtuCheck : Check Text (List (List Text)) :=
  lastLine "mtu".toList 1 1 (fun l => IsInteger (argument l 1)) fun _ => False

lemma meets_mtu : Meets view Escapes mtu mtuCheck := by
  refine meets_onOption (fun s l h _ => ?_) fun s l s' _ h => ?_
  · refine .bind_ok (arrayGet_argument (show 1 < l.length by omega)) ?_
    exact ((integerArgument_outcome _ _).bind fun n _ => .returns _).iff (by simp) (by simp)
  · obtain ⟨arg, -, h⟩ := bind_eq_ok.1 h
    obtain ⟨n, -, h⟩ := bind_eq_ok.1 h
    cases h
    rfl

def modeCheck : Check Text (List (List Text)) :=
  lastLine "mode".toList 1 1 (fun l => argument l 1 = "p2p".toList) fun _ => False

lemma meets_mode : Meets view Escapes mode modeCheck := by
  refine meets_onOption (fun s l h _ => ?_) fun s l s' _ h => ?_
  · refine .bind_ok (arrayGet_argument (show 1 < l.length by omega)) ?_
    split_ifs with hm
    · exact .ok _ hm id
    · exact .error _ hm (by simp [Escapes])
  · obtain ⟨arg, -, h⟩ := bind_eq_ok.1 h
    split_ifs at h
    cases h
    rfl

def ifconfigCheck : Check Text (List (List Text)) :=
  lastLine "ifconfig".toList 2 2 (fun l => MaskReads (argument l 2))
    fun l => MaskLoops (argument l 2) ∨ MaskShort (argument l 2)

lemma meets_ifconfig : Meets view Escapes ifconfig ifconfigCheck := by
  refine meets_onOption (fun s l h _ => ?_) fun s l s' _ h => ?_
  · refine .bind_ok (arrayGet_argument (show 1 < l.length by omega)) ?_
    refine .bind_ok (arrayGet_argument (show 2 < l.length by omega)) ?_
    exact ((ifconfigCidr_outcome _ _).bind fun c _ => .returns _).iff (by simp) (by simp)
  · obtain ⟨ip, -, h⟩ := bind_eq_ok.1 h
    obtain ⟨mask, -, h⟩ := bind_eq_ok.1 h
    obtain ⟨c, -, h⟩ := bind_eq_ok.1 h
    cases h
    rfl

def tlsRemoteCheck : Check Text (List (List Text)) where
  keys := ["compat-names".toList, "no-name-remapping".toList, "tls-remote".toList]
  accepts o := Arity 1 2 (o "compat-names".toList) ∧ Arity 1 1 (o "no-name-remapping".toList) ∧
    Arity 1 1 (o "tls-remote".toList)
  fails _ := False
  accepts_congr o o' h := by
    rw [h "compat-names".toList (by simp), h "no-name-remapping".toList (by simp),
      h "tls-remote".toList (by simp)]
  fails_congr _ _ _ := Iff.rfl

lemma meets_tlsRemote : Meets view Escapes tlsRemote tlsRemoteCheck where
  outcome s := by
    have checked : Outcome Escapes (_ ∧ _ ∧ _ ∧ True) (_ ∧ _ ∧ _ ∧ False) (tlsRemote s) :=
      outcome_getOption fun _ => outcome_getOption fun _ => outcome_getOption fun ht => by
        dsimp only
        split
        · exact .returns _
        · next l hl =>
          exact .bind_ok (arrayGet_argument (arity_getLast? ht hl).1) (.returns _)
    rw [Multimap.get_remove_of_ne (show "no-name-remapping".toList ≠ "compat-names".toList by decide),
      Multimap.get_remove_of_ne (show "tls-remote".toList ≠ "no-name-remapping".toList by decide),
      Multimap.get_remove_of_ne (show "tls-remote".toList ≠ "compat-names".toList by decide)]
      at checked
    exact checked.iff (by simp [tlsRemoteCheck, view]) (by simp [tlsRemoteCheck])
  frame s s' h k hk := by
    simp only [tlsRemoteCheck, List.mem_cons, List.not_mem_nil, or_false, not_or] at hk
    obtain ⟨-, h⟩ := getOption_bind_ok.1 h
    obtain ⟨-, h⟩ := getOption_bind_ok.1 h
    obtain ⟨-, h⟩ := getOption_bind_ok.1 h
    have : s'.options = ((s.options.remove "compat-names".toList).remove
        "no-name-remapping".toList).remove "tls-remote".toList := by
      dsimp only at h
      split at h
      · cases h
        rfl
      · obtain ⟨l, -, h⟩ := bind_eq_ok.1 h
        cases h
        rfl
    rw [view, view, this, Multimap.get_remove_of_ne hk.2.2, Multimap.get_remove_of_ne hk.2.1,
      Multimap.get_remove_of_ne hk.1]

def IsX509Type (type : Text) : Prop :=
  type = "name".toList ∨ type = "subject".toList ∨ type = "name-prefix".toList

lemma x509Type_outcome (type : Option Text) :
    Outcome Escapes (∀ t ∈ type, IsX509Type t) False (x509Type type) := by
  rcases type with _ | t
  · exact (Outcome.returns _).iff (by simp) Iff.rfl
  · rw [x509Type]
    split_ifs with h1 h2 h3
    · exact .ok _ (by rintro _ ⟨⟩; exact .inl h1) id
    · exact .ok _ (by rintro _ ⟨⟩; exact .inr (.inl h2)) id
    · exact .ok _ (by rintro _ ⟨⟩; exact .inr (.inr h3)) id
    · exact .error _ (fun h => by rcases h t rfl with h | h | h <;> contradiction)
        (by simp [Escapes])

def verifyX509NameCheck : Check Text (List (List Text)) :=
  lastLine "verify-x509-name".toList 1 2 (fun l => ∀ t ∈ l[2]?, IsX509Type t) fun _ => False

lemma meets_verifyX509Name : Meets view Escapes verifyX509Name verifyX509NameCheck := by
  refine meets_onOption (fun s l h _ => ?_) fun s l s' _ h => ?_
  · refine .bind_ok (arrayGet_argument (show 1 < l.length by omega)) ?_
    exact ((x509Type_outcome _).bind fun t _ => .returns _).iff (by simp) (by simp)
  · obtain ⟨arg, -, h⟩ := bind_eq_ok.1 h
    obtain ⟨t, -, h⟩ := bind_eq_ok.1 h
    cases h
    rfl

def remoteCertTlsCheck : Check Text (List (List Text)) where
  keys := ["remote-cert-tls".toList, "remotetls".toList]
  accepts o := Arity 1 1 (o "remote-cert-tls".toList)
  fails _ := False
  accepts_congr o o' h := by rw [h "remote-cert-tls".toList (by simp)]
  fails_congr _ _ _ := Iff.rfl

lemma meets_remoteCertTls : Meets view Escapes remoteCertTls remoteCertTlsCheck where
  outcome s := by
    have checked : Outcome Escapes (_ ∧ True) (_ ∧ False) (remoteCertTls s) :=
      outcome_getAllOption fun ha => by
        rcases hl : s.options.get "remote-cert-tls".toList with _ | ⟨l, lines⟩
        · exact .returns _
        · rw [hl] at ha
          have h1 := (ha l List.mem_cons_self).1
          refine .bind_ok (show arrayGet (l :: lines) 0 = .ok l from rfl) ?_
          refine .bind_ok (arrayGet_argument (show 1 < l.length by omega)) ?_
          split_ifs <;> exact .returns _
    exact checked.iff (by simp [remoteCertTlsCheck, view]) (by simp [remoteCertTlsCheck])
  frame s s' h k hk := by
    simp only [remoteCertTlsCheck, List.mem_cons, List.not_mem_nil, or_false, not_or] at hk
    obtain ⟨-, h⟩ := getAllOption_bind_ok.1 h
    rcases hl : s.options.get "remote-cert-tls".toList with _ | ⟨l, lines⟩
    · rw [hl] at h
      cases h
      rfl
    · rw [hl] at h
      obtain ⟨l, -, h⟩ := bind_eq_ok.1 h
      obtain ⟨arg, -, h⟩ := bind_eq_ok.1 h
      split_ifs at h
      · cases h
        rw [view, view, Multimap.get_remove_of_ne hk.1]
      · cases h
        rw [view, view, Multimap.get_put_of_ne hk.2, Multimap.get_remove_of_ne hk.1]

def IsAuthRetry (arg : Text) : Prop :=
  arg = "none".toList ∨ arg = "nointeract".toList ∨ arg = "interact".toList

def authRetryCheck : Check Text (List (List Text)) :=
  lastLine "auth-retry".toList 1 1 (fun l => IsAuthRetry (argument l 1))
    fun l => ¬ IsAuthRetry (argument l 1)

lemma arrayGet_of_ge {l : List Text} {i : ℕ} (h : l.length ≤ i) :
    arrayGet l i = .error .arrayIndexOutOfBounds := by
  rw [arrayGet, List.getElem?_eq_none h]

lemma meets_authRetry : Meets view Escapes authRetry authRetryCheck := by
  refine meets_onOption (fun s l h1 h2 => ?_) fun s l s' _ h => ?_
  · refine .bind_ok (arrayGet_argument (show 1 < l.length by omega)) ?_
    split_ifs with ha hb
    · exact .ok _ (.inl ha) (not_not_intro (.inl ha))
    · exact .ok _ (.inr hb) (not_not_intro (.inr hb))
    · have hn : ¬ IsAuthRetry (argument l 1) := not_or.2 ⟨ha, hb⟩
      -- the text of the error is where the exception comes from
      rw [arrayGet_of_ge (show l.length ≤ 2 by omega)]
      exact .error _ hn (by simp [hn, Escapes])
  · obtain ⟨arg, -, h⟩ := bind_eq_ok.1 h
    split_ifs at h
    · cases h
      rfl
    · cases h
      rfl
    · obtain ⟨_, -, h⟩ := bind_eq_ok.1 h
      cases h

end BuludTechVPN.ImportChecks
