import BuludTechVPN.Comparison
import BuludTechVPN.ServerBackup

/-!
The orders in which servers are shown, as orders: which comparators obey the contract of a sort
and compare the field they are named after, on which servers.
-/

namespace BuludTechVPN.SortComparators

open JavaLang CsvReader Comparison

variable {F : Type}

/-- What servers are sorted by. -/
inductive SortKey
  | speed | upTime | sessions | country | hostName | ip
  deriving DecidableEq, Repr

def SortKey.comparator (fold : Char → Char) : SortKey → Bool → Comparator F
  | speed => SpeedComparator
  | upTime => UpTimeComparator
  | sessions => SessionComparator
  | country => CountryComparator fold
  | hostName => HostNameComparator fold
  | ip => IPComparator fold

/-- The characters of a text with their case ignored. -/
def folded (fold : Char → Char) (s : Text) : List ℕ := s.map fun c => (fold c).toNat

/-- The order of two servers by the field that the key names. -/
def SortKey.fieldOrder (fold : Char → Char) (key : SortKey) (v w : VPNClass F) : ℤ :=
  match key with
  | speed => order v.Speed w.Speed
  | upTime => order v.UpTime w.UpTime
  | sessions => order v.NumberOfSessions w.NumberOfSessions
  | country => order (folded fold v.CountryLong) (folded fold w.CountryLong)
  | hostName => order (folded fold v.HostName) (folded fold w.HostName)
  | ip => order (folded fold v.IP) (folded fold w.IP)

/-- The two comparators of a key are lawful on a set of servers, the ascending one has the signs
of the field that the key names, and the other one is its reverse. -/
structure Sorts (fold : Char → Char) (key : SortKey) (S : Set (VPNClass F)) : Prop where
  lawful : ∀ sortOrder, Lawful (key.comparator fold sortOrder) S
  field : ∀ v ∈ S, ∀ w ∈ S, (key.comparator fold false v w).sign = key.fieldOrder fold v w
  reverse : ∀ v ∈ S, ∀ w ∈ S,
    (key.comparator fold true v w).sign = -(key.comparator fold false v w).sign

/-- A server that the download of the list can produce. -/
def Produced (P : Platform F) (v : VPNClass F) : Prop :=
  ∃ data L, parseDataToClassObjects P data = .ok L ∧ v ∈ L

/-- No server without a number of sessions stands beside one that has a number; by addresses,
the host names are in the order of the addresses. The other keys ask for nothing. -/
def SortKey.Comparable (fold : Char → Char) (S : Set (VPNClass F)) : SortKey → Prop
  | sessions => ∀ v ∈ S, v.NumberOfSessions = minValue → ∀ w ∈ S, w.NumberOfSessions = minValue
  | ip => ∀ v ∈ S, ∀ w ∈ S, order (folded fold v.HostName) (folded fold w.HostName) =
      order (folded fold v.IP) (folded fold w.IP)
  | _ => True

/-! ### The sign of a comparison -/

lemma compareToIgnoreCase_sign (fold : Char → Char) (s t : Text) :
    (compareToIgnoreCase fold s t).sign = order (folded fold s) (folded fold t) := by
  induction s generalizing t with
  | nil =>
    cases t with
    | nil => rfl
    | cons b t =>
      have hlt : folded fold [] < folded fold (b :: t) := List.nil_lt_cons _ _
      rw [order_eq_neg_one.mpr hlt]
      apply Int.sign_eq_neg_one_of_neg
      simp only [compareToIgnoreCase, List.length_nil, List.length_cons]
      omega
  | cons a s ih =>
    cases t with
    | nil =>
      have hlt : folded fold [] < folded fold (a :: s) := List.nil_lt_cons _ _
      rw [order_eq_one.mpr hlt]
      apply Int.sign_eq_one_of_pos
      simp only [compareToIgnoreCase, List.length_nil, List.length_cons]
      omega
    | cons b t =>
      have hcons : order (folded fold (a :: s)) (folded fold (b :: t)) =
          if (fold a).toNat = (fold b).toNat then order (folded fold s) (folded fold t)
          else order (fold a).toNat (fold b).toNat := order_cons _ _
      rw [hcons, compareToIgnoreCase]
      by_cases heq : fold a = fold b
      · rw [if_pos heq, if_pos (congrArg Char.toNat heq), ih]
      · rw [if_neg heq, if_neg fun h => heq (Char.toNat_inj.mp h), sign_sub]
        simp only [order, Nat.cast_lt]

/-! ### The comparators one by one -/

section Comparators

variable {S : Set (VPNClass F)} {fold : Char → Char}

lemma compareText_follows (field : VPNClass F → Text) :
    Follows (compareText fold field false) S fun v => folded fold (field v) :=
  fun v _ w _ => compareToIgnoreCase_sign fold (field v) (field w)

lemma compareField_follows (field : VPNClass F → ℤ) : Follows (compareField field false) S field := by
  intro v _ w _
  simp only [compareField, Bool.false_eq_true, if_false]
  rcases lt_trichotomy (field v) (field w) with h | h | h
  · rw [order_eq_neg_one.mpr h, if_neg (by omega), if_pos h]; rfl
  · rw [order_eq_zero.mpr h, if_neg (by omega), if_neg (by omega)]; rfl
  · rw [order_eq_one.mpr h, if_pos h]; rfl

/-- The differences of the numbers of sessions that fit an `int` have the right sign. -/
lemma sessions_follows
    (h : ∀ v ∈ S, ∀ w ∈ S, v.NumberOfSessions - w.NumberOfSessions < 2 ^ 31) :
    Follows (SessionComparator false) S VPNClass.NumberOfSessions := by
  intro v hv w hw
  have hvw := h v hv w hw
  have hwv := h w hw v hv
  simp only [SessionComparator, Bool.false_eq_true, if_false]
  rw [toInt_of_range (by omega) hvw, sign_sub]

/-- The descending comparator of a key is the ascending one with its arguments exchanged. -/
lemma comparator_true (key : SortKey) (v w : VPNClass F) :
    key.comparator fold true v w = key.comparator fold false w v := by
  cases key <;> rfl

/-- A key whose ascending comparator has the signs of the field sorts. -/
lemma sorts_of_follows {K : Type} [LinearOrder K] {key : SortKey} {f : VPNClass F → K}
    (h : Follows (key.comparator fold false) S f)
    (hf : ∀ v ∈ S, ∀ w ∈ S, order (f v) (f w) = key.fieldOrder fold v w) : Sorts fold key S where
  lawful sortOrder := by
    cases sortOrder with
    | false => exact h.lawful
    | true =>
      have hrev : key.comparator (F := F) fold true = fun v w => key.comparator fold false w v :=
        funext fun v => funext fun w => comparator_true key v w
      rw [hrev]
      exact h.reverse.lawful
  field v hv w hw := (h v hv w hw).trans (hf v hv w hw)
  reverse v hv w hw := by
    rw [comparator_true, h w hw v hv, h v hv w hw, order_swap]

end Comparators

/-! ### The numbers of a downloaded server -/

section Parsing

variable {P : Platform F}

lemma signedOf_nonneg {s : Text} {m : ℤ} (h : signedOf s = some m) (hs : ∀ t, s ≠ '-' :: t) :
    0 ≤ m := by
  unfold signedOf at h
  split at h
  next t => exact absurd rfl (hs t)
  all_goals
    obtain ⟨k, hk, rfl⟩ := Option.map_eq_some_iff.mp h
    obtain ⟨d, -, hd⟩ := Option.bind_eq_some_iff.mp hk
    obtain rfl := Option.some.inj hd
    exact Int.natCast_nonneg d

lemma tryParseInt_ok {s : Text} {n : ℤ} (h : tryParseInt P s minValue = .ok n) :
    n = minValue ∨ 0 ≤ n ∧ n < 2 ^ 31 := by
  unfold tryParseInt at h
  split at h
  next hnum =>
    right
    unfold parseInt parseSigned at h
    split at h
    next m hm =>
      split at h
      next hrange =>
        obtain rfl := Except.ok.inj h
        refine ⟨signedOf_nonneg hm ?_, hrange.2⟩
        rintro t rfl
        exact absurd hnum (by simp [isNumber])
      next => cases h
    next => cases h
  next => exact Or.inl (Except.ok.inj h).symm

lemma Produced.sessions {v : VPNClass F} (h : Produced P v) :
    v.NumberOfSessions = minValue ∨ 0 ≤ v.NumberOfSessions ∧ v.NumberOfSessions < 2 ^ 31 := by
  obtain ⟨data, L, hL, hv⟩ := h
  obtain ⟨row, -, hrow⟩ := mem_of_mapM_eq_ok hL hv
  unfold parseRow at hrow
  simp only [bind_eq_ok] at hrow
  obtain ⟨_, -, _, -, _, -, n, hn, _, -, _, -, hmk⟩ := hrow
  obtain rfl := Except.ok.inj hmk
  exact tryParseInt_ok hn

/-- Numbers of sessions far apart are those of a server with a number and one without. -/
lemma sessions_near {S : Set (VPNClass F)} (hS : ∀ v ∈ S, Produced P v)
    (h : ∀ v ∈ S, v.NumberOfSessions = minValue → ∀ w ∈ S, w.NumberOfSessions = minValue) :
    ∀ v ∈ S, ∀ w ∈ S, v.NumberOfSessions - w.NumberOfSessions < 2 ^ 31 := by
  intro v hv w hw
  have hmin : minValue = -2 ^ 31 := rfl
  rcases (hS v hv).sessions with h1 | h1 <;> rcases (hS w hw).sessions with h2 | h2
  · omega
  · omega
  · have := h w hw h2 v hv
    omega
  · omega

end Parsing

/-! ### Exactly when they are lawful -/

/-- A server without a number of sessions comes after one with a number, and before it. -/
lemma session_cycle {v w : VPNClass F} (hv : v.NumberOfSessions = minValue)
    (hw : 0 ≤ w.NumberOfSessions) (hlt : w.NumberOfSessions < 2 ^ 31) :
    SessionComparator false w v < 0 := by
  simp only [SessionComparator, Bool.false_eq_true, if_false, hv, minValue]
  unfold toInt
  omega

/-- A row of the list with this host name and these sessions. -/
def sessionRow (hostName sessions : Text) : List Text :=
  [hostName, [], ['0'], ['0'], ['0'], [], [], sessions, ['0'], ['0'], ['0'], [], [], [], []]

/-- The server of such a row. -/
def sessionServer (hostName : Text) (sessions : ℤ) : VPNClass ℤ :=
  ⟨0, hostName, [], 0, 0, 0, [], [], sessions, 0, 0, 0, [], [], [], []⟩

lemma produced_none : Produced ServerBackup.ascii (sessionServer ['a'] minValue) :=
  ⟨[sessionRow ['a'] ['-']], [sessionServer ['a'] minValue], by decide, List.mem_singleton.mpr rfl⟩

lemma produced_zero : Produced ServerBackup.ascii (sessionServer ['b'] 0) :=
  ⟨[sessionRow ['b'] ['0']], [sessionServer ['b'] 0], by decide, List.mem_singleton.mpr rfl⟩

end BuludTechVPN.SortComparators
