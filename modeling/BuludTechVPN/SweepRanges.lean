import BuludTechVPN.RouteList
import BuludTechVPN.RouteSweep

/-!
The ranges that the sweep of `generateIPList` places: each lies behind those placed before it,
whatever the marks of the networks and whichever least network is polled.
-/

namespace BuludTechVPN.Space

open IpAddress Relation

variable {w : ℤ} {M done rest : List IpAddress} {c n x y : IpAddress}

/-- The ranges of the networks ascend. -/
def Ascending (l : List IpAddress) : Prop :=
  l.Pairwise fun x y => x.getLastAddress < y.getFirstAddress

/-- No address lies in two of the networks. -/
def Apart (l : List IpAddress) : Prop := l.Pairwise fun x y => ∀ a, ¬ (x.Contains a ∧ y.Contains a)

lemma Ascending.apart {l : List IpAddress} (h : Ascending l) : Apart l := by
  refine h.imp fun hxy a ⟨hx, hy⟩ => ?_
  have h1 := hx.2
  have h2 := hy.1
  omega

/-- The placed networks ascend, and lie before all that are pending. -/
structure Placed (s : Sweep) : Prop where
  before : ∀ d ∈ s.ipsDone, ∀ x ∈ s.pending, d.getLastAddress < x.getFirstAddress
  ascending : Ascending s.ipsDone

/-- A network behind all others is added at the end. -/
lemma treeAdd_last (h : ∀ d ∈ done, d.getFirstAddress < c.getFirstAddress) :
    treeAdd done c = done ++ [c] := by
  induction done with
  | nil => rfl
  | cons d done ih =>
    have hd := h d List.mem_cons_self
    have hlt : ¬ c.compareTo d < 0 := by rw [compareTo_neg_iff]; omega
    have hne : ¬ c.compareTo d = 0 := by rw [compareTo_eq_zero_iff]; omega
    rw [treeAdd, if_neg hlt, if_neg hne, ih fun d hd => h d (List.mem_cons_of_mem _ hd),
      List.cons_append]

/-- What takes the place of pending networks begins no earlier than they do. -/
lemma Placed.later {s t : Sweep} (h : Placed s) (hd : t.ipsDone = s.ipsDone)
    (hx : ∀ x ∈ t.pending, ∃ y ∈ s.pending, y.getFirstAddress ≤ x.getFirstAddress) :
    Placed t := by
  constructor
  · intro d hdt x hxt
    obtain ⟨y, hy, hle⟩ := hx x hxt
    exact (h.before d (hd ▸ hdt) y hy).trans_le hle
  · rw [hd]
    exact h.ascending

/-- `currentNet` is placed, and `nextNet` behind it takes its place. -/
lemma Placed.place {next : Option IpAddress} (h : Placed ⟨some c, M, done⟩)
    (hnext : ∀ x ∈ next.toList ++ rest, x ∈ M ∧ c.getLastAddress < x.getFirstAddress) :
    Placed ⟨next, rest, treeAdd done c⟩ := by
  have hbefore : ∀ d ∈ done, d.getLastAddress < c.getFirstAddress := fun d hd =>
    h.before d hd c List.mem_cons_self
  have hadd : treeAdd done c = done ++ [c] := treeAdd_last fun d hd =>
    (first_le_last d).trans_lt (hbefore d hd)
  constructor
  · intro d hd x hx
    simp only [hadd, List.mem_append, List.mem_singleton] at hd
    obtain ⟨hxM, hcx⟩ := hnext x hx
    rcases hd with hd | rfl
    · exact h.before d hd x (List.mem_cons_of_mem _ hxM)
    · exact hcx
  · show Ascending (treeAdd done c)
    rw [hadd, Ascending, List.pairwise_append]
    exact ⟨h.ascending, List.pairwise_singleton _ _, fun d hd x hx => by
      rw [List.mem_singleton.mp hx]
      exact hbefore d hd⟩

/-- **One round** places a network behind the placed ones, if any. -/
theorem placed_loopBody {s : Sweep} {next : Option IpAddress} (h : Placed s) (ho : Ordered w s)
    (hs : s.currentNet = some c) (hp : Poll s.networks next rest) :
    Placed (loopBody c next rest s.ipsDone) := by
  obtain ⟨cur, q, done⟩ := s
  obtain rfl : cur = some c := hs
  cases next with
  | none =>
    obtain rfl := poll_none hp
    exact h.place (by simp)
  | some n =>
    have hmem : ∀ x, x ∈ q ↔ x = n ∨ x ∈ rest := fun x => hp.mem_iff
    have hn : n ∈ q := (hmem n).mpr (.inl rfl)
    have hrest : ∀ x ∈ rest, x ∈ q := fun x hx => (hmem x).mpr (.inr hx)
    have hcn := ho.first c rfl n hn
    have hpending : ∀ x ∈ q, x ∈ Sweep.pending ⟨some c, q, done⟩ := fun x hx =>
      List.mem_cons_of_mem _ hx
    simp only [loopBody]
    split_ifs with h1 h2 h3 h4
    · -- all that is queued begins behind `n`
      refine h.place fun x hx => ?_
      rcases List.mem_cons.mp hx with rfl | hx
      · exact ⟨hn, h1⟩
      · have hle := compareTo_le_iff.mp (hp.le x (hrest x hx))
        exact ⟨hrest x hx, by omega⟩
    · refine h.later rfl fun x hx => ⟨x, hpending x ?_, le_rfl⟩
      exact (hmem x).mpr (List.mem_cons.mp hx)
    · refine h.later rfl fun x hx => ?_
      rcases List.mem_cons.mp hx with rfl | hx
      · exact ⟨x, List.mem_cons_self, le_rfl⟩
      · rcases mem_of_mem_splitNext hx with hx | rfl | ⟨rfl, -⟩
        · exact ⟨x, hpending x (hrest x hx), le_rfl⟩
        · exact ⟨n, hpending n hn, (split_first_lt n).le⟩
        · exact ⟨n, hpending n hn, (split_first_eq n).ge⟩
    · refine h.later rfl fun x hx => ⟨x, ?_, le_rfl⟩
      rcases List.mem_cons.mp hx with rfl | hx
      · exact List.mem_cons_self
      · exact hpending x (hrest x hx)
    · refine h.later rfl fun x hx => ?_
      rcases List.mem_cons.mp hx with rfl | hx
      · exact ⟨c, List.mem_cons_self, (split_first_eq c).ge⟩
      · rcases mem_of_mem_splitCurrent hx with hx | rfl
        · exact ⟨x, hpending x ((hmem x).mpr (List.mem_cons.mp hx)), le_rfl⟩
        · exact ⟨c, List.mem_cons_self, (split_first_lt c).le⟩

lemma placed_starts {s : NetworkSpace} {r : Sweep} (h : Starts s r) : Placed r := by
  obtain ⟨-⟩ := h
  exact ⟨by simp, List.Pairwise.nil⟩

/-- What holds at the start of the sweep and survives each round on networks in order holds
throughout. -/
lemma sweep_invariant {v : Bool} {I : Sweep → Prop} {s : NetworkSpace} {r t : Sweep}
    (hv : ∀ x ∈ s.mIpAddresses, x.isV4 = v) (hr : Starts s r) (hI : I r)
    (hstep : ∀ w t u, Ordered w t → I t → Round t u → I u) (h : ReflTransGen Round r t) : I t := by
  obtain ⟨w, ho⟩ := ordered_starts hv hr
  refine (Runs.invariant (I := fun t => Ordered w t ∧ I t) ⟨ho, hI⟩ ?_ h).2
  rintro t u - ⟨ho, hI⟩ hround
  refine ⟨?_, hstep w t u ho hI hround⟩
  obtain ⟨hp⟩ := hround
  exact (ordered_loopBody ho rfl hp).1

/-- A property that the halves of a network have with it holds of what a round leaves. -/
lemma forall_loopBody {P : IpAddress → Prop} (hsplit : ∀ x, P x → P x.split.1 ∧ P x.split.2)
    {next : Option IpAddress} (hp : Poll M next rest)
    (h : ∀ x ∈ done ++ Sweep.pending ⟨some c, M, done⟩, P x) :
    ∀ x ∈ (loopBody c next rest done).ipsDone ++ (loopBody c next rest done).pending, P x := by
  have hdone : ∀ x ∈ done, P x := fun x hx => h x (List.mem_append_left _ hx)
  have hc : P c := h c (by simp [Sweep.pending])
  have hM : ∀ x ∈ M, P x := fun x hx => h x (by simp [Sweep.pending, hx])
  have hadd : ∀ x ∈ treeAdd done c, P x := fun x hx => by
    rcases mem_of_mem_treeAdd hx with rfl | hx
    · exact hc
    · exact hdone x hx
  have hof : ∀ {d q : List IpAddress} {cur : Option IpAddress}, (∀ x ∈ d, P x) →
      (∀ x ∈ cur.toList, P x) → (∀ x ∈ q, P x) → ∀ x ∈ d ++ Sweep.pending ⟨cur, q, d⟩, P x :=
    fun hd hcur hq x hx => by
      simp only [Sweep.pending, List.mem_append] at hx
      rcases hx with hx | hx | hx
      · exact hd x hx
      · exact hcur x hx
      · exact hq x hx
  cases next with
  | none =>
    cases hp
    exact hof hadd (by simp) (by simp)
  | some n =>
    have hn : P n := hM n (hp.mem_iff.mpr (.inl rfl))
    have hrest : ∀ x ∈ rest, P x := fun x hx => hM x (hp.mem_iff.mpr (.inr hx))
    simp only [loopBody]
    split_ifs
    · exact hof hadd (by simpa using hn) hrest
    · exact hof hdone (by simpa using hn) hrest
    · refine hof hdone (by simpa using hc) fun x hx => ?_
      rcases mem_of_mem_splitNext hx with hx | rfl | ⟨rfl, -⟩
      · exact hrest x hx
      · exact (hsplit n hn).2
      · exact (hsplit n hn).1
    · exact hof hdone (by simpa using hc) hrest
    · refine hof hdone (by simpa using (hsplit c hc).1) fun x hx => ?_
      rcases mem_of_mem_splitCurrent hx with hx | rfl
      · exact hM x (hp.mem_iff.mpr (List.mem_cons.mp hx))
      · exact (hsplit c hc).2

lemma forall_starts {P : IpAddress → Prop} {s : NetworkSpace} {r : Sweep}
    (hP : ∀ x ∈ s.mIpAddresses, P x) (h : Starts s r) : ∀ x ∈ r.ipsDone ++ r.pending, P x := by
  obtain @⟨first, rest, hp⟩ := h
  cases first with
  | none =>
    rw [poll_none hp]
    simp [Sweep.pending]
  | some c => exact fun x hx => hP x (hp.mem_iff.mpr (by simpa [Sweep.pending] using hx))

/-- A property that the halves of a network have with it passes from a set to the list that is
made of it. -/
lemma forall_generates {P : IpAddress → Prop} (hsplit : ∀ x, P x → P x.split.1 ∧ P x.split.2)
    {v : Bool} {s : NetworkSpace} {l : List IpAddress} (hv : ∀ x ∈ s.mIpAddresses, x.isV4 = v)
    (hP : ∀ x ∈ s.mIpAddresses, P x) (h : Generates s l) : ∀ x ∈ l, P x := by
  obtain ⟨r, q, hr, ht⟩ := h
  have hend : ∀ x ∈ l ++ Sweep.pending ⟨none, q, l⟩, P x := by
    refine sweep_invariant (I := fun t => ∀ x ∈ t.ipsDone ++ t.pending, P x) hv hr
      (forall_starts hP hr) ?_ ht
    rintro w t u - hI ⟨hp⟩
    exact forall_loopBody hsplit hp hI
  exact fun x hx => hend x (List.mem_append_left _ hx)

lemma placed_generates {v : Bool} {s : NetworkSpace} {l : List IpAddress}
    (hv : ∀ x ∈ s.mIpAddresses, x.isV4 = v) (h : Generates s l) : Ascending l := by
  obtain ⟨r, q, hr, ht⟩ := h
  refine (sweep_invariant hv hr (placed_starts hr) ?_ ht).ascending
  rintro w t u ho hI ⟨hp⟩
  exact placed_loopBody hI ho rfl hp

/-- **The sweep ends with disjoint networks**: no run of the loop goes on for ever or gets stuck,
and the ranges of the networks it returns ascend and have no address in common. -/
theorem generateIPList_disjoint (s : NetworkSpace)
    (hvalid : ∃ isV4, ∀ x ∈ s.mIpAddresses, x.Valid isV4) :
    (∀ r, Starts s r → Runs.Terminates Round r ∧
      ∀ t, ReflTransGen Round r t → t.currentNet ≠ none → ∃ u, Round t u) ∧
    (∃ l, Generates s l) ∧ ∀ l, Generates s l → Ascending l ∧ Apart l := by
  obtain ⟨v, hv⟩ := hvalid
  have hfam : ∀ x ∈ s.mIpAddresses, x.isV4 = v := fun x hx => (hv x hx).family
  refine ⟨fun r hr => ⟨sweep_terminates hfam hr, fun t _ ht => ?_⟩, exists_generates hfam,
    fun l hl => ?_⟩
  · obtain ⟨_ | c, q, done⟩ := t
    · exact absurd rfl ht
    · obtain ⟨next, rest, hp⟩ := exists_poll q
      exact ⟨_, ⟨hp⟩⟩
  · have hasc := placed_generates hfam hl
    exact ⟨hasc, hasc.apart⟩

/-- The ranges are disjoint on `nestedException` as well, where the sweep excludes an address that
the set includes. -/
theorem nestedException_disjoint : (∃ l, Generates nestedException l) ∧
    ∀ l, Generates nestedException l → Ascending l ∧ Apart l := by
  refine (generateIPList_disjoint nestedException ⟨true, ?_⟩).2
  simp only [nestedException, List.mem_cons, List.not_mem_nil, or_false, forall_eq_or_imp,
    forall_eq]
  exact ⟨⟨rfl, by decide, by decide⟩, ⟨rfl, by decide, by decide⟩, ⟨rfl, by decide, by decide⟩⟩

end BuludTechVPN.Space
