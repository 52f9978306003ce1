import BuludTechVPN.SweepRanges

/-!
The routes before KitKat: when the included networks that `getPositiveIPList` adds again leave
the routed addresses as they are.
-/

namespace BuludTechVPN.Space

open IpAddress Relation

variable {v : Bool} {w a : ℤ} {S M done rest : List IpAddress} {c n x y : IpAddress}

/-- An address is in one of the networks. -/
def Covered (l : List IpAddress) (a : ℤ) : Prop := ∃ x ∈ l, x.Contains a

/-! ### The sweep covers what it is given -/

lemma split_covers (h : x.Contains a) : x.split.1.Contains a ∨ x.split.2.Contains a := by
  have h1 := split_first_eq x
  have h2 := split_second_first x
  have h3 := split_bits x
  have hl := last_eq_first x
  have hl1 := last_eq_first x.split.1
  have hl2 := last_eq_first x.split.2
  have hpow : (2 : ℤ) ^ x.bits ≤ 2 * 2 ^ (x.bits - 1) := by
    rw [← pow_succ']
    exact pow_le_pow_right₀ (by norm_num) (by omega)
  simp only [h3] at hl1 hl2
  unfold IpAddress.Contains at h ⊢
  omega

/-- A network with the range of another has its addresses. -/
lemma contains_congr (hw : x.width = y.width) (hm : x.networkMask = y.networkMask)
    (hf : x.getFirstAddress = y.getFirstAddress) : x.Contains a ↔ y.Contains a := by
  have hb : x.bits = y.bits := by
    unfold bits numBits
    rw [hw, hm]
  rw [contains_iff, contains_iff, hb, hf]

/-- What the sweep was given is covered by what is placed and what is pending. If a queued network
is a part of `currentNet` that begins with it, a network with the range of the upper half is queued
as well. -/
structure Covers (S : List IpAddress) (s : Sweep) : Prop where
  covers : ∀ a, Covered S a → Covered (s.ipsDone ++ s.pending) a
  upper : ∀ c, s.currentNet = some c → ∀ y ∈ s.networks,
    y.getFirstAddress = c.getFirstAddress → c.networkMask < y.networkMask →
      ∃ z ∈ s.networks, z.networkMask = c.split.2.networkMask ∧
        z.getFirstAddress = c.split.2.getFirstAddress

lemma covered_of {l l' : List IpAddress} (h : ∀ x ∈ l, ∀ a, x.Contains a → Covered l' a)
    (ha : Covered l a) : Covered l' a := by
  obtain ⟨x, hx, hxa⟩ := ha
  exact h x hx a hxa

lemma covered_push (hw : ∀ y ∈ M, y.width = x.width) (h : x.Contains a) :
    Covered (pushUnlessContained M x) a := by
  by_cases hq : queueContains M x = true
  · obtain ⟨y, hy, hm, hf⟩ := queueContains_iff.mp hq
    exact ⟨y, mem_pushUnlessContained.mpr (.inr hy), (contains_congr (hw y hy) hm hf).mpr h⟩
  · exact ⟨x, mem_pushUnlessContained.mpr (.inl ⟨rfl, by simpa using hq⟩), h⟩

lemma mem_push_of_mem (h : y ∈ M) : y ∈ pushUnlessContained M x :=
  mem_pushUnlessContained.mpr (.inr h)

lemma mem_splitNext_of_mem (h : y ∈ rest) : y ∈ splitNext c n rest := by
  unfold splitNext
  simp only
  split_ifs
  · exact mem_push_of_mem h
  · exact mem_push_of_mem (mem_push_of_mem h)

/-- `nextNet` is covered by what its split leaves in the queue, and by `currentNet`. -/
lemma covered_splitNext (hw : ∀ y ∈ n :: rest, y.width = w) (hf : c.getFirstAddress = n.getFirstAddress)
    (h : n.Contains a) : Covered (c :: splitNext c n rest) a := by
  have hn := hw n List.mem_cons_self
  have hrest : ∀ y ∈ rest, y.width = n.split.2.width := fun y hy =>
    (hw y (List.mem_cons_of_mem _ hy)).trans hn.symm
  have hpush : ∀ y ∈ pushUnlessContained rest n.split.2, y.width = n.split.1.width := fun y hy => by
    rcases mem_pushUnlessContained.mp hy with ⟨rfl, -⟩ | hy
    · rfl
    · exact hrest y hy
  unfold splitNext
  simp only
  rcases split_covers h with h1 | h2
  · split_ifs with hl
    · refine ⟨c, List.mem_cons_self, ?_⟩
      have hs := split_first_eq n
      unfold IpAddress.Contains at h1 ⊢
      omega
    · obtain ⟨y, hy, hya⟩ := covered_push hpush h1
      exact ⟨y, List.mem_cons_of_mem _ hy, hya⟩
  · obtain ⟨y, hy, hya⟩ := covered_push hrest h2
    split_ifs
    · exact ⟨y, List.mem_cons_of_mem _ hy, hya⟩
    · exact ⟨y, List.mem_cons_of_mem _ (mem_push_of_mem hy), hya⟩

/-- `nextNet` begins inside `currentNet`, which is not its lower part: then it lies in it. -/
lemma inside_of_not_startsInside (hw : c.width = n.width) (hle : c.getFirstAddress ≤ n.getFirstAddress)
    (hlast : ¬ c.getLastAddress < n.getFirstAddress) (hin : ¬ startsInside c n = true) :
    ∀ a, n.Contains a → c.Contains a := by
  have hbits : n.bits ≤ c.bits := by
    by_contra hlt
    simp only [startsInside, decide_eq_true_eq] at hin
    have hn := nested_of_bits (by omega) (contains_first n : n.Contains n.getFirstAddress)
      (⟨hle, not_lt.mp hlast⟩ : c.Contains n.getFirstAddress)
    refine hin ⟨le_antisymm hle hn.1, ?_⟩
    unfold bits numBits at hlt
    omega
  intro a ha
  have hn := nested_of_bits hbits (⟨hle, not_lt.mp hlast⟩ : c.Contains n.getFirstAddress)
    (contains_first n)
  exact ⟨hn.1.trans ha.1, ha.2.trans hn.2⟩

/-- Where a half is not queued, one with its range is. -/
lemma exists_upper_splitNext : ∃ z ∈ splitNext c n rest, z.networkMask = n.split.2.networkMask ∧
    z.getFirstAddress = n.split.2.getFirstAddress := by
  have hz : ∃ z ∈ pushUnlessContained rest n.split.2, z.networkMask = n.split.2.networkMask ∧
      z.getFirstAddress = n.split.2.getFirstAddress := by
    by_cases hq : queueContains rest n.split.2 = true
    · obtain ⟨z, hz, h⟩ := queueContains_iff.mp hq
      exact ⟨z, mem_push_of_mem hz, h⟩
    · exact ⟨_, mem_pushUnlessContained.mpr (.inl ⟨rfl, by simpa using hq⟩), rfl, rfl⟩
  obtain ⟨z, hz, h⟩ := hz
  refine ⟨z, ?_, h⟩
  unfold splitNext
  simp only
  split_ifs
  · exact hz
  · exact mem_push_of_mem hz

lemma split_second_congr (hw : x.width = y.width) (hm : x.networkMask = y.networkMask)
    (hf : x.getFirstAddress = y.getFirstAddress) :
    x.split.2.getFirstAddress = y.split.2.getFirstAddress := by
  have hb : x.split.1.bits = y.split.1.bits := by
    rw [(split_bits x).1, (split_bits y).1]
    unfold bits numBits
    rw [hw, hm]
  rw [split_second_first, split_second_first, last_eq_first, last_eq_first, split_first_eq,
    split_first_eq, hb, hf]

section Round

variable (h : Covers S ⟨some c, M, done⟩) (ho : Ordered w ⟨some c, M, done⟩)
  (hp : Poll M (some n) rest)
include h ho hp

lemma covers_splitNext (hin : startsInside c n = true) :
    Covers S ⟨some c, splitNext c n rest, done⟩ := by
  have hn : n ∈ M := hp.mem_iff.mpr (.inl rfl)
  have hwidth : ∀ y ∈ n :: rest, y.width = w := fun y hy =>
    ho.width y (List.mem_cons_of_mem _ (hp.mem_iff.mpr (List.mem_cons.mp hy)))
  have hcw := ho.width c List.mem_cons_self
  simp only [startsInside, decide_eq_true_eq] at hin
  constructor
  · refine fun a ha => covered_of (fun x hx a hxa => ?_) (h.covers a ha)
    have hold : ∀ y ∈ done ++ c :: splitNext c n rest, y.Contains a →
        Covered (done ++ Sweep.pending ⟨some c, splitNext c n rest, done⟩) a := fun y hy hya =>
      ⟨y, hy, hya⟩
    simp only [Sweep.pending, Option.toList_some, List.cons_append, List.nil_append,
      List.mem_append, List.mem_cons, hp.mem_iff] at hx
    rcases hx with hx | rfl | rfl | hx
    · exact hold x (List.mem_append_left _ hx) hxa
    · exact hold x (List.mem_append_right _ List.mem_cons_self) hxa
    · obtain ⟨y, hy, hya⟩ := covered_splitNext hwidth hin.1 hxa
      exact hold y (List.mem_append_right _ hy) hya
    · exact hold x (List.mem_append_right _
        (List.mem_cons_of_mem _ (mem_splitNext_of_mem hx))) hxa
  · rintro _ ⟨rfl⟩ y hy hyf hym
    rcases mem_of_mem_splitNext hy with hy | rfl | ⟨rfl, -⟩
    · obtain ⟨z, hz, hzm, hzf⟩ := h.upper c rfl y (hp.mem_iff.mpr (.inr hy)) hyf hym
      refine ⟨z, mem_splitNext_of_mem ((hp.mem_iff.mp hz).resolve_left ?_), hzm, hzf⟩
      rintro rfl
      have := split_first_lt c
      omega
    · have := split_first_lt n
      omega
    · -- the queued half is a part of `currentNet` only if that has the range of `nextNet`
      have hm := split_mask n
      have hcn : c.networkMask = n.networkMask := by omega
      obtain ⟨z, hz, hzm, hzf⟩ : ∃ z ∈ splitNext c n rest,
          z.networkMask = n.split.2.networkMask ∧ z.getFirstAddress = n.split.2.getFirstAddress :=
        exists_upper_splitNext
      refine ⟨z, hz, by rw [hzm, hm.2, (split_mask c).2, hcn], ?_⟩
      rw [hzf, split_second_congr (hcw.trans (hwidth n List.mem_cons_self).symm) hcn hin.1]

lemma covers_splitCurrent (hap : ¬ c.getLastAddress < n.getFirstAddress)
    (hin : ¬ startsInside c n = true) :
    Covers S ⟨some c.split.1, splitCurrent c n rest, done⟩ := by
  have hn : n ∈ M := hp.mem_iff.mpr (.inl rfl)
  have hnw := ho.width n (List.mem_cons_of_mem _ hn)
  have hcw := ho.width c List.mem_cons_self
  have hcn := ho.first c rfl n hn
  have hs1 := split_first_eq c
  have hs2 := split_first_lt c
  have hm := split_mask c
  have hmem : ∀ y ∈ n :: rest, y ∈ splitCurrent c n rest := fun y hy => by
    unfold splitCurrent
    simp only
    split_ifs
    · exact hy
    · rcases List.mem_cons.mp hy with rfl | hy
      · exact List.mem_cons_self
      · exact List.mem_cons_of_mem _ (List.mem_cons_of_mem _ hy)
  -- the upper half is queued, or a network with its range is
  have hupper : ∃ z ∈ splitCurrent c n rest, z.width = c.split.2.width ∧
      z.networkMask = c.split.2.networkMask ∧ z.getFirstAddress = c.split.2.getFirstAddress := by
    by_cases he : c.split.2.networkMask = n.networkMask
    · by_cases hf : n.getFirstAddress = c.getFirstAddress
      · obtain ⟨z, hz, hzm, hzf⟩ := h.upper c rfl n hn hf (by omega)
        refine ⟨z, hmem z (List.mem_cons.mpr (hp.mem_iff.mp hz)), ?_, hzm, hzf⟩
        exact (ho.width z (List.mem_cons_of_mem _ hz)).trans hcw.symm
      · refine ⟨n, hmem n List.mem_cons_self, hnw.trans hcw.symm, he.symm, ?_⟩
        have hcont : c.Contains n.getFirstAddress := ⟨hcn, not_lt.mp hap⟩
        have hb : ∀ x : IpAddress, x.width = c.width → x.networkMask = n.networkMask →
            x.Contains n.getFirstAddress → n.getFirstAddress = x.getFirstAddress := fun x hxw hxm hx => by
          have hbits : x.bits = n.bits := by
            unfold bits numBits
            rw [hxw, hxm, hcw, hnw]
          rw [← contains_iff.mp hx, hbits, contains_iff.mp (contains_first n)]
        rcases split_covers hcont with h1 | h2
        · exact absurd ((hb c.split.1 rfl (by omega) h1).trans hs1) hf
        · exact hb c.split.2 rfl he h2
    · refine ⟨c.split.2, ?_, rfl, rfl, rfl⟩
      unfold splitCurrent
      simp [he]
  constructor
  · refine fun a ha => covered_of (fun x hx a hxa => ?_) (h.covers a ha)
    have hold : ∀ y ∈ done ++ c.split.1 :: splitCurrent c n rest, y.Contains a →
        Covered (done ++ Sweep.pending ⟨some c.split.1, splitCurrent c n rest, done⟩) a :=
      fun y hy hya => ⟨y, hy, hya⟩
    simp only [Sweep.pending, Option.toList_some, List.cons_append, List.nil_append,
      List.mem_append, List.mem_cons, hp.mem_iff] at hx
    rcases hx with hx | rfl | hx
    · exact hold x (List.mem_append_left _ hx) hxa
    · rcases split_covers hxa with h1 | h2
      · exact hold _ (List.mem_append_right _ List.mem_cons_self) h1
      · obtain ⟨z, hz, hzw, hzm, hzf⟩ := hupper
        exact hold z (List.mem_append_right _ (List.mem_cons_of_mem _ hz))
          ((contains_congr hzw hzm hzf).mpr h2)
    · exact hold x (List.mem_append_right _ (List.mem_cons_of_mem _
        (hmem x (List.mem_cons.mpr hx)))) hxa
  · rintro _ ⟨rfl⟩ y hy hyf hym
    exfalso
    rcases mem_of_mem_splitCurrent hy with hy | rfl
    · have := (ho.mask c rfl y (hp.mem_iff.mpr (List.mem_cons.mp hy)) (by omega)).1
      omega
    · omega

end Round

/-- **One round** keeps what is covered. -/
theorem covers_loopBody {s : Sweep} {next : Option IpAddress} (h : Covers S s) (hpl : Placed s)
    (ho : Ordered w s) (hs : s.currentNet = some c) (hp : Poll s.networks next rest) :
    Covers S (loopBody c next rest s.ipsDone) := by
  obtain ⟨cur, q, done⟩ := s
  obtain rfl : cur = some c := hs
  have hadd : treeAdd done c = done ++ [c] := treeAdd_last fun d hd =>
    (first_le_last d).trans_lt (hpl.before d hd c List.mem_cons_self)
  cases next with
  | none =>
    cases hp
    exact ⟨fun a ha => by simpa [loopBody, hadd, Sweep.pending] using h.covers a ha, by
      simp [loopBody]⟩
  | some n =>
    have hmem : ∀ x, x ∈ q ↔ x = n ∨ x ∈ rest := fun x => hp.mem_iff
    have hn : n ∈ q := (hmem n).mpr (.inl rfl)
    have hwcn : c.width = n.width := (ho.width c List.mem_cons_self).trans
      (ho.width n (List.mem_cons_of_mem _ hn)).symm
    -- no queued network is a part of the one polled that begins with it
    have hleast : ∀ c', some n = some c' → ∀ y ∈ rest,
        y.getFirstAddress = c'.getFirstAddress → ¬ c'.networkMask < y.networkMask := by
      rintro _ ⟨rfl⟩ y hy hyf hym
      have hle := compareTo_le_iff.mp (hp.le y ((hmem y).mpr (.inr hy)))
      omega
    simp only [loopBody]
    split_ifs with h1 h2 h3 h4
    · refine ⟨fun a ha => covered_of (fun x hx a hxa => ⟨x, ?_, hxa⟩) (h.covers a ha),
        fun c' hc y hy hf hm => absurd hm (hleast c' hc y hy hf)⟩
      simp only [Sweep.pending, Option.toList_some, List.cons_append, List.nil_append,
        List.mem_append, List.mem_cons, hmem] at hx
      simp only [Sweep.pending, hadd, Option.toList_some, List.cons_append, List.nil_append,
        List.mem_append, List.mem_cons, List.not_mem_nil, or_false]
      tauto
    · refine ⟨fun a ha => covered_of (fun x hx a hxa => ?_) (h.covers a ha),
        fun c' hc y hy hf hm => absurd hm (hleast c' hc y hy hf)⟩
      simp only [startsInside, decide_eq_true_eq] at h2
      simp only [Sweep.pending, Option.toList_some, List.cons_append, List.nil_append,
        List.mem_append, List.mem_cons, hmem] at hx
      rcases hx with hx | rfl | hx
      · exact ⟨x, List.mem_append_left _ hx, hxa⟩
      · have hbits : x.bits ≤ n.bits := by
          unfold bits numBits
          omega
        have hsub := nested_of_bits hbits (h2.1 ▸ contains_first n) (contains_first x)
        exact ⟨n, List.mem_append_right _ List.mem_cons_self, hsub.1.trans hxa.1,
          hxa.2.trans hsub.2⟩
      · exact ⟨x, List.mem_append_right _ (List.mem_cons.mpr hx), hxa⟩
    · exact covers_splitNext h ho hp h2
    · refine ⟨fun a ha => covered_of (fun x hx a hxa => ?_) (h.covers a ha), ?_⟩
      · simp only [Sweep.pending, Option.toList_some, List.cons_append, List.nil_append,
          List.mem_append, List.mem_cons, hmem] at hx
        rcases hx with hx | rfl | rfl | hx
        · exact ⟨x, List.mem_append_left _ hx, hxa⟩
        · exact ⟨x, List.mem_append_right _ List.mem_cons_self, hxa⟩
        · exact ⟨c, List.mem_append_right _ List.mem_cons_self,
            inside_of_not_startsInside hwcn (ho.first c rfl x hn) h1 h2 a hxa⟩
        · exact ⟨x, List.mem_append_right _ (List.mem_cons_of_mem _ hx), hxa⟩
      · rintro _ ⟨rfl⟩ y hy hyf hym
        obtain ⟨z, hz, hzm, hzf⟩ := h.upper c rfl y ((hmem y).mpr (.inr hy)) hyf hym
        refine ⟨z, ((hmem z).mp hz).resolve_left ?_, hzm, hzf⟩
        rintro rfl
        have hle := compareTo_le_iff.mp (hp.le y ((hmem y).mpr (.inr hy)))
        have := split_first_lt c
        omega
    · exact covers_splitCurrent h ho hp h1 h2

lemma poll_none_nil (h : Poll M none rest) : M = [] := by
  generalize hn : (none : Option IpAddress) = next at h
  cases h with
  | empty => rfl
  | least hx hle => simp at hn

lemma covers_starts {s : NetworkSpace} {r : Sweep} (h : Starts s r) : Covers s.mIpAddresses r := by
  obtain @⟨first, rest, hp⟩ := h
  cases first with
  | none =>
    rw [poll_none_nil hp]
    exact ⟨fun a ⟨x, hx, _⟩ => absurd hx List.not_mem_nil, by simp⟩
  | some c =>
    constructor
    · refine fun a ha => covered_of (fun x hx a hxa => ⟨x, ?_, hxa⟩) ha
      simpa [Sweep.pending] using hp.mem_iff.mp hx
    · rintro _ ⟨rfl⟩ y hy hyf hym
      have hle := compareTo_le_iff.mp (hp.le y (hp.mem_iff.mpr (.inr hy)))
      omega

/-- The sweep of networks of one family returns networks of that family. -/
lemma family_generates {s : NetworkSpace} {l : List IpAddress}
    (hv : ∀ x ∈ s.mIpAddresses, x.isV4 = v) (h : Generates s l) : ∀ x ∈ l, x.isV4 = v :=
  forall_generates (fun _ hx => ⟨hx, hx⟩) hv hv h

/-- A loop that has ended has nothing queued. -/
def Ended (s : Sweep) : Prop := s.currentNet = none → s.networks = []

lemma ended_loopBody {next : Option IpAddress} (hp : Poll M next rest) :
    Ended (loopBody c next rest done) := by
  cases next with
  | none => exact fun _ => poll_none hp
  | some n =>
    intro h
    simp only [loopBody] at h
    split_ifs at h

lemma ended_starts {s : NetworkSpace} {r : Sweep} (h : Starts s r) : Ended r := by
  obtain @⟨first, rest, hp⟩ := h
  rintro rfl
  exact poll_none hp

/-- **The sweep loses no address**: the networks it returns cover what the set does. -/
theorem covered_generates {s : NetworkSpace} {l : List IpAddress}
    (hv : ∀ x ∈ s.mIpAddresses, x.isV4 = v) (h : Generates s l) (ha : Covered s.mIpAddresses a) :
    Covered l a := by
  obtain ⟨r, q, hr, ht⟩ := h
  have hend : (Covers s.mIpAddresses ⟨none, q, l⟩ ∧ Placed ⟨none, q, l⟩) ∧
      Ended ⟨none, q, l⟩ := by
    refine sweep_invariant (I := fun t => (Covers s.mIpAddresses t ∧ Placed t) ∧ Ended t) hv hr
      ⟨⟨covers_starts hr, placed_starts hr⟩, ended_starts hr⟩ ?_ ht
    rintro w t u ho ⟨⟨hc, hpl⟩, -⟩ ⟨hp⟩
    exact ⟨⟨covers_loopBody hc hpl ho rfl hp, placed_loopBody hpl ho rfl hp⟩, ended_loopBody hp⟩
  obtain ⟨x, hx, hxa⟩ := hend.1.1.covers a ha
  obtain rfl : q = [] := hend.2 rfl
  exact ⟨x, by simpa [Sweep.pending] using hx, hxa⟩

/-! ### The networks that are added again -/

/-- No included network of the set lies inside a larger one that the list excludes. -/
def NoneInsideExcluded (mIpAddresses ipsSorted : List IpAddress) : Prop :=
  ∀ origIp ∈ mIpAddresses, origIp.included = true →
    ∀ ip ∈ ipsSorted, ip.included = false → ip.containsNet origIp = true →
      origIp.containsNet ip = true

lemma containsNet_iff : x.containsNet y = true ↔
    x.getFirstAddress ≤ y.getFirstAddress ∧ y.getLastAddress ≤ x.getLastAddress := by
  simp [containsNet]

/-- Two networks that meet are nested. -/
lemma containsNet_or (hx : x.Contains a) (hy : y.Contains a) :
    x.containsNet y = true ∨ y.containsNet x = true := by
  rw [containsNet_iff, containsNet_iff]
  rcases le_total y.bits x.bits with h | h
  · exact .inl (nested_of_bits h hx hy)
  · exact .inr (nested_of_bits h hy hx)

lemma Ascending.eq_of_contains {l : List IpAddress} (h : Ascending l) (hx : x ∈ l) (hy : y ∈ l)
    (hxa : x.Contains a) (hya : y.Contains a) : x = y := by
  have hall := List.Pairwise.forall_of_forall_of_flip
    (R := fun x y : IpAddress => x.Contains a → y.Contains a → x = y) (fun _ _ _ _ => rfl)
    (h.apart.imp fun hxy hx hy => absurd ⟨hx, hy⟩ (hxy a))
    (h.apart.imp fun hxy hy hx => absurd ⟨hx, hy⟩ (hxy a)) hx hy
  exact hall hxa hya

section Fallback

variable {S l : List IpAddress}

/-- The networks that the fallback adds. -/
def addedAgain (mIpAddresses ipsSorted : List IpAddress) : List IpAddress :=
  mIpAddresses.filter fun origIp =>
    origIp.included && !(ipsSorted.any fun ia => origIp.compareTo ia = 0) &&
      !(ipsSorted.any fun calculatedIp =>
        !calculatedIp.included && origIp.containsNet calculatedIp)

lemma mem_addedAgain {o : IpAddress} : o ∈ addedAgain S l ↔ o ∈ S ∧ o.included = true ∧
    (∀ x ∈ l, o.compareTo x ≠ 0) ∧ ∀ x ∈ l, x.included = false → ¬ o.containsNet x = true := by
  simp only [addedAgain, List.mem_filter, Bool.and_eq_true, Bool.not_eq_true', List.any_eq_false,
    decide_eq_true_eq, Bool.and_eq_true, Bool.not_eq_true', and_assoc, not_and, ne_eq]

/-- Where no included network lies inside a larger excluded one, nothing is covered again that
the list does not include. -/
lemma covered_addedAgain (hcov : ∀ a, Covered S a → Covered l a) (hn : NoneInsideExcluded S l)
    (ha : Covered (addedAgain S l) a) :
    Covered (l.filter fun ia => ia.included) a := by
  obtain ⟨o, ho, hoa⟩ := ha
  obtain ⟨hoS, hoi, -, hex⟩ := mem_addedAgain.mp ho
  obtain ⟨x, hx, hxa⟩ := hcov a ⟨o, hoS, hoa⟩
  cases hxi : x.included with
  | true => exact ⟨x, by simp [hx, hxi], hxa⟩
  | false =>
    exfalso
    refine hex x hx hxi ?_
    rcases containsNet_or hoa hxa with h | h
    · exact h
    · exact hn o hoS hoi x hx hxi h

/-- An included network inside a larger excluded one is added again. -/
lemma addedAgain_of_inside {o x : IpAddress} (hl : Ascending l) (hlv : ∀ x ∈ l, x.isV4 = o.isV4)
    (ho : o ∈ S) (hoi : o.included = true) (hx : x ∈ l) (hxo : x.containsNet o = true) (hox : ¬ o.containsNet x = true) :
    o ∈ addedAgain S l := by
  have hcont : ∀ a, o.Contains a → x.Contains a := fun a ha => by
    have h := containsNet_iff.mp hxo
    exact ⟨h.1.trans ha.1, ha.2.trans h.2⟩
  refine mem_addedAgain.mpr ⟨ho, hoi, fun y hy he => hox ?_, fun y hy _ hoy => hox ?_⟩
  · -- a network of the list with the range of `o` would meet `x`
    obtain ⟨hf, hm⟩ := compareTo_eq_zero_iff.mp he
    have hw : o.width = y.width := by
      unfold width
      rw [hlv y hy]
    have hya := (contains_congr hw hm hf).mp (contains_first o)
    obtain rfl := hl.eq_of_contains hx hy (hcont _ (contains_first o)) hya
    have hlast : o.getLastAddress = x.getLastAddress := by
      rw [last_eq_first, last_eq_first, hf]
      unfold bits numBits
      rw [hw, hm]
    exact containsNet_iff.mpr ⟨hf.le, hlast.ge⟩
  · have hya : o.Contains y.getFirstAddress := by
      have h := containsNet_iff.mp hoy
      exact ⟨h.1, (first_le_last y).trans h.2⟩
    obtain rfl := hl.eq_of_contains hx hy (hcont _ hya) (contains_first y)
    exact hoy

end Fallback

/-- **Old and new Android route the same addresses**, exactly if no included network of the set
lies inside a larger network that the computed list excludes. -/
theorem fallback_covers_same (q : PriorityQueue) (s : Routes v) {before after : ℤ}
    (hb : before < kitkat) (ha : kitkat ≤ after) :
    (∀ a, Covered (s.getPositiveIPList before q) a ↔ Covered (s.getPositiveIPList after q) a) ↔
      NoneInsideExcluded s.mIpAddresses (s.generateIPList q) := by
  have hgen := generateIPList_generates q s
  have hasc : Ascending (s.generateIPList q) := placed_generates s.family hgen
  have hold : s.getPositiveIPList before q = (s.generateIPList q).filter (fun ia => ia.included) ++
      addedAgain s.mIpAddresses (s.generateIPList q) := if_pos hb
  have hnew : s.getPositiveIPList after q = (s.generateIPList q).filter fun ia => ia.included :=
    if_neg (not_lt.mpr ha)
  rw [hold, hnew]
  constructor
  · intro h o ho hoi x hx hxi hxo
    by_contra hox
    have hadd := addedAgain_of_inside hasc (fun y hy => (family_generates s.family hgen y hy).trans
      (s.family o ho).symm) ho hoi hx hxo hox
    obtain ⟨y, hy, hya⟩ := (h o.getFirstAddress).mp
      ⟨o, List.mem_append_right _ hadd, contains_first o⟩
    obtain ⟨hyl, hyi⟩ := List.mem_filter.mp hy
    have hxa : x.Contains o.getFirstAddress := by
      have hin := containsNet_iff.mp hxo
      exact ⟨hin.1, (first_le_last o).trans hin.2⟩
    obtain rfl := hasc.eq_of_contains hx hyl hxa hya
    rw [hxi] at hyi
    exact Bool.false_ne_true hyi
  · intro hn a
    constructor
    · rintro ⟨x, hx, hxa⟩
      rcases List.mem_append.mp hx with hx | hx
      · exact ⟨x, hx, hxa⟩
      · exact covered_addedAgain (fun a ha => covered_generates s.family hgen ha) hn ⟨x, hx, hxa⟩
    · rintro ⟨x, hx, hxa⟩
      exact ⟨x, List.mem_append_left _ hx, hxa⟩

/-- `hostException` as routes. -/
def hostRoutes : Routes true := ⟨hostException, by decide⟩

/-- 10.0.0.0/31 without 10.0.0.1 is routed alike. -/
theorem hostRoutes_covers_same :
    Covered (hostRoutes.getPositiveIPList 18 .first) =
      Covered (hostRoutes.getPositiveIPList 23 .first) := by
  ext a
  refine (fallback_covers_same .first hostRoutes (by decide) (by decide)).mpr ?_ a
  obtain ⟨r, networks, hr, ht⟩ := generateIPList_generates .first hostRoutes
  have hmem : _ ∈ hostExceptionStates := mem_states (by decide) (by decide) hr ht
  simp only [hostExceptionStates, List.mem_cons, Sweep.mk.injEq, reduceCtorEq, false_and,
    List.not_mem_nil, or_false, false_or, true_and] at hmem
  rw [hmem.2]
  unfold NoneInsideExcluded
  decide

/-- 10.0.0.0/30 through the tunnel, its halves and the network around it past it. -/
def overruled : Routes true where
  mIpAddresses := [⟨167772160, 31, false, true⟩, ⟨167772160, 30, true, true⟩,
    ⟨167772160, 29, false, true⟩, ⟨167772162, 31, false, true⟩]
  sorted := by decide
  family := by decide

/-- The states of the sweep of `overruled`: its list excludes 10.0.0.0/29 and nothing else. -/
def overruledStates : List Sweep :=
  [⟨some ⟨167772160, 31, false, true⟩, [⟨167772160, 30, true, true⟩, ⟨167772160, 29, false, true⟩,
     ⟨167772162, 31, false, true⟩], []⟩,
   ⟨some ⟨167772160, 31, false, true⟩, [⟨167772160, 29, false, true⟩,
     ⟨167772162, 31, false, true⟩], []⟩,
   ⟨some ⟨167772160, 29, false, true⟩, [⟨167772162, 31, false, true⟩], []⟩,
   ⟨some ⟨167772160, 29, false, true⟩, [], []⟩,
   ⟨none, [], [⟨167772160, 29, false, true⟩]⟩]

/-- Before KitKat, 10.0.0.0/30 is routed into the tunnel all the same. -/
theorem overruled_added_again : ¬ ∀ (isV4 : Bool) (q : PriorityQueue) (s : Routes isV4)
    (before after : ℤ), before < kitkat → kitkat ≤ after → ∀ a,
      (Covered (s.getPositiveIPList before q) a ↔ Covered (s.getPositiveIPList after q) a) := by
  intro h
  obtain ⟨r, networks, hr, ht⟩ := generateIPList_generates .first overruled
  have hmem : _ ∈ overruledStates := mem_states (by decide) (by decide) hr ht
  simp only [overruledStates, List.mem_cons, Sweep.mk.injEq, reduceCtorEq, false_and,
    List.not_mem_nil, or_false, false_or, true_and] at hmem
  have hcov := (h true .first overruled 18 23 (by decide) (by decide) 167772160).mp
  unfold Routes.getPositiveIPList Covered at hcov
  rw [hmem.2] at hcov
  revert hcov
  decide

end BuludTechVPN.Space
