import BuludTechVPN.JavaLang
import Mathlib.Data.List.Sublists

/-!
`TrafficHistory`: the samples of the traffic counters in seconds, minutes and hours, and the
figures that `VpnStatus` reports from them.

A point is promoted to the next list when it begins a new period, and only then are the points
of the list before it pruned.
-/

namespace BuludTechVPN.Traffic

open JavaLang

structure TrafficDatapoint where
  inBytes : ℤ
  outBytes : ℤ
  timestamp : ℤ
  deriving DecidableEq, Repr

structure LastDiff where
  lasttdp : TrafficDatapoint
  tdp : TrafficDatapoint
  deriving DecidableEq, Repr

namespace LastDiff

def getDiffOut (d : LastDiff) : ℤ := max 0 (toLong (d.tdp.outBytes - d.lasttdp.outBytes))
def getDiffIn (d : LastDiff) : ℤ := max 0 (toLong (d.tdp.inBytes - d.lasttdp.inBytes))
def getIn (d : LastDiff) : ℤ := d.tdp.inBytes
def getOut (d : LastDiff) : ℤ := d.tdp.outBytes

end LastDiff

structure TrafficHistory where
  trafficHistorySeconds : List TrafficDatapoint
  trafficHistoryMinutes : List TrafficDatapoint
  trafficHistoryHours : List TrafficDatapoint
  lastSecondUsedForMinute : Option TrafficDatapoint
  lastMinuteUsedForHours : Option TrafficDatapoint
  deriving DecidableEq, Repr

def periodsToKeep : ℤ := 5
def timePeriodMinutes : ℤ := 60 * 1000
def timePeriodHours : ℤ := 3600 * 1000

namespace TrafficHistory

/-- `new TrafficHistory()`. -/
def new : TrafficHistory := ⟨[], [], [], none, none⟩

/-- `getLastDiff`, at the time `now`. Without a point, the iterators are asked for their first
element, which is the last of the list both times. -/
def getLastDiff (now : ℤ) (h : TrafficHistory) (tdp : Option TrafficDatapoint) : LastDiff :=
  let lasttdp := h.trafficHistorySeconds.getLast?.getD ⟨0, 0, now⟩
  match tdp with
  | some tdp => ⟨lasttdp, tdp⟩
  | none =>
    let tdp := lasttdp
    if h.trafficHistorySeconds.length < 2 then ⟨tdp, tdp⟩
    else ⟨lasttdp, h.trafficHistorySeconds.getLast?.getD tdp⟩

/-- A marker that is not set counts as one at the beginning of time. -/
def markerTime (marker : Option TrafficDatapoint) : ℤ := (marker.getD ⟨0, 0, 0⟩).timestamp

/-- A new point begins a period. Java divides towards zero. -/
def BeginsPeriod (timePeriod : ℤ) (lastTsPeriod : Option TrafficDatapoint)
    (newTdp : TrafficDatapoint) : Prop :=
  (markerTime lastTsPeriod).tdiv timePeriod < newTdp.timestamp.tdiv timePeriod

instance (timePeriod : ℤ) (lastTsPeriod : Option TrafficDatapoint) (newTdp : TrafficDatapoint) :
    Decidable (BeginsPeriod timePeriod lastTsPeriod newTdp) :=
  inferInstanceAs (Decidable (_ < _))

/-- The points that are not removed when a new point begins a period. -/
def keep (timePeriod : ℤ) (newTdp : TrafficDatapoint) (tpList : List TrafficDatapoint) :
    List TrafficDatapoint :=
  tpList.filter fun tph => (newTdp.timestamp - tph.timestamp).tdiv timePeriod < periodsToKeep

/-- `removeAndAverage` of the minutes. -/
def removeAndAverageMinutes (newTdp : TrafficDatapoint) (h : TrafficHistory) : TrafficHistory :=
  if BeginsPeriod timePeriodHours h.lastMinuteUsedForHours newTdp then
    { h with
      trafficHistoryHours := h.trafficHistoryHours ++ [newTdp]
      lastMinuteUsedForHours := some newTdp
      trafficHistoryMinutes := keep timePeriodHours newTdp h.trafficHistoryMinutes }
  else h

/-- `removeAndAverage` of the seconds, which goes on to the minutes. -/
def removeAndAverageSeconds (newTdp : TrafficDatapoint) (h : TrafficHistory) : TrafficHistory :=
  if BeginsPeriod timePeriodMinutes h.lastSecondUsedForMinute newTdp then
    let h := removeAndAverageMinutes newTdp { h with
      trafficHistoryMinutes := h.trafficHistoryMinutes ++ [newTdp]
      lastSecondUsedForMinute := some newTdp }
    { h with
      trafficHistorySeconds := keep timePeriodMinutes newTdp h.trafficHistorySeconds }
  else h

def addDataPoint (tdp : TrafficDatapoint) (h : TrafficHistory) : TrafficHistory :=
  let h : TrafficHistory := { h with trafficHistorySeconds := h.trafficHistorySeconds ++ [tdp] }
  let h : TrafficHistory :=
    match h.lastSecondUsedForMinute with
    | none => { h with
        lastSecondUsedForMinute := some ⟨0, 0, 0⟩, lastMinuteUsedForHours := some ⟨0, 0, 0⟩ }
    | some _ => h
  removeAndAverageSeconds tdp h

/-- `add`, of a point that carries the time of the call. -/
def add (h : TrafficHistory) (tdp : TrafficDatapoint) : TrafficHistory × LastDiff :=
  (h.addDataPoint tdp, h.getLastDiff tdp.timestamp (some tdp))

/-- The history after a list of calls. -/
def addAll (calls : List TrafficDatapoint) : TrafficHistory :=
  calls.foldl (fun h tdp => (h.add tdp).1) new

/-- The point of the latest call, and nothing before the first. -/
def newest (calls : List TrafficDatapoint) : TrafficDatapoint := calls.getLast?.getD ⟨0, 0, 0⟩

lemma addAll_concat (calls : List TrafficDatapoint) (tdp : TrafficDatapoint) :
    addAll (calls ++ [tdp]) = ((addAll calls).add tdp).1 := by
  rw [addAll, List.foldl_append]
  rfl

lemma newest_concat (calls : List TrafficDatapoint) (tdp : TrafficDatapoint) :
    newest (calls ++ [tdp]) = tdp := by
  rw [newest, List.getLast?_concat, Option.getD_some]

end TrafficHistory

open TrafficHistory

variable {h : TrafficHistory} {tdp : TrafficDatapoint}

/-! ### What is reported -/

/-- A point that ends a list is not removed on its own account. -/
lemma keep_concat {timePeriod : ℤ} (l : List TrafficDatapoint) :
    keep timePeriod tdp (l ++ [tdp]) = keep timePeriod tdp l ++ [tdp] := by
  rw [keep, List.filter_append, keep]
  congr 1
  rw [List.filter_singleton, sub_self, Int.zero_tdiv]
  rfl

@[simp] lemma removeAndAverageMinutes_seconds :
    (removeAndAverageMinutes tdp h).trafficHistorySeconds = h.trafficHistorySeconds := by
  unfold removeAndAverageMinutes
  split_ifs
  · rfl
  · rfl

@[simp] lemma removeAndAverageMinutes_lastSecond :
    (removeAndAverageMinutes tdp h).lastSecondUsedForMinute = h.lastSecondUsedForMinute := by
  unfold removeAndAverageMinutes
  split_ifs
  · rfl
  · rfl

lemma addDataPoint_seconds (h : TrafficHistory) (tdp : TrafficDatapoint) : ∃ l, l.Sublist h.trafficHistorySeconds ∧
    (h.addDataPoint tdp).trafficHistorySeconds = l ++ [tdp] := by
  have hstep : ∀ g : TrafficHistory,
      g.trafficHistorySeconds = h.trafficHistorySeconds ++ [tdp] →
      ∃ l, l.Sublist h.trafficHistorySeconds ∧
        (removeAndAverageSeconds tdp g).trafficHistorySeconds = l ++ [tdp] := by
    intro g hg
    unfold removeAndAverageSeconds
    split_ifs
    · refine ⟨keep timePeriodMinutes tdp h.trafficHistorySeconds, List.filter_sublist, ?_⟩
      simp only [removeAndAverageMinutes_seconds, hg]
      exact keep_concat _
    · exact ⟨_, .refl _, hg⟩
  unfold addDataPoint
  apply hstep
  simp only
  split
  · rfl
  · rfl

/-- **The newest point is always there**, at the end of the seconds. -/
lemma addAll_getLast? (calls : List TrafficDatapoint) :
    (addAll calls).trafficHistorySeconds.getLast? = calls.getLast? := by
  induction calls using List.reverseRecOn with
  | nil => rfl
  | append_singleton calls tdp _ =>
    obtain ⟨l, -, hl⟩ := addDataPoint_seconds (addAll calls) tdp
    rw [addAll_concat, List.getLast?_concat]
    show ((addAll calls).addDataPoint tdp).trafficHistorySeconds.getLast? = some tdp
    rw [hl, List.getLast?_concat]

lemma lastDiff_inBytes (calls : List TrafficDatapoint) (now : ℤ) :
    ((addAll calls).trafficHistorySeconds.getLast?.getD ⟨0, 0, now⟩).inBytes =
      (newest calls).inBytes := by
  rw [addAll_getLast?, newest]
  cases calls.getLast? with
  | none => rfl
  | some last => rfl

lemma lastDiff_outBytes (calls : List TrafficDatapoint) (now : ℤ) :
    ((addAll calls).trafficHistorySeconds.getLast?.getD ⟨0, 0, now⟩).outBytes =
      (newest calls).outBytes := by
  rw [addAll_getLast?, newest]
  cases calls.getLast? with
  | none => rfl
  | some last => rfl

/-- **What a call returns**: how much the counters have grown since the call before. -/
lemma add_diff (calls : List TrafficDatapoint) (tdp : TrafficDatapoint) :
    ((addAll calls).add tdp).2.getDiffIn =
        max 0 (toLong (tdp.inBytes - (newest calls).inBytes)) ∧
      ((addAll calls).add tdp).2.getDiffOut =
        max 0 (toLong (tdp.outBytes - (newest calls).outBytes)) := by
  rw [← lastDiff_inBytes calls tdp.timestamp, ← lastDiff_outBytes calls tdp.timestamp]
  exact ⟨rfl, rfl⟩

/-- Asked without a point, the history compares the newest point with itself. -/
lemma getLastDiff_none (calls : List TrafficDatapoint) (tdp : TrafficDatapoint) (now : ℤ) :
    (addAll (calls ++ [tdp])).getLastDiff now none = ⟨tdp, tdp⟩ := by
  unfold getLastDiff
  rw [addAll_getLast?, List.getLast?_concat]
  simp only [Option.getD_some]
  split_ifs
  · rfl
  · rfl

/-! ### Listeners -/

/-- The arguments of `ByteCountListener.updateByteCount`. -/
structure Figures where
  inBytes : ℤ
  outBytes : ℤ
  diffIn : ℤ
  diffOut : ℤ
  deriving DecidableEq, Repr

/-- `VpnStatus.updateByteCount`: the history afterwards, and what the listeners are told. -/
def updateByteCount (h : TrafficHistory) (tdp : TrafficDatapoint) : TrafficHistory × Figures :=
  let (h, diff) := h.add tdp
  (h, ⟨tdp.inBytes, tdp.outBytes, diff.getDiffIn, diff.getDiffOut⟩)

/-- `VpnStatus.addByteCountListener`: what the new listener is told. -/
def addByteCountListener (now : ℤ) (h : TrafficHistory) : Figures :=
  let diff := h.getLastDiff now none
  ⟨diff.getIn, diff.getOut, diff.getDiffIn, diff.getDiffOut⟩

lemma max_zero_eq_zero {x : ℤ} : 0 = max 0 x ↔ x ≤ 0 := by omega

/-- **A listener that joins late** is told what the others were, exactly if neither counter had
grown by the latest call. -/
theorem late_listener_iff (calls : List TrafficDatapoint) (tdp : TrafficDatapoint) (now : ℤ) :
    addByteCountListener now (updateByteCount (addAll calls) tdp).1 =
        (updateByteCount (addAll calls) tdp).2 ↔
      toLong (tdp.inBytes - (newest calls).inBytes) ≤ 0 ∧
        toLong (tdp.outBytes - (newest calls).outBytes) ≤ 0 := by
  obtain ⟨hin, hout⟩ := add_diff calls tdp
  have hlate : addByteCountListener now (updateByteCount (addAll calls) tdp).1 =
      ⟨tdp.inBytes, tdp.outBytes, 0, 0⟩ := by
    have hdiff := getLastDiff_none calls tdp now
    rw [addAll_concat] at hdiff
    show addByteCountListener now ((addAll calls).add tdp).1 = _
    simp only [addByteCountListener, hdiff, LastDiff.getIn, LastDiff.getOut, LastDiff.getDiffIn,
      LastDiff.getDiffOut, sub_self]
    rfl
  have hothers : (updateByteCount (addAll calls) tdp).2 = ⟨tdp.inBytes, tdp.outBytes,
      max 0 (toLong (tdp.inBytes - (newest calls).inBytes)),
      max 0 (toLong (tdp.outBytes - (newest calls).outBytes))⟩ := by
    rw [← hin, ← hout]
    rfl
  rw [hlate, hothers, Figures.mk.injEq]
  simp only [true_and, max_zero_eq_zero]

/-- A listener that joins after one call of a running counter is told that nothing has changed. -/
theorem late_listener_zero : ¬ ∀ (calls : List TrafficDatapoint) (tdp : TrafficDatapoint) (now : ℤ),
    ((calls ++ [tdp]).map TrafficDatapoint.timestamp ++ [now]).Pairwise (· ≤ ·) →
    addByteCountListener now (updateByteCount (addAll calls) tdp).1 =
      (updateByteCount (addAll calls) tdp).2 := by
  intro h
  have hfigures := h [⟨1000, 400, 60000⟩] ⟨3000, 500, 62000⟩ 63000 (by decide)
  exact absurd hfigures (by decide)

/-! ### One level of the history -/

/-- The points of a list that is pruned where a period begins, and the points that are taken from
it, at the time `t` of the newest point: `m` is where the current period began. -/
structure Level (period m t : ℤ) (l n : List TrafficDatapoint) : Prop where
  began : m ≤ t
  current : t / period = m / period
  le : ∀ p ∈ l, p.timestamp ≤ t
  kept : ∀ p ∈ l, m - p.timestamp < periodsToKeep * period
  marked : ∀ p ∈ n, p.timestamp / period ≤ m / period
  sampled : n.Pairwise fun p q => p.timestamp / period < q.timestamp / period

section Level

variable {period m t t' : ℤ} {l n : List TrafficDatapoint}

lemma lt_add_period (hp : 0 < period) (h : t / period = m / period) : t < m + period := by
  have ht := Int.emod_add_mul_ediv t period
  have hm := Int.emod_add_mul_ediv m period
  have hlt := Int.emod_lt_of_pos t hp
  have hnonneg := Int.emod_nonneg m hp.ne'
  rw [h] at ht
  omega

/-- **How far a level reaches back**: one period more than is kept when a period begins. -/
lemma Level.span (h : Level period m t l n) (hp : 0 < period) :
    ∀ p ∈ l, ∀ q ∈ l, q.timestamp - p.timestamp < (periodsToKeep + 1) * period := by
  intro p hmem q hmem'
  have hlt := lt_add_period hp h.current
  have hle := h.le q hmem'
  have hkept := h.kept p hmem
  rw [add_mul, one_mul]
  omega

/-- Within the period, nothing is pruned and nothing taken. -/
lemma Level.within (h : Level period m t l n) (ht : t ≤ t') (hc : t' / period = m / period) :
    Level period m t' l n where
  began := h.began.trans ht
  current := hc
  le p hmem := (h.le p hmem).trans ht
  kept := h.kept
  marked := h.marked
  sampled := h.sampled

lemma Level.concat (h : Level period m t l n) (hp : 0 < period) (htdp : tdp.timestamp = t) :
    Level period m t (l ++ [tdp]) n where
  began := h.began
  current := h.current
  le := List.forall_mem_append.mpr ⟨h.le, by simp [htdp]⟩
  kept := by
    refine List.forall_mem_append.mpr ⟨h.kept, ?_⟩
    intro p hmem
    obtain rfl := List.mem_singleton.mp hmem
    have hbegan := h.began
    have hpos : 0 < periodsToKeep * period := mul_pos (by decide) hp
    omega
  marked := h.marked
  sampled := h.sampled

/-- Where a period begins, the list is pruned and the new point taken. -/
lemma Level.begin (h : Level period m t l n) (hp : 0 < period) (hle : ∀ p ∈ l, p.timestamp ≤ t')
    (hb : m / period < t' / period) (htdp : tdp.timestamp = t') :
    Level period t' t' (keep period tdp l) (n ++ [tdp]) where
  began := le_rfl
  current := rfl
  le p hmem := hle p (List.mem_of_mem_filter hmem)
  kept := by
    intro p hmem
    obtain ⟨hmem, hkeep⟩ := List.mem_filter.mp hmem
    have hnonneg : 0 ≤ t' - p.timestamp := sub_nonneg.mpr (hle p hmem)
    rw [decide_eq_true_eq, htdp, Int.tdiv_eq_ediv_of_nonneg hnonneg] at hkeep
    exact (Int.ediv_lt_iff_lt_mul hp).mp hkeep
  marked := by
    refine List.forall_mem_append.mpr ⟨fun p hmem => (h.marked p hmem).trans hb.le, ?_⟩
    intro p hmem
    obtain rfl := List.mem_singleton.mp hmem
    rw [htdp]
  sampled := by
    refine List.pairwise_append.mpr ⟨h.sampled, List.pairwise_singleton _ _, ?_⟩
    intro p hmem q hmem'
    obtain rfl := List.mem_singleton.mp hmem'
    rw [htdp]
    exact (h.marked p hmem).trans_lt hb

/-- The same where the new point has been added to the list. -/
lemma Level.begin_concat (h : Level period m t l n) (hp : 0 < period)
    (hle : ∀ p ∈ l, p.timestamp ≤ tdp.timestamp) (hb : m / period < tdp.timestamp / period) :
    Level period tdp.timestamp tdp.timestamp (keep period tdp (l ++ [tdp])) (n ++ [tdp]) := by
  rw [keep_concat]
  exact (h.begin hp hle hb rfl).concat hp rfl

lemma Level.sublist (h : Level period m t l n) {n' : List TrafficDatapoint} (hs : n'.Sublist n) :
    Level period m t l n' where
  began := h.began
  current := h.current
  le := h.le
  kept := h.kept
  marked p hmem := h.marked p (hs.subset hmem)
  sampled := h.sampled.sublist hs

end Level

/-! ### The history over a run -/

/-- Both levels, and where their points come from. -/
structure Sampled (calls : List TrafficDatapoint) (h : TrafficHistory) : Prop where
  seconds : h.trafficHistorySeconds.Sublist calls
  minutes : h.trafficHistoryMinutes.Sublist calls
  hours : h.trafficHistoryHours.Sublist calls
  minute_nonneg : 0 ≤ markerTime h.lastSecondUsedForMinute
  hour_nonneg : 0 ≤ markerTime h.lastMinuteUsedForHours
  unmarked : h.lastSecondUsedForMinute = none → h.lastMinuteUsedForHours = none
  of_seconds : Level timePeriodMinutes (markerTime h.lastSecondUsedForMinute)
    (newest calls).timestamp h.trafficHistorySeconds h.trafficHistoryMinutes
  of_minutes : Level timePeriodHours (markerTime h.lastMinuteUsedForHours)
    (newest calls).timestamp h.trafficHistoryMinutes h.trafficHistoryHours

section Sampled

variable {calls : List TrafficDatapoint}

lemma timePeriodMinutes_pos : 0 < timePeriodMinutes := by decide
lemma timePeriodHours_pos : 0 < timePeriodHours := by decide

/-- A period begins where the quotients say so. -/
lemma beginsPeriod_iff {period : ℤ} {marker : Option TrafficDatapoint}
    (hm : 0 ≤ markerTime marker) (ht : 0 ≤ tdp.timestamp) :
    BeginsPeriod period marker tdp ↔
      markerTime marker / period < tdp.timestamp / period := by
  rw [BeginsPeriod, Int.tdiv_eq_ediv_of_nonneg hm, Int.tdiv_eq_ediv_of_nonneg ht]

/-- A point that does not begin a period belongs to the current one. -/
lemma current_of_not_begins {period m t t' : ℤ} (hp : 0 < period)
    (hc : t / period = m / period) (ht : t ≤ t') (hb : ¬ m / period < t' / period) :
    t' / period = m / period := by
  have := Int.ediv_le_ediv hp ht
  omega

/-- The list of the minutes, with the new point at its end, is pruned where an hour begins. -/
lemma sampled_minutes (hs : Sampled calls h) (ht : (newest calls).timestamp ≤ tdp.timestamp)
    (h0 : 0 ≤ tdp.timestamp) {g : TrafficHistory}
    (hminutes : g.trafficHistoryMinutes = h.trafficHistoryMinutes ++ [tdp])
    (hhours : g.trafficHistoryHours = h.trafficHistoryHours)
    (hmarker : g.lastMinuteUsedForHours = h.lastMinuteUsedForHours) :
    Level timePeriodHours (markerTime (removeAndAverageMinutes tdp g).lastMinuteUsedForHours)
        tdp.timestamp (removeAndAverageMinutes tdp g).trafficHistoryMinutes
        (removeAndAverageMinutes tdp g).trafficHistoryHours ∧
      (removeAndAverageMinutes tdp g).trafficHistoryMinutes.Sublist
        (h.trafficHistoryMinutes ++ [tdp]) ∧
      (removeAndAverageMinutes tdp g).trafficHistoryHours.Sublist
        (h.trafficHistoryHours ++ [tdp]) ∧
      0 ≤ markerTime (removeAndAverageMinutes tdp g).lastMinuteUsedForHours := by
  unfold removeAndAverageMinutes
  rw [hmarker]
  split_ifs with hb
  · rw [beginsPeriod_iff hs.hour_nonneg h0] at hb
    simp only [hminutes, hhours]
    refine ⟨?_, List.filter_sublist, .refl _, h0⟩
    refine hs.of_minutes.begin_concat timePeriodHours_pos ?_ hb
    intro p hp
    exact (hs.of_minutes.le p hp).trans ht
  · rw [beginsPeriod_iff hs.hour_nonneg h0] at hb
    rw [hminutes, hhours, hmarker]
    refine ⟨?_, .refl _, List.sublist_append_left _ _, hs.hour_nonneg⟩
    have hc := current_of_not_begins timePeriodHours_pos hs.of_minutes.current ht hb
    exact (hs.of_minutes.within ht hc).concat timePeriodHours_pos rfl

/-- Points of the same minute are of the same hour. -/
lemma hour_of_minute {t t' : ℤ} (h : t' / timePeriodMinutes = t / timePeriodMinutes) :
    t' / timePeriodHours = t / timePeriodHours := by
  have hsplit : ∀ x : ℤ, x / timePeriodHours = x / timePeriodMinutes / 60 := by
    intro x
    rw [Int.ediv_ediv_of_nonneg (by decide)]
    rfl
  rw [hsplit, hsplit, h]

/-- **One step**: a new point, not older than the newest one. -/
lemma Sampled.removeAndAverage (hs : Sampled calls h)
    (ht : (newest calls).timestamp ≤ tdp.timestamp) (h0 : 0 ≤ tdp.timestamp) :
    Sampled (calls ++ [tdp]) (removeAndAverageSeconds tdp
      { h with trafficHistorySeconds := h.trafficHistorySeconds ++ [tdp] }) := by
  have hadd : ∀ {l : List TrafficDatapoint}, l.Sublist calls → l.Sublist (calls ++ [tdp]) :=
    fun hl => hl.trans (List.sublist_append_left _ _)
  have hend : ∀ {l : List TrafficDatapoint}, l.Sublist calls →
      (l ++ [tdp]).Sublist (calls ++ [tdp]) := fun hl => hl.append (.refl _)
  unfold removeAndAverageSeconds
  split_ifs with hb
  · rw [beginsPeriod_iff hs.minute_nonneg h0] at hb
    let g : TrafficHistory := { h with
      trafficHistorySeconds := h.trafficHistorySeconds ++ [tdp]
      trafficHistoryMinutes := h.trafficHistoryMinutes ++ [tdp]
      lastSecondUsedForMinute := some tdp }
    obtain ⟨hlevel, hminutes, hhours, hnonneg⟩ :
        Level timePeriodHours (markerTime (removeAndAverageMinutes tdp g).lastMinuteUsedForHours)
            tdp.timestamp (removeAndAverageMinutes tdp g).trafficHistoryMinutes
            (removeAndAverageMinutes tdp g).trafficHistoryHours ∧ _ ∧ _ ∧ _ :=
      sampled_minutes hs ht h0 rfl rfl rfl
    have hsecond : (removeAndAverageMinutes tdp g).lastSecondUsedForMinute = some tdp :=
      removeAndAverageMinutes_lastSecond
    have hseconds : (removeAndAverageMinutes tdp g).trafficHistorySeconds =
        h.trafficHistorySeconds ++ [tdp] := removeAndAverageMinutes_seconds
    have hold : ∀ p ∈ h.trafficHistorySeconds, p.timestamp ≤ tdp.timestamp :=
      fun p hp => (hs.of_seconds.le p hp).trans ht
    constructor
    case seconds =>
      simp only
      rw [hseconds]
      exact List.filter_sublist.trans (hend hs.seconds)
    case minutes => exact hminutes.trans (hend hs.minutes)
    case hours => exact hhours.trans (hend hs.hours)
    case minute_nonneg =>
      simp only
      rw [hsecond]
      exact h0
    case hour_nonneg => exact hnonneg
    case unmarked =>
      simp only
      rw [hsecond]
      exact nofun
    case of_seconds =>
      simp only
      rw [hsecond, hseconds, newest_concat]
      exact (hs.of_seconds.begin_concat timePeriodMinutes_pos hold hb).sublist hminutes
    case of_minutes =>
      rw [newest_concat]
      exact hlevel
  · rw [beginsPeriod_iff hs.minute_nonneg h0] at hb
    have hc := current_of_not_begins timePeriodMinutes_pos hs.of_seconds.current ht hb
    have hhour := hour_of_minute (hc.trans hs.of_seconds.current.symm)
    refine ⟨hend hs.seconds, hadd hs.minutes, hadd hs.hours, hs.minute_nonneg, hs.hour_nonneg,
      hs.unmarked, ?_, ?_⟩
    · rw [newest_concat]
      exact (hs.of_seconds.within ht hc).concat timePeriodMinutes_pos rfl
    · rw [newest_concat]
      exact hs.of_minutes.within ht (hhour.trans hs.of_minutes.current)

/-- Setting the markers at the first call makes no difference. -/
lemma Sampled.addDataPoint (hs : Sampled calls h) (ht : (newest calls).timestamp ≤ tdp.timestamp)
    (h0 : 0 ≤ tdp.timestamp) : Sampled (calls ++ [tdp]) (h.addDataPoint tdp) := by
  unfold TrafficHistory.addDataPoint
  simp only
  split
  next hnone =>
    let g : TrafficHistory := { h with
      lastSecondUsedForMinute := some ⟨0, 0, 0⟩, lastMinuteUsedForHours := some ⟨0, 0, 0⟩ }
    have hseconds := hs.of_seconds
    have hminutes := hs.of_minutes
    rw [hnone] at hseconds
    rw [hs.unmarked hnone] at hminutes
    have hg : Sampled calls g :=
      ⟨hs.seconds, hs.minutes, hs.hours, le_rfl, le_rfl, nofun, hseconds, hminutes⟩
    exact hg.removeAndAverage ht h0
  next => exact hs.removeAndAverage ht h0

lemma newest_timestamp_le (hc : ((calls ++ [tdp]).map TrafficDatapoint.timestamp).Pairwise (· ≤ ·))
    (h0 : 0 ≤ tdp.timestamp) : (newest calls).timestamp ≤ tdp.timestamp := by
  rw [List.map_append] at hc
  rw [newest]
  cases hlast : calls.getLast? with
  | none => exact h0
  | some last =>
    have hmem := List.mem_map_of_mem (f := TrafficDatapoint.timestamp)
      (List.mem_of_getLast? hlast)
    exact (List.pairwise_append.mp hc).2.2 _ hmem _ (List.mem_singleton_self _)

/-- **A whole run** of calls whose clock does not go back. -/
theorem sampled_addAll (hc : (calls.map TrafficDatapoint.timestamp).Pairwise (· ≤ ·))
    (h0 : ∀ p ∈ calls, 0 ≤ p.timestamp) : Sampled calls (addAll calls) := by
  induction calls using List.reverseRecOn with
  | nil =>
    have hlevel : ∀ period, Level period 0 0 [] [] := fun period =>
      ⟨le_rfl, rfl, nofun, nofun, nofun, .nil⟩
    exact ⟨.slnil, .slnil, .slnil, le_rfl, le_rfl, fun _ => rfl, hlevel _, hlevel _⟩
  | append_singleton calls tdp ih =>
    rw [addAll_concat]
    have hprev : (calls.map TrafficDatapoint.timestamp).Pairwise (· ≤ ·) := by
      rw [List.map_append] at hc
      exact (List.pairwise_append.mp hc).1
    have htdp := h0 tdp (List.mem_append_right _ (List.mem_singleton_self _))
    have hs := ih hprev fun p hp => h0 p (List.mem_append_left _ hp)
    exact hs.addDataPoint (newest_timestamp_le hc htdp) htdp

end Sampled

/-- **What the history promises** after a list of calls. -/
structure WellSampled (calls : List TrafficDatapoint) (h : TrafficHistory) : Prop where
  ordered : ∀ l ∈ [h.trafficHistorySeconds, h.trafficHistoryMinutes, h.trafficHistoryHours],
    (l.map TrafficDatapoint.timestamp).Pairwise (· ≤ ·) ∧ l ⊆ calls
  newest : ∀ p ∈ calls.getLast?, p ∈ h.trafficHistorySeconds
  seconds_span : ∀ p ∈ h.trafficHistorySeconds, ∀ q ∈ h.trafficHistorySeconds,
    q.timestamp - p.timestamp < 6 * timePeriodMinutes
  minutes_sampled : h.trafficHistoryMinutes.Pairwise fun p q =>
    p.timestamp / timePeriodMinutes ≠ q.timestamp / timePeriodMinutes
  minutes_span : ∀ p ∈ h.trafficHistoryMinutes, ∀ q ∈ h.trafficHistoryMinutes,
    q.timestamp - p.timestamp < 6 * timePeriodHours
  hours_sampled : h.trafficHistoryHours.Pairwise fun p q =>
    p.timestamp / timePeriodHours ≠ q.timestamp / timePeriodHours

/-- A call returns the growth of the counters since the call before it. -/
def ReturnsGrowth (calls : List TrafficDatapoint) : Prop :=
  ∀ pre tdp post, calls = pre ++ tdp :: post →
    ((addAll pre).add tdp).2.getDiffIn = max 0 (toLong (tdp.inBytes - (newest pre).inBytes)) ∧
    ((addAll pre).add tdp).2.getDiffOut = max 0 (toLong (tdp.outBytes - (newest pre).outBytes))

/-- **The traffic history is bounded and well sampled**, whatever the gaps between the calls. -/
theorem history_well_sampled {calls : List TrafficDatapoint}
    (hclock : (calls.map TrafficDatapoint.timestamp).Pairwise (· ≤ ·))
    (hnonneg : ∀ p ∈ calls, 0 ≤ p.timestamp) :
    WellSampled calls (addAll calls) ∧ ReturnsGrowth calls := by
  have hs := sampled_addAll hclock hnonneg
  have hordered : ∀ {l : List TrafficDatapoint}, l.Sublist calls →
      (l.map TrafficDatapoint.timestamp).Pairwise (· ≤ ·) ∧ l ⊆ calls :=
    fun hl => ⟨hclock.sublist (hl.map _), hl.subset⟩
  refine ⟨?_, fun pre tdp post _ => add_diff pre tdp⟩
  constructor
  case ordered =>
    intro l hl
    rcases List.mem_cons.mp hl with rfl | hl
    · exact hordered hs.seconds
    rcases List.mem_cons.mp hl with rfl | hl
    · exact hordered hs.minutes
    obtain rfl := List.mem_singleton.mp hl
    exact hordered hs.hours
  case newest =>
    intro p hp
    exact List.mem_of_getLast? ((addAll_getLast? calls).trans hp)
  case seconds_span => exact hs.of_seconds.span timePeriodMinutes_pos
  case minutes_sampled => exact hs.of_seconds.sampled.imp fun h => h.ne
  case minutes_span => exact hs.of_minutes.span timePeriodHours_pos
  case hours_sampled => exact hs.of_minutes.sampled.imp fun h => h.ne

/-- Three calls, with an hour between the first two. -/
def sparseCalls : List TrafficDatapoint :=
  [⟨100, 50, 59000⟩, ⟨400, 80, 3659000⟩, ⟨300, 90, 3660000⟩]

theorem history_well_sampled_sparse :
    WellSampled sparseCalls (addAll sparseCalls) ∧ ReturnsGrowth sparseCalls :=
  history_well_sampled (by decide) (by decide)

end BuludTechVPN.Traffic
