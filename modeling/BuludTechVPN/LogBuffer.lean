import BuludTechVPN.LogQueue

/-!
The order of the log buffer while lines of an earlier process are restored: how far the buffer is
the end of the restored lines, in the order of the file, followed by the new ones.
-/

namespace BuludTechVPN.LogBuffer

open LogFileHandler LogQueue LogState

/-- A line is put into the buffer: the next one of the file, or a new one. -/
inductive Insertion
  | restored
  | logged
  deriving DecidableEq, Repr

/-- `newLogItem`, of a line that is restored or logged. -/
def insert (s : LogState) : Insertion → Option LogState
  | .restored => restore s
  | .logged => some s.log

/-- The file is about to be read; it holds `cached` lines. -/
def aboutToRead (cached : ℕ) : LogState where
  logbuffer := []
  handler := true
  queue := []
  mLogFile := none
  rereading := some (List.range cached)
  next := cached

variable (cached : ℕ)

/-- The lines that have been restored so far, in the order of the file. -/
def restoredLines (s : LogState) : List ℕ :=
  List.range (cached - (s.rereading.getD []).length)

/-- The lines that have been logged so far. -/
def loggedLines (s : LogState) : List ℕ := List.range' cached (s.next - cached)

/-- **What the buffer should be**: the end of the restored lines and then the logged ones, not
too long, and with all of the newest. -/
structure Chronological (s : LogState) : Prop where
  order : s.logbuffer <:+ restoredLines cached s ++ loggedLines cached s
  bounded : s.logbuffer.length ≤ MAXLOGENTRIES + MAXLOGENTRIES / 2
  newest : min MAXLOGENTRIES (restoredLines cached s ++ loggedLines cached s).length ≤
    s.logbuffer.length

/-- A line is restored while the buffer is neither full nor made of just the logged lines. -/
def Misplaces (s : LogState) : Insertion → Prop
  | .restored =>
    s.logbuffer.length ≠ MAXLOGENTRIES + MAXLOGENTRIES / 2 ∧
      s.logbuffer.length ≠ (loggedLines cached s).length
  | .logged => False

/-! ### The buffer after an insertion -/

/-- What the end of `newLogItem` makes of the buffer. -/
def trimmed (l : List ℕ) : List ℕ :=
  if MAXLOGENTRIES + MAXLOGENTRIES / 2 < l.length then l.drop (l.length - MAXLOGENTRIES) else l

lemma trimmed_suffix (l : List ℕ) : trimmed l <:+ l := by
  unfold trimmed
  split_ifs
  · exact List.drop_suffix _ _
  · exact List.suffix_rfl

lemma trimmed_length (l : List ℕ) : (trimmed l).length =
    if MAXLOGENTRIES + MAXLOGENTRIES / 2 < l.length then MAXLOGENTRIES else l.length := by
  unfold trimmed
  split_ifs
  · rw [List.length_drop]
    omega
  · rfl

section Insert

variable {cached} {s t : LogState} {k n : ℕ}

/-- A message does not touch the lines. -/
lemma send_spec (s : LogState) (m : Message) : (s.send m).logbuffer = s.logbuffer ∧
    (s.send m).rereading = s.rereading ∧ (s.send m).next = s.next := by
  unfold LogState.send
  split_ifs
  · exact ⟨rfl, rfl, rfl⟩
  · exact ⟨rfl, rfl, rfl⟩

lemma trim_spec (s : LogState) : s.trim.logbuffer = trimmed s.logbuffer ∧
    s.trim.rereading = s.rereading ∧ s.trim.next = s.next := by
  by_cases hlong : MAXLOGENTRIES + MAXLOGENTRIES / 2 < s.logbuffer.length
  · rw [LogState.trim, trimmed, if_pos hlong, if_pos hlong]
    generalize s.logbuffer.drop (s.logbuffer.length - MAXLOGENTRIES) = kept
    exact send_spec { s with logbuffer := kept } .trimLogFile
  · rw [LogState.trim, trimmed, if_neg hlong, if_neg hlong]
    exact ⟨rfl, rfl, rfl⟩

lemma log_spec (s : LogState) : s.log.logbuffer = trimmed (s.logbuffer ++ [s.next]) ∧
    s.log.rereading = s.rereading ∧ s.log.next = s.next + 1 := by
  let added : LogState := { s with next := s.next + 1, logbuffer := s.logbuffer ++ [s.next] }
  obtain ⟨hb, hr, hn⟩ := trim_spec (added.send (.logMessage s.next))
  obtain ⟨hb', hr', hn'⟩ := send_spec added (.logMessage s.next)
  exact ⟨hb.trans (by rw [hb']), hr.trans hr', hn.trans hn'⟩

lemma restore_spec {li : ℕ} {rest : List ℕ} (hs : s.rereading = some (li :: rest))
    (ht : restore s = some t) : t.logbuffer = trimmed (li :: s.logbuffer) ∧
      t.rereading = some rest ∧ t.next = s.next := by
  unfold restore at ht
  rw [hs] at ht
  obtain rfl := Option.some.inj ht
  exact trim_spec _

/-! ### The invariant -/

/-- The buffer when `k` lines have been restored and `n` logged; at most one of the restored
lines is in it. -/
structure Kept (cached k n : ℕ) (s : LogState) : Prop where
  rereading : s.rereading = some (List.range' k (cached - k))
  le : k ≤ cached
  next : s.next = cached + n
  order : s.logbuffer <:+ List.range k ++ List.range' cached n
  bounded : s.logbuffer.length ≤ MAXLOGENTRIES + MAXLOGENTRIES / 2
  newest : min MAXLOGENTRIES (k + n) ≤ s.logbuffer.length
  one : s.logbuffer.length ≤ n + 1

lemma maxlogentries : MAXLOGENTRIES = 1000 := rfl

/-- The counts are those of the lines. -/
lemma Kept.lines (h : Kept cached k n s) :
    restoredLines cached s = List.range k ∧ loggedLines cached s = List.range' cached n := by
  constructor
  · rw [restoredLines, h.rereading, Option.getD_some, List.length_range',
      Nat.sub_sub_self h.le]
  · rw [loggedLines, h.next, Nat.add_sub_cancel_left]

lemma Kept.chronological (h : Kept cached k n s) : Chronological cached s := by
  obtain ⟨hr, hl⟩ := h.lines
  constructor
  · rw [hr, hl]
    exact h.order
  · exact h.bounded
  · rw [hr, hl, List.length_append, List.length_range, List.length_range']
    exact h.newest

lemma kept_aboutToRead : Kept cached 0 0 (aboutToRead cached) :=
  ⟨by rw [aboutToRead, List.range_eq_range', Nat.sub_zero], Nat.zero_le _, rfl, List.suffix_rfl,
    Nat.zero_le _, le_rfl, Nat.zero_le _⟩

/-- **A line is logged.** -/
lemma Kept.log (h : Kept cached k n s) : Kept cached k (n + 1) s.log := by
  obtain ⟨hb, hr, hn⟩ := log_spec s
  have hlen := trimmed_length (s.logbuffer ++ [s.next])
  rw [List.length_append, List.length_singleton] at hlen
  have hbound := h.bounded
  have hnew := h.newest
  have hone := h.one
  rw [maxlogentries] at hlen hbound hnew
  constructor
  · exact hr.trans h.rereading
  · exact h.le
  · rw [hn, h.next, Nat.add_assoc]
  · obtain ⟨older, holder⟩ := h.order
    rw [hb, h.next, List.range'_concat, Nat.one_mul, ← List.append_assoc, ← holder,
      List.append_assoc]
    exact (trimmed_suffix _).trans (List.suffix_append _ _)
  · rw [hb, hlen, maxlogentries]
    split_ifs
    · omega
    · omega
  · rw [hb, hlen, maxlogentries]
    split_ifs
    · omega
    · omega
  · rw [hb, hlen]
    split_ifs
    · omega
    · omega

lemma Kept.restore_inv (h : Kept cached k n s) (ht : restore s = some t) :
    k < cached ∧ t.logbuffer = trimmed (k :: s.logbuffer) ∧
      t.rereading = some (List.range' (k + 1) (cached - (k + 1))) ∧ t.next = s.next := by
  have hlt : k < cached := by
    by_contra hge
    have hnil : List.range' k (cached - k) = [] := by
      rw [Nat.sub_eq_zero_of_le (Nat.le_of_not_lt hge), List.range'_zero]
    unfold restore at ht
    rw [h.rereading, hnil] at ht
    cases ht
  have hcons : s.rereading = some (k :: List.range' (k + 1) (cached - (k + 1))) := by
    rw [h.rereading, show cached - k = cached - (k + 1) + 1 by omega, List.range'_succ]
  exact ⟨hlt, restore_spec hcons ht⟩

/-- The logged lines are a buffer that holds as many. -/
lemma Kept.eq_logged (h : Kept cached k n s) (hl : s.logbuffer.length = n) :
    s.logbuffer = List.range' cached n := by
  have hlen : s.logbuffer.length = (List.range' cached n).length := by
    rw [hl, List.length_range']
  exact (List.suffix_of_suffix_length_le h.order (List.suffix_append _ _) hlen.le).eq_of_length hlen

/-- **A line is restored** to a buffer that is full or made of the logged lines. -/
lemma Kept.restore (h : Kept cached k n s) (hok : ¬ Misplaces cached s .restored)
    (ht : restore s = some t) : Kept cached (k + 1) n t := by
  obtain ⟨hlt, hb, hr, hn⟩ := h.restore_inv ht
  have hlen := trimmed_length (k :: s.logbuffer)
  rw [List.length_cons] at hlen
  have hbound := h.bounded
  have hone := h.one
  have hnew := h.newest
  rw [maxlogentries] at hlen hbound hnew
  have hplace : s.logbuffer.length = 1500 ∨ s.logbuffer.length = n := by
    rw [Misplaces, h.lines.2, List.length_range', maxlogentries] at hok
    by_contra hno
    obtain ⟨h1, h2⟩ := not_or.mp hno
    exact hok ⟨h1, h2⟩
  constructor
  · exact hr
  · exact hlt
  · rw [hn, h.next]
  · rw [hb]
    by_cases hfull : s.logbuffer.length = 1500
    · -- the restored line is trimmed at once, with the older half of the others
      have hlogged : trimmed (k :: s.logbuffer) <:+ List.range' cached n := by
        have hdrop : trimmed (k :: s.logbuffer) = s.logbuffer.drop 500 := by
          rw [trimmed, if_pos (by rw [List.length_cons, hfull, maxlogentries]; omega),
            List.length_cons, hfull, maxlogentries]
          rfl
        rw [hdrop]
        refine List.suffix_of_suffix_length_le ((List.drop_suffix _ _).trans h.order)
          (List.suffix_append _ _) ?_
        rw [List.length_drop, hfull, List.length_range']
        omega
      exact hlogged.trans (List.suffix_append _ _)
    · rw [h.eq_logged (hplace.resolve_left hfull), List.range_succ, List.append_assoc]
      exact (trimmed_suffix _).trans (List.suffix_append _ _)
  · rw [hb, hlen, maxlogentries]
    split_ifs
    · omega
    · omega
  · rw [hb, hlen, maxlogentries]
    split_ifs
    · omega
    · omega
  · rw [hb, hlen]
    split_ifs
    · omega
    · omega

/-- **A line that is restored anywhere else** is out of order. -/
lemma Kept.not_chronological (h : Kept cached k n s) (hbad : Misplaces cached s .restored)
    (ht : LogQueue.restore s = some t) : ¬ Chronological cached t := by
  intro hc
  obtain ⟨hlt, hb, hr, hn⟩ := h.restore_inv ht
  rw [Misplaces, h.lines.2, List.length_range'] at hbad
  have hbound := h.bounded
  have hone := h.one
  rw [maxlogentries] at hbad hbound
  have huntrimmed : t.logbuffer = k :: s.logbuffer := by
    rw [hb, trimmed, if_neg (by rw [List.length_cons, maxlogentries]; omega)]
  have horder : k :: s.logbuffer <:+ List.range (k + 1) ++ List.range' cached n := by
    have hlines : restoredLines cached t = List.range (k + 1) ∧
        loggedLines cached t = List.range' cached n := by
      constructor
      · rw [restoredLines, hr, Option.getD_some, List.length_range', Nat.sub_sub_self hlt]
      · rw [loggedLines, hn, h.next, Nat.add_sub_cancel_left]
    rw [← huntrimmed, ← hlines.1, ← hlines.2]
    exact hc.order
  have hk : k ∉ List.range k ++ List.range' cached n := by
    simp only [List.mem_append, List.mem_range, List.mem_range'_1]
    omega
  rcases Nat.lt_or_gt_of_ne hbad.2 with hless | hmore
  · -- a logged line has been removed, and the restored one takes its place
    have hmem : k :: s.logbuffer <:+ List.range' cached n := by
      refine List.suffix_of_suffix_length_le horder (List.suffix_append _ _) ?_
      rw [List.length_cons, List.length_range']
      omega
    exact hk (List.mem_append_right _ (hmem.subset List.mem_cons_self))
  · -- a restored line is there already, and it is older
    have hsucc : [k] ++ List.range' cached n <:+ List.range (k + 1) ++ List.range' cached n := by
      rw [List.range_succ, List.append_assoc]
      exact List.suffix_append _ _
    have hmem : [k] ++ List.range' cached n <:+ s.logbuffer := by
      refine List.suffix_of_suffix_length_le hsucc ((List.suffix_cons _ _).trans horder) ?_
      rw [List.length_append, List.length_singleton, List.length_range']
      omega
    exact hk (h.order.subset (hmem.subset List.mem_cons_self))

end Insert

/-- **The log buffer stays chronological** along a run, exactly if no line is restored while the
buffer is neither full nor made of just the logged lines. -/
theorem buffer_chronological_iff (es : List Insertion) :
    Runs.Along insert (Chronological cached) (aboutToRead cached) es ↔
      Runs.Avoids insert (Misplaces cached) (aboutToRead cached) es := by
  refine Runs.along_iff_avoids (I := fun s => ∃ k n, Kept cached k n s) ?_ ?_ ?_
    ⟨0, 0, kept_aboutToRead⟩ es
  · rintro s ⟨k, n, h⟩
    exact h.chronological
  · rintro s e t ⟨k, n, h⟩ hok ht
    cases e with
    | restored => exact ⟨k + 1, n, h.restore hok ht⟩
    | logged =>
      obtain rfl := Option.some.inj ht
      exact ⟨k, n + 1, h.log⟩
  · rintro s e t ⟨k, n, h⟩ hbad ht
    cases e with
    | restored => exact h.not_chronological hbad ht
    | logged => exact hbad.elim

/-- Two restored lines are in the order opposite to that of the file. -/
theorem restored_reversed : ¬ ∀ cached es,
    Runs.Along insert (Chronological cached) (aboutToRead cached) es := by
  intro h
  obtain ⟨-, h⟩ := h 2 [.restored, .restored]
  obtain ⟨-, h⟩ := h ⟨[0], true, [], none, some [1], 2⟩ (by decide)
  have horder := (h ⟨[1, 0], true, [], none, some [], 2⟩ (by decide)).order
  exact absurd horder (by decide)

end BuludTechVPN.LogBuffer
