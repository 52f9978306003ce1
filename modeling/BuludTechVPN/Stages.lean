import Mathlib.Data.List.Forall2
import Mathlib.Tactic.Common

/-!
Computations that can end in two kinds of error, and stages that work on one store, each on keys
of its own.

An `Outcome` says of a computation when it returns, and when it fails with an error that is bad;
all other errors are refusals. What a stage does depends on the values of its own keys alone, and
it leaves the values of all other keys as they are. So the keys of the first state already say
how far a list of stages comes.
-/

namespace BuludTechVPN.Stages

variable {σ ε κ V α β : Type}

/-! ### Outcomes -/

/-- The computation returns if and only if `accepts` holds, and fails with a bad error if and
only if `fails` does. -/
inductive Outcome (bad : ε → Prop) (accepts fails : Prop) : Except ε α → Prop
  | ok (a : α) : accepts → ¬ fails → Outcome bad accepts fails (.ok a)
  | error (e : ε) : ¬ accepts → (fails ↔ bad e) → Outcome bad accepts fails (.error e)

variable {bad : ε → Prop} {accepts fails accepts' fails' : Prop} {x : Except ε α}

namespace Outcome

lemma iff (h : Outcome bad accepts fails x) (ha : accepts ↔ accepts') (hf : fails ↔ fails') :
    Outcome bad accepts' fails' x := by
  rwa [← ha, ← hf]

lemma accepts_iff (h : Outcome bad accepts fails x) : (∃ a, x = .ok a) ↔ accepts := by
  cases h with
  | ok a ha hf => simp [ha]
  | error e ha hf => simp [ha]

lemma fails_iff (h : Outcome bad accepts fails x) : (∃ e, x = .error e ∧ bad e) ↔ fails := by
  cases h with
  | ok a ha hf => simp [hf]
  | error e ha hf => simp [hf]

lemma returns (a : α) : Outcome bad True False (.ok a : Except ε α) := .ok a trivial id

lemma refuses {e : ε} (h : ¬ bad e) : Outcome bad False False (.error e : Except ε α) :=
  .error e id (iff_of_false id h)

lemma breaks {e : ε} (h : bad e) : Outcome bad False True (.error e : Except ε α) :=
  .error e id (iff_of_true trivial h)

/-- One computation and then another. -/
lemma bind {f : α → Except ε β} (h : Outcome bad accepts fails x)
    (hf : ∀ a, x = .ok a → Outcome bad accepts' fails' (f a)) :
    Outcome bad (accepts ∧ accepts') (fails ∨ accepts ∧ fails') (x >>= f) := by
  cases h with
  | ok a ha hfa => exact (hf a rfl).iff (by simp [ha]) (by simp [ha, hfa])
  | error e ha hfe => exact .error e (by simp [ha]) (by simp [ha, hfe])

/-- A computation that does not fail, and then another. -/
lemma bind_after {f : α → Except ε β} (h : Outcome bad accepts False x)
    (hf : ∀ a, x = .ok a → Outcome bad accepts' fails' (f a)) :
    Outcome bad (accepts ∧ accepts') (accepts ∧ fails') (x >>= f) :=
  (h.bind hf).iff Iff.rfl (by simp)

lemma bind_safe {f : α → Except ε β} (h : Outcome bad accepts False x)
    (hf : ∀ a, x = .ok a → Outcome bad accepts' False (f a)) :
    Outcome bad (accepts ∧ accepts') False (x >>= f) :=
  (h.bind_after hf).iff Iff.rfl (by simp)

lemma bind_pure {f : α → β} (h : Outcome bad accepts fails x) :
    Outcome bad accepts fails (x >>= fun a => .ok (f a)) :=
  (h.bind fun a _ => .returns (f a)).iff (by simp) (by simp)

/-- A computation that returns, and then another. -/
lemma bind_ok {a : α} {f : α → Except ε β} (hx : x = .ok a)
    (hf : Outcome bad accepts fails (f a)) : Outcome bad accepts fails (x >>= f) := by
  rw [hx]
  exact hf

end Outcome

/-- The first element that is not accepted fails. -/
def FirstFails (accepts fails : α → Prop) (l : List α) : Prop :=
  ∃ before a after, l = before ++ a :: after ∧ (∀ b ∈ before, accepts b) ∧ fails a

section Lists

variable {accepts fails accepts' fails' : α → Prop} {a : α} {l : List α}

lemma not_firstFails_nil : ¬ FirstFails accepts fails [] := by
  rintro ⟨before, a, after, h, -⟩
  simp at h

lemma firstFails_cons :
    FirstFails accepts fails (a :: l) ↔ fails a ∨ accepts a ∧ FirstFails accepts fails l := by
  constructor
  · rintro ⟨before, d, after, h, hb, hd⟩
    cases before with
    | nil =>
      obtain ⟨rfl, -⟩ := List.cons.inj h
      exact .inl hd
    | cons b before =>
      obtain ⟨rfl, rfl⟩ := List.cons.inj h
      rw [List.forall_mem_cons] at hb
      exact .inr ⟨hb.1, before, d, after, rfl, hb.2, hd⟩
  · rintro (h | ⟨h, before, d, after, rfl, hb, hd⟩)
    · exact ⟨[], a, l, rfl, by simp, h⟩
    · exact ⟨a :: before, d, after, rfl, List.forall_mem_cons.2 ⟨h, hb⟩, hd⟩

lemma firstFails_congr (ha : ∀ a ∈ l, accepts a ↔ accepts' a) (hf : ∀ a ∈ l, fails a ↔ fails' a) :
    FirstFails accepts fails l ↔ FirstFails accepts' fails' l := by
  induction l with
  | nil => simp [not_firstFails_nil]
  | cons a l ih =>
    rw [List.forall_mem_cons] at ha hf
    rw [firstFails_cons, firstFails_cons, ih ha.2 hf.2, ha.1, hf.1]

lemma not_firstFails_false : ¬ FirstFails accepts (fun _ => False) l :=
  fun ⟨_, _, _, _, _, h⟩ => h

/-- A loop over a list returns if every element is accepted in turn. -/
lemma Outcome.foldlM {f : σ → α → Except ε σ}
    (h : ∀ s, ∀ a ∈ l, Outcome bad (accepts a) (fails a) (f s a)) (s : σ) :
    Outcome bad (∀ a ∈ l, accepts a) (FirstFails accepts fails l) (l.foldlM f s) := by
  induction l generalizing s with
  | nil => exact .ok s (by simp) not_firstFails_nil
  | cons a l ih =>
    rw [List.foldlM_cons, List.forall_mem_cons, firstFails_cons]
    exact (h s a List.mem_cons_self).bind fun s' _ =>
      ih (fun s b hb => h s b (List.mem_cons_of_mem _ hb)) s'

lemma Outcome.mapM {f : α → Except ε β}
    (h : ∀ a ∈ l, Outcome bad (accepts a) (fails a) (f a)) :
    Outcome bad (∀ a ∈ l, accepts a) (FirstFails accepts fails l) (l.mapM f) := by
  induction l with
  | nil => exact .ok [] (by simp) not_firstFails_nil
  | cons a l ih =>
    rw [List.mapM_cons, List.forall_mem_cons, firstFails_cons]
    refine (h a List.mem_cons_self).bind fun b _ => ?_
    exact ((ih fun c hc => h c (List.mem_cons_of_mem _ hc)).bind fun bs _ => .returns _).iff
      (by simp) (by simp)

/-- A loop whose rounds all return does. -/
lemma foldlM_returns {f : σ → α → Except ε σ} (h : ∀ s, ∀ a ∈ l, ∃ s', f s a = .ok s') (s : σ) :
    ∃ s', l.foldlM f s = .ok s' := by
  induction l generalizing s with
  | nil => exact ⟨s, rfl⟩
  | cons a l ih =>
    obtain ⟨s', hs⟩ := h s a List.mem_cons_self
    rw [List.foldlM_cons, hs]
    exact ih (fun s b hb => h s b (List.mem_cons_of_mem _ hb)) s'

/-- What every round of a loop keeps, the loop keeps. -/
lemma foldlM_keeps {P : σ → Prop} {f : σ → α → Except ε σ}
    (h : ∀ s, ∀ a ∈ l, ∀ s', P s → f s a = .ok s' → P s') {s s' : σ} (hs : P s)
    (hl : l.foldlM f s = .ok s') : P s' := by
  induction l generalizing s with
  | nil =>
    cases hl
    exact hs
  | cons a l ih =>
    rw [List.foldlM_cons] at hl
    cases ha : f s a with
    | error e =>
      rw [ha] at hl
      cases hl
    | ok s₁ =>
      rw [ha] at hl
      exact ih (fun s b hb => h s b (List.mem_cons_of_mem _ hb))
        (h s a List.mem_cons_self s₁ hs ha) hl

lemma mapM_returns {f : α → Except ε β} (h : ∀ a ∈ l, ∃ b, f a = .ok b) :
    ∃ bs, l.mapM f = .ok bs := by
  induction l with
  | nil => exact ⟨[], rfl⟩
  | cons a l ih =>
    obtain ⟨b, hb⟩ := h a List.mem_cons_self
    obtain ⟨bs, hbs⟩ := ih fun c hc => h c (List.mem_cons_of_mem _ hc)
    rw [List.mapM_cons, hb, hbs]
    exact ⟨b :: bs, rfl⟩

end Lists

/-! ### Checks -/

/-- Stages one after the other. -/
def inTurn (stages : List (σ → Except ε σ)) (s : σ) : Except ε σ :=
  stages.foldlM (fun s stage => stage s) s

lemma inTurn_cons (f : σ → Except ε σ) (fs : List (σ → Except ε σ)) (s : σ) :
    inTurn (f :: fs) s = f s >>= inTurn fs := rfl

/-- What a stage asks of the values of its keys: when it accepts them, and when it fails. -/
structure Check (κ V : Type) where
  keys : List κ
  accepts : (κ → V) → Prop
  fails : (κ → V) → Prop
  accepts_congr : ∀ o o', (∀ k ∈ keys, o k = o' k) → (accepts o ↔ accepts o')
  fails_congr : ∀ o o', (∀ k ∈ keys, o k = o' k) → (fails o ↔ fails o')

/-- A stage does what its check says. -/
structure Meets (view : σ → κ → V) (bad : ε → Prop) (f : σ → Except ε σ) (c : Check κ V) :
    Prop where
  outcome : ∀ s, Outcome bad (c.accepts (view s)) (c.fails (view s)) (f s)
  frame : ∀ s s', f s = .ok s' → ∀ k ∉ c.keys, view s' k = view s k

/-- Two checks are about different keys. -/
def Apart (c d : Check κ V) : Prop := ∀ k ∈ c.keys, k ∉ d.keys

variable {view : σ → κ → V} {fs : List (σ → Except ε σ)} {cs : List (Check κ V)}

/-- All checks accept. -/
def AcceptsAll (cs : List (Check κ V)) (o : κ → V) : Prop := ∀ c ∈ cs, c.accepts o

/-- The first check that does not accept fails. -/
def FailsFirst (cs : List (Check κ V)) (o : κ → V) : Prop :=
  FirstFails (·.accepts o) (·.fails o) cs

lemma acceptsAll_cons {c : Check κ V} {o : κ → V} :
    AcceptsAll (c :: cs) o ↔ c.accepts o ∧ AcceptsAll cs o :=
  List.forall_mem_cons

lemma acceptsAll_append {ds : List (Check κ V)} {o : κ → V} :
    AcceptsAll (cs ++ ds) o ↔ AcceptsAll cs o ∧ AcceptsAll ds o :=
  List.forall_mem_append

lemma failsFirst_append {ds : List (Check κ V)} {o : κ → V} :
    FailsFirst (cs ++ ds) o ↔ FailsFirst cs o ∨ AcceptsAll cs o ∧ FailsFirst ds o := by
  unfold FailsFirst
  induction cs with
  | nil => simp [not_firstFails_nil, AcceptsAll]
  | cons c cs ih =>
    rw [List.cons_append, firstFails_cons, firstFails_cons, ih, acceptsAll_cons]
    tauto

lemma not_failsFirst {o : κ → V} (h : ∀ c ∈ cs, ¬ c.fails o) : ¬ FailsFirst cs o :=
  fun ⟨_, c, _, hcs, _, hc⟩ => h c (by simp [hcs]) hc

lemma acceptsAll_congr {o o' : κ → V} (h : ∀ c ∈ cs, ∀ k ∈ c.keys, o k = o' k) :
    AcceptsAll cs o ↔ AcceptsAll cs o' :=
  forall₂_congr fun c hc => c.accepts_congr _ _ (h c hc)

lemma failsFirst_congr {o o' : κ → V} (h : ∀ c ∈ cs, ∀ k ∈ c.keys, o k = o' k) :
    FailsFirst cs o ↔ FailsFirst cs o' :=
  firstFails_congr (fun c hc => c.accepts_congr _ _ (h c hc))
    fun c hc => c.fails_congr _ _ (h c hc)

lemma Meets.iff {f : σ → Except ε σ} {c d : Check κ V} (h : Meets view bad f c)
    (hk : c.keys = d.keys) (ha : ∀ o, c.accepts o ↔ d.accepts o)
    (hf : ∀ o, c.fails o ↔ d.fails o) : Meets view bad f d where
  outcome s := (h.outcome s).iff (ha _) (hf _)
  frame s s' hs k := by
    rw [← hk]
    exact h.frame s s' hs k

/-- **How far stages come**: they all return if every check accepts what the first state holds,
and they fail if the first check that does not accept it fails. -/
theorem inTurn_outcome (h : List.Forall₂ (Meets view bad) fs cs) (hcs : cs.Pairwise Apart)
    (s : σ) : Outcome bad (AcceptsAll cs (view s)) (FailsFirst cs (view s)) (inTurn fs s) := by
  induction h generalizing s with
  | nil => exact .ok s (by simp [AcceptsAll]) not_firstFails_nil
  | @cons f c fs cs hf _ ih =>
    rw [List.pairwise_cons] at hcs
    rw [inTurn_cons, acceptsAll_cons, FailsFirst, firstFails_cons]
    refine (hf.outcome s).bind fun s' hs => (ih hcs.2 s').iff ?_ ?_
    · exact acceptsAll_congr fun d hd k hk => hf.frame s s' hs k fun hc => hcs.1 d hd k hc hk
    · exact failsFirst_congr fun d hd k hk => hf.frame s s' hs k fun hc => hcs.1 d hd k hc hk

end BuludTechVPN.Stages
