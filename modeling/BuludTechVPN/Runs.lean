import Mathlib.Logic.Relation
import Mathlib.Order.WellFounded

/-!
Runs of a transition system: what every step preserves, a run preserves; and a run that a
measure counts down comes to an end.

A system is a relation on its states. Where the steps are labelled by the events that
cause them, a run is a list of events, and a guard says which events may happen in which
state.
-/

namespace BuludTechVPN.Runs

open Relation

variable {σ : Type*} {r : σ → σ → Prop}

/-- Every run from `s` comes to an end. -/
def Terminates (r : σ → σ → Prop) (s : σ) : Prop := Acc (fun t u => r u t) s

/-- **The invariant rule.** What holds at the start and survives each step from a reachable
state holds in every reachable state. -/
theorem invariant {I : σ → Prop} {s t : σ} (hs : I s)
    (hstep : ∀ u v, ReflTransGen r s u → I u → r u v → I v) (h : ReflTransGen r s t) : I t := by
  induction h with
  | refl => exact hs
  | tail hu huv ih => exact hstep _ _ hu ih huv

/-- **The variant rule.** A measure that falls along each step taken under an invariant
bounds every run. -/
theorem terminates_of_measure {α : Type*} [LT α] [WellFoundedLT α] {I : σ → Prop} (m : σ → α)
    (hstep : ∀ u v, I u → r u v → I v ∧ m v < m u) {s : σ} (hs : I s) : Terminates r s := by
  induction hn : m s using WellFoundedLT.induction generalizing s with
  | _ n ih =>
    refine Acc.intro s fun t hst => ?_
    obtain ⟨ht, hlt⟩ := hstep s t hs hst
    exact ih (m t) (hn ▸ hlt) ht rfl

/-! ### Labelled runs -/

variable {ε : Type*} (step : σ → ε → Option σ)

/-- `P` holds in every state of the run from `s` along the events; it ends where one is not
possible. -/
def Along (P : σ → Prop) : σ → List ε → Prop
  | s, [] => P s
  | s, e :: es => P s ∧ ∀ t, step s e = some t → Along P t es

/-- No event of the run is a bad one. -/
def Avoids (B : σ → ε → Prop) : σ → List ε → Prop
  | _, [] => True
  | s, e :: es => ∀ t, step s e = some t → ¬ B s e ∧ Avoids B t es

variable {step}

/-- Where every event is possible, a run avoids what none of its events is. -/
lemma avoids_total {f : σ → ε → σ} {B : ε → Prop} (s : σ) (es : List ε) :
    Avoids (fun s e => some (f s e)) (fun _ e => B e) s es ↔ ∀ e ∈ es, ¬ B e := by
  induction es generalizing s with
  | nil => simp [Avoids]
  | cons e es ih => simp [Avoids, ih]

/-- Two kinds of bad steps that agree under an invariant are avoided by the same runs. -/
lemma avoids_congr {I : σ → Prop} {B B' : σ → ε → Prop}
    (hstep : ∀ s e t, I s → step s e = some t → I t)
    (hB : ∀ s e t, I s → step s e = some t → (B s e ↔ B' s e)) {s : σ} (hs : I s)
    (es : List ε) : Avoids step B s es ↔ Avoids step B' s es := by
  induction es generalizing s with
  | nil => exact Iff.rfl
  | cons e es ih =>
    refine forall₂_congr fun t ht => and_congr (not_congr (hB s e t hs ht)) ?_
    exact ih (hstep s e t hs ht)

/-- **The exactness rule.** An invariant of the other steps implies the property, and a bad step
breaks it: then the property holds along the runs without bad steps, and along no others. -/
theorem along_iff_avoids {P I : σ → Prop} {B : σ → ε → Prop} (hP : ∀ s, I s → P s)
    (hstep : ∀ s e t, I s → ¬ B s e → step s e = some t → I t)
    (hbad : ∀ s e t, I s → B s e → step s e = some t → ¬ P t) {s : σ} (hs : I s) (es : List ε) :
    Along step P s es ↔ Avoids step B s es := by
  induction es generalizing s with
  | nil => exact iff_of_true (hP s hs) trivial
  | cons e es ih =>
    constructor
    · rintro ⟨-, h⟩ t ht
      have hB : ¬ B s e := fun hB => by
        have hPt : P t := by
          cases es with
          | nil => exact h t ht
          | cons => exact (h t ht).1
        exact hbad s e t hs hB ht hPt
      exact ⟨hB, (ih (hstep s e t hs hB ht)).mp (h t ht)⟩
    · intro h
      refine ⟨hP s hs, fun t ht => ?_⟩
      obtain ⟨hB, h⟩ := h t ht
      exact (ih (hstep s e t hs hB ht)).mpr h

/-! ### What a run leaves behind -/

variable {α : Type*} {next : σ → ε → σ}

/-- What the events of a run contribute, in their order. -/
def gather (next : σ → ε → σ) (f : σ → ε → List α) : σ → List ε → List α
  | _, [] => []
  | s, e :: es => f s e ++ gather next f (next s e) es

lemma gather_append (f : σ → ε → List α) (s : σ) (es es' : List ε) :
    gather next f s (es ++ es') = gather next f s es ++ gather next f (es.foldl next s) es' := by
  induction es generalizing s with
  | nil => rfl
  | cons e es ih =>
    rw [List.cons_append, gather, ih, gather, List.foldl_cons, List.append_assoc]

lemma gather_singleton (f : σ → ε → List α) (s : σ) (e : ε) : gather next f s [e] = f s e := by
  rw [gather, gather, List.append_nil]

/-- A run that contributes less at each step contributes less. -/
lemma gather_sublist {f g : σ → ε → List α} (h : ∀ s e, (f s e).Sublist (g s e)) (s : σ)
    (es : List ε) : (gather next f s es).Sublist (gather next g s es) := by
  induction es generalizing s with
  | nil => exact .slnil
  | cons e es ih => exact (h s e).append (ih _)

/-- What holds of the contributions of each event holds of those of a run. -/
lemma gather_forall {f : σ → ε → List α} {P : α → Prop} {es : List ε}
    (h : ∀ e ∈ es, ∀ s, ∀ x ∈ f s e, P x) (s : σ) : ∀ x ∈ gather next f s es, P x := by
  induction es generalizing s with
  | nil =>
    intro x hx
    cases hx
  | cons e es ih =>
    refine List.forall_mem_append.mpr ⟨h e List.mem_cons_self s, ?_⟩
    exact ih (fun e he => h e (List.mem_cons_of_mem _ he)) _

end BuludTechVPN.Runs
