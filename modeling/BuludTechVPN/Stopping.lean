import Mathlib.Order.Basic

/-!
Computations that return a value or stop, with what holds where they stop and of what they return.

The rules follow the way a computation is put together, so that each operation has one rule and a
sequence of them is gone through step by step.
-/

namespace BuludTechVPN.Stopping

variable {ε : Type*} {α β : Type} {E : ε → Prop} {P Q : α → Prop} {R : β → Prop} {r s : Except ε α}
  {f : α → Except ε β}

/-- A computation stops in `E` or returns in `P`. -/
def Meets (E : ε → Prop) (r : Except ε α) (P : α → Prop) : Prop :=
  match r with
  | .ok a => P a
  | .error e => E e

lemma ok_bind (a : α) (f : α → Except ε β) : (Except.ok a >>= f) = f a := rfl

lemma of_ok {a : α} (h : P a) : Meets E (.ok a) P := h

lemma of_error {e : ε} (h : E e) : Meets E (.error e) P := h

lemma Meets.of_eq_ok {a : α} (h : Meets E r P) (hr : r = .ok a) : P a := by
  subst hr
  exact h

lemma Meets.of_eq_error {e : ε} (h : Meets E r P) (hr : r = .error e) : E e := by
  subst hr
  exact h

lemma Meets.bind (h : Meets E r P) (hf : ∀ a, P a → Meets E (f a) R) :
    Meets E (r >>= f) R := by
  cases r with
  | error e => exact h
  | ok a => exact hf a h

lemma Meets.mono (h : Meets E r P) (hPQ : ∀ a, P a → Q a) : Meets E r Q := by
  cases r with
  | error e => exact h
  | ok a => exact hPQ a h

lemma Meets.ite {c : Prop} [Decidable c] (hr : c → Meets E r P) (hs : ¬ c → Meets E s P) :
    Meets E (if c then r else s) P := by
  split_ifs with hc
  · exact hr hc
  · exact hs hc

/-! ### Two computations -/

section Follows

variable {γ δ : Type} {g : ε → Option ε} {R : α → β → Prop} {T : γ → δ → Prop} {u : Except ε β}
  {k : α → Except ε γ} {k' : β → Except ε δ}

/-- The second computation returns what corresponds to what the first one does; where the first one
stops, `g` says where the second one does, if it has to. -/
def Follows (g : ε → Option ε) (R : α → β → Prop) (r : Except ε α) (u : Except ε β) : Prop :=
  match r with
  | .ok a => ∃ b, u = .ok b ∧ R a b
  | .error e => ∀ e', g e = some e' → u = .error e'

lemma Follows.of_ok {a : α} {b : β} (h : R a b) : Follows g R (.ok a) (.ok b) := ⟨b, rfl, h⟩

lemma Follows.of_free {e : ε} (h : g e = none) : Follows g R (.error e) u := fun e' he => by
  rw [h] at he
  cases he

lemma Follows.of_stop {e e' : ε} (h : g e = some e') : Follows g R (.error e) (.error e') :=
  fun e'' he => by rw [Option.some_inj.1 (h.symm.trans he)]

lemma Follows.bind (h : Follows g R r u) (hk : ∀ a b, R a b → Follows g T (k a) (k' b)) :
    Follows g T (r >>= k) (u >>= k') := by
  cases r with
  | error e =>
    intro e' he
    rw [h e' he]
    rfl
  | ok a =>
    obtain ⟨b, rfl, hab⟩ := h
    exact hk a b hab

lemma Follows.ite {c : Prop} [Decidable c] {s : Except ε α} {v : Except ε β}
    (hr : c → Follows g R r u) (hs : ¬ c → Follows g R s v) :
    Follows g R (if c then r else s) (if c then u else v) := by
  split_ifs with hc
  · exact hr hc
  · exact hs hc

end Follows

end BuludTechVPN.Stopping
