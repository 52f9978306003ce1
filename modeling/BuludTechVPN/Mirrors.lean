import Mathlib.Logic.Relation

/-!
A value and its mirror: a process joins late, gets a snapshot of the value, and is sent every
message about a change from then on.

Messages are posted to a queue and sent later. One that waits in the queue when the snapshot is
taken is received although the snapshot has what it tells; one that is sent between the snapshot
and the registration is missed. A mirror that missed none agrees with the original once it has
received what is posted.
-/

namespace BuludTechVPN.Mirrors

open Relation

variable {σ τ μ : Type*}

/-- The messages were posted, one after another, on the way from one value to the other. -/
inductive Leads (Posts : σ → μ → σ → Prop) : σ → List μ → σ → Prop
  | refl (s : σ) : Leads Posts s [] s
  | post {s s' s'' : σ} {q : List μ} {m : μ} (h : Leads Posts s q s') (hm : Posts s' m s'') :
      Leads Posts s (q ++ [m]) s''

/-- What is mirrored, and how. -/
structure Protocol (σ τ μ : Type*) where
  /-- The original changes, and posts a message about it. -/
  Posts : σ → μ → σ → Prop
  receive : τ → μ → τ
  /-- What a snapshot makes of the mirror. -/
  snapshot : σ → τ → τ
  /-- The mirrors that may join. -/
  Joins : σ → τ → Prop
  Agrees : σ → τ → Prop
  agrees_receive {s s' : σ} {t : τ} {m : μ} :
    Posts s m s' → Agrees s t → Agrees s' (receive t m)
  agrees_snapshot {s₀ s : σ} {q : List μ} {t : τ} :
    Leads Posts s₀ q s → Joins s t → Agrees s (q.foldl receive (snapshot s t))

inductive Phase
  | apart
  | joined
  | listening
  deriving DecidableEq, Repr

/-- An original with its queue, and a mirror as it will be when all that is sent to it has
arrived. -/
structure Mirror (σ τ μ : Type*) where
  original : σ
  queue : List μ
  mirror : τ
  phase : Phase

variable (P : Protocol σ τ μ)

/-- A mirror is as good as another, whatever is still to be received. -/
def Protocol.Improves (t t' : τ) : Prop :=
  ∀ (s : σ) (q : List μ), P.Agrees s (q.foldl P.receive t) → P.Agrees s (q.foldl P.receive t')

/-- A step; no message is sent between the snapshot and the registration. -/
inductive Step : Mirror σ τ μ → Mirror σ τ μ → Prop
  | post {c : Mirror σ τ μ} {m : μ} {s : σ} (h : P.Posts c.original m s) :
      Step c { c with original := s, queue := c.queue ++ [m] }
  | send {c : Mirror σ τ μ} {m : μ} {q : List μ} (hq : c.queue = m :: q)
      (h : c.phase = .listening) : Step c { c with queue := q, mirror := P.receive c.mirror m }
  | pass {c : Mirror σ τ μ} {m : μ} {q : List μ} (hq : c.queue = m :: q) (h : c.phase = .apart) :
      Step c { c with queue := q }
  | join {c : Mirror σ τ μ} (h : P.Joins c.original c.mirror) :
      Step c { c with mirror := P.snapshot c.original c.mirror, phase := .joined }
  | listen {c : Mirror σ τ μ} (h : c.phase = .joined) : Step c { c with phase := .listening }
  | improve {c : Mirror σ τ μ} {t : τ} (h : P.Improves c.mirror t) : Step c { c with mirror := t }
  | leave {c : Mirror σ τ μ} (t : τ) : Step c { c with mirror := t, phase := .apart }
  /-- The original is another one, and nobody is listening. -/
  | renew {c : Mirror σ τ μ} (s : σ) (t : τ) : Step c ⟨s, [], t, .apart⟩

/-- The queue has led to the value, and a mirror that joined will agree with it. -/
structure Faithful (c : Mirror σ τ μ) : Prop where
  leads : ∃ s, Leads P.Posts s c.queue c.original
  agrees : c.phase ≠ .apart → P.Agrees c.original (c.queue.foldl P.receive c.mirror)

variable {P}

lemma Protocol.Improves.refl (t : τ) : P.Improves t t := fun _ _ h => h

/-- What is received later does not matter. -/
lemma Protocol.Improves.foldl {t t' : τ} (h : P.Improves t t') (q : List μ) :
    P.Improves (q.foldl P.receive t) (q.foldl P.receive t') := by
  intro s r hr
  rw [← List.foldl_append] at hr ⊢
  exact h s (q ++ r) hr

/-- What is left of a queue has led to the value as well. -/
lemma Leads.of_cons {Posts : σ → μ → σ → Prop} {s s' : σ} {m : μ} {q : List μ}
    (h : Leads Posts s (m :: q) s') : ∃ s, Leads Posts s q s' := by
  generalize hl : m :: q = l at h
  induction h generalizing q with
  | refl => cases hl
  | @post s' s'' l m' h hm ih =>
    cases l with
    | nil =>
      obtain ⟨-, rfl⟩ := List.cons.inj hl
      exact ⟨s'', .refl s''⟩
    | cons x l =>
      obtain ⟨rfl, rfl⟩ := List.cons.inj hl
      obtain ⟨s₁, h₁⟩ := ih rfl
      exact ⟨s₁, h₁.post hm⟩

/-- **A step keeps faith.** -/
theorem Faithful.step {c d : Mirror σ τ μ} (h : Faithful P c) (hstep : Step P c d) :
    Faithful P d := by
  obtain ⟨⟨s₀, hleads⟩, hagrees⟩ := h
  cases hstep with
  | post hm =>
    refine ⟨⟨s₀, hleads.post hm⟩, fun hp => ?_⟩
    rw [List.foldl_append]
    exact P.agrees_receive hm (hagrees hp)
  | send hq hphase =>
    rw [hq] at hleads hagrees
    exact ⟨hleads.of_cons, fun hp => hagrees hp⟩
  | pass hq hphase =>
    rw [hq] at hleads
    exact ⟨hleads.of_cons, fun hp => absurd hphase hp⟩
  | join hjoins => exact ⟨⟨s₀, hleads⟩, fun _ => P.agrees_snapshot hleads hjoins⟩
  | listen hphase => exact ⟨⟨s₀, hleads⟩, fun _ => hagrees (by rw [hphase]; nofun)⟩
  | improve ht => exact ⟨⟨s₀, hleads⟩, fun hp => ht _ _ (hagrees hp)⟩
  | leave t => exact ⟨⟨s₀, hleads⟩, fun hp => absurd rfl hp⟩
  | renew s t => exact ⟨⟨s, .refl s⟩, fun hp => absurd rfl hp⟩

/-- **Runs keep faith.** -/
theorem Faithful.run {c d : Mirror σ τ μ} (h : Faithful P c)
    (hrun : ReflTransGen (Step P) c d) : Faithful P d := by
  induction hrun with
  | refl => exact h
  | tail _ hstep ih => exact ih.step hstep

/-- A mirror that has received everything agrees. -/
lemma Faithful.settled {c : Mirror σ τ μ} (h : Faithful P c) (hp : c.phase = .listening)
    (hq : c.queue = []) : P.Agrees c.original c.mirror := by
  have hagrees := h.agrees (by rw [hp]; nofun)
  rwa [hq] at hagrees

/-- Several messages are posted. -/
lemma Step.posts {s s' : σ} {q ms : List μ} {t : τ} {p : Phase} (h : Leads P.Posts s ms s') :
    ReflTransGen (Step P) ⟨s, q, t, p⟩ ⟨s', q ++ ms, t, p⟩ := by
  induction h with
  | refl =>
    rw [List.append_nil]
  | @post s' s'' ms m h hm ih =>
    have hstep := Step.post (c := (⟨s', q ++ ms, t, p⟩ : Mirror σ τ μ)) hm
    rw [List.append_assoc] at hstep
    exact ih.tail hstep

end BuludTechVPN.Mirrors
