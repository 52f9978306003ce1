import Mathlib.Data.List.Dedup
import Mathlib.Data.List.Perm.Basic

/-!
A map from keys to lists of values, kept as the list of the values in the order they were
added, each with its key.

A key with no value is not in the map. The order in which the keys are visited is left open:
it is a `KeyOrder`.
-/

namespace BuludTechVPN

/-- An order in which the keys of a map are visited. -/
structure KeyOrder (α : Type*) where
  visit : List α → List α
  perm : ∀ ks, (visit ks).Perm ks

/-- The keys in the order in which they are kept. -/
def KeyOrder.asKept (α : Type*) : KeyOrder α := ⟨fun ks => ks, fun _ => .refl _⟩

abbrev Multimap (α β : Type*) := List (α × β)

namespace Multimap

variable {α β : Type*} [DecidableEq α] {m m' : Multimap α β} {k k' : α} {v : β}

/-- The values of a key, in the order they were added. -/
def get (m : Multimap α β) (k : α) : List β := (m.filter (·.1 = k)).map Prod.snd

def remove (m : Multimap α β) (k : α) : Multimap α β := m.filter (·.1 ≠ k)

/-- Values that replace those of a key. -/
def put (m : Multimap α β) (k : α) (vs : List β) : Multimap α β := m.remove k ++ vs.map (k, ·)

def keys (m : Multimap α β) : List α := (m.map Prod.fst).dedup

/-- The values of every key, key by key. -/
def values (order : KeyOrder α) (m : Multimap α β) : List (List β) :=
  (order.visit m.keys).map m.get

@[simp] lemma mem_get : v ∈ m.get k ↔ (k, v) ∈ m := by
  simp [get]

@[simp] lemma mem_remove {p : α × β} : p ∈ m.remove k ↔ p ∈ m ∧ p.1 ≠ k := by
  simp [remove]

@[simp] lemma mem_put {p : α × β} {vs : List β} :
    p ∈ m.put k vs ↔ p ∈ m ∧ p.1 ≠ k ∨ p.1 = k ∧ p.2 ∈ vs := by
  obtain ⟨a, b⟩ := p
  simp only [put, List.mem_append, mem_remove, List.mem_map, Prod.mk.injEq]
  grind

@[simp] lemma get_nil : get ([] : Multimap α β) k = [] := rfl

@[simp] lemma get_append : get (m ++ m') k = m.get k ++ m'.get k := by
  simp [get]

@[simp] lemma get_cons {p : α × β} :
    get (p :: m) k = if p.1 = k then p.2 :: m.get k else m.get k := by
  simp only [get, List.filter_cons, decide_eq_true_eq]
  split_ifs <;> rfl

@[simp] lemma remove_nil : remove ([] : Multimap α β) k = [] := rfl

@[simp] lemma remove_append : remove (m ++ m') k = m.remove k ++ m'.remove k := by
  simp [remove]

@[simp] lemma remove_cons {p : α × β} :
    remove (p :: m) k = if p.1 = k then m.remove k else p :: m.remove k := by
  by_cases h : p.1 = k <;> simp [remove, h]

lemma get_remove_self : (m.remove k).get k = [] := by
  simp [get, remove, List.filter_filter]

lemma get_remove_of_ne (h : k' ≠ k) : (m.remove k).get k' = m.get k' := by
  simp only [get, remove, List.filter_filter]
  congr 1
  refine List.filter_congr fun p _ => ?_
  by_cases hp : p.1 = k' <;> simp [hp, h]

@[simp] lemma get_remove : (m.remove k).get k' = if k' = k then [] else m.get k' := by
  split_ifs with h
  · rw [h, get_remove_self]
  · rw [get_remove_of_ne h]

/-- The values that are left when the keys of a list are gone. -/
lemma get_foldl_remove (m : Multimap α β) (ks : List α) (k : α) :
    (ks.foldl remove m).get k = if k ∈ ks then [] else m.get k := by
  induction ks generalizing m with
  | nil => simp
  | cons a ks ih =>
    rw [List.foldl_cons, ih, get_remove]
    by_cases h : k = a
    · simp [h]
    · simp [h]

lemma get_map_of_ne {vs : List β} (h : k' ≠ k) : get (vs.map (k, ·)) k' = [] := by
  rw [get, List.map_eq_nil_iff, List.filter_eq_nil_iff]
  simp [h.symm]

lemma get_put_of_ne {vs : List β} (h : k' ≠ k) : (m.put k vs).get k' = m.get k' := by
  rw [put, get_append, get_remove_of_ne h, get_map_of_ne h, List.append_nil]

lemma remove_eq_self (h : m.get k = []) : m.remove k = m := by
  refine List.filter_eq_self.2 fun p hp => ?_
  have : p.2 ∉ m.get k := by simp [h]
  simp only [mem_get] at this
  simp only [ne_eq, decide_not, Bool.not_eq_true', decide_eq_false_iff_not]
  rintro rfl
  exact this hp

lemma get_eq_nil_iff : m.get k = [] ↔ ∀ v, (k, v) ∉ m := by
  simp [List.eq_nil_iff_forall_not_mem]

@[simp] lemma mem_keys : k ∈ m.keys ↔ m.get k ≠ [] := by
  simp only [keys, List.mem_dedup, List.mem_map, ne_eq, get_eq_nil_iff, not_forall, not_not]
  exact ⟨fun ⟨p, h, e⟩ => ⟨p.2, e ▸ h⟩, fun ⟨v, h⟩ => ⟨(k, v), h, rfl⟩⟩

lemma mem_visit {order : KeyOrder α} : k ∈ order.visit m.keys ↔ m.get k ≠ [] := by
  rw [(order.perm _).mem_iff, mem_keys]

lemma mem_values {order : KeyOrder α} {vs : List β} :
    vs ∈ m.values order ↔ vs ≠ [] ∧ ∃ k, m.get k = vs := by
  simp only [values, List.mem_map, mem_visit]
  grind

end Multimap

end BuludTechVPN
