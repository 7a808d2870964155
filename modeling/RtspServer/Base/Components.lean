import Mathlib.Data.List.Basic

/-!
# Components side by side

A list of components to which new ones are added, and of which one at a time takes
a step. A component takes only what none of them holds.
-/

namespace Components

variable {σ α : Type} {holds : σ → List α} {l : List σ} {x : σ} {f : σ → σ} {P : σ → Prop}

/-- What component `k` holds. -/
def held (holds : σ → List α) (l : List σ) (k : Nat) : List α := l[k]?.elim [] holds

/-- No two components hold the same. -/
def Apart (holds : σ → List α) (l : List σ) : Prop := ∀ j k, j ≠ k → (held holds l j).Disjoint (held holds l k)

theorem forall_add (all : ∀ y ∈ l, P y) (new : P x) : ∀ y ∈ l ++ [x], P y :=
  List.forall_mem_append.mpr ⟨all, List.forall_mem_singleton.mpr new⟩

theorem forall_step (all : ∀ y ∈ l, P y) (keeps : ∀ y ∈ l, P y → P (f y)) (k : Nat) : ∀ y ∈ l.modify k f, P y := by
  intro y member
  obtain ⟨j, found⟩ := List.mem_iff_getElem?.mp member
  rw [List.getElem?_modify, Option.map_eq_map, Option.map_eq_some_iff] at found
  obtain ⟨z, before, same⟩ := found
  have inside := List.mem_of_getElem? before
  have old := all z inside
  split at same
  · rw [← same]
    exact keeps z inside old
  · rwa [← same]

theorem held_add (l : List σ) (x : σ) (j : Nat) :
    held holds (l ++ [x]) j = if j = l.length then holds x else held holds l j := by
  unfold held
  rcases Nat.lt_trichotomy j l.length with old | new | beyond
  · rw [List.getElem?_append_left old, if_neg (Nat.ne_of_lt old)]
  · rw [new, List.getElem?_concat_length, if_pos rfl]
    rfl
  · rw [if_neg (Nat.ne_of_gt beyond), List.getElem?_eq_none (Nat.le_of_lt beyond), List.getElem?_eq_none]
    rw [List.length_append]
    exact beyond

theorem held_step (l : List σ) (k j : Nat) :
    held holds (l.modify k f) j = if k = j then l[j]?.elim [] fun y => holds (f y) else held holds l j := by
  unfold held
  rw [List.getElem?_modify]
  split <;> cases l[j]? <;> rfl

theorem Apart.add (apart : Apart holds l) (none : holds x = []) : Apart holds (l ++ [x]) := by
  intro j k other
  rw [held_add, held_add, none]
  split
  · exact List.disjoint_nil_left _
  split
  · exact List.disjoint_nil_right _
  exact apart j k other

/-- A step after which the component holds what it held before, and what nobody held. -/
theorem Apart.step {k : Nat} (apart : Apart holds l)
    (free : ∀ y ∈ l[k]?, ∀ a ∈ holds (f y), a ∈ holds y ∨ ∀ j, a ∉ held holds l j) : Apart holds (l.modify k f) := by
  have taken {j : Nat} (other : k ≠ j) : (l[k]?.elim [] fun y => holds (f y)).Disjoint (held holds l j) := by
    cases found : l[k]? with
    | none => exact List.disjoint_nil_left _
    | some y =>
      intro a now theirs
      rcases free y found a now with mine | nobody
      · exact apart k j other (by rw [held, found]; exact mine) theirs
      · exact nobody j theirs
  intro i j other
  rw [held_step, held_step]
  split
  · rename_i first
    subst first
    rw [if_neg other]
    exact taken other
  split
  · rename_i first second
    subst second
    exact List.disjoint_comm.mp (taken first)
  · exact apart i j other

end Components
