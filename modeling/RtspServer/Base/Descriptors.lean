import Mathlib.Data.List.Basic
import Mathlib.Logic.Function.Basic

/-!
# Descriptors

The open descriptors of a process, and what each of them refers to. A new one is the
least that is closed.
-/

namespace Descriptors

/-- Finitely many descriptors are open. -/
structure Table (α : Type) where
  behind : Nat → Option α
  size : Nat
  closed : ∀ d, size ≤ d → behind d = none

namespace Table

variable {α : Type} (t : Table α)

def empty : Table α := ⟨fun _ => none, 0, fun _ _ => rfl⟩

def lowest : Nat := ((List.range t.size).find? fun d => (t.behind d).isNone).getD t.size

def set (d : Nat) (x : Option α) : Table α where
  behind := Function.update t.behind d x
  size := max t.size (d + 1)
  closed := by
    intro e beyond
    rw [Function.update_of_ne (by omega)]
    exact t.closed e (by omega)

/-- An open descriptor refers to `x`. -/
def refersTo [DecidableEq α] (x : α) : Bool := (List.range t.size).any fun d => t.behind d = some x

theorem lowest_closed : t.behind t.lowest = none := by
  unfold lowest
  cases found : (List.range t.size).find? fun d => (t.behind d).isNone with
  | none => exact t.closed _ (Nat.le_refl _)
  | some d =>
    have isNone := List.find?_some found
    exact Option.isNone_iff_eq_none.mp isNone

/-- Descriptor 0 is the next one exactly when it is closed. -/
theorem lowest_eq_zero : t.lowest = 0 ↔ t.behind 0 = none := by
  refine ⟨fun zero => zero ▸ t.lowest_closed, fun closed => ?_⟩
  unfold lowest
  cases size : t.size with
  | zero => rfl
  | succ n => rw [List.range_succ_eq_map, List.find?_cons_of_pos (by rw [closed]; rfl)]; rfl

/-- The descriptor opened behind a first one. -/
theorem lowest_second {t u : Table α} {x : α} (notNull : t.lowest ≠ 0)
    (same : u.behind = Function.update t.behind t.lowest (some x)) :
    u.lowest ≠ 0 ∧ t.lowest ≠ u.lowest ∧ t.behind u.lowest = none := by
  have closed := u.lowest_closed
  have apart : t.lowest ≠ u.lowest := by
    intro wrong
    rw [← wrong, same, Function.update_self] at closed
    cases closed
  rw [same, Function.update_of_ne (Ne.symm apart)] at closed
  exact ⟨fun null => notNull (t.lowest_eq_zero.mpr (null ▸ closed)), apart, closed⟩

theorem refersTo_iff [DecidableEq α] {t : Table α} {x : α} : t.refersTo x = true ↔ ∃ d, t.behind d = some x := by
  unfold refersTo
  rw [List.any_eq_true]
  constructor
  · rintro ⟨d, -, same⟩
    exact ⟨d, of_decide_eq_true same⟩
  · rintro ⟨d, same⟩
    have inside : d < t.size := by
      by_contra beyond
      rw [t.closed d (Nat.le_of_not_lt beyond)] at same
      cases same
    exact ⟨d, List.mem_range.mpr inside, decide_eq_true same⟩

/-- Tables with the same open descriptors refer to the same. -/
theorem refersTo_congr [DecidableEq α] {t u : Table α} {x : α} (same : ∀ d, t.behind d = some x ↔ u.behind d = some x) :
    t.refersTo x = u.refersTo x := by
  rw [Bool.eq_iff_iff, refersTo_iff, refersTo_iff]
  exact exists_congr same

end Table

end Descriptors
