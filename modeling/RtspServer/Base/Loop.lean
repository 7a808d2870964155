import Mathlib.Logic.Relation

/-!
# Loops with fuel

A loop is a step that goes on from a new state or ends with a result. Without a
bound on its rounds it is run with fuel, and it never ends if no fuel suffices.
-/

namespace Loop

variable {σ β φ : Type} (step : σ → Except φ (σ ⊕ β)) (outOfFuel : φ)

def run : Nat → σ → Except φ β
  | 0, _ => .error outOfFuel
  | n + 1, x => do
    match ← step x with
    | .inl y => run n y
    | .inr b => return b

/-- One round that goes on. -/
def Next (x y : σ) : Prop := step x = .ok (.inl y)

/-- The states in which a round starts. -/
abbrev Reaches : σ → σ → Prop := Relation.ReflTransGen (Next step)

/-- The states at the heads of the first `n` rounds. -/
def trace : Nat → σ → List σ
  | 0, _ => []
  | n + 1, x =>
    match step x with
    | .ok (.inl y) => x :: trace n y
    | _ => [x]

variable {step outOfFuel} {x y : σ} {n : Nat}

theorem run_next (next : Next step x y) : run step outOfFuel (n + 1) x = run step outOfFuel n y := by
  rw [run, next]
  rfl

theorem run_error {e : φ} (failed : step x = .error e) : run step outOfFuel (n + 1) x = .error e := by
  rw [run, failed]
  rfl

theorem run_done {b : β} (done : step x = .ok (.inr b)) : run step outOfFuel (n + 1) x = .ok b := by
  rw [run, done]
  rfl

variable (step) in
theorem step_cases (x : σ) : (∃ e, step x = .error e) ∨ (∃ y, Next step x y) ∨ ∃ b, step x = .ok (.inr b) := by
  cases taken : step x with
  | error e => exact .inl ⟨e, rfl⟩
  | ok r =>
    cases r with
    | inl y => exact .inr (.inl ⟨y, taken⟩)
    | inr b => exact .inr (.inr ⟨b, rfl⟩)

theorem reaches_keeps {I : σ → Prop} (keeps : ∀ x y, I x → Next step x y → I y) (init : I x) (path : Reaches step x y) :
    I y := by
  induction path with
  | refl => exact init
  | tail _ next ih => exact keeps _ _ ih next

theorem trace_next (next : Next step x y) : trace step (n + 1) x = x :: trace step n y := by
  rw [trace, next]

theorem trace_done {b : β} (done : step x = .ok (.inr b)) : trace step (n + 1) x = [x] := by
  rw [trace, done]

/-- What the rounds do one by one, a run does by doing it at each head. -/
theorem run_fold {ρ : Type} {act : ρ → σ → ρ} {R : ρ → σ → Prop} {L : ρ → β → Prop} {r : ρ} {b : β}
    (rounds : ∀ r x y, R r x → Next step x y → R (act r x) y)
    (last : ∀ r x b, R r x → step x = .ok (.inr b) → L (act r x) b) (init : R r x)
    (h : run step outOfFuel n x = .ok b) : L ((trace step n x).foldl act r) b := by
  induction n generalizing x r with
  | zero => cases h
  | succ n ih =>
    rcases step_cases step x with ⟨e, failed⟩ | ⟨y, next⟩ | ⟨b', done⟩
    · rw [run_error failed] at h
      cases h
    · rw [run_next next] at h
      rw [trace_next next, List.foldl_cons]
      exact ih (rounds r x y init next) h
    · rw [run_done done] at h
      cases h
      rw [trace_done done]
      exact last r x b init done

/-- What holds of the head of each round that goes on, and of the last one, holds of all heads. -/
theorem trace_all {I G : σ → Prop} {b : β} (rounds : ∀ x y, I x → Next step x y → G x ∧ I y)
    (last : ∀ x, I x → step x = .ok (.inr b) → G x) (init : I x) (h : run step outOfFuel n x = .ok b) :
    ∀ y ∈ trace step n x, G y := by
  induction n generalizing x with
  | zero => cases h
  | succ n ih =>
    rcases step_cases step x with ⟨e, failed⟩ | ⟨y, next⟩ | ⟨b', done⟩
    · rw [run_error failed] at h
      cases h
    · obtain ⟨here, kept⟩ := rounds x y init next
      rw [run_next next] at h
      rw [trace_next next]
      exact List.forall_mem_cons.mpr ⟨here, ih kept h⟩
    · rw [run_done done] at h
      cases h
      rw [trace_done done]
      exact List.forall_mem_singleton.mpr (last x init done)

/-- A round that never ends keeps the loop from ending. -/
theorem never_ends {I : σ → Prop} (goes : ∀ x, I x → ∃ y, Next step x y ∧ I y) (init : I x) (n : Nat) :
    run step outOfFuel n x = .error outOfFuel := by
  induction n generalizing x with
  | zero => rfl
  | succ n ih =>
    obtain ⟨y, next, kept⟩ := goes x init
    rw [run_next next]
    exact ih kept

/-- A loop ends if a measure falls in every round. -/
theorem ends {μ : σ → Nat} (falls : ∀ y z, Reaches step x y → Next step y z → μ z < μ y)
    (sound : ∀ y, Reaches step x y → step y ≠ .error outOfFuel) (enough : μ x < n) :
    run step outOfFuel n x ≠ .error outOfFuel := by
  induction n generalizing x with
  | zero => cases enough
  | succ n ih =>
    rcases step_cases step x with ⟨e, failed⟩ | ⟨y, next⟩ | ⟨b, done⟩
    · rw [run_error failed]
      exact fun same => sound x .refl (failed.trans (congrArg _ (Except.error.inj same)))
    · rw [run_next next]
      have less := falls x y .refl next
      apply ih (fun u v path => falls u v (.head next path)) (fun u path => sound u (.head next path))
      omega
    · rw [run_done done]
      exact fun same => nomatch same

/-- A fault that no round has is not a fault of the loop. -/
theorem run_sound {e : φ} (sound : ∀ y, Reaches step x y → step y ≠ .error e) (other : outOfFuel ≠ e) (n : Nat) :
    run step outOfFuel n x ≠ .error e := by
  induction n generalizing x with
  | zero => exact fun same => other (Except.error.inj same)
  | succ n ih =>
    rcases step_cases step x with ⟨e', failed⟩ | ⟨y, next⟩ | ⟨b, done⟩
    · rw [run_error failed]
      exact fun same => sound x .refl (failed.trans (congrArg _ (Except.error.inj same)))
    · rw [run_next next]
      exact ih fun u path => sound u (.head next path)
    · rw [run_done done]
      exact fun same => nomatch same

/-- Enough fuel gives one result, however much it is. -/
theorem run_agree {m : Nat} (first : run step outOfFuel n x ≠ .error outOfFuel)
    (second : run step outOfFuel m x ≠ .error outOfFuel) : run step outOfFuel n x = run step outOfFuel m x := by
  induction n generalizing x m with
  | zero => exact absurd rfl first
  | succ n ih =>
    cases m with
    | zero => exact absurd rfl second
    | succ m =>
      rcases step_cases step x with ⟨e, failed⟩ | ⟨y, next⟩ | ⟨b, done⟩
      · rw [run_error failed, run_error failed]
      · rw [run_next next] at first ⊢
        rw [run_next next] at second ⊢
        exact ih first second
      · rw [run_done done, run_done done]

/-- Fuel above a measure that falls in every round gives the same result. -/
theorem run_enough {μ : σ → Nat} (falls : ∀ y z, Reaches step x y → Next step y z → μ z < μ y) {m : Nat}
    (enough : μ x < n) (enough' : μ x < m) : run step outOfFuel n x = run step outOfFuel m x := by
  induction n generalizing x m with
  | zero => cases enough
  | succ n ih =>
    cases m with
    | zero => cases enough'
    | succ m =>
      rcases step_cases step x with ⟨e, failed⟩ | ⟨y, next⟩ | ⟨b, done⟩
      · rw [run_error failed, run_error failed]
      · rw [run_next next, run_next next]
        have less := falls x y .refl next
        exact ih (fun u v path => falls u v (.head next path)) (by omega) (by omega)
      · rw [run_done done, run_done done]

section

variable {step' : σ → Except φ (σ ⊕ β)}

theorem run_congr (same : ∀ y, Reaches step x y → step' y = step y) (n : Nat) :
    run step' outOfFuel n x = run step outOfFuel n x := by
  induction n generalizing x with
  | zero => rfl
  | succ n ih =>
    have here := same x .refl
    rcases step_cases step x with ⟨e, failed⟩ | ⟨y, next⟩ | ⟨b, done⟩
    · rw [run_error failed, run_error (here.trans failed)]
    · rw [run_next next, run_next (here.trans next)]
      exact ih fun u path => same u (.head next path)
    · rw [run_done done, run_done (here.trans done)]

theorem eq_of_either {α : Type} {a b c : α} (there : a = b ∨ a = c) (back : b = a ∨ b = c) : a = b := by
  rcases there with equal | out
  · exact equal
  rcases back with equal | out'
  · exact equal.symm
  · rw [out, out']

/-- A step that does as `step` does, or runs out of fuel itself, takes no other path. -/
theorem reaches_of_approx (approx : ∀ y, Reaches step x y → step' y = step y ∨ step' y = .error outOfFuel)
    (path : Reaches step' x y) : Reaches step x y := by
  induction path with
  | refl => exact .refl
  | tail _ next ih =>
    rcases approx _ ih with same | out
    · exact ih.tail (same.symm.trans next)
    · exact nomatch out.symm.trans next

/-- It runs out of fuel on every path to a state where `step` does. -/
theorem stuck_of_reaches (approx : ∀ y, Reaches step x y → step' y = step y ∨ step' y = .error outOfFuel)
    (path : Reaches step x y) (stuck : step y = .error outOfFuel) (n : Nat) :
    run step' outOfFuel n x = .error outOfFuel := by
  induction path using Relation.ReflTransGen.head_induction_on generalizing n with
  | refl =>
    cases n with
    | zero => rfl
    | succ n =>
      apply run_error
      rcases approx y .refl with same | out
      · exact same.trans stuck
      · exact out
  | head next _ ih =>
    cases n with
    | zero => rfl
    | succ n =>
      rcases approx _ .refl with same | out
      · rw [run_next (same.trans next)]
        exact ih (fun u path => approx u (.head next path)) n
      · exact run_error out

end

end Loop
