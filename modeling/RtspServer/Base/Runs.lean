import Mathlib.Tactic.Common

/-!
# Runs of a fallible step

The runs of a step function that may fail, the properties of all states a run
reaches, and the rules that lead from one step to a run.
-/

namespace Runs

variable {σ ε φ : Type} (step : σ → ε → Except φ σ)

def run : List ε → σ → Except φ σ
  | [], x => .ok x
  | e :: es, x => do run es (← step x e)

/-- `P` holds in every state of the run. -/
def Always (P : σ → Prop) : List ε → σ → Prop
  | [], x => P x
  | e :: es, x => P x ∧ ∀ y, step x e = .ok y → Always P es y

/-- Every step the run takes meets `C`. -/
def EachStep (C : σ → ε → Prop) : List ε → σ → Prop
  | [], _ => True
  | e :: es, x => ∀ y, step x e = .ok y → C x e ∧ EachStep C es y

/-- Every step the run tries meets `C`, also the one it fails in. -/
def EachTry (C : σ → ε → Prop) : List ε → σ → Prop
  | [], _ => True
  | e :: es, x => C x e ∧ ∀ y, step x e = .ok y → EachTry C es y

variable {step} {P Inv : σ → Prop} {C : σ → ε → Prop} {es : List ε} {x y : σ}

instance decidableEachStep [∀ x e, Decidable (C x e)] : ∀ es x, Decidable (EachStep step C es x)
  | [], _ => isTrue trivial
  | e :: es, x =>
    match taken : step x e with
    | .error _ => isTrue fun y other => by rw [taken] at other; cases other
    | .ok y =>
      have : Decidable (EachStep step C es y) := decidableEachStep es y
      decidable_of_iff (C x e ∧ EachStep step C es y)
        ⟨fun meets z same => by cases taken.symm.trans same; exact meets, fun meets => meets y taken⟩

theorem run_cons {e : ε} (h : run step (e :: es) x = .ok y) : ∃ z, step x e = .ok z ∧ run step es z = .ok y := by
  rw [run] at h
  cases taken : step x e with
  | error f => rw [taken] at h; cases h
  | ok z =>
    rw [taken] at h
    exact ⟨z, rfl, h⟩

theorem run_append {fs : List ε} {z : σ} (first : run step es x = .ok y) (second : run step fs y = .ok z) :
    run step (es ++ fs) x = .ok z := by
  induction es generalizing x with
  | nil =>
    cases first
    exact second
  | cons e es ih =>
    obtain ⟨w, taken, rest⟩ := run_cons first
    rw [List.cons_append, run, taken]
    exact ih rest

theorem run_ends {β : Type} {f : σ → β} {b : β} (h : (run step es x).toOption.map f = some b) :
    ∃ y, run step es x = .ok y ∧ f y = b := by
  cases ended : run step es x with
  | error e => rw [ended] at h; cases h
  | ok y =>
    rw [ended] at h
    exact ⟨y, rfl, Option.some.inj h⟩

theorem Always.last (always : Always step P es x) (h : run step es x = .ok y) : P y := by
  induction es generalizing x with
  | nil =>
    cases h
    exact always
  | cons e es ih =>
    obtain ⟨z, taken, rest⟩ := run_cons h
    exact ih (always.2 z taken) rest

/-- An invariant that every step keeps holds at the end of every run. -/
theorem run_invariant (keeps : ∀ {x e y}, Inv x → step x e = .ok y → Inv y) (init : Inv x) (h : run step es x = .ok y) :
    Inv y := by
  induction es generalizing x with
  | nil =>
    cases h
    exact init
  | cons e es ih =>
    obtain ⟨z, taken, rest⟩ := run_cons h
    exact ih (keeps init taken) rest

/-- Steps on events of `E` that succeed wherever the invariant holds, and keep it, make up runs
that succeed. -/
theorem run_total {E : ε → Prop} (keeps : ∀ {x e}, E e → Inv x → ∃ y, step x e = .ok y ∧ Inv y) (init : Inv x)
    (events : ∀ e ∈ es, E e) : ∃ y, run step es x = .ok y ∧ Inv y := by
  induction es generalizing x with
  | nil => exact ⟨x, rfl, init⟩
  | cons e es ih =>
    obtain ⟨z, taken, holds⟩ := keeps (events e List.mem_cons_self) init
    obtain ⟨y, rest, last⟩ := ih holds fun e' member => events e' (List.mem_cons_of_mem e member)
    refine ⟨y, ?_, last⟩
    rw [run, taken]
    exact rest

/-- An invariant that steps on events of `E` keep under a condition holds at the end of a run
that meets it. -/
theorem run_keeps {E : ε → Prop} (keeps : ∀ {x e y}, E e → Inv x → C x e → step x e = .ok y → Inv y)
    (events : ∀ e ∈ es, E e) (init : Inv x) (meets : EachStep step C es x) (h : run step es x = .ok y) : Inv y := by
  induction es generalizing x with
  | nil =>
    cases h
    exact init
  | cons e es ih =>
    obtain ⟨z, taken, rest⟩ := run_cons h
    obtain ⟨now, later⟩ := meets z taken
    have first := keeps (events e List.mem_cons_self) init now taken
    exact ih (fun e' member => events e' (List.mem_cons_of_mem e member)) first later rest

/-- Where the step on the event of each action follows a machine `next` up to `R`, so do the runs. -/
theorem run_follows {τ α : Type} {R : τ → σ → Prop} {next : τ → α → τ} {event : α → ε}
    (follows : ∀ {t x} (a : α), R t x → ∃ y, step x (event a) = .ok y ∧ R (next t a) y) (actions : List α) {t : τ}
    (related : R t x) : ∃ y, run step (actions.map event) x = .ok y ∧ R (actions.foldl next t) y := by
  induction actions generalizing t x with
  | nil => exact ⟨x, rfl, related⟩
  | cons a actions ih =>
    obtain ⟨z, taken, here⟩ := follows a related
    obtain ⟨y, rest, last⟩ := ih here
    refine ⟨y, ?_, last⟩
    rw [List.map_cons, run, taken]
    exact rest

/-- Two conditions that say the same of every step say the same of every run. -/
theorem eachTry_congr {D : σ → ε → Prop} (same : ∀ x e, C x e ↔ D x e) : EachTry step C es x ↔ EachTry step D es x := by
  induction es generalizing x with
  | nil => exact Iff.rfl
  | cons e es ih => exact and_congr (same x e) (forall_congr' fun y => forall_congr' fun _ => ih)

/-- Where a step on an event of `E` keeps `P` exactly when it meets `C`, a run on such events
keeps it exactly when all its steps do. `Inv` is what holds of all states anyway. -/
theorem always_iff {E : ε → Prop} (keeps : ∀ {x e y}, E e → Inv x → step x e = .ok y → Inv y)
    (exact : ∀ {x e y}, E e → Inv x → P x → step x e = .ok y → (P y ↔ C x e)) (events : ∀ e ∈ es, E e) (inv : Inv x)
    (init : P x) : Always step P es x ↔ EachStep step C es x := by
  induction es generalizing x with
  | nil => exact iff_of_true init trivial
  | cons e es ih =>
    have first : E e := events e List.mem_cons_self
    have rest : ∀ e' ∈ es, E e' := fun e' member => events e' (List.mem_cons_of_mem e member)
    constructor
    · intro always y taken
      have next := always.2 y taken
      have holds : P y := by
        cases es with
        | nil => exact next
        | cons => exact next.1
      exact ⟨(exact first inv init taken).mp holds, (ih rest (keeps first inv taken) holds).mp next⟩
    · intro meets
      refine ⟨init, fun y taken => ?_⟩
      obtain ⟨now, later⟩ := meets y taken
      have holds := (exact first inv init taken).mpr now
      exact (ih rest (keeps first inv taken) holds).mpr later

end Runs
