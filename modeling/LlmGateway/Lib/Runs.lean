import Mathlib.Algebra.Group.Defs
import Mathlib.Data.List.Infix

/-!
Finite runs of a deterministic machine: a step function folded over an event
list. `Always` reads a property in every state of a run, `Guarded` reads a
relation at every step, and `tally` sums what each step weighs. The rules
below turn a one-step fact into a fact about every run.
-/

namespace Runs

variable {State Event : Type*}

def run (step : State → Event → State) : State → List Event → State
  | state, [] => state
  | state, event :: rest => run step (step state event) rest

def Always (step : State → Event → State) (good : State → Prop) : State → List Event → Prop
  | state, [] => good state
  | state, event :: rest => good state ∧ Always step good (step state event) rest

def Guarded (step : State → Event → State) (allowed : State → Event → Prop) :
    State → List Event → Prop
  | _, [] => True
  | state, event :: rest => allowed state event ∧ Guarded step allowed (step state event) rest

def tally {Weight : Type*} [AddMonoid Weight] (step : State → Event → State)
    (weigh : State → Event → Weight) : State → List Event → Weight
  | _, [] => 0
  | state, event :: rest => weigh state event + tally step weigh (step state event) rest

instance Always.decidable (step : State → Event → State) (good : State → Prop)
    [DecidablePred good] : (state : State) → (events : List Event) →
      Decidable (Always step good state events)
  | state, [] => inferInstanceAs (Decidable (good state))
  | state, event :: rest =>
      have := Always.decidable step good (step state event) rest
      inferInstanceAs (Decidable (good state ∧ Always step good (step state event) rest))

instance Guarded.decidable (step : State → Event → State) (allowed : State → Event → Prop)
    [∀ state event, Decidable (allowed state event)] : (state : State) → (events : List Event) →
      Decidable (Guarded step allowed state events)
  | _, [] => inferInstanceAs (Decidable True)
  | state, event :: rest =>
      have := Guarded.decidable step allowed (step state event) rest
      inferInstanceAs (Decidable (allowed state event ∧
        Guarded step allowed (step state event) rest))

section Rules

variable (step : State → Event → State)

theorem run_append (state : State) (before after : List Event) :
    run step state (before ++ after) = run step (run step state before) after := by
  induction before generalizing state with
  | nil => rfl
  | cons event rest ih => exact ih (step state event)

theorem guarded_append (allowed : State → Event → Prop) (state : State)
    (before after : List Event) :
    Guarded step allowed state (before ++ after) ↔
      Guarded step allowed state before ∧ Guarded step allowed (run step state before) after := by
  induction before generalizing state with
  | nil => exact (iff_of_eq (true_and _)).symm
  | cons event rest ih => exact (and_congr_right fun _ => ih (step state event)).trans and_assoc.symm

theorem always_head (good : State → Prop) (state : State) (events : List Event)
    (holds : Always step good state events) : good state := by
  cases events with
  | nil => exact holds
  | cons event rest => exact holds.1

theorem always_iff (good : State → Prop) (state : State) (events : List Event) :
    Always step good state events ↔
      ∀ before, before <+: events → good (run step state before) := by
  induction events generalizing state with
  | nil =>
      constructor
      · intro holds before isPrefix
        rw [List.prefix_nil.mp isPrefix]
        exact holds
      · intro holds
        exact holds [] List.nil_prefix
  | cons event rest ih =>
      constructor
      · intro holds before isPrefix
        -- A prefix is empty, or it takes `event` and a prefix of `rest`.
        cases before with
        | nil => exact holds.1
        | cons first others =>
            obtain ⟨same, tail⟩ := List.cons_prefix_cons.mp isPrefix
            subst same
            exact (ih (step state first)).mp holds.2 others tail
      · intro holds
        refine ⟨holds [] List.nil_prefix, (ih (step state event)).mpr ?_⟩
        intro before isPrefix
        exact holds (event :: before) (List.cons_prefix_cons.mpr ⟨rfl, isPrefix⟩)

theorem always_last (good : State → Prop) (state : State) (events : List Event)
    (holds : Always step good state events) : good (run step state events) :=
  (always_iff step good state events).mp holds events List.prefix_rfl

theorem always_mono (strong weak : State → Prop) (implies : ∀ state, strong state → weak state)
    (state : State) (events : List Event) (holds : Always step strong state events) :
    Always step weak state events := by
  induction events generalizing state with
  | nil => exact implies state holds
  | cons event rest ih => exact ⟨implies state holds.1, ih (step state event) holds.2⟩

/-- A property that every allowed step preserves holds along every guarded run. -/
theorem always_of_guarded (good : State → Prop) (allowed : State → Event → Prop)
    (preserved : ∀ state event, good state → allowed state event → good (step state event))
    (state : State) (events : List Event) (start : good state)
    (guarded : Guarded step allowed state events) : Always step good state events := by
  induction events generalizing state with
  | nil => exact start
  | cons event rest ih =>
      exact ⟨start, ih (step state event) (preserved state event start guarded.1) guarded.2⟩

theorem always_of_invariant (good : State → Prop)
    (preserved : ∀ state event, good state → good (step state event))
    (state : State) (events : List Event) (start : good state) :
    Always step good state events := by
  induction events generalizing state with
  | nil => exact start
  | cons event rest ih => exact ⟨start, ih (step state event) (preserved state event start)⟩

theorem run_invariant (good : State → Prop)
    (preserved : ∀ state event, good state → good (step state event))
    (state : State) (events : List Event) (start : good state) : good (run step state events) :=
  always_last step good state events (always_of_invariant step good preserved state events start)

theorem run_history (good : List Event → State → Prop) (start : State) (base : good [] start)
    (preserved : ∀ before event, good before (run step start before) →
      good (before ++ [event]) (step (run step start before) event))
    (events : List Event) : good events (run step start events) := by
  induction events using List.reverseRecOn with
  | nil => exact base
  | append_singleton before event ih =>
      rw [run_append]
      exact preserved before event ih

/-- Under a background invariant, a one-step equivalence lifts to whole runs:
the property holds in every state exactly when every step is allowed. -/
theorem always_iff_guarded (background good : State → Prop) (allowed : State → Event → Prop)
    (kept : ∀ state event, background state → background (step state event))
    (exact_step : ∀ state event, background state → good state →
      (good (step state event) ↔ allowed state event))
    (state : State) (events : List Event) (base : background state) (start : good state) :
    Always step good state events ↔ Guarded step allowed state events := by
  induction events generalizing state with
  | nil => exact ⟨fun _ => trivial, fun _ => start⟩
  | cons event rest ih =>
      have tail := ih (step state event) (kept state event base)
      have head := exact_step state event base start
      constructor
      · intro holds
        -- Goodness of the next state is what the step's equivalence turns into permission.
        have next := always_head step good (step state event) rest holds.2
        exact ⟨head.mp next, (tail next).mp holds.2⟩
      · intro guarded
        have next := head.mpr guarded.1
        exact ⟨start, (tail next).mpr guarded.2⟩

theorem guarded_of_invariant (good : State → Prop) (allowed : State → Event → Prop)
    (kept : ∀ state event, good state → good (step state event))
    (gives : ∀ state event, good state → allowed state event)
    (state : State) (events : List Event) (start : good state) :
    Guarded step allowed state events := by
  induction events generalizing state with
  | nil => trivial
  | cons event rest ih =>
      exact ⟨gives state event start, ih (step state event) (kept state event start)⟩

theorem guarded_of_always (good : State → Prop) (allowed : State → Event → Prop)
    (gives : ∀ state event, good state → allowed state event)
    (state : State) (events : List Event) (holds : Always step good state events) :
    Guarded step allowed state events := by
  induction events generalizing state with
  | nil => trivial
  | cons event rest ih => exact ⟨gives state event holds.1, ih (step state event) holds.2⟩

theorem guarded_mono (strong weak : State → Event → Prop)
    (implies : ∀ state event, strong state event → weak state event)
    (state : State) (events : List Event) (holds : Guarded step strong state events) :
    Guarded step weak state events := by
  induction events generalizing state with
  | nil => trivial
  | cons event rest ih => exact ⟨implies state event holds.1, ih (step state event) holds.2⟩

theorem guarded_congr (background : State → Prop) (left right : State → Event → Prop)
    (kept : ∀ state event, background state → background (step state event))
    (same : ∀ state event, background state → (left state event ↔ right state event))
    (state : State) (events : List Event) (base : background state) :
    Guarded step left state events ↔ Guarded step right state events := by
  induction events generalizing state with
  | nil => exact Iff.rfl
  | cons event rest ih =>
      exact and_congr (same state event base)
        (ih (step state event) (kept state event base))

/-- A measure that every step moves by its weight ends at the start plus the tally. -/
theorem measure_run {Weight : Type*} [AddMonoid Weight] (background : State → Prop)
    (measure : State → Weight) (weigh : State → Event → Weight)
    (kept : ∀ state event, background state → background (step state event))
    (moves : ∀ state event, background state →
      measure (step state event) = measure state + weigh state event)
    (state : State) (events : List Event) (base : background state) :
    measure (run step state events) = measure state + tally step weigh state events := by
  induction events generalizing state with
  | nil => simp [run, tally]
  | cons event rest ih =>
      calc measure (run step (step state event) rest)
          = measure (step state event) + tally step weigh (step state event) rest :=
            ih (step state event) (kept state event base)
        _ = measure state + weigh state event + tally step weigh (step state event) rest := by
            rw [moves state event base]
        _ = measure state + tally step weigh state (event :: rest) := by
            rw [add_assoc]; rfl

end Rules

end Runs
