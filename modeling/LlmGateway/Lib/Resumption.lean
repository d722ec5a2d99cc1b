import Mathlib.Data.List.Basic

/-!
Lists worked through item by item until one throws. What was done can be done
again on its own, what is left is taken up from there, and a relation on the
states that every item keeps carries over to the whole work.
-/

namespace Resumption

variable {Item Failure State : Type}

structure Progress (Item Failure State : Type) where
  done : List Item
  state : State
  stopped : Option (Item × Failure)

def Progress.after (before : List Item) (progress : Progress Item Failure State) :
    Progress Item Failure State :=
  { progress with done := before ++ progress.done }

def work (act : Item → EStateM Failure State Unit) :
    List Item → State → Progress Item Failure State
  | [], state => { done := [], state := state, stopped := none }
  | item :: rest, state =>
      match act item state with
      | .ok _ next => (work act rest next).after [item]
      | .error failure next => { done := [], state := next, stopped := some (item, failure) }

def Atomic (act : Item → EStateM Failure State Unit) : Prop :=
  ∀ item before failure after, act item before = .error failure after → after = before

section Rules

variable (act : Item → EStateM Failure State Unit) (items : List Item) (state : State)

theorem work_ok (item : Item) (next : State) (returns : act item state = .ok () next) :
    work act (item :: items) state = (work act items next).after [item] := by
  simp only [work, returns]

theorem work_error (item : Item) (failure : Failure) (next : State)
    (throws : act item state = .error failure next) :
    work act (item :: items) state =
      { done := [], state := next, stopped := some (item, failure) } := by
  simp only [work, throws]

theorem work_splits : ∃ rest, items = (work act items state).done ++ rest ∧
    ((work act items state).stopped = none → rest = []) ∧
    ∀ item failure, (work act items state).stopped = some (item, failure) →
      ∃ later, rest = item :: later := by
  induction items generalizing state with
  | nil =>
      refine ⟨[], rfl, fun _ => rfl, ?_⟩
      intro item failure stopped
      cases stopped
  | cons first rest ih =>
      cases outcome : act first state with
      | ok value next =>
          obtain ⟨later, split, finished, stopped⟩ := ih next
          rw [work_ok act rest state first next outcome]
          exact ⟨later, congrArg (first :: ·) split, finished, stopped⟩
      | error failure next =>
          rw [work_error act rest state first failure next outcome]
          refine ⟨first :: rest, rfl, ?_, ?_⟩
          · intro finished
            cases finished
          · intro item other stopped
            cases stopped
            exact ⟨rest, rfl⟩

theorem done_of_finished (finished : (work act items state).stopped = none) :
    (work act items state).done = items := by
  obtain ⟨rest, split, nothing, _⟩ := work_splits act items state
  rw [nothing finished, List.append_nil] at split
  exact split.symm

theorem work_append (others : List Item) (finished : (work act items state).stopped = none) :
    work act (items ++ others) state =
      (work act others (work act items state).state).after items := by
  induction items generalizing state with
  | nil => rfl
  | cons first rest ih =>
      cases outcome : act first state with
      | ok value next =>
          rw [work_ok act rest state first next outcome] at finished
          have tail := ih next finished
          rw [work_ok act rest state first next outcome, List.cons_append,
            work_ok act (rest ++ others) state first next outcome, tail]
          rfl
      | error failure next =>
          rw [work_error act rest state first failure next outcome] at finished
          cases finished

theorem work_invariant (good : State → Prop) (atomic : Atomic act)
    (kept : ∀ item before after, good before → act item before = .ok () after → good after)
    (start : good state) : good (work act items state).state := by
  induction items generalizing state with
  | nil => exact start
  | cons first rest ih =>
      cases outcome : act first state with
      | ok value next =>
          rw [work_ok act rest state first next outcome]
          exact ih next (kept first state next start outcome)
      | error failure next =>
          rw [work_error act rest state first failure next outcome]
          have unchanged := atomic first state failure next outcome
          subst unchanged
          exact start

end Rules

section Relations

variable (act other : Item → EStateM Failure State Unit) (related : State → State → Prop)

theorem work_done_related (atomic : Atomic act)
    (follows : ∀ item left right next, related left right → act item left = .ok () next →
      ∃ reached, other item right = .ok () reached ∧ related next reached)
    (items : List Item) (left right : State) (start : related left right) :
    (work other (work act items left).done right).stopped = none ∧
      related (work act items left).state (work other (work act items left).done right).state := by
  induction items generalizing left right with
  | nil => exact ⟨rfl, start⟩
  | cons first rest ih =>
      cases outcome : act first left with
      | ok value next =>
          obtain ⟨reached, returns, kept⟩ := follows first left right next start outcome
          rw [work_ok act rest left first next outcome]
          change (work other (first :: (work act rest next).done) right).stopped = none ∧
            related (work act rest next).state
              (work other (first :: (work act rest next).done) right).state
          rw [work_ok other _ right first reached returns]
          exact ih next reached kept
      | error failure next =>
          rw [work_error act rest left first failure next outcome]
          have unchanged := atomic first left failure next outcome
          subst unchanged
          exact ⟨rfl, start⟩

theorem work_done (atomic : Atomic act) (items : List Item) (state : State) :
    (work act (work act items state).done state).stopped = none ∧
      (work act (work act items state).done state).state = (work act items state).state := by
  have same := work_done_related act act Eq atomic
    (fun item left right next equal returns => ⟨next, equal ▸ returns, rfl⟩) items state state rfl
  exact ⟨same.1, same.2.symm⟩

/-- Works whose items end alike from related states stop at the same item. -/
theorem work_related
    (returns : ∀ item left right next, related left right → act item left = .ok () next →
      ∃ reached, other item right = .ok () reached ∧ related next reached)
    (throws : ∀ item left right failure next, related left right →
      act item left = .error failure next →
      ∃ reached, other item right = .error failure reached ∧ related next reached)
    (items : List Item) (left right : State) (start : related left right) :
    (work other items right).done = (work act items left).done ∧
      (work other items right).stopped = (work act items left).stopped ∧
      related (work act items left).state (work other items right).state := by
  induction items generalizing left right with
  | nil => exact ⟨rfl, rfl, start⟩
  | cons first rest ih =>
      cases outcome : act first left with
      | ok value next =>
          obtain ⟨reached, same, kept⟩ := returns first left right next start outcome
          obtain ⟨done, stopped, states⟩ := ih next reached kept
          rw [work_ok act rest left first next outcome, work_ok other rest right first reached same]
          exact ⟨congrArg (first :: ·) done, stopped, states⟩
      | error failure next =>
          obtain ⟨reached, same, kept⟩ := throws first left right failure next start outcome
          rw [work_error act rest left first failure next outcome,
            work_error other rest right first failure reached same]
          exact ⟨rfl, rfl, kept⟩

end Relations

end Resumption
