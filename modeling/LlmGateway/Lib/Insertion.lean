import Mathlib.Data.List.Pairwise
import Mathlib.Order.Defs.PartialOrder
import LlmGateway.Lib.Runs

/-!
Runs with probes inserted between their events. A machine answers each of its
events; a probe may change the state but answers nothing. The first rule shows
by a simulation that the answers of a run do not depend on the probes put into
it, the second reads off a run whose answers do not depend on them what a
single probe may change.
-/

namespace Runs

variable {State Event Probe Answer Time : Type*}

section Answers

variable (step : State → Event → State) (look : State → Probe → State)
  (answer : State → Event → Answer)

def answers : State → List Event → List Answer
  | _, [] => []
  | state, event :: rest => answer state event :: answers (step state event) rest

def answersAmid : State → List (Event ⊕ Probe) → List Answer
  | _, [] => []
  | state, .inl event :: rest => answer state event :: answersAmid (step state event) rest
  | state, .inr probe :: rest => answersAmid (look state probe) rest

def eventsOf (mixed : List (Event ⊕ Probe)) : List Event :=
  mixed.filterMap Sum.getLeft?

@[simp] theorem eventsOf_event (event : Event) (rest : List (Event ⊕ Probe)) :
    eventsOf (.inl event :: rest) = event :: eventsOf rest := rfl

@[simp] theorem eventsOf_probe (probe : Probe) (rest : List (Event ⊕ Probe)) :
    eventsOf (.inr probe :: rest) = eventsOf rest := rfl

@[simp] theorem eventsOf_events (events : List Event) :
    eventsOf (events.map .inl : List (Event ⊕ Probe)) = events := by
  induction events with
  | nil => rfl
  | cons event rest ih => simp [ih]

end Answers

section Clocks

variable [Preorder Time] (eventTime : Event → Time) (probeTime : Probe → Time)

def timeOf : Event ⊕ Probe → Time := Sum.elim eventTime probeTime

def Timed (mixed : List (Event ⊕ Probe)) : Prop :=
  mixed.Pairwise fun earlier later => timeOf eventTime probeTime earlier ≤
    timeOf eventTime probeTime later

theorem exists_time_before {Item : Type*} [Nonempty Time] (time : Item → Time)
    (items : List Item)
    (ordered : items.Pairwise fun earlier later => time earlier ≤ time later) :
    ∃ start, ∀ item ∈ items, start ≤ time item := by
  cases items with
  | nil => exact ⟨Classical.ofNonempty, by simp⟩
  | cons first rest =>
      refine ⟨time first, fun item member => ?_⟩
      rcases List.mem_cons.mp member with rfl | later
      · exact le_refl _
      · exact (List.pairwise_cons.mp ordered).1 item later

variable (step : State → Event → State) (look : State → Probe → State)
  (answer : State → Event → Answer)

/-- A relation between the base run and the observed one that probes keep on
the observed side, and allowed events keep on both, makes the answers agree. -/
theorem answersAmid_eq (related : Time → State → State → Prop)
    (allowed : State → Event → Prop)
    (look_related : ∀ time state observed probe, related time state observed →
      time ≤ probeTime probe → related (probeTime probe) state (look observed probe))
    (step_related : ∀ time state observed event, related time state observed →
      time ≤ eventTime event → allowed state event →
      related (eventTime event) (step state event) (step observed event))
    (same_answer : ∀ time state observed event, related time state observed →
      time ≤ eventTime event → allowed state event →
      answer observed event = answer state event)
    (time : Time) (state observed : State) (mixed : List (Event ⊕ Probe))
    (start : related time state observed) (timed : Timed eventTime probeTime mixed)
    (later : ∀ item ∈ mixed, time ≤ timeOf eventTime probeTime item)
    (guarded : Guarded step allowed state (eventsOf mixed)) :
    answersAmid step look answer observed mixed =
      answers step answer state (eventsOf mixed) := by
  induction mixed generalizing time state observed with
  | nil => rfl
  | cons item rest ih =>
      obtain ⟨ahead, timedRest⟩ := List.pairwise_cons.mp timed
      have now := later item (by simp)
      cases item with
      | inl event =>
          have next := step_related time state observed event start now guarded.1
          have rest_eq := ih (eventTime event) (step state event) (step observed event) next
            timedRest ahead guarded.2
          have head_eq := same_answer time state observed event start now guarded.1
          simp only [answersAmid, eventsOf_event, answers, head_eq, rest_eq]
      | inr probe =>
          have next := look_related time state observed probe start now
          exact ih (probeTime probe) state (look observed probe) next timedRest ahead guarded

/-- If no insertion changes the answers of a run, then no single probe read at
the time of an event changes the answer to that event. -/
theorem guarded_of_answersAmid_eq (time : Time) (state : State) (events : List Event)
    (ordered : events.Pairwise fun earlier later => eventTime earlier ≤ eventTime later)
    (later : ∀ event ∈ events, time ≤ eventTime event)
    (same : ∀ mixed, eventsOf mixed = events → Timed eventTime probeTime mixed →
      (∀ item ∈ mixed, time ≤ timeOf eventTime probeTime item) →
      answersAmid step look answer state mixed = answers step answer state events) :
    Guarded step (fun state event => ∀ probe, probeTime probe = eventTime event →
      answer (look state probe) event = answer state event) state events := by
  induction events generalizing time state with
  | nil => trivial
  | cons event rest ih =>
      obtain ⟨ahead, orderedRest⟩ := List.pairwise_cons.mp ordered
      constructor
      · intro probe simultaneous
        -- The probe goes right before the event, at the same reading.
        have inserted := same (.inr probe :: (event :: rest).map .inl) (by simp) ?_ ?_
        · have heads : some (answer (look state probe) event) = some (answer state event) :=
            congrArg List.head? inserted
          exact Option.some.inj heads
        · apply List.pairwise_cons.mpr
          constructor
          · intro item member
            obtain ⟨other, inside, rfl⟩ := List.mem_map.mp member
            change probeTime probe ≤ eventTime other
            rw [simultaneous]
            rcases List.mem_cons.mp inside with rfl | after
            · exact le_refl _
            · exact ahead other after
          · exact List.pairwise_map.mpr ordered
        · intro item member
          rcases List.mem_cons.mp member with rfl | inside
          · change time ≤ probeTime probe
            rw [simultaneous]
            exact later event (by simp)
          · obtain ⟨other, inEvents, rfl⟩ := List.mem_map.mp inside
            exact later other inEvents
      · apply ih (eventTime event) (step state event) orderedRest ahead
        intro mixed base timed after
        have whole := same (.inl event :: mixed) (by simp [base])
          (List.pairwise_cons.mpr ⟨after, timed⟩) ?_
        · exact (List.cons.inj whole).2
        · intro item member
          rcases List.mem_cons.mp member with rfl | inside
          · exact later event (by simp)
          · exact le_trans (later event (by simp)) (after item inside)

end Clocks

end Runs
