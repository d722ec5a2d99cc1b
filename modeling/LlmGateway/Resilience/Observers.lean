import Mathlib.Data.Int.ConditionallyCompleteOrder
import Mathlib.Order.ConditionallyCompleteLattice.Basic
import LlmGateway.Lib.Insertion
import LlmGateway.Resilience.HalfOpenProbes

/-!
What a read of the breaker changes for the calls that follow it. A read runs
the same lazy refresh as an admission, so it may take a circuit to half-open
before any call asks for it. The two runs, with the reads and without, differ
only while a circuit is open with its cooldown over and no call has started;
a completion that meets the circuit there is treated in two ways.
-/

namespace LlmGateway.CircuitBreaker

open Runs

namespace ProviderCircuit

/-- Equal in everything a later operation reads. -/
structure Matches (base observed : ProviderCircuit) : Prop where
  state : observed.state = base.state
  openedAt : observed.openedAt = base.openedAt
  failures : base.state = .closed → observed.failures = base.failures
  slots : base.state = .halfOpen → observed.inFlightProbes = base.inFlightProbes

/-- The observed circuit is half-open already; the base circuit is still open,
and the next call to ask for it will find its cooldown over. -/
structure Ahead (policy : CircuitBreakerPolicy) (time : ℤ) (base observed : ProviderCircuit) :
    Prop where
  waiting : base.state = .open
  elapsed : base.cooldownElapsed policy time = true
  probing : observed.state = .halfOpen
  openedAt : observed.openedAt = base.openedAt
  slots : observed.inFlightProbes = 0

def Follows (policy : CircuitBreakerPolicy) (time : ℤ) (base observed : ProviderCircuit) : Prop :=
  Matches base observed ∨ Ahead policy time base observed

variable (policy : CircuitBreakerPolicy) (time now : ℤ) (base observed : ProviderCircuit)

theorem matches_refl : Matches base base where
  state := rfl
  openedAt := rfl
  failures := fun _ => rfl
  slots := fun _ => rfl

theorem cooldownElapsed_later (later : time ≤ now)
    (elapsed : base.cooldownElapsed policy time = true) :
    base.cooldownElapsed policy now = true := by
  unfold cooldownElapsed at elapsed ⊢
  cases opened : base.openedAt with
  | none => simp [opened] at elapsed
  | some openedAt =>
      simp only [opened, Option.any_some, decide_eq_true_eq] at elapsed ⊢
      omega

theorem cooldownElapsed_matches (agree : Matches base observed) :
    observed.cooldownElapsed policy now = base.cooldownElapsed policy now := by
  unfold cooldownElapsed
  rw [agree.openedAt]

theorem follows_openedAt (follows : Follows policy time base observed) :
    observed.openedAt = base.openedAt := by
  rcases follows with agree | ahead
  · exact agree.openedAt
  · exact ahead.openedAt

theorem follows_later (later : time ≤ now) (follows : Follows policy time base observed) :
    Follows policy now base observed := by
  rcases follows with agree | ahead
  · exact Or.inl agree
  · have elapsed := cooldownElapsed_later policy time now base later ahead.elapsed
    exact Or.inr { ahead with elapsed := elapsed }

theorem follows_read (later : time ≤ now) (follows : Follows policy time base observed) :
    Follows policy now base (maybeTransitionFromOpen policy now observed) := by
  rcases follows with agree | ahead
  · rw [refresh_eq]
    split
    next refreshed =>
      rw [agree.state, cooldownElapsed_matches policy now base observed agree] at refreshed
      exact Or.inr ⟨refreshed.1, refreshed.2, rfl, agree.openedAt, rfl⟩
    next => exact Or.inl agree
  · rw [refresh_halfOpen policy now observed ahead.probing]
    exact follows_later policy time now base observed later (Or.inr ahead)

theorem follows_refresh (later : time ≤ now) (follows : Follows policy time base observed) :
    Matches (maybeTransitionFromOpen policy now base)
      (maybeTransitionFromOpen policy now observed) := by
  rcases follows with agree | ahead
  · have refreshBoth : (observed.state = .open ∧ observed.cooldownElapsed policy now = true) ↔
        (base.state = .open ∧ base.cooldownElapsed policy now = true) := by
      rw [agree.state, cooldownElapsed_matches policy now base observed agree]
    rw [refresh_eq, refresh_eq]
    simp only [refreshBoth]
    split
    next refreshed =>
      exact ⟨rfl, agree.openedAt, fun closed => absurd closed (by simp), fun _ => rfl⟩
    next => exact agree
  · have elapsed := cooldownElapsed_later policy time now base later ahead.elapsed
    rw [refresh_eq policy now base, if_pos ⟨ahead.waiting, elapsed⟩,
      refresh_halfOpen policy now observed ahead.probing]
    exact ⟨ahead.probing, ahead.openedAt, fun closed => absurd closed (by simp),
      fun _ => ahead.slots⟩

theorem matches_admits (agree : Matches base observed) :
    observed.admits policy = base.admits policy := by
  unfold admits
  rw [agree.state]
  cases held : base.state with
  | closed => rfl
  | «open» => rfl
  | halfOpen => rw [agree.slots held]

theorem matches_takeSlot (probing : Bool) (agree : Matches base observed) :
    Matches (takeSlot probing base) (takeSlot probing observed) := by
  cases probing with
  | false => exact agree
  | true => exact ⟨agree.state, agree.openedAt, agree.failures,
      fun half => congrArg (· + 1) (agree.slots half)⟩

theorem matches_releaseSlot (probing : Bool) (agree : Matches base observed) :
    Matches (releaseSlot probing base) (releaseSlot probing observed) := by
  cases probing with
  | false => exact agree
  | true => exact ⟨agree.state, agree.openedAt, agree.failures,
      fun half => congrArg (· - 1) (agree.slots half)⟩

theorem matches_recordSuccess (agree : Matches base observed) :
    Matches (recordSuccess base) (recordSuccess observed) := by
  simp only [recordSuccess, agree.state]
  split
  next => exact ⟨rfl, rfl, fun _ => rfl, fun _ => rfl⟩
  next => exact ⟨rfl, agree.openedAt, fun _ => rfl, agree.slots⟩

theorem matches_recordFailure (agree : Matches base observed) :
    Matches (recordFailure policy now base) (recordFailure policy now observed) := by
  simp only [recordFailure, agree.state]
  cases held : base.state with
  | halfOpen => exact ⟨rfl, rfl, fun closed => absurd closed (by simp), fun _ => rfl⟩
  | «open» =>
      simp only [reduceCtorEq, ↓reduceIte, false_and]
      exact ⟨rfl, agree.openedAt, fun closed => absurd closed (by simp),
        fun half => absurd half (by simp)⟩
  | closed =>
      -- Only here does the count decide, and only here do the counts have to agree.
      rw [agree.failures held]
      simp only [reduceCtorEq, ↓reduceIte, true_and]
      split
      next => exact ⟨rfl, rfl, fun closed => absurd closed (by simp),
        fun half => absurd half (by simp)⟩
      next => exact ⟨rfl, agree.openedAt, fun _ => rfl, fun half => absurd half (by simp)⟩

theorem matches_settle (probing succeeded : Bool) (agree : Matches base observed) :
    Matches (settle policy now probing succeeded base)
      (settle policy now probing succeeded observed) := by
  have released := matches_releaseSlot base observed probing agree
  cases succeeded with
  | true => exact matches_recordSuccess _ _ released
  | false => exact matches_recordFailure policy now _ _ released

theorem settle_openedAt_halfOpen (probing succeeded : Bool) (half : base.state = .halfOpen) :
    (settle policy now probing succeeded base).openedAt =
      if succeeded then none else some now := by
  cases succeeded <;> simp [settle, recordSuccess, recordFailure, half]

theorem settle_openedAt_open (probing succeeded : Bool) (opened : base.state = .open) :
    (settle policy now probing succeeded base).openedAt = base.openedAt := by
  have kept : (releaseSlot probing base).openedAt = base.openedAt := by cases probing <;> rfl
  cases succeeded <;> simp [settle, recordSuccess, recordFailure, opened, kept]

/-- A failure at the very instant of the opening reopens the observed circuit
with the opening time it had. -/
theorem ahead_settle (probing : Bool) (ahead : Ahead policy time base observed)
    (instant : base.openedAt = some now) :
    Matches (settle policy now probing false base) (settle policy now probing false observed) := by
  have half : (releaseSlot probing observed).state = .halfOpen := by simp [ahead.probing]
  have waiting : (releaseSlot probing base).state = .open := by simp [ahead.waiting]
  have kept : (releaseSlot probing base).openedAt = some now := by
    cases probing <;> exact instant
  simp only [settle, Bool.false_eq_true, ↓reduceIte, recordFailure, half, waiting, reduceCtorEq,
    false_and]
  exact ⟨rfl, kept.symm, fun closed => absurd closed (by simp),
    fun opened => absurd opened (by simp)⟩

end ProviderCircuit

inductive Observation where
  | getState (providerId : String)
  | canRequest (providerId : String)
  | listProviders (registered : List String)
  deriving DecidableEq, Repr

def Observation.leaves (policy : CircuitBreakerPolicy) (now : ℤ) (breaker : Breaker) :
    Observation → Breaker
  | .getState providerId => (Breaker.getState policy now breaker providerId).2
  | .canRequest providerId => (Breaker.canRequest policy now breaker providerId).2
  | .listProviders registered =>
      (Breaker.snapshots policy now breaker (breaker.listedIds registered)).2

theorem listProviders_leaves (localeCompare : String → String → Bool)
    (policy : CircuitBreakerPolicy) (now : ℤ) (breaker : Breaker) (registered : List String) :
    (Breaker.listProviders localeCompare policy now breaker registered).2 =
      Observation.leaves policy now breaker (.listProviders registered) := rfl

theorem leaves_circuitOf (policy : CircuitBreakerPolicy) (now : ℤ) (breaker : Breaker)
    (observation : Observation) (other : String) :
    (observation.leaves policy now breaker).circuitOf other = breaker.circuitOf other ∨
      (observation.leaves policy now breaker).circuitOf other =
        (breaker.circuitOf other).maybeTransitionFromOpen policy now := by
  have one : ∀ providerId,
      (Breaker.refresh policy now breaker providerId).circuitOf other = breaker.circuitOf other ∨
        (Breaker.refresh policy now breaker providerId).circuitOf other =
          (breaker.circuitOf other).maybeTransitionFromOpen policy now := by
    intro providerId
    rw [Breaker.circuitOf_refresh]
    by_cases same : other = providerId
    · subst same
      exact Or.inr (if_pos rfl)
    · exact Or.inl (if_neg same)
  cases observation with
  | getState providerId => exact one providerId
  | canRequest providerId => exact one providerId
  | listProviders registered =>
      simp only [Observation.leaves, Breaker.circuitOf_snapshots]
      split
      next => exact Or.inr rfl
      next => exact Or.inl rfl

structure Reading where
  observation : Observation
  now : ℤ
  deriving DecidableEq, Repr

/-- What a run shows of its breaker: the decision on a start, and when each
circuit last opened and may be probed. -/
structure Reaction where
  admitted : Option Bool
  openedAt : String → Option ℤ
  probeableAt : String → Option ℤ

namespace System

def look (policy : CircuitBreakerPolicy) (system : System) (reading : Reading) : System :=
  let breaker := reading.observation.leaves policy reading.now system.breaker
  { system with
    breaker := breaker
    episodes := advanceEpisodes system.breaker breaker system.episodes }

def react (policy : CircuitBreakerPolicy) (system : System) (event : Event) : Reaction :=
  let after := step policy system event
  { admitted := admission policy system event
    openedAt := fun providerId => (after.circuitOf providerId).openedAt
    probeableAt := fun providerId =>
      (after.circuitOf providerId).openedAt.map (· + (policy.cooldownMs : ℤ)) }

/-- No completion of a provider meets its circuit open with the cooldown over,
unless it is a failure at the very instant of the opening. -/
def Undisturbed (policy : CircuitBreakerPolicy) (system : System) : Event → Prop
  | .finish index succeeded now =>
      ∀ execution, system.inFlight[index]? = some execution →
        let c := system.circuitOf execution.providerId
        c.state = .open → c.cooldownElapsed policy now = true →
          succeeded = false ∧ c.openedAt = some now
  | .start _ _ => True
  | .observe _ _ => True

/-- The two runs hold the same executions, apart from the episode numbers,
which the service does not have. -/
structure Related (policy : CircuitBreakerPolicy) (time : ℤ) (base observed : System) : Prop where
  circuits : ∀ providerId, ProviderCircuit.Follows policy time (base.circuitOf providerId)
    (observed.circuitOf providerId)
  inFlight : observed.inFlight.map (fun execution => (execution.providerId, execution.probing)) =
    base.inFlight.map (fun execution => (execution.providerId, execution.probing))

section Simulation

variable (policy : CircuitBreakerPolicy) (time : ℤ) (base observed : System)

theorem look_related (reading : Reading) (related : Related policy time base observed)
    (later : time ≤ reading.now) :
    Related policy reading.now base (look policy observed reading) where
  circuits := fun providerId => by
    have before := related.circuits providerId
    rcases leaves_circuitOf policy reading.now observed.breaker reading.observation providerId with
      same | refreshed
    · have kept : (look policy observed reading).circuitOf providerId =
          observed.circuitOf providerId := same
      rw [kept]
      exact ProviderCircuit.follows_later policy time reading.now _ _ later before
    · have moved : (look policy observed reading).circuitOf providerId =
          (observed.circuitOf providerId).maybeTransitionFromOpen policy reading.now := refreshed
      rw [moved]
      exact ProviderCircuit.follows_read policy time reading.now _ _ later before
  inFlight := related.inFlight

theorem observe_related (providerId : String) (now : ℤ)
    (related : Related policy time base observed) (later : time ≤ now) :
    Related policy now (observe policy now base providerId)
      (observe policy now observed providerId) where
  circuits := fun other => by
    rw [observe_circuitOf, observe_circuitOf]
    split
    next => exact Or.inl (ProviderCircuit.follows_refresh policy time now _ _ later
      (related.circuits providerId))
    next => exact ProviderCircuit.follows_later policy time now _ _ later (related.circuits other)
  inFlight := related.inFlight

theorem observe_matches (providerId : String) (now : ℤ)
    (related : Related policy time base observed) (later : time ≤ now) :
    ProviderCircuit.Matches ((observe policy now base providerId).circuitOf providerId)
      ((observe policy now observed providerId).circuitOf providerId) := by
  rw [observe_circuitOf, observe_circuitOf, if_pos rfl, if_pos rfl]
  exact ProviderCircuit.follows_refresh policy time now _ _ later (related.circuits providerId)

theorem start_related (providerId : String) (now : ℤ)
    (related : Related policy time base observed) (later : time ≤ now) :
    Related policy now (start policy now base providerId)
      (start policy now observed providerId) := by
  have agree := observe_matches policy time base observed providerId now related later
  have admits := ProviderCircuit.matches_admits policy _ _ agree
  constructor
  · intro other
    rw [start_circuitOf, start_circuitOf]
    by_cases same : other = providerId
    · subst same
      simp only [true_and, admits, agree.state]
      split
      next => exact Or.inl (ProviderCircuit.matches_takeSlot _ _ _ agree)
      next => exact Or.inl agree
    · simp only [same, false_and, ↓reduceIte]
      exact (observe_related policy time base observed providerId now related later).circuits other
  · rw [start_inFlight, start_inFlight]
    simp only [admits, agree.state]
    split
    next => simp [related.inFlight]
    next => exact related.inFlight

theorem start_admission (providerId : String) (now : ℤ)
    (related : Related policy time base observed) (later : time ≤ now) :
    admission policy observed (.start providerId now) =
      admission policy base (.start providerId now) := by
  have agree := ProviderCircuit.follows_refresh policy time now _ _ later
    (related.circuits providerId)
  have admits := ProviderCircuit.matches_admits policy _ _ agree
  unfold circuitOf at admits
  simp only [admission, Breaker.executeStart_admission, admits]
  split <;> rfl

theorem inFlight_related (index : ℕ) (related : Related policy time base observed) :
    (observed.inFlight[index]?).map (fun execution => (execution.providerId, execution.probing)) =
      (base.inFlight[index]?).map (fun execution => (execution.providerId, execution.probing)) := by
  rw [← List.getElem?_map, ← List.getElem?_map, related.inFlight]

theorem finish_related (index : ℕ) (succeeded : Bool) (now : ℤ)
    (related : Related policy time base observed) (later : time ≤ now)
    (allowed : Undisturbed policy base (.finish index succeeded now)) :
    Related policy now (finish policy now base index succeeded)
      (finish policy now observed index succeeded) := by
  have slots := inFlight_related policy time base observed index related
  cases found : base.inFlight[index]? with
  | none =>
      rw [found, Option.map_none, Option.map_eq_none_iff] at slots
      have baseKept : finish policy now base index succeeded = base := by simp [finish, found]
      have observedKept : finish policy now observed index succeeded = observed := by
        simp [finish, slots]
      rw [baseKept, observedKept]
      exact ⟨fun other => ProviderCircuit.follows_later policy time now _ _ later
        (related.circuits other), related.inFlight⟩
  | some execution =>
      rw [found, Option.map_some, Option.map_eq_some_iff] at slots
      obtain ⟨twin, present, equal⟩ := slots
      obtain ⟨sameProvider, sameProbing⟩ := Prod.mk.inj equal
      constructor
      · intro other
        rw [finish_circuitOf policy now base index succeeded execution found,
          finish_circuitOf policy now observed index succeeded twin present,
          sameProvider, sameProbing]
        split
        next same =>
          subst same
          rcases related.circuits execution.providerId with agree | ahead
          · exact Or.inl (ProviderCircuit.matches_settle policy now _ _ _ _ agree)
          · -- The condition leaves only the failure at the instant of the opening.
            have elapsed := ProviderCircuit.cooldownElapsed_later policy time now _ later
              ahead.elapsed
            obtain ⟨failed, instant⟩ := allowed execution found ahead.waiting elapsed
            subst failed
            exact Or.inl (ProviderCircuit.ahead_settle policy time now _ _ _ ahead instant)
        next =>
          exact ProviderCircuit.follows_later policy time now _ _ later (related.circuits other)
      · have baseLeft : (finish policy now base index succeeded).inFlight =
            base.inFlight.eraseIdx index := by simp [finish, found]
        have observedLeft : (finish policy now observed index succeeded).inFlight =
            observed.inFlight.eraseIdx index := by simp [finish, present]
        rw [baseLeft, observedLeft, ← List.eraseIdx_map, ← List.eraseIdx_map, related.inFlight]

theorem step_related (event : Event) (related : Related policy time base observed)
    (later : time ≤ event.now) (allowed : Undisturbed policy base event) :
    Related policy event.now (step policy base event) (step policy observed event) := by
  cases event with
  | start providerId now =>
      exact start_related policy time base observed providerId now related later
  | finish index succeeded now =>
      exact finish_related policy time base observed index succeeded now related later allowed
  | observe providerId now =>
      exact observe_related policy time base observed providerId now related later

theorem react_related (event : Event) (related : Related policy time base observed)
    (later : time ≤ event.now) (allowed : Undisturbed policy base event) :
    react policy observed event = react policy base event := by
  have after := step_related policy time base observed event related later allowed
  have opened : ∀ providerId, ((step policy observed event).circuitOf providerId).openedAt =
      ((step policy base event).circuitOf providerId).openedAt := fun providerId =>
    ProviderCircuit.follows_openedAt policy event.now _ _ (after.circuits providerId)
  have admitted : admission policy observed event = admission policy base event := by
    cases event with
    | start providerId now =>
        exact start_admission policy time base observed providerId now related later
    | finish index succeeded now => rfl
    | observe providerId now => rfl
  simp only [react, admitted, opened]

end Simulation

theorem initial_related (policy : CircuitBreakerPolicy) (time : ℤ) :
    Related policy time initial initial where
  circuits := fun _ => Or.inl (ProviderCircuit.matches_refl _)
  inFlight := rfl

theorem look_getState_circuitOf (policy : CircuitBreakerPolicy) (system : System)
    (providerId : String) (now : ℤ) :
    (look policy system ⟨.getState providerId, now⟩).circuitOf providerId =
      (system.circuitOf providerId).maybeTransitionFromOpen policy now :=
  (Breaker.circuitOf_refresh policy now system.breaker providerId providerId).trans (if_pos rfl)

theorem undisturbed_of_react (policy : CircuitBreakerPolicy) (system : System) (event : Event)
    (same : ∀ reading : Reading, reading.now = event.now →
      react policy (look policy system reading) event = react policy system event) :
    Undisturbed policy system event := by
  cases event with
  | start providerId now => trivial
  | observe providerId now => trivial
  | finish index succeeded now =>
      intro execution found c opened elapsed
      have polled := same ⟨.getState execution.providerId, now⟩ rfl
      have openings := congrFun (congrArg Reaction.openedAt polled) execution.providerId
      have foundToo : (look policy system ⟨.getState execution.providerId, now⟩).inFlight[index]? =
          some execution := found
      simp only [react, step] at openings
      rw [finish_circuitOf policy now _ index succeeded execution foundToo,
        finish_circuitOf policy now system index succeeded execution found, if_pos rfl, if_pos rfl,
        look_getState_circuitOf, ProviderCircuit.refresh_eq, if_pos ⟨opened, elapsed⟩,
        ProviderCircuit.settle_openedAt_halfOpen policy now _ _ _ rfl,
        ProviderCircuit.settle_openedAt_open policy now _ _ _ opened] at openings
      cases succeeded with
      | true =>
          -- A success closes the polled circuit and leaves the other open.
          have unset : c.openedAt = none := openings.symm
          simp [ProviderCircuit.cooldownElapsed, unset] at elapsed
      | false => exact ⟨rfl, openings.symm⟩

/-- Reads inserted into a run change no decision and no opening time exactly
when no completion meets an open circuit past its cooldown. -/
theorem observers_do_not_steer_iff (policy : CircuitBreakerPolicy) (events : List Event)
    (clock : ClockNondecreasing events) :
    (∀ observed : List (Event ⊕ Reading), eventsOf observed = events →
      Timed Event.now Reading.now observed →
      answersAmid (step policy) (look policy) (react policy) initial observed =
        answers (step policy) (react policy) initial events) ↔
      Guarded (step policy) (Undisturbed policy) initial events := by
  constructor
  · intro unchanged
    have ordered := List.pairwise_map.mp clock
    obtain ⟨time, later⟩ := exists_time_before Event.now events ordered
    have probes := guarded_of_answersAmid_eq Event.now Reading.now (step policy) (look policy)
      (react policy) time initial events ordered later
      (fun mixed base timed _ => unchanged mixed base timed)
    exact guarded_mono (step policy) _ _ (undisturbed_of_react policy) initial events probes
  · intro guarded observed base timed
    obtain ⟨time, later⟩ := exists_time_before (timeOf Event.now Reading.now) observed timed
    subst base
    exact answersAmid_eq Event.now Reading.now (step policy) (look policy) (react policy)
      (Related policy) (Undisturbed policy)
      (fun time base observed reading related later =>
        look_related policy time base observed reading related later)
      (fun time base observed event related later allowed =>
        step_related policy time base observed event related later allowed)
      (fun time base observed event related later allowed =>
        react_related policy time base observed event related later allowed)
      time initial initial observed (initial_related policy time) timed later guarded

/-- Two calls start while the circuit is closed. One fails and opens it, the
other fails after the cooldown and before any new call. -/
def lateFailureEvents : List Event :=
  [.start "nan" 0, .start "nan" 0, .finish 0 false 1, .finish 0 false 12, .start "nan" 13]

theorem observers_do_not_steer_lateFailure :
    (∀ observed : List (Event ⊕ Reading), eventsOf observed = lateFailureEvents →
      Timed Event.now Reading.now observed →
      answersAmid (step onePolicy) (look onePolicy) (react onePolicy) initial observed =
        answers (step onePolicy) (react onePolicy) initial lateFailureEvents) ↔
      Guarded (step onePolicy) (Undisturbed onePolicy) initial lateFailureEvents :=
  observers_do_not_steer_iff onePolicy lateFailureEvents (by decide)

/-- The same calls with one poll of the health endpoint when the cooldown ends. -/
def polledEvents : List (Event ⊕ Reading) :=
  [.inl (.start "nan" 0), .inl (.start "nan" 0), .inl (.finish 0 false 1),
    .inr ⟨.listProviders ["nan"], 11⟩, .inl (.finish 0 false 12), .inl (.start "nan" 13)]

theorem poll_rejects_next_call :
    ¬ ∀ (policy : CircuitBreakerPolicy) (events : List Event) (observed : List (Event ⊕ Reading)),
      0 < policy.failureThreshold → 0 < policy.cooldownMs → 0 < policy.halfOpenProbes →
      eventsOf observed = events → Timed Event.now Reading.now observed →
      answersAmid (step policy) (look policy) (react policy) initial observed =
        answers (step policy) (react policy) initial events := by
  intro claimed
  have timed : Timed Event.now Reading.now polledEvents := by
    simp [Timed, polledEvents, timeOf, Event.now]
  have same := claimed onePolicy lateFailureEvents polledEvents (by decide) (by decide) (by decide)
    rfl timed
  -- The base run admits the call at 13, the polled run rejects it.
  exact absurd (congrArg (List.map Reaction.admitted) same) (by decide)

end System

end LlmGateway.CircuitBreaker
