import Mathlib.Data.List.Perm.Basic
import LlmGateway.Lib.Runs
import LlmGateway.Resilience.CircuitBreaker

/-!
Runs of the circuit breaker over any number of providers. A run interleaves
the starts and the completions of `execute` with reads of the state; each
event carries the clock reading it takes. Besides the service the system keeps
what the service forgets: which executions are in flight, and in which
half-open episode of its provider each of them was admitted.
-/

namespace LlmGateway.CircuitBreaker

open Runs

structure Execution where
  providerId : String
  probing : Bool
  episode : ℕ
  deriving DecidableEq, Repr

structure System where
  breaker : Breaker
  inFlight : List Execution
  /-- How many half-open episodes each provider's circuit has begun. -/
  episodes : String → ℕ

inductive Event where
  | start (providerId : String) (now : ℤ)
  | finish (index : ℕ) (succeeded : Bool) (now : ℤ)
  | observe (providerId : String) (now : ℤ)
  deriving DecidableEq, Repr

def Event.now : Event → ℤ
  | .start _ now => now
  | .finish _ _ now => now
  | .observe _ now => now

def ClockNondecreasing (events : List Event) : Prop :=
  (events.map Event.now).Pairwise (· ≤ ·)

instance (events : List Event) : Decidable (ClockNondecreasing events) :=
  inferInstanceAs (Decidable (List.Pairwise _ _))

namespace System

def initial : System where
  breaker := .initial
  inFlight := []
  episodes := fun _ => 0

def circuitOf (system : System) (providerId : String) : ProviderCircuit :=
  system.breaker.circuitOf providerId

def advanceEpisodes (before after : Breaker) (episodes : String → ℕ) : String → ℕ :=
  fun providerId =>
    if (before.circuitOf providerId).state ≠ .halfOpen ∧
        (after.circuitOf providerId).state = .halfOpen then
      episodes providerId + 1
    else episodes providerId

/-- A read: `getState`, `canRequest`, or one provider of `listProviders`. -/
def observe (policy : CircuitBreakerPolicy) (now : ℤ) (system : System) (providerId : String) :
    System :=
  let breaker := (Breaker.canRequest policy now system.breaker providerId).2
  { system with
    breaker := breaker
    episodes := advanceEpisodes system.breaker breaker system.episodes }

def start (policy : CircuitBreakerPolicy) (now : ℤ) (system : System) (providerId : String) :
    System :=
  let answer := Breaker.executeStart policy now system.breaker providerId
  let episodes := advanceEpisodes system.breaker answer.2 system.episodes
  { breaker := answer.2
    episodes := episodes
    inFlight := match answer.1 with
      | none => system.inFlight
      | some probing => system.inFlight ++ [⟨providerId, probing, episodes providerId⟩] }

def finish (policy : CircuitBreakerPolicy) (now : ℤ) (system : System) (index : ℕ)
    (succeeded : Bool) : System :=
  match system.inFlight[index]? with
  | none => system
  | some execution =>
      let breaker := Breaker.executeFinish policy now system.breaker execution.providerId
        execution.probing succeeded
      { breaker := breaker
        episodes := advanceEpisodes system.breaker breaker system.episodes
        inFlight := system.inFlight.eraseIdx index }

def step (policy : CircuitBreakerPolicy) (system : System) : Event → System
  | .start providerId now => start policy now system providerId
  | .finish index succeeded now => finish policy now system index succeeded
  | .observe providerId now => observe policy now system providerId

/-- Whether a start is let through to call `fn`. -/
def admission (policy : CircuitBreakerPolicy) (system : System) : Event → Option Bool
  | .start providerId now =>
      some (Breaker.executeStart policy now system.breaker providerId).1.isSome
  | .finish _ _ _ => none
  | .observe _ _ => none

def probesInFlight (system : System) (providerId : String) : ℕ :=
  system.inFlight.countP fun execution =>
    execution.providerId == providerId && execution.probing

/-- The probes of the episode the circuit is in, or was in last. -/
def currentProbes (system : System) (providerId : String) : ℕ :=
  system.inFlight.countP fun execution =>
    (execution.providerId == providerId && execution.probing) &&
      execution.episode == system.episodes providerId

/-- The probes of earlier episodes that have not completed yet. -/
def stragglers (system : System) (providerId : String) : ℕ :=
  system.inFlight.countP fun execution =>
    (execution.providerId == providerId && execution.probing) &&
      !(execution.episode == system.episodes providerId)

theorem probes_split (system : System) (providerId : String) :
    probesInFlight system providerId =
      currentProbes system providerId + stragglers system providerId := by
  unfold probesInFlight currentProbes stragglers
  rw [List.countP_eq_countP_filter_add _ _
    (fun execution : Execution => execution.episode == system.episodes providerId),
    List.countP_filter, List.countP_filter]

/-- What the counter of a half-open circuit counts. -/
structure Coherent (system : System) : Prop where
  bounded : ∀ execution ∈ system.inFlight,
    execution.episode ≤ system.episodes execution.providerId
  slots : ∀ providerId, (system.circuitOf providerId).state = .halfOpen →
    (system.circuitOf providerId).inFlightProbes = currentProbes system providerId

theorem initial_coherent : Coherent initial where
  bounded := fun _ member => absurd member List.not_mem_nil
  slots := fun providerId half => by
    simp [circuitOf, initial, ProviderCircuit.fresh] at half

theorem advance_same (before after : Breaker) (episodes : String → ℕ) (providerId : String)
    (same : (after.circuitOf providerId).state = (before.circuitOf providerId).state) :
    advanceEpisodes before after episodes providerId = episodes providerId := by
  unfold advanceEpisodes
  rw [same, if_neg (fun both => both.1 both.2)]

theorem advance_congr (before left right : Breaker) (episodes : String → ℕ) (providerId : String)
    (same : (left.circuitOf providerId).state = (right.circuitOf providerId).state) :
    advanceEpisodes before left episodes providerId =
      advanceEpisodes before right episodes providerId := by
  unfold advanceEpisodes
  rw [same]

theorem advance_leaves (before after : Breaker) (episodes : String → ℕ) (providerId : String)
    (leaves : (after.circuitOf providerId).state ≠ .halfOpen) :
    advanceEpisodes before after episodes providerId = episodes providerId := by
  unfold advanceEpisodes
  rw [if_neg (fun both => leaves both.2)]

theorem advance_grows (before after : Breaker) (episodes : String → ℕ) (providerId : String) :
    episodes providerId ≤ advanceEpisodes before after episodes providerId := by
  unfold advanceEpisodes
  split <;> omega

section Observe

variable (policy : CircuitBreakerPolicy) (now : ℤ) (system : System) (providerId : String)

theorem observe_circuitOf (other : String) :
    (observe policy now system providerId).circuitOf other =
      if other = providerId then (system.circuitOf providerId).maybeTransitionFromOpen policy now
      else system.circuitOf other :=
  Breaker.circuitOf_refresh policy now system.breaker providerId other

theorem observe_cases (other : String) :
    ((observe policy now system providerId).circuitOf other = system.circuitOf other ∧
      (observe policy now system providerId).episodes other = system.episodes other) ∨
    ((system.circuitOf other).state = .open ∧
      ((observe policy now system providerId).circuitOf other).inFlightProbes = 0 ∧
      (observe policy now system providerId).episodes other = system.episodes other + 1) := by
  have circuit := observe_circuitOf policy now system providerId other
  by_cases same : other = providerId
  · subst same
    rw [if_pos rfl] at circuit
    rcases ProviderCircuit.refresh_cases policy now (system.circuitOf other) with
      unchanged | ⟨opened, half⟩
    · rw [unchanged] at circuit
      exact Or.inl ⟨circuit, advance_same _ _ _ _ (congrArg ProviderCircuit.state circuit)⟩
    · rw [half] at circuit
      -- The refresh took the circuit from open to half-open, so an episode begins here.
      refine Or.inr ⟨opened, by rw [circuit], ?_⟩
      have before : (system.breaker.circuitOf other).state = .open := opened
      have after : (((observe policy now system other).breaker).circuitOf other).state =
          .halfOpen := congrArg ProviderCircuit.state circuit
      change advanceEpisodes system.breaker _ system.episodes other = _
      unfold advanceEpisodes
      rw [if_pos ⟨by rw [before]; decide, after⟩]
  · rw [if_neg same] at circuit
    exact Or.inl ⟨circuit, advance_same _ _ _ _ (congrArg ProviderCircuit.state circuit)⟩

theorem observe_coherent (coherent : Coherent system) :
    Coherent (observe policy now system providerId) where
  bounded := fun execution member =>
    le_trans (coherent.bounded execution member) (advance_grows _ _ _ _)
  slots := fun other half => by
    rcases observe_cases policy now system providerId other with
      ⟨circuit, episode⟩ | ⟨_, empty, episode⟩
    · rw [circuit] at half ⊢
      rw [coherent.slots other half]
      unfold currentProbes
      rw [episode]
      rfl
    · rw [empty]
      symm
      apply List.countP_eq_zero.mpr
      intro execution member current
      -- An episode that has just begun has no probe in flight yet.
      have bound := coherent.bounded execution member
      simp only [Bool.and_eq_true, beq_iff_eq, episode] at current
      rw [current.1.1] at bound
      omega

end Observe

section Start

variable (policy : CircuitBreakerPolicy) (now : ℤ) (system : System) (providerId : String)

theorem start_circuitOf (other : String) :
    (start policy now system providerId).circuitOf other =
      let c := (observe policy now system providerId).circuitOf other
      if other = providerId ∧ c.admits policy = true then c.takeSlot (c.state == .halfOpen)
      else c := by
  have started := Breaker.circuitOf_executeStart policy now system.breaker providerId other
  have observed := observe_circuitOf policy now system providerId other
  by_cases same : other = providerId
  · subst same
    simp only [↓reduceIte] at started observed
    simp only [observed, true_and]
    exact started
  · simp only [same, ↓reduceIte] at started observed
    simp only [observed, same, false_and, ↓reduceIte]
    exact started

theorem start_circuitOf_state (other : String) :
    ((start policy now system providerId).circuitOf other).state =
      ((observe policy now system providerId).circuitOf other).state := by
  rw [start_circuitOf]
  simp only
  split <;> simp

theorem start_episodes (other : String) :
    (start policy now system providerId).episodes other =
      (observe policy now system providerId).episodes other :=
  advance_congr _ _ _ _ _ (start_circuitOf_state policy now system providerId other)

theorem start_inFlight :
    (start policy now system providerId).inFlight =
      let refreshed := observe policy now system providerId
      let c := refreshed.circuitOf providerId
      if c.admits policy = true then
        system.inFlight ++ [⟨providerId, c.state == .halfOpen, refreshed.episodes providerId⟩]
      else system.inFlight := by
  have admission := Breaker.executeStart_admission policy now system.breaker providerId
  have observed : (observe policy now system providerId).circuitOf providerId =
      (system.breaker.circuitOf providerId).maybeTransitionFromOpen policy now :=
    (observe_circuitOf policy now system providerId providerId).trans (if_pos rfl)
  have episode := start_episodes policy now system providerId providerId
  simp only [observed, ← episode]
  simp only [start, admission]
  cases ProviderCircuit.admits policy
    (ProviderCircuit.maybeTransitionFromOpen policy now (system.breaker.circuitOf providerId)) <;>
    rfl

theorem start_probes (other : String) :
    probesInFlight (start policy now system providerId) other =
      probesInFlight system other +
        let c := (observe policy now system providerId).circuitOf other
        if other = providerId ∧ c.admits policy = true ∧ c.state = .halfOpen then 1 else 0 := by
  unfold probesInFlight
  rw [start_inFlight]
  by_cases same : other = providerId
  · subst same
    simp only [true_and]
    by_cases admitted :
        ((observe policy now system other).circuitOf other).admits policy = true <;>
      by_cases half : ((observe policy now system other).circuitOf other).state = .halfOpen <;>
      simp [admitted, half, List.countP_append]
  · have different : providerId ≠ other := fun equal => same equal.symm
    simp only [same, false_and, ↓reduceIte, Nat.add_zero]
    split <;> simp [different, List.countP_append]

theorem start_coherent (coherent : Coherent system) :
    Coherent (start policy now system providerId) where
  bounded := fun execution member => by
    have observed := observe_coherent policy now system providerId coherent
    rw [start_episodes]
    rw [start_inFlight] at member
    simp only at member
    split at member
    · rcases List.mem_append.mp member with old | new
      · exact observed.bounded execution old
      · rw [List.mem_singleton.mp new]
    · exact observed.bounded execution member
  slots := fun other half => by
    have observed := observe_coherent policy now system providerId coherent
    rw [start_circuitOf_state] at half
    have counted := observed.slots other half
    unfold currentProbes at counted ⊢
    rw [start_circuitOf, start_inFlight, start_episodes]
    by_cases same : other = providerId
    · subst same
      simp only [true_and]
      -- An admission takes a slot and adds a probe of this episode; a refusal does neither.
      split
      · simp [half, ProviderCircuit.takeSlot, List.countP_append, counted]
        rfl
      · exact counted
    · have different : providerId ≠ other := fun equal => same equal.symm
      simp only [same, false_and, ↓reduceIte]
      split
      · simp [different, List.countP_append, counted]
        rfl
      · exact counted

end Start

section Finish

variable (policy : CircuitBreakerPolicy) (now : ℤ) (system : System) (index : ℕ)
  (succeeded : Bool)

theorem finish_circuitOf (execution : Execution) (found : system.inFlight[index]? = some execution)
    (other : String) :
    (finish policy now system index succeeded).circuitOf other =
      if other = execution.providerId then
        (system.circuitOf other).settle policy now execution.probing succeeded
      else system.circuitOf other := by
  have settled := Breaker.circuitOf_executeFinish policy now system.breaker execution.providerId
    other execution.probing succeeded
  simp only [finish, found, circuitOf]
  rw [settled]
  by_cases same : other = execution.providerId
  · subst same
    rfl
  · simp [same]

theorem finish_episodes (other : String) :
    (finish policy now system index succeeded).episodes other = system.episodes other := by
  cases found : system.inFlight[index]? with
  | none => simp [finish, found]
  | some execution =>
      have circuit := finish_circuitOf policy now system index succeeded execution found other
      have unfolded : (finish policy now system index succeeded).episodes other =
          advanceEpisodes system.breaker (finish policy now system index succeeded).breaker
            system.episodes other := by simp [finish, found]
      rw [unfolded]
      by_cases same : other = execution.providerId
      -- Only the settled circuit changes, and it does not end half-open.
      · apply advance_leaves
        rw [if_pos same] at circuit
        rw [show (finish policy now system index succeeded).breaker.circuitOf other = _
          from circuit]
        exact ProviderCircuit.settle_not_halfOpen policy now _ _ _
      · rw [if_neg same] at circuit
        exact advance_same _ _ _ _ (congrArg ProviderCircuit.state circuit)

theorem finish_inFlight_perm (execution : Execution)
    (found : system.inFlight[index]? = some execution) :
    (execution :: (finish policy now system index succeeded).inFlight).Perm system.inFlight := by
  obtain ⟨inside, here⟩ := List.getElem?_eq_some_iff.mp found
  have removed : (finish policy now system index succeeded).inFlight =
      system.inFlight.eraseIdx index := by simp [finish, found]
  rw [removed, ← here]
  exact List.getElem_cons_eraseIdx_perm inside

theorem finish_probes_le (providerId : String) :
    probesInFlight (finish policy now system index succeeded) providerId ≤
      probesInFlight system providerId := by
  cases found : system.inFlight[index]? with
  | none => simp [finish, found]
  | some execution =>
      have perm := finish_inFlight_perm policy now system index succeeded execution found
      unfold probesInFlight
      rw [← perm.countP_eq, List.countP_cons]
      exact Nat.le_add_right _ _

theorem finish_coherent (coherent : Coherent system) :
    Coherent (finish policy now system index succeeded) := by
  cases found : system.inFlight[index]? with
  | none => simpa [finish, found] using coherent
  | some execution =>
      have perm := finish_inFlight_perm policy now system index succeeded execution found
      constructor
      · intro remaining member
        rw [finish_episodes]
        exact coherent.bounded remaining (perm.mem_iff.mp (List.mem_cons_of_mem _ member))
      · intro other half
        have circuit := finish_circuitOf policy now system index succeeded execution found other
        by_cases same : other = execution.providerId
        · -- A completion never leaves its own circuit half-open.
          rw [circuit, if_pos same] at half
          exact absurd half (ProviderCircuit.settle_not_halfOpen policy now _ _ _)
        · rw [if_neg same] at circuit
          rw [circuit] at half ⊢
          rw [coherent.slots other half]
          unfold currentProbes
          rw [← perm.countP_eq, List.countP_cons, finish_episodes]
          have different : execution.providerId ≠ other := fun equal => same equal.symm
          simp [different]

end Finish

theorem step_coherent (policy : CircuitBreakerPolicy) (system : System) (event : Event)
    (coherent : Coherent system) : Coherent (step policy system event) := by
  cases event with
  | start providerId now => exact start_coherent policy now system providerId coherent
  | finish index succeeded now => exact finish_coherent policy now system index succeeded coherent
  | observe providerId now => exact observe_coherent policy now system providerId coherent

end System

end LlmGateway.CircuitBreaker
