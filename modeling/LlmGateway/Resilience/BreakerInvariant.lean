import LlmGateway.Resilience.HalfOpenProbes

/-!
The invariant of the circuits. The failure counter of a closed circuit is
compared with the history of completions, which the service does not keep: a
circuit closes only on a success, so the failures since the last close are the
failures since the last success.
-/

namespace LlmGateway.CircuitBreaker

open Runs

namespace ProviderCircuit

/-- The invariant of one circuit, beside the number of failed completions of
its provider since the last successful one. -/
structure Sound (policy : CircuitBreakerPolicy) (consecutive : ℕ) (c : ProviderCircuit) :
    Prop where
  below : c.state = .closed → c.failures < policy.failureThreshold
  idle : c.state = .closed → c.inFlightProbes = 0
  counted : c.state = .closed → c.failures = consecutive
  stamped : c.state = .open → c.openedAt.isSome = true
  capped : c.state = .halfOpen → c.inFlightProbes ≤ policy.halfOpenProbes

variable (policy : CircuitBreakerPolicy) (now : ℤ) (consecutive : ℕ) (c : ProviderCircuit)

theorem sound_halfOpen (half : c.state = .halfOpen)
    (capped : c.inFlightProbes ≤ policy.halfOpenProbes) : Sound policy consecutive c where
  below := fun closed => by simp [half] at closed
  idle := fun closed => by simp [half] at closed
  counted := fun closed => by simp [half] at closed
  stamped := fun opened => by simp [half] at opened
  capped := fun _ => capped

theorem sound_open (opened : c.state = .open) (stamped : c.openedAt.isSome = true) :
    Sound policy consecutive c where
  below := fun closed => by simp [opened] at closed
  idle := fun closed => by simp [opened] at closed
  counted := fun closed => by simp [opened] at closed
  stamped := fun _ => stamped
  capped := fun half => by simp [opened] at half

theorem sound_closed (closed : c.state = .closed) (below : c.failures < policy.failureThreshold)
    (idle : c.inFlightProbes = 0) (counted : c.failures = consecutive) :
    Sound policy consecutive c where
  below := fun _ => below
  idle := fun _ => idle
  counted := fun _ => counted
  stamped := fun opened => by simp [closed] at opened
  capped := fun half => by simp [closed] at half

theorem refresh_sound (sound : Sound policy consecutive c) :
    Sound policy consecutive (maybeTransitionFromOpen policy now c) := by
  rcases refresh_cases policy now c with same | ⟨_, half⟩
  · rw [same]
    exact sound
  · rw [half]
    exact sound_halfOpen policy consecutive _ rfl (Nat.zero_le _)

theorem takeSlot_sound (admitted : c.admits policy = true) (sound : Sound policy consecutive c) :
    Sound policy consecutive (takeSlot (c.state == .halfOpen) c) := by
  by_cases half : c.state = .halfOpen
  · have room : c.inFlightProbes < policy.halfOpenProbes := by
      simpa [admits, half] using admitted
    apply sound_halfOpen
    · simp [half]
    · simpa [takeSlot, half] using Nat.succ_le_of_lt room
  · have unchanged : takeSlot (c.state == .halfOpen) c = c := by simp [takeSlot, half]
    rw [unchanged]
    exact sound

theorem releaseSlot_sound (probing : Bool) (sound : Sound policy consecutive c) :
    Sound policy consecutive (releaseSlot probing c) := by
  cases probing with
  | false => exact sound
  | true =>
      constructor
      · exact sound.below
      · intro closed
        simp [releaseSlot, sound.idle closed]
      · exact sound.counted
      · exact sound.stamped
      · intro half
        exact le_trans (Nat.sub_le _ _) (sound.capped half)

theorem recordSuccess_sound (positive : 0 < policy.failureThreshold)
    (sound : Sound policy consecutive c) : Sound policy 0 (recordSuccess c) := by
  unfold recordSuccess
  cases held : c.state with
  | closed => exact sound_closed policy 0 _ rfl positive (sound.idle held) rfl
  | «open» => exact sound_open policy 0 _ rfl (sound.stamped held)
  | halfOpen => exact sound_closed policy 0 _ rfl positive rfl rfl

theorem recordFailure_sound (sound : Sound policy consecutive c) :
    Sound policy (consecutive + 1) (recordFailure policy now c) := by
  unfold recordFailure
  cases held : c.state with
  | halfOpen => exact sound_open policy _ _ rfl rfl
  | «open» => exact sound_open policy _ _ rfl (sound.stamped held)
  | closed =>
      simp only [reduceCtorEq, ↓reduceIte, true_and]
      split
      next => exact sound_open policy _ _ rfl rfl
      next short =>
        exact sound_closed policy _ _ rfl (not_le.mp short) (sound.idle held)
          (congrArg (· + 1) (sound.counted held))

theorem settle_sound (probing succeeded : Bool) (positive : 0 < policy.failureThreshold)
    (sound : Sound policy consecutive c) :
    Sound policy (if succeeded then 0 else consecutive + 1)
      (settle policy now probing succeeded c) := by
  have released := releaseSlot_sound policy consecutive c probing sound
  cases succeeded with
  | true => exact recordSuccess_sound policy consecutive _ positive released
  | false => exact recordFailure_sound policy now consecutive _ released

theorem settle_opens_iff (probing succeeded : Bool) (closed : c.state = .closed)
    (sound : Sound policy consecutive c) :
    (settle policy now probing succeeded c).state = .open ↔
      succeeded = false ∧ consecutive + 1 = policy.failureThreshold := by
  have counted : (releaseSlot probing c).failures = consecutive := by
    rw [← sound.counted closed]
    cases probing <;> rfl
  have below := sound.below closed
  rw [sound.counted closed] at below
  cases succeeded with
  | true => simp [settle, recordSuccess_state, closed]
  | false =>
      simp only [settle, Bool.false_eq_true, ↓reduceIte, recordFailure_state, releaseSlot_state,
        closed, reduceCtorEq, true_and, counted]
      split
      next reached => exact ⟨fun _ => by omega, fun _ => rfl⟩
      next short => exact ⟨fun same => absurd same (by simp), fun equal => by omega⟩

theorem settle_closes (probing succeeded : Bool) (other : c.state ≠ .closed)
    (closes : (settle policy now probing succeeded c).state = .closed) : succeeded = true := by
  cases succeeded with
  | true => rfl
  | false =>
      simp only [settle, Bool.false_eq_true, ↓reduceIte, recordFailure_state, releaseSlot_state]
        at closes
      split_ifs at closes
      exact absurd closes other

theorem refresh_closed_iff :
    (maybeTransitionFromOpen policy now c).state = .closed ↔ c.state = .closed := by
  rcases refresh_cases policy now c with same | ⟨opened, half⟩
  · rw [same]
  · rw [half, opened]
    simp

theorem refresh_waits (opened : c.state = .open)
    (waiting : c.cooldownElapsed policy now = false) :
    (maybeTransitionFromOpen policy now c).admits policy = false := by
  rw [refresh_eq, if_neg (by simp [waiting])]
  simp [admits, opened]

end ProviderCircuit

structure Completion where
  providerId : String
  succeeded : Bool
  deriving DecidableEq, Repr

structure Watched where
  system : System
  completions : List Completion

def Event.subject (system : System) : Event → Option String
  | .start providerId _ => some providerId
  | .finish index _ _ => (system.inFlight[index]?).map Execution.providerId
  | .observe providerId _ => some providerId

def Event.completion (system : System) : Event → Option Completion
  | .start _ _ => none
  | .finish index succeeded _ =>
      (system.inFlight[index]?).map fun execution => ⟨execution.providerId, succeeded⟩
  | .observe _ _ => none

namespace Watched

def initial : Watched where
  system := .initial
  completions := []

def step (policy : CircuitBreakerPolicy) (watched : Watched) (event : Event) : Watched where
  system := System.step policy watched.system event
  completions := (event.completion watched.system).toList ++ watched.completions

def consecutiveFailures (watched : Watched) (providerId : String) : ℕ :=
  ((watched.completions.filter fun completion => completion.providerId = providerId).takeWhile
    fun completion => !completion.succeeded).length

def Sound (policy : CircuitBreakerPolicy) (watched : Watched) : Prop :=
  ∀ providerId, ProviderCircuit.Sound policy (consecutiveFailures watched providerId)
    (watched.system.circuitOf providerId)

/-- What one event may do, whatever the state it meets. -/
structure Lawful (policy : CircuitBreakerPolicy) (watched : Watched) (event : Event) : Prop where
  /-- A closed circuit opens exactly on the failure that reaches the threshold. -/
  opens : ∀ providerId, (watched.system.circuitOf providerId).state = .closed →
    (((step policy watched event).system.circuitOf providerId).state = .open ↔
      event.completion watched.system = some ⟨providerId, false⟩ ∧
        consecutiveFailures watched providerId + 1 = policy.failureThreshold)
  closes : ∀ providerId, (watched.system.circuitOf providerId).state ≠ .closed →
    ((step policy watched event).system.circuitOf providerId).state = .closed →
    event.completion watched.system = some ⟨providerId, true⟩
  /-- No call is started while the circuit is open and cooling down. -/
  cools : ∀ providerId now, event = .start providerId now →
    (watched.system.circuitOf providerId).state = .open →
    (watched.system.circuitOf providerId).cooldownElapsed policy now = false →
    System.admission policy watched.system event = some false ∧
      (step policy watched event).system.inFlight = watched.system.inFlight
  others : ∀ providerId, event.subject watched.system ≠ some providerId →
    (step policy watched event).system.circuitOf providerId = watched.system.circuitOf providerId

variable (policy : CircuitBreakerPolicy) (watched : Watched)

theorem consecutive_other (event : Event) (providerId : String)
    (other : ∀ succeeded, event.completion watched.system ≠ some ⟨providerId, succeeded⟩) :
    consecutiveFailures (step policy watched event) providerId =
      consecutiveFailures watched providerId := by
  unfold consecutiveFailures
  cases done : event.completion watched.system with
  | none => simp [step, done]
  | some completion =>
      have different : completion.providerId ≠ providerId := by
        intro same
        subst same
        exact other completion.succeeded done
      simp [step, done, different]

theorem consecutive_completion (event : Event) (providerId : String) (succeeded : Bool)
    (done : event.completion watched.system = some ⟨providerId, succeeded⟩) :
    consecutiveFailures (step policy watched event) providerId =
      if succeeded then 0 else consecutiveFailures watched providerId + 1 := by
  unfold consecutiveFailures
  cases succeeded <;> simp [step, done]

theorem observe_sound (providerId : String) (now : ℤ) (sound : Sound policy watched) :
    ∀ other, ProviderCircuit.Sound policy (consecutiveFailures watched other)
      ((System.observe policy now watched.system providerId).circuitOf other) := by
  intro other
  rw [System.observe_circuitOf]
  split
  next same =>
    subst same
    exact ProviderCircuit.refresh_sound policy now _ _ (sound other)
  next => exact sound other

theorem start_sound (providerId : String) (now : ℤ) (sound : Sound policy watched) :
    ∀ other, ProviderCircuit.Sound policy (consecutiveFailures watched other)
      ((System.start policy now watched.system providerId).circuitOf other) := by
  intro other
  have observed := observe_sound policy watched providerId now sound other
  rw [System.start_circuitOf]
  simp only
  split
  next admitted => exact ProviderCircuit.takeSlot_sound policy _ _ admitted.2 observed
  next => exact observed

theorem finish_sound (index : ℕ) (succeeded : Bool) (now : ℤ)
    (positive : 0 < policy.failureThreshold) (sound : Sound policy watched) :
    Sound policy (step policy watched (.finish index succeeded now)) := by
  intro other
  cases found : watched.system.inFlight[index]? with
  | none =>
      have unchanged : System.finish policy now watched.system index succeeded =
          watched.system := by simp [System.finish, found]
      rw [consecutive_other policy watched _ other (by simp [Event.completion, found])]
      change ProviderCircuit.Sound policy _
        ((System.finish policy now watched.system index succeeded).circuitOf other)
      rw [unchanged]
      exact sound other
  | some execution =>
      have circuit := System.finish_circuitOf policy now watched.system index succeeded execution
        found other
      have done : (Event.finish index succeeded now).completion watched.system =
          some ⟨execution.providerId, succeeded⟩ := by simp [Event.completion, found]
      change ProviderCircuit.Sound policy _
        ((System.finish policy now watched.system index succeeded).circuitOf other)
      rw [circuit]
      by_cases same : other = execution.providerId
      · subst same
        rw [if_pos rfl, consecutive_completion policy watched _ _ succeeded done]
        exact ProviderCircuit.settle_sound policy now _ _ _ succeeded positive (sound _)
      · have different : ∀ outcome, (Event.finish index succeeded now).completion watched.system ≠
            some ⟨other, outcome⟩ := by
          intro outcome equal
          rw [done] at equal
          exact same (congrArg Completion.providerId (Option.some.inj equal)).symm
        rw [if_neg same, consecutive_other policy watched _ other different]
        exact sound other

theorem step_sound (positive : 0 < policy.failureThreshold) (event : Event)
    (sound : Sound policy watched) : Sound policy (step policy watched event) := by
  cases event with
  | start providerId now =>
      intro other
      rw [consecutive_other policy watched _ other (fun _ same => by cases same)]
      exact start_sound policy watched providerId now sound other
  | finish index succeeded now =>
      exact finish_sound policy watched index succeeded now positive sound
  | observe providerId now =>
      intro other
      rw [consecutive_other policy watched _ other (fun _ same => by cases same)]
      exact observe_sound policy watched providerId now sound other

theorem observe_lawful_state (providerId other : String) (now : ℤ) :
    ((System.observe policy now watched.system providerId).circuitOf other).state = .closed ↔
      (watched.system.circuitOf other).state = .closed := by
  rw [System.observe_circuitOf]
  split
  next same =>
    subst same
    exact ProviderCircuit.refresh_closed_iff policy now _
  next => exact Iff.rfl

theorem start_lawful (providerId : String) (now : ℤ) :
    Lawful policy watched (.start providerId now) where
  opens := fun other closed => by
    have still := (observe_lawful_state policy watched providerId other now).mpr closed
    change ((System.start policy now watched.system providerId).circuitOf other).state = _ ↔ _
    rw [System.start_circuitOf_state, still]
    simp [Event.completion]
  closes := fun other closed closes => by
    change ((System.start policy now watched.system providerId).circuitOf other).state = _ at closes
    rw [System.start_circuitOf_state] at closes
    exact absurd ((observe_lawful_state policy watched providerId other now).mp closes) closed
  cools := fun other reading same opened waiting => by
    cases same
    have refused := ProviderCircuit.refresh_waits policy now _ opened waiting
    constructor
    · have decision := Breaker.executeStart_admission policy now watched.system.breaker providerId
      unfold System.circuitOf at refused
      simp only [refused, Bool.false_eq_true, ↓reduceIte] at decision
      simp only [System.admission, decision, Option.isSome_none]
    · change (System.start policy now watched.system providerId).inFlight = _
      rw [System.start_inFlight]
      simp only [System.observe_circuitOf, ↓reduceIte, refused, Bool.false_eq_true]
  others := fun other different => by
    have apart : other ≠ providerId := fun same => different (congrArg some same.symm)
    change (System.start policy now watched.system providerId).circuitOf other = _
    rw [System.start_circuitOf, System.observe_circuitOf]
    simp [apart]

theorem observe_lawful (providerId : String) (now : ℤ) :
    Lawful policy watched (.observe providerId now) where
  opens := fun other closed => by
    have still := (observe_lawful_state policy watched providerId other now).mpr closed
    change ((System.observe policy now watched.system providerId).circuitOf other).state = _ ↔ _
    rw [still]
    simp [Event.completion]
  closes := fun other closed closes =>
    absurd ((observe_lawful_state policy watched providerId other now).mp closes) closed
  cools := fun _ _ same => by cases same
  others := fun other different => by
    have apart : other ≠ providerId := fun same => different (congrArg some same.symm)
    change (System.observe policy now watched.system providerId).circuitOf other = _
    rw [System.observe_circuitOf, if_neg apart]

theorem finish_lawful (index : ℕ) (succeeded : Bool) (now : ℤ) (sound : Sound policy watched) :
    Lawful policy watched (.finish index succeeded now) := by
  cases found : watched.system.inFlight[index]? with
  | none =>
      have unchanged : (step policy watched (.finish index succeeded now)).system =
          watched.system := by simp [step, System.step, System.finish, found]
      constructor
      · intro other closed
        rw [unchanged, closed]
        simp [Event.completion, found]
      · intro other closed closes
        rw [unchanged] at closes
        exact absurd closes closed
      · intro _ _ same
        cases same
      · intro other _
        rw [unchanged]
  | some execution =>
      have circuit : ∀ other, (step policy watched (.finish index succeeded now)).system.circuitOf
          other = _ :=
        System.finish_circuitOf policy now watched.system index succeeded execution found
      have done : (Event.finish index succeeded now).completion watched.system =
          some ⟨execution.providerId, succeeded⟩ := by simp [Event.completion, found]
      constructor
      · intro other closed
        rw [circuit, done]
        by_cases same : other = execution.providerId
        · subst same
          rw [if_pos rfl, ProviderCircuit.settle_opens_iff policy now _ _ _ _ closed (sound _)]
          simp
        · have apart : execution.providerId ≠ other := fun equal => same equal.symm
          rw [if_neg same, closed]
          simp [apart]
      · intro other closed closes
        rw [circuit] at closes
        by_cases same : other = execution.providerId
        · subst same
          rw [if_pos rfl] at closes
          rw [done, ProviderCircuit.settle_closes policy now _ _ _ closed closes]
        · rw [if_neg same] at closes
          exact absurd closes closed
      · intro _ _ same
        cases same
      · intro other different
        have apart : other ≠ execution.providerId := by
          intro same
          exact different (by simp [Event.subject, found, same])
        rw [circuit, if_neg apart]

theorem step_lawful (event : Event) (sound : Sound policy watched) :
    Lawful policy watched event := by
  cases event with
  | start providerId now => exact start_lawful policy watched providerId now
  | finish index succeeded now =>
      exact finish_lawful policy watched index succeeded now sound
  | observe providerId now => exact observe_lawful policy watched providerId now

theorem initial_sound (positive : 0 < policy.failureThreshold) : Sound policy initial :=
  fun _ => ProviderCircuit.sound_closed policy _ _ rfl positive rfl rfl

/-- Every circuit is sound in every state of every run, and every event obeys
the laws of the transitions. -/
theorem circuits_always_sound (positive : 0 < policy.failureThreshold) (events : List Event) :
    Always (step policy) (Sound policy) initial events ∧
      Guarded (step policy) (Lawful policy) initial events := by
  have kept : ∀ watched event, Sound policy watched → Sound policy (step policy watched event) :=
    fun watched event => step_sound policy watched positive event
  have start := initial_sound policy positive
  constructor
  · exact always_of_invariant (step policy) (Sound policy) kept initial events start
  · exact guarded_of_invariant (step policy) (Sound policy) (Lawful policy) kept
      (fun watched event => step_lawful policy watched event) initial events start

theorem circuits_always_sound_straggler :
    Always (step System.onePolicy) (Sound System.onePolicy) initial System.stragglerEvents ∧
      Guarded (step System.onePolicy) (Lawful System.onePolicy) initial System.stragglerEvents :=
  circuits_always_sound System.onePolicy (by decide) System.stragglerEvents

end Watched

end LlmGateway.CircuitBreaker
