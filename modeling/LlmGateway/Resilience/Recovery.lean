import LlmGateway.Resilience.BreakerInvariant

/-!
The end of an outage. A circuit lets nothing through while it cools down or
while the probes of its episode are out, and those are the only two reasons: no
slot is ever lost. So the first call behind the cooldown goes through, and if
the provider answers again the circuit stays out of the way from then on.
-/

namespace LlmGateway.CircuitBreaker

open Runs

namespace ProviderCircuit

variable (policy : CircuitBreakerPolicy) (now : ℤ) (c : ProviderCircuit)

def Cooling (policy : CircuitBreakerPolicy) (now : ℤ) (c : ProviderCircuit) : Prop :=
  c.state = .open ∧ ∀ openedAt ∈ c.openedAt, now < openedAt + policy.cooldownMs

theorem refused_iff (positive : 0 < policy.halfOpenProbes)
    (stamped : c.state = .open → c.openedAt.isSome = true) :
    (maybeTransitionFromOpen policy now c).admits policy = false ↔
      c.Cooling policy now ∨
        (c.state = .halfOpen ∧ policy.halfOpenProbes ≤ c.inFlightProbes) := by
  rw [refresh_eq]
  cases held : c.state with
  | closed => simp [admits, held, Cooling]
  | halfOpen => simp [admits, held, Cooling]
  | «open» =>
      obtain ⟨openedAt, stamp⟩ := Option.isSome_iff_exists.mp (stamped held)
      by_cases elapsed : openedAt + policy.cooldownMs ≤ now
      · -- Behind the cooldown the episode begins with every slot free.
        have elapsedNow : c.cooldownElapsed policy now = true := by
          simp only [cooldownElapsed, stamp, Option.any_some, ge_iff_le, decide_eq_true_eq]
          omega
        rw [if_pos ⟨rfl, elapsedNow⟩]
        refine iff_of_false (by simp [admits, positive]) ?_
        rintro (⟨_, waits⟩ | ⟨half, _⟩)
        · exact absurd (waits openedAt stamp) (not_lt.mpr elapsed)
        · cases half
      · have waiting : c.cooldownElapsed policy now = false := by
          simp only [cooldownElapsed, stamp, Option.any_some, ge_iff_le, decide_eq_false_iff_not]
          omega
        rw [if_neg (fun both => by rw [waiting] at both; cases both.2)]
        refine iff_of_true (by simp [admits, held]) (Or.inl ⟨held, fun at_ stamped => ?_⟩)
        cases stamp.symm.trans stamped
        omega

end ProviderCircuit

namespace System

variable (policy : CircuitBreakerPolicy) (providerId : String)

theorem run_watched (watched : Watched) (events : List Event) :
    (run (Watched.step policy) watched events).system =
      run (step policy) watched.system events := by
  induction events generalizing watched with
  | nil => rfl
  | cons event rest ih => exact ih (Watched.step policy watched event)

theorem reached_sound (positive : 0 < policy.failureThreshold) (events : List Event) :
    ∃ consecutive, ProviderCircuit.Sound policy consecutive
      ((run (step policy) initial events).circuitOf providerId) := by
  have sound := always_last (Watched.step policy) (Watched.Sound policy) .initial events
    (Watched.circuits_always_sound policy positive events).1
  have here := sound providerId
  rw [run_watched policy .initial events] at here
  exact ⟨_, here⟩

theorem reached_coherent (events : List Event) :
    Coherent (run (step policy) initial events) :=
  run_invariant (step policy) Coherent (step_coherent policy) initial events initial_coherent

theorem admission_start (now : ℤ) (system : System) :
    admission policy system (.start providerId now) =
      some (((system.circuitOf providerId).maybeTransitionFromOpen policy now).admits policy) := by
  have decided := Breaker.executeStart_admission policy now system.breaker providerId
  simp only [admission, decided, circuitOf]
  split <;> simp_all

def Justified (system : System) (now : ℤ) : Prop :=
  (system.circuitOf providerId).Cooling policy now ∨
    ((system.circuitOf providerId).state = .halfOpen ∧
      currentProbes system providerId = policy.halfOpenProbes)

/-- In every state of every run a call is refused exactly while the circuit
cools down, or while all the probes of its episode are in flight. -/
theorem refusals_justified (positive : 0 < policy.failureThreshold)
    (probes : 0 < policy.halfOpenProbes) (events : List Event) (now : ℤ) :
    admission policy (run (step policy) initial events) (.start providerId now) = some false ↔
      Justified policy providerId (run (step policy) initial events) now := by
  obtain ⟨consecutive, sound⟩ := reached_sound policy providerId positive events
  have coherent := reached_coherent policy events
  rw [admission_start, Option.some_inj,
    ProviderCircuit.refused_iff policy now _ probes sound.stamped]
  refine or_congr_right (and_congr_right fun half => ?_)
  -- The slots of a half-open circuit are its own probes, and never more than the cap.
  rw [← coherent.slots providerId half]
  exact ⟨fun full => le_antisymm (sound.capped half) full, fun full => full.ge⟩

theorem refusals_justified_straggler :
    admission onePolicy (run (step onePolicy) initial stragglerEvents) (.start "nan" 25) =
        some false ↔
      Justified onePolicy "nan" (run (step onePolicy) initial stragglerEvents) 25 :=
  refusals_justified onePolicy "nan" (by decide) (by decide) stragglerEvents 25

def Quiet (system : System) (event : Event) : Prop :=
  ∀ succeeded, event.completion system ≠ some ⟨providerId, succeeded⟩

def Healthy (system : System) (event : Event) : Prop :=
  event.completion system ≠ some ⟨providerId, false⟩

def LetsThrough (system : System) (event : Event) : Prop :=
  ∀ now, event = .start providerId now → admission policy system event = some true

theorem observe_state (now : ℤ) (system : System) (other : String) :
    ((observe policy now system other).circuitOf providerId).state =
        (system.circuitOf providerId).state ∨
      (system.circuitOf providerId).state = .open ∧
        ((observe policy now system other).circuitOf providerId).state = .halfOpen := by
  rw [observe_circuitOf]
  split
  next same =>
    subst same
    rcases ProviderCircuit.refresh_cases policy now (system.circuitOf providerId) with
      same | ⟨opened, half⟩
    · exact Or.inl (congrArg ProviderCircuit.state same)
    · exact Or.inr ⟨opened, congrArg ProviderCircuit.state half⟩
  next => exact Or.inl rfl

theorem quiet_state (system : System) (event : Event) (quiet : Quiet providerId system event) :
    ((step policy system event).circuitOf providerId).state =
        (system.circuitOf providerId).state ∨
      (system.circuitOf providerId).state = .open ∧
        ((step policy system event).circuitOf providerId).state = .halfOpen := by
  cases event with
  | start other now =>
      change ((start policy now system other).circuitOf providerId).state = _ ∨
        _ ∧ ((start policy now system other).circuitOf providerId).state = _
      rw [start_circuitOf_state]
      exact observe_state policy providerId now system other
  | finish index succeeded now =>
      left
      change ((finish policy now system index succeeded).circuitOf providerId).state = _
      cases found : system.inFlight[index]? with
      | none => simp only [finish, found]
      | some execution =>
          have other : providerId ≠ execution.providerId := by
            intro same
            exact quiet succeeded (by simp [Event.completion, found, same])
          rw [finish_circuitOf policy now system index succeeded execution found, if_neg other]
  | observe other now => exact observe_state policy providerId now system other

theorem success_closes (system : System) (event : Event)
    (done : event.completion system = some ⟨providerId, true⟩)
    (ready : (system.circuitOf providerId).state ≠ .open) :
    ((step policy system event).circuitOf providerId).state = .closed := by
  cases event with
  | start other now => cases done
  | observe other now => cases done
  | finish index succeeded now =>
      obtain ⟨execution, found, completed⟩ := Option.map_eq_some_iff.mp done
      cases completed
      change ((finish policy now system index true).circuitOf execution.providerId).state = _
      rw [finish_circuitOf policy now system index true execution found, if_pos rfl]
      simp only [ProviderCircuit.settle, ↓reduceIte, ProviderCircuit.recordSuccess_state,
        ProviderCircuit.releaseSlot_state]
      cases held : (system.circuitOf execution.providerId).state with
      | closed => rfl
      | halfOpen => rfl
      | «open» => exact absurd held ready

theorem healthy_closed (system : System) (event : Event) (healthy : Healthy providerId system event)
    (closed : (system.circuitOf providerId).state = .closed) :
    ((step policy system event).circuitOf providerId).state = .closed := by
  by_cases done : event.completion system = some ⟨providerId, true⟩
  · exact success_closes policy providerId system event done (by rw [closed]; decide)
  · have quiet : Quiet providerId system event := by
      intro succeeded
      cases succeeded with
      | true => exact done
      | false => exact healthy
    rcases quiet_state policy providerId system event quiet with same | ⟨opened, _⟩
    · exact same.trans closed
    · rw [closed] at opened
      cases opened

theorem closed_lets_through (system : System) (event : Event)
    (closed : (system.circuitOf providerId).state = .closed) :
    LetsThrough policy providerId system event := by
  rintro now rfl
  rw [admission_start]
  rcases ProviderCircuit.refresh_cases policy now (system.circuitOf providerId) with
    same | ⟨opened, _⟩
  · rw [same]
    simp only [ProviderCircuit.admits, closed]
  · rw [closed] at opened
    cases opened

theorem admitted_not_open (now : ℤ) (system : System)
    (admitted : admission policy system (.start providerId now) = some true) :
    ((step policy system (.start providerId now)).circuitOf providerId).state ≠ .open := by
  rw [admission_start, Option.some_inj] at admitted
  change ((start policy now system providerId).circuitOf providerId).state ≠ _
  rw [start_circuitOf_state, observe_circuitOf, if_pos rfl]
  intro opened
  simp [ProviderCircuit.admits, opened] at admitted

/-- The end of an outage. From any reachable state with no probe of the episode
in flight, a call behind the cooldown is let through. If the next completion of
the provider, whenever it comes and whichever call it is of, is a success, then
every call goes through for as long as none fails. -/
theorem outage_ends (positive : 0 < policy.failureThreshold) (probes : 0 < policy.halfOpenProbes)
    (events : List Event) (now : ℤ)
    (drained : currentProbes (run (step policy) initial events) providerId = 0)
    (cooled : ∀ openedAt ∈ ((run (step policy) initial events).circuitOf providerId).openedAt,
      openedAt + policy.cooldownMs ≤ now) :
    admission policy (run (step policy) initial events) (.start providerId now) = some true ∧
      ∀ between completion after,
        Guarded (step policy) (Quiet providerId)
          (run (step policy) initial (events ++ [.start providerId now])) between →
        completion.completion
            (run (step policy) initial (events ++ [.start providerId now] ++ between)) =
          some ⟨providerId, true⟩ →
        Guarded (step policy) (Healthy providerId)
          (run (step policy) initial
            (events ++ [.start providerId now] ++ between ++ [completion])) after →
        Guarded (step policy) (LetsThrough policy providerId)
          (run (step policy) initial
            (events ++ [.start providerId now] ++ between ++ [completion])) after := by
  have admitted : admission policy (run (step policy) initial events) (.start providerId now) =
      some true := by
    have refusal := refusals_justified policy providerId positive probes events now
    rw [admission_start, Option.some_inj] at refusal ⊢
    rw [← Bool.not_eq_false, refusal]
    rintro (⟨opened, waits⟩ | ⟨_, full⟩)
    · obtain ⟨consecutive, sound⟩ := reached_sound policy providerId positive events
      obtain ⟨openedAt, stamp⟩ := Option.isSome_iff_exists.mp (sound.stamped opened)
      have elapsed := cooled openedAt stamp
      have waiting := waits openedAt stamp
      omega
    · omega
  refine ⟨admitted, fun between completion after quiet done healthy => ?_⟩
  have ready : ((run (step policy) initial (events ++ [.start providerId now] ++ between)).circuitOf
      providerId).state ≠ .open := by
    rw [run_append]
    refine always_last (step policy)
      (fun system => (system.circuitOf providerId).state ≠ .open) _ between ?_
    refine always_of_guarded (step policy) _ (Quiet providerId) ?_ _ between ?_ quiet
    · intro system event held quiet
      rcases quiet_state policy providerId system event quiet with same | ⟨opened, _⟩
      · rw [same]
        exact held
      · exact absurd opened held
    · rw [run_append]
      exact admitted_not_open policy providerId now _ admitted
  have closed : ((run (step policy) initial (events ++ [.start providerId now] ++ between ++
      [completion])).circuitOf providerId).state = .closed := by
    rw [run_append]
    exact success_closes policy providerId _ completion done ready
  exact guarded_of_always (step policy) _ _
    (fun system event closed => closed_lets_through policy providerId system event closed) _ after
    (always_of_guarded (step policy) (fun system => (system.circuitOf providerId).state = .closed)
      (Healthy providerId)
      (fun system event held healthy => healthy_closed policy providerId system event healthy held)
      _ after closed healthy)

def outageEvents : List Event := [.start "nan" 0, .finish 0 false 1]

theorem outage_ends_nan :
    admission onePolicy (run (step onePolicy) initial outageEvents) (.start "nan" 11) = some true ∧
      Guarded (step onePolicy) (LetsThrough onePolicy "nan")
        (run (step onePolicy) initial
          (outageEvents ++ [.start "nan" 11] ++ [] ++ [.finish 0 true 12]))
        [.start "nan" 13, .finish 0 true 14] := by
  have ends := outage_ends onePolicy "nan" (by decide) (by decide) outageEvents 11 (by decide)
    (by decide)
  refine ⟨ends.1, ends.2 [] (.finish 0 true 12) _ trivial (by decide) ⟨?_, ?_, trivial⟩⟩
  · intro failed
    cases failed
  · intro failed
    exact absurd failed (by decide)

end System

end LlmGateway.CircuitBreaker
