import LlmGateway.Resilience.BreakerRuns

/-!
Which guarantees the probe counter gives. `inFlightProbes` is reset whenever a
circuit enters or leaves the half-open state, so it counts the probes of one
episode only, and the completions that decide an episode do not say which
episode admitted them. Both cap and ownership hold exactly as long as the
executions of earlier episodes keep out of the way.
-/

namespace LlmGateway.CircuitBreaker

open Runs

namespace System

/-- At most `halfOpenProbes` executions admitted as probes are in flight. -/
def ProbeBound (policy : CircuitBreakerPolicy) (system : System) : Prop :=
  ∀ providerId, probesInFlight system providerId ≤ policy.halfOpenProbes

/-- Where the counter would admit one more probe, the stragglers of earlier
episodes fit beside the probes the counter knows of. -/
def RoomForStragglers (policy : CircuitBreakerPolicy) (system : System) : Event → Prop
  | .start providerId now =>
      let refreshed := observe policy now system providerId
      let c := refreshed.circuitOf providerId
      c.state = .halfOpen → c.inFlightProbes < policy.halfOpenProbes →
        stragglers refreshed providerId + c.inFlightProbes < policy.halfOpenProbes
  | .finish _ _ _ => True
  | .observe _ _ => True

theorem start_admits_probe_iff (policy : CircuitBreakerPolicy) (c : ProviderCircuit) :
    (c.admits policy = true ∧ c.state = .halfOpen) ↔
      (c.state = .halfOpen ∧ c.inFlightProbes < policy.halfOpenProbes) := by
  constructor
  · rintro ⟨admitted, half⟩
    simp only [ProviderCircuit.admits, half, decide_eq_true_eq] at admitted
    exact ⟨half, admitted⟩
  · rintro ⟨half, room⟩
    exact ⟨by simp [ProviderCircuit.admits, half, room], half⟩

theorem start_probe_bound (policy : CircuitBreakerPolicy) (now : ℤ) (system : System)
    (providerId : String) (coherent : Coherent system) (bound : ProbeBound policy system) :
    ProbeBound policy (start policy now system providerId) ↔
      RoomForStragglers policy system (.start providerId now) := by
  have observed := observe_coherent policy now system providerId coherent
  have split : probesInFlight system providerId =
      currentProbes (observe policy now system providerId) providerId +
        stragglers (observe policy now system providerId) providerId :=
    probes_split (observe policy now system providerId) providerId
  constructor
  · intro after half room
    -- The probe just admitted is in flight too, so the cap left a place for it.
    have here := after providerId
    rw [start_probes] at here
    simp only [true_and, (start_admits_probe_iff policy _).mpr ⟨half, room⟩, ↓reduceIte] at here
    have slots := observed.slots providerId half
    omega
  · intro allowed other
    rw [start_probes]
    by_cases same : other = providerId
    · subst same
      simp only [true_and]
      split
      next admitted =>
        obtain ⟨half, room⟩ := (start_admits_probe_iff policy _).mp admitted
        have fits := allowed half room
        have slots := observed.slots other half
        omega
      next => exact bound other
    · simp only [same, false_and, ↓reduceIte]
      exact bound other

/-- The cap holds in every state of a run exactly when every admission of a
probe leaves room for the stragglers. -/
theorem probe_bound_iff_room (policy : CircuitBreakerPolicy) (events : List Event) :
    Always (step policy) (ProbeBound policy) initial events ↔
      Guarded (step policy) (RoomForStragglers policy) initial events := by
  apply always_iff_guarded (step policy) Coherent
  · exact step_coherent policy
  · intro system event coherent bound
    cases event with
    | start providerId now => exact start_probe_bound policy now system providerId coherent bound
    | finish index succeeded now =>
        refine ⟨fun _ => trivial, fun _ providerId => ?_⟩
        exact le_trans (finish_probes_le policy now system index succeeded providerId)
          (bound providerId)
    | observe providerId now => exact ⟨fun _ => trivial, fun _ => bound⟩
  · exact initial_coherent
  · intro providerId
    simp [probesInFlight, initial]

def onePolicy : CircuitBreakerPolicy where
  failureThreshold := 1
  cooldownMs := 10
  halfOpenProbes := 1

/-- Two calls start while the circuit is closed and one of them opens it. The
other fails beside the first probe, which reopens the circuit and clears the
counter; the next cooldown then admits a second probe. -/
def stragglerEvents : List Event :=
  [.start "nan" 0, .start "nan" 0, .finish 1 false 1, .start "nan" 11, .finish 0 false 12,
    .start "nan" 22]

theorem straggler_breaks_probe_bound :
    ¬ ∀ (policy : CircuitBreakerPolicy) (events : List Event),
      0 < policy.failureThreshold → 0 < policy.cooldownMs → 0 < policy.halfOpenProbes →
      ClockNondecreasing events →
      Always (step policy) (ProbeBound policy) initial events := by
  intro claimed
  have always := claimed onePolicy stragglerEvents (by decide) (by decide) (by decide) (by decide)
  have final := always_last (step onePolicy) (ProbeBound onePolicy) initial stragglerEvents always
  exact absurd (final "nan") (by decide)

/-- A step that takes a circuit out of half-open completes a probe of the
episode the circuit was in. -/
def OwnProbeDecides (policy : CircuitBreakerPolicy) (system : System) (event : Event) : Prop :=
  ∀ providerId, (system.circuitOf providerId).state = .halfOpen →
    ((step policy system event).circuitOf providerId).state ≠ .halfOpen →
    ∃ index succeeded now execution, event = .finish index succeeded now ∧
      system.inFlight[index]? = some execution ∧ execution.providerId = providerId ∧
      execution.probing = true ∧ execution.episode = system.episodes providerId

/-- No call admitted while the circuit was closed, and no probe of an earlier
episode, completes while the circuit is half-open. -/
def NoStrayCompletion (system : System) : Event → Prop
  | .finish index _ _ =>
      ∀ execution, system.inFlight[index]? = some execution →
        (system.circuitOf execution.providerId).state = .halfOpen →
        execution.probing = true ∧ execution.episode = system.episodes execution.providerId
  | .start _ _ => True
  | .observe _ _ => True

theorem observe_keeps_halfOpen (policy : CircuitBreakerPolicy) (now : ℤ) (system : System)
    (providerId other : String) (half : (system.circuitOf other).state = .halfOpen) :
    ((observe policy now system providerId).circuitOf other).state = .halfOpen := by
  rw [observe_circuitOf]
  split
  next same =>
    subst same
    rw [ProviderCircuit.refresh_halfOpen policy now _ half]
    exact half
  next => exact half

theorem own_probe_decides_step (policy : CircuitBreakerPolicy) (system : System) (event : Event) :
    OwnProbeDecides policy system event ↔ NoStrayCompletion system event := by
  cases event with
  | start providerId now =>
      refine ⟨fun _ => trivial, fun _ other half leaves => absurd ?_ leaves⟩
      change ((start policy now system providerId).circuitOf other).state = .halfOpen
      rw [start_circuitOf_state]
      exact observe_keeps_halfOpen policy now system providerId other half
  | observe providerId now =>
      exact ⟨fun _ => trivial, fun _ other half leaves =>
        absurd (observe_keeps_halfOpen policy now system providerId other half) leaves⟩
  | finish index succeeded now =>
      constructor
      · intro decides execution found half
        have leaves : ((step policy system (.finish index succeeded now)).circuitOf
            execution.providerId).state ≠ .halfOpen := by
          change ((finish policy now system index succeeded).circuitOf _).state ≠ _
          rw [finish_circuitOf policy now system index succeeded execution found, if_pos rfl]
          exact ProviderCircuit.settle_not_halfOpen policy now _ _ _
        -- The completion takes its circuit out of half-open, so it must be the decider.
        obtain ⟨_, _, _, decider, same, decided, _, probing, episode⟩ :=
          decides execution.providerId half leaves
        cases same
        rw [found] at decided
        cases decided
        exact ⟨probing, episode⟩
      · intro allowed other half leaves
        cases found : system.inFlight[index]? with
        | none =>
            have unchanged : finish policy now system index succeeded = system := by
              simp [finish, found]
            exact absurd (by rw [step, unchanged]; exact half) leaves
        | some execution =>
            have circuit := finish_circuitOf policy now system index succeeded execution found other
            -- No circuit but that of the completed execution can leave half-open.
            by_cases same : other = execution.providerId
            · subst same
              obtain ⟨probing, episode⟩ := allowed execution found half
              exact ⟨index, succeeded, now, execution, rfl, found, rfl, probing, episode⟩
            · rw [if_neg same] at circuit
              exact absurd (by rw [step, circuit]; exact half) leaves

/-- Only probes decide half-open circuits along a run exactly when no stray
completion meets one. -/
theorem own_probes_decide_iff (policy : CircuitBreakerPolicy) (events : List Event) :
    Guarded (step policy) (OwnProbeDecides policy) initial events ↔
      Guarded (step policy) NoStrayCompletion initial events :=
  guarded_congr (step policy) (fun _ => True) _ _ (fun _ _ _ => trivial)
    (fun system event _ => own_probe_decides_step policy system event) initial events trivial

/-- A call admitted while the circuit was closed succeeds late and closes the
half-open circuit although the only probe is still in flight. -/
def lateSuccessEvents : List Event :=
  [.start "nan" 0, .start "nan" 0, .finish 1 false 1, .start "nan" 11, .finish 0 true 12]

theorem late_success_decides :
    ¬ ∀ (policy : CircuitBreakerPolicy) (events : List Event),
      0 < policy.failureThreshold → 0 < policy.cooldownMs → 0 < policy.halfOpenProbes →
      ClockNondecreasing events →
      Guarded (step policy) (OwnProbeDecides policy) initial events := by
  intro claimed
  have guarded := claimed onePolicy lateSuccessEvents (by decide) (by decide) (by decide)
    (by decide)
  have last := (own_probe_decides_step onePolicy _ _).mp guarded.2.2.2.2.1
  exact absurd (last ⟨"nan", false, 0⟩ (by decide) (by decide)).1 (by decide)

end System

end LlmGateway.CircuitBreaker
