import LlmGateway.Routing.Fairness

/-!
The switch `fallbackEnabled` of the routing policy. It is stored, edited and
loaded, but the loop of `route` does not ask it: a first position that fails is
followed by the next one whatever the switch says.
-/

namespace LlmGateway.Routing

open Providers CircuitBreaker Service

/-- The one row of `routing_policy`, with the CHECKs of its columns. -/
structure RoutingPolicyRow where
  fallbackEnabled : ℕ
  healthCheckIntervalMs : ℕ
  requestTimeoutMs : ℕ
  failureThreshold : ℕ
  cooldownMs : ℕ
  halfOpenProbes : ℕ
  flag : fallbackEnabled = 0 ∨ fallbackEnabled = 1
  positive : 0 < healthCheckIntervalMs ∧ 0 < requestTimeoutMs ∧ 0 < failureThreshold ∧
    0 < cooldownMs ∧ 0 < halfOpenProbes

structure RoutingPolicy where
  fallbackEnabled : Bool
  healthCheckIntervalMs : ℕ
  requestTimeoutMs : ℕ
  failureThreshold : ℕ
  cooldownMs : ℕ
  halfOpenProbes : ℕ
  deriving DecidableEq, Repr

def getPolicy : Option RoutingPolicyRow → RoutingPolicy
  | none =>
      { fallbackEnabled := true
        healthCheckIntervalMs := 30000
        requestTimeoutMs := 120000
        failureThreshold := 5
        cooldownMs := 30000
        halfOpenProbes := 1 }
  | some row =>
      { fallbackEnabled := row.fallbackEnabled = 1
        healthCheckIntervalMs := row.healthCheckIntervalMs
        requestTimeoutMs := row.requestTimeoutMs
        failureThreshold := row.failureThreshold
        cooldownMs := row.cooldownMs
        halfOpenProbes := row.halfOpenProbes }

/-- A `Partial<RoutingPolicy>`. -/
structure PolicyFields where
  fallbackEnabled : Option Bool
  healthCheckIntervalMs : Option ℕ
  requestTimeoutMs : Option ℕ
  failureThreshold : Option ℕ
  cooldownMs : Option ℕ
  halfOpenProbes : Option ℕ

/-- The UPDATE fails when a CHECK does, and finds nothing to update without a row. -/
def setPolicy (row : Option RoutingPolicyRow) (fields : PolicyFields) :
    Option (Option RoutingPolicyRow) :=
  let current := getPolicy row
  let fallbackEnabled := fields.fallbackEnabled.getD current.fallbackEnabled
  let healthCheckIntervalMs := fields.healthCheckIntervalMs.getD current.healthCheckIntervalMs
  let requestTimeoutMs := fields.requestTimeoutMs.getD current.requestTimeoutMs
  let failureThreshold := fields.failureThreshold.getD current.failureThreshold
  let cooldownMs := fields.cooldownMs.getD current.cooldownMs
  let halfOpenProbes := fields.halfOpenProbes.getD current.halfOpenProbes
  match row with
  | none => some none
  | some _ =>
      if positive : 0 < healthCheckIntervalMs ∧ 0 < requestTimeoutMs ∧ 0 < failureThreshold ∧
          0 < cooldownMs ∧ 0 < halfOpenProbes then
        some (some
          { fallbackEnabled := if fallbackEnabled then 1 else 0
            healthCheckIntervalMs, requestTimeoutMs, failureThreshold, cooldownMs, halfOpenProbes
            flag := by split <;> simp
            positive })
      else none

def RoutingPolicy.circuitBreaker (policy : RoutingPolicy) : CircuitBreakerPolicy where
  failureThreshold := policy.failureThreshold
  cooldownMs := policy.cooldownMs
  halfOpenProbes := policy.halfOpenProbes

theorem stored_flag (switch : Bool) : decide ((if switch then 1 else 0) = 1) = switch := by
  cases switch <;> rfl

theorem getPolicy_setPolicy (row : RoutingPolicyRow) (fields : PolicyFields)
    (updated : RoutingPolicyRow) (written : setPolicy (some row) fields = some (some updated)) :
    (getPolicy (some updated)).fallbackEnabled =
      fields.fallbackEnabled.getD (getPolicy (some row)).fallbackEnabled := by
  unfold setPolicy at written
  dsimp only at written
  split at written
  next =>
    cases written
    exact stored_flag _
  next => cases written

variable {Result : Type}

/-- With the switch off, the run tries or skips the first position of the order
at most, calls no other, and fails unless that one succeeds. -/
def SwitchHonoured (policy : RoutingPolicy) (order : List ℕ) (run : RouteRun Result) : Prop :=
  policy.fallbackEnabled = false →
    run.visits.map Visit.position <+: order.take 1 ∧
      ((∀ visit ∈ run.visits, ¬ visit.Succeeded) → ∃ error, run.outcome = .error error)

/-- What `resolveChain` gave, if it gave anything. -/
def entries (chain : Except ResolveError (List ResolvedModel)) : List ResolvedModel :=
  chain.toOption.getD []

/-- The breaker admits the first position of the order and its executor answers. -/
def FirstServes (policy : CircuitBreakerPolicy) (around : Surroundings Result)
    (chain : List ResolvedModel) (order : List ℕ) (breaker : Breaker) : Prop :=
  ∃ position resolved result, order.head? = some position ∧ chain[position]? = some resolved ∧
    (Breaker.canRequest policy (around.clock 0).checked breaker resolved.providerId).1 = true ∧
    around.executor 0 resolved = .returns result

section Switch

variable (policy : CircuitBreakerPolicy) (around : Surroundings Result) (model : String)
  (chain : List ResolvedModel) (order : List ℕ) (breaker : Breaker) (run : RouteRun Result)

theorem tryPosition_clock (tried position : ℕ) (resolved : ResolvedModel) :
    (tryPosition policy around tried position resolved breaker).clock = around.clock tried := by
  unfold tryPosition
  dsimp only
  split
  · split <;> rfl
  · rfl

theorem walked_first (walked : Walked policy around model chain order [] breaker run)
    (nonempty : order ≠ []) :
    ∃ first others, run.visits = first :: others ∧ order.head? = some first.position ∧
      (others = [] ↔ order.length ≤ 1 ∨ first.Succeeded) := by
  obtain ⟨position, rest, rfl⟩ := List.exists_cons_of_ne_nil nonempty
  rcases walked.ending with ⟨earlier, last, result, visits, failing, succeeded, _⟩ |
    ⟨whole, failing, _⟩
  · have served : last.Succeeded := by
      unfold Visit.Succeeded
      rw [succeeded]
      rfl
    have listed := walked.positions
    cases earlier with
    | nil =>
        rw [visits, List.nil_append, List.map_singleton] at listed
        obtain ⟨same, _⟩ := List.cons_prefix_cons.mp listed
        exact ⟨last, [], visits, by rw [same]; rfl, iff_of_true rfl (Or.inr served)⟩
    | cons first more =>
        have length := listed.length_le
        rw [visits, List.cons_append, List.map_cons] at listed
        obtain ⟨same, _⟩ := List.cons_prefix_cons.mp listed
        refine ⟨first, more ++ [last], visits, by rw [same]; rfl, iff_of_false (by simp) ?_⟩
        rintro (short | clean)
        · rw [visits, List.length_map, List.length_append, List.length_cons,
            List.length_singleton] at length
          omega
        · exact failing first List.mem_cons_self clean
  · obtain ⟨first, others, visits, same, tail⟩ := List.map_eq_cons_iff.mp whole
    refine ⟨first, others, visits, by rw [← same]; rfl, ?_⟩
    have fails : ¬ first.Succeeded := failing first (by rw [visits]; exact List.mem_cons_self)
    rw [or_iff_left fails, List.length_cons, ← tail, List.length_map]
    cases others <;> simp

theorem first_succeeded_iff (walked : Walked policy around model chain order [] breaker run)
    (first : Visit Result) (others : List (Visit Result)) (visits : run.visits = first :: others)
    (head : order.head? = some first.position) :
    first.Succeeded ↔ FirstServes policy around chain order breaker := by
  have start : first.before = breaker := by
    have threaded := walked.threaded
    rw [visits] at threaded
    exact threaded.1
  obtain ⟨found, made⟩ := walked.rounds 0 first (by rw [visits]; rfl)
  rw [List.length_nil, Nat.zero_add, start] at made
  have clock : first.clock = around.clock 0 := by
    rw [made]
    exact tryPosition_clock policy around breaker 0 _ _
  have round := tryPosition_cases policy around 0 first.position first.resolved breaker
  rw [← made] at round
  dsimp only at round
  rw [clock] at round
  have serves : FirstServes policy around chain order breaker ↔
      (Breaker.canRequest policy (around.clock 0).checked breaker first.resolved.providerId).1 =
        true ∧ ∃ result, around.executor 0 first.resolved = .returns result := by
    constructor
    · rintro ⟨position, resolved, result, begins, entry, admits, answers⟩
      rw [head] at begins
      cases begins
      rw [found] at entry
      cases entry
      exact ⟨admits, result, answers⟩
    · rintro ⟨admits, result, answers⟩
      exact ⟨_, _, result, head, found, admits, answers⟩
  rw [serves]
  unfold Visit.Succeeded
  rcases round with ⟨allowed, _, trial⟩ | ⟨refused, _, trial⟩
  · rw [trial, and_iff_right allowed]
    cases around.executor 0 first.resolved <;> simp [trialOf, Trial.failure]
  · rw [trial]
    simp [Trial.failure, refused]

theorem single_position_iff (first : Visit Result) (others : List (Visit Result))
    (visits : run.visits = first :: others) (head : order.head? = some first.position) :
    run.visits.map Visit.position <+: order.take 1 ↔ others = [] := by
  obtain ⟨rest, rfl⟩ : ∃ rest, order = first.position :: rest := by
    cases order with
    | nil => cases head
    | cons position rest =>
        cases head
        exact ⟨rest, rfl⟩
  rw [visits, List.map_cons, List.take_succ_cons, List.take_zero, List.cons_prefix_cons]
  simp

theorem walked_failing (walked : Walked policy around model chain order [] breaker run)
    (failing : ∀ visit ∈ run.visits, ¬ visit.Succeeded) : ∃ error, run.outcome = .error error := by
  rcases walked.ending with ⟨earlier, last, result, visits, _, succeeded, _⟩ | ⟨_, _, outcome⟩
  · refine absurd ?_ (failing last (by simp [visits]))
    unfold Visit.Succeeded
    rw [succeeded]
    rfl
  · exact ⟨_, outcome⟩

theorem walked_honours_iff (settings : RoutingPolicy)
    (walked : Walked policy around model chain order [] breaker run) :
    SwitchHonoured settings order run ↔
      settings.fallbackEnabled = true ∨ order.length ≤ 1 ∨
        FirstServes policy around chain order breaker := by
  have fails := walked_failing policy around model chain order breaker run walked
  by_cases empty : order = []
  · subst empty
    exact iff_of_true (fun _ => ⟨walked.positions, fails⟩) (Or.inr (Or.inl (Nat.zero_le 1)))
  · obtain ⟨first, others, visits, head, single⟩ :=
      walked_first policy around model chain order breaker run walked empty
    have served := first_succeeded_iff policy around model chain order breaker run walked first
      others visits head
    have alone := single_position_iff order run first others visits head
    rw [← served, ← single, SwitchHonoured, alone]
    constructor
    · intro honoured
      cases switch : settings.fallbackEnabled with
      | true => exact Or.inl rfl
      | false => exact Or.inr (honoured switch).1
    · rintro (on | nothing) off
      · rw [on] at off
        cases off
      · exact ⟨nothing, fails⟩

end Switch

def switchedOff : RoutingPolicyRow where
  fallbackEnabled := 0
  healthCheckIntervalMs := 30000
  requestTimeoutMs := 120000
  failureThreshold := 5
  cooldownMs := 30000
  halfOpenProbes := 1
  flag := by decide
  positive := by decide

def failingFirst : RouteRun Unit :=
  (Service.route (getPolicy (some switchedOff)).circuitBreaker
    { executor := fun tried _ => if tried = 0 then .throws (.error "Error" "502") else .returns ()
      clock := fun _ => ⟨0, 0, 0, 0, 0⟩
      meanwhile := fun _ breaker => breaker } "fast" ⟨fun _ => .primary, fun _ => [], .initial⟩ 0
    .initial (.ok [qwen, { qwen with providerId := "backup" }])).1

end LlmGateway.Routing
