import Mathlib.Data.List.AList
import Mathlib.Data.List.Sort
import Mathlib.Algebra.Order.Ring.Int

/-!
The per-provider circuit breaker. Every operation of the service changes one
provider's circuit, so each is written on a `ProviderCircuit` and then applied
at one key of the map. `execute` is split where the source awaits `fn`: the
admission before it and the two continuations after it. The policy is fixed at
construction; every clock reading is an argument.
-/

namespace LlmGateway.CircuitBreaker

structure CircuitBreakerPolicy where
  failureThreshold : ℕ
  cooldownMs : ℕ
  halfOpenProbes : ℕ
  deriving DecidableEq, Repr

inductive CircuitState where
  | closed
  | «open»
  | halfOpen
  deriving DecidableEq, Repr

structure ProviderCircuit where
  state : CircuitState
  failures : ℕ
  lastFailureAt : Option ℤ
  openedAt : Option ℤ
  inFlightProbes : ℕ
  deriving DecidableEq, Repr

/-- One entry of `listProviders`. -/
structure CircuitSnapshot where
  providerId : String
  state : CircuitState
  failures : ℕ
  lastFailureAt : Option ℤ
  openedAt : Option ℤ
  canServe : Bool
  deriving DecidableEq, Repr

namespace ProviderCircuit

/-- The circuit `ensure` creates for a provider it has not seen. -/
def fresh : ProviderCircuit where
  state := .closed
  failures := 0
  lastFailureAt := none
  openedAt := none
  inFlightProbes := 0

def maybeTransitionFromOpen (policy : CircuitBreakerPolicy) (now : ℤ) (c : ProviderCircuit) :
    ProviderCircuit :=
  match c.state, c.openedAt with
  | .open, some openedAt =>
      if now - openedAt ≥ policy.cooldownMs then
        { c with state := .halfOpen, inFlightProbes := 0 }
      else c
  | _, _ => c

def cooldownElapsed (policy : CircuitBreakerPolicy) (now : ℤ) (c : ProviderCircuit) : Bool :=
  c.openedAt.any fun openedAt => now - openedAt ≥ policy.cooldownMs

/-- The decision of `canRequest` on a circuit that is already refreshed. -/
def admits (policy : CircuitBreakerPolicy) (c : ProviderCircuit) : Bool :=
  match c.state with
  | .closed => true
  | .open => false
  | .halfOpen => c.inFlightProbes < policy.halfOpenProbes

def recordSuccess (c : ProviderCircuit) : ProviderCircuit :=
  let c := { c with failures := 0 }
  if c.state = .halfOpen then
    { c with state := .closed, openedAt := none, inFlightProbes := 0 }
  else c

def recordFailure (policy : CircuitBreakerPolicy) (now : ℤ) (c : ProviderCircuit) :
    ProviderCircuit :=
  let c := { c with lastFailureAt := some now }
  if c.state = .halfOpen then
    -- Reopened at once, by whichever call has failed; the failure is not counted.
    { c with state := .open, openedAt := some now, inFlightProbes := 0 }
  else
    let c := { c with failures := c.failures + 1 }
    if c.state = .closed ∧ c.failures ≥ policy.failureThreshold then
      { c with state := .open, openedAt := some now }
    else c

/-- `if (probing) c.inFlightProbes += 1`. -/
def takeSlot (probing : Bool) (c : ProviderCircuit) : ProviderCircuit :=
  if probing then { c with inFlightProbes := c.inFlightProbes + 1 } else c

/-- `if (probing) c.inFlightProbes = Math.max(0, c.inFlightProbes - 1)`. -/
def releaseSlot (probing : Bool) (c : ProviderCircuit) : ProviderCircuit :=
  if probing then { c with inFlightProbes := c.inFlightProbes - 1 } else c

/-- The continuation of `execute` once `fn` has settled. -/
def settle (policy : CircuitBreakerPolicy) (now : ℤ) (probing succeeded : Bool)
    (c : ProviderCircuit) : ProviderCircuit :=
  let c := releaseSlot probing c
  if succeeded then recordSuccess c else recordFailure policy now c

variable (policy : CircuitBreakerPolicy) (now : ℤ) (c : ProviderCircuit)

theorem refresh_cases :
    maybeTransitionFromOpen policy now c = c ∨
      (c.state = .open ∧ maybeTransitionFromOpen policy now c =
        { c with state := .halfOpen, inFlightProbes := 0 }) := by
  unfold maybeTransitionFromOpen
  split
  next isOpen _ =>
    split
    · exact Or.inr ⟨isOpen, rfl⟩
    · exact Or.inl rfl
  next => exact Or.inl rfl

theorem refresh_halfOpen (half : c.state = .halfOpen) :
    maybeTransitionFromOpen policy now c = c := by
  rcases refresh_cases policy now c with same | ⟨isOpen, _⟩
  · exact same
  · rw [half] at isOpen
    cases isOpen

theorem refresh_eq :
    maybeTransitionFromOpen policy now c =
      if c.state = .open ∧ c.cooldownElapsed policy now = true then
        { c with state := .halfOpen, inFlightProbes := 0 }
      else c := by
  obtain ⟨state, failures, lastFailureAt, openedAt, inFlightProbes⟩ := c
  cases state <;> cases openedAt <;> simp [maybeTransitionFromOpen, cooldownElapsed]

theorem refresh_idem :
    maybeTransitionFromOpen policy now (maybeTransitionFromOpen policy now c) =
      maybeTransitionFromOpen policy now c := by
  rcases refresh_cases policy now c with same | ⟨_, half⟩
  · rw [same, same]
  · rw [half]
    exact refresh_halfOpen policy now _ rfl

@[simp] theorem takeSlot_state (probing : Bool) : (takeSlot probing c).state = c.state := by
  cases probing <;> rfl

@[simp] theorem releaseSlot_state (probing : Bool) : (releaseSlot probing c).state = c.state := by
  cases probing <;> rfl

theorem recordSuccess_state :
    (recordSuccess c).state = if c.state = .halfOpen then .closed else c.state := by
  unfold recordSuccess
  by_cases half : c.state = .halfOpen <;> simp [half]

theorem recordFailure_state :
    (recordFailure policy now c).state =
      if c.state = .halfOpen then .open
      else if c.state = .closed ∧ c.failures + 1 ≥ policy.failureThreshold then .open
      else c.state := by
  unfold recordFailure
  by_cases half : c.state = .halfOpen
  · simp [half]
  · by_cases trips : c.state = .closed ∧ c.failures + 1 ≥ policy.failureThreshold <;>
      simp [half, trips]

theorem settle_not_halfOpen (probing succeeded : Bool) :
    (settle policy now probing succeeded c).state ≠ .halfOpen := by
  cases succeeded with
  | true =>
      simp only [settle, ↓reduceIte, recordSuccess_state, releaseSlot_state]
      split
      · decide
      · assumption
  | false =>
      simp only [settle, Bool.false_eq_true, ↓reduceIte, recordFailure_state, releaseSlot_state]
      split_ifs
      · decide
      · decide
      · assumption

end ProviderCircuit

/-- The service's state: `circuits`, and the provider ids `known` so far. -/
structure Breaker where
  circuits : AList (fun _ : String => ProviderCircuit)
  known : List String

namespace Breaker

def initial : Breaker where
  circuits := ∅
  known := []

/-- The circuit a provider has, or the one `ensure` would create for it. -/
def circuitOf (breaker : Breaker) (providerId : String) : ProviderCircuit :=
  (breaker.circuits.lookup providerId).getD .fresh

def put (breaker : Breaker) (providerId : String) (c : ProviderCircuit) : Breaker :=
  { breaker with circuits := breaker.circuits.insert providerId c }

def remember (breaker : Breaker) (providerId : String) : Breaker :=
  { breaker with known := if providerId ∈ breaker.known then breaker.known
      else breaker.known ++ [providerId] }

def refresh (policy : CircuitBreakerPolicy) (now : ℤ) (breaker : Breaker) (providerId : String) :
    Breaker :=
  match breaker.circuits.lookup providerId with
  | none => breaker
  | some c => breaker.put providerId (c.maybeTransitionFromOpen policy now)

def getState (policy : CircuitBreakerPolicy) (now : ℤ) (breaker : Breaker) (providerId : String) :
    CircuitState × Breaker :=
  let refreshed := refresh policy now breaker providerId
  ((refreshed.circuitOf providerId).state, refreshed)

def canRequest (policy : CircuitBreakerPolicy) (now : ℤ) (breaker : Breaker)
    (providerId : String) : Bool × Breaker :=
  let refreshed := refresh policy now breaker providerId
  ((refreshed.circuitOf providerId).admits policy, refreshed)

/-- `execute` up to the await: `none` is the rejection `CircuitOpenError`, and
an admission returns the `probing` flag the continuation keeps. -/
def executeStart (policy : CircuitBreakerPolicy) (now : ℤ) (breaker : Breaker)
    (providerId : String) : Option Bool × Breaker :=
  let answer := canRequest policy now breaker providerId
  if answer.1 then
    let c := answer.2.circuitOf providerId
    let probing := c.state == .halfOpen
    (some probing, answer.2.put providerId (c.takeSlot probing))
  else (none, answer.2)

/-- `execute` after the await. -/
def executeFinish (policy : CircuitBreakerPolicy) (now : ℤ) (breaker : Breaker)
    (providerId : String) (probing succeeded : Bool) : Breaker :=
  (breaker.remember providerId).put providerId
    ((breaker.circuitOf providerId).settle policy now probing succeeded)

/-- One round of the loop in `listProviders`: the fields are those of the live
circuit after `getState` has refreshed it. -/
def snapshot (policy : CircuitBreakerPolicy) (now : ℤ) (breaker : Breaker) (providerId : String) :
    CircuitSnapshot × Breaker :=
  let (state, refreshed) := getState policy now breaker providerId
  let c := refreshed.circuitOf providerId
  let (canServe, after) := canRequest policy now refreshed providerId
  ({ providerId, state
     failures := if c.state = .halfOpen then 0 else c.failures
     lastFailureAt := c.lastFailureAt
     openedAt := c.openedAt
     canServe }, after)

def snapshots (policy : CircuitBreakerPolicy) (now : ℤ) :
    Breaker → List String → List CircuitSnapshot × Breaker
  | breaker, [] => ([], breaker)
  | breaker, providerId :: rest =>
      let (entry, after) := snapshot policy now breaker providerId
      let (out, last) := snapshots policy now after rest
      (entry :: out, last)

/-- The ids `listProviders` goes through: `known`, then what only the registry has. -/
def listedIds (breaker : Breaker) (registered : List String) : List String :=
  breaker.known ++ registered.filter fun providerId => providerId ∉ breaker.known

/-- `localeCompare` is the comparison of the runtime, here as "not after". -/
def listProviders (localeCompare : String → String → Bool) (policy : CircuitBreakerPolicy)
    (now : ℤ) (breaker : Breaker) (registered : List String) : List CircuitSnapshot × Breaker :=
  let (out, after) := snapshots policy now breaker (breaker.listedIds registered)
  (out.insertionSort fun a b => localeCompare a.providerId b.providerId, after)

variable (policy : CircuitBreakerPolicy) (now : ℤ) (breaker : Breaker)

@[simp] theorem circuitOf_initial (providerId : String) :
    initial.circuitOf providerId = .fresh := by
  simp [initial, circuitOf]

theorem circuitOf_put (providerId other : String) (c : ProviderCircuit) :
    (breaker.put providerId c).circuitOf other =
      if other = providerId then c else breaker.circuitOf other := by
  by_cases same : other = providerId
  · subst same
    simp [put, circuitOf]
  · simp [put, circuitOf, same, AList.lookup_insert_ne]

@[simp] theorem circuitOf_remember (providerId other : String) :
    (breaker.remember providerId).circuitOf other = breaker.circuitOf other := rfl

theorem circuitOf_refresh (providerId other : String) :
    (refresh policy now breaker providerId).circuitOf other =
      if other = providerId then (breaker.circuitOf providerId).maybeTransitionFromOpen policy now
      else breaker.circuitOf other := by
  unfold refresh
  cases found : breaker.circuits.lookup providerId with
  | none =>
      -- An unseen provider has nothing to refresh: the circuit it would get is closed.
      have absent : breaker.circuitOf providerId = .fresh := by simp [circuitOf, found]
      by_cases same : other = providerId
      · subst same
        rw [if_pos rfl, absent]
        rfl
      · simp [same]
  | some c =>
      have present : breaker.circuitOf providerId = c := by simp [circuitOf, found]
      simp only [circuitOf_put, present]

theorem circuitOf_executeStart (providerId other : String) :
    (executeStart policy now breaker providerId).2.circuitOf other =
      if other = providerId then
        let c := (breaker.circuitOf providerId).maybeTransitionFromOpen policy now
        if c.admits policy then c.takeSlot (c.state == .halfOpen) else c
      else breaker.circuitOf other := by
  unfold executeStart canRequest
  by_cases same : other = providerId
  · subst same
    simp only [circuitOf_refresh, ↓reduceIte]
    split <;> simp [circuitOf_put, circuitOf_refresh]
  · simp only [circuitOf_refresh, ↓reduceIte, same]
    split <;> simp [circuitOf_put, circuitOf_refresh, same]

theorem executeStart_admission (providerId : String) :
    (executeStart policy now breaker providerId).1 =
      let c := (breaker.circuitOf providerId).maybeTransitionFromOpen policy now
      if c.admits policy then some (c.state == .halfOpen) else none := by
  unfold executeStart canRequest
  simp only [circuitOf_refresh, ↓reduceIte]
  split <;> rfl

theorem circuitOf_executeFinish (providerId other : String) (probing succeeded : Bool) :
    (executeFinish policy now breaker providerId probing succeeded).circuitOf other =
      if other = providerId then (breaker.circuitOf providerId).settle policy now probing succeeded
      else breaker.circuitOf other := by
  simp [executeFinish, circuitOf_put]

theorem snapshot_breaker (providerId : String) :
    (snapshot policy now breaker providerId).2 =
      refresh policy now (refresh policy now breaker providerId) providerId := rfl

theorem circuitOf_snapshots (ids : List String) (other : String) :
    (snapshots policy now breaker ids).2.circuitOf other =
      if other ∈ ids then (breaker.circuitOf other).maybeTransitionFromOpen policy now
      else breaker.circuitOf other := by
  induction ids generalizing breaker with
  | nil => rfl
  | cons providerId rest ih =>
      have after := ih (snapshot policy now breaker providerId).2
      rw [snapshot_breaker] at after
      simp only [snapshots, snapshot_breaker, after, List.mem_cons]
      by_cases same : other = providerId
      · subst same
        simp only [circuitOf_refresh, ↓reduceIte, ProviderCircuit.refresh_idem, ite_self, true_or]
      · simp only [circuitOf_refresh, same, ↓reduceIte, false_or]

end Breaker

end LlmGateway.CircuitBreaker
