import LlmGateway.Resilience.CircuitBreaker
import LlmGateway.Routing.Route
import LlmGateway.Routing.Strategy

/-!
`RoutingService.route` with the breaker in it: every position of the order is
checked with `canRequest`, run through `execute`, and recorded. While the
executor of one position runs, other calls may do anything to the breaker.
-/

namespace LlmGateway.Routing.Service

open Providers CircuitBreaker

variable {Result : Type}

inductive Answer (Result : Type) where
  | returns (result : Result)
  | throws (error : Js.Thrown)
  /-- An error that is an instance of `CircuitOpenError`. -/
  | throwsCircuitOpen

/-- The clock readings of one round of the loop, in the order they are taken. -/
structure TryClock where
  started : ℤ
  checked : ℤ
  admitted : ℤ
  settled : ℤ
  done : ℤ

/-- What the executor, the clock and the other calls do in each round. -/
structure Surroundings (Result : Type) where
  executor : ℕ → ResolvedModel → Answer Result
  clock : ℕ → TryClock
  meanwhile : ℕ → Breaker → Breaker

structure Visit (Result : Type) where
  position : ℕ
  resolved : ResolvedModel
  clock : TryClock
  before : Breaker
  called : Bool
  trial : Trial Result
  after : Breaker

def Visit.attempt (visit : Visit Result) : RouteAttempt where
  providerId := visit.resolved.providerId
  upstreamModel := visit.resolved.upstreamModel
  durationMs := visit.clock.done - visit.clock.started
  failure := visit.trial.failure

structure RouteRun (Result : Type) where
  outcome : Except RouteError (RouteResult Result)
  visits : List (Visit Result)
  breaker : Breaker

/-- `RoutingService`: `strategyFor`, the rows of `getWeights`, and the cursor. -/
structure Router where
  strategyFor : String → RoutingStrategyKind
  weightRows : String → List (ℕ × ℤ)
  cursor : RoundRobinCursor

def Router.aliasWeightsFor (router : Router) (model : String) (chainLength : ℕ) :
    Option (List Js.Number) :=
  let rows := router.weightRows model
  if rows.isEmpty then none
  else some (rows.foldl (fun out (position, weight) =>
    if position < chainLength then out.set position (.finite weight) else out)
    (List.replicate chainLength (.finite 1)))

def Router.order (router : Router) (random : ℚ) (model : String) (chain : List ResolvedModel) :
    List ℕ :=
  pickOrder (router.strategyFor model) chain (router.cursor.next model chain.length).1
    (router.aliasWeightsFor model chain.length) random

def Router.advanced (router : Router) (model : String) (chain : List ResolvedModel) :
    RoundRobinCursor :=
  if advancesCursor (router.strategyFor model) chain then
    (router.cursor.next model chain.length).2
  else router.cursor

def trialOf : Answer Result → Trial Result
  | .returns result => .succeeded result
  | .throws error => .failed error
  | .throwsCircuitOpen => .refused

def Answer.succeeded : Answer Result → Bool
  | .returns _ => true
  | .throws _ => false
  | .throwsCircuitOpen => false

variable (policy : CircuitBreakerPolicy) (around : Surroundings Result) (model : String)

/-- The body of the loop; `tried` counts the rounds before it. -/
def tryPosition (tried position : ℕ) (resolved : ResolvedModel) (breaker : Breaker) :
    Visit Result :=
  let clock := around.clock tried
  let check := Breaker.canRequest policy clock.checked breaker resolved.providerId
  if check.1 then
    -- `execute` asks once more before it calls the executor.
    let entry := Breaker.executeStart policy clock.admitted check.2 resolved.providerId
    match entry.1 with
    | none =>
        { position, resolved, clock, before := breaker
          called := false, trial := .refused, after := entry.2 }
    | some probing =>
        let answer := around.executor tried resolved
        let awaited := around.meanwhile tried entry.2
        { position, resolved, clock, before := breaker
          called := true, trial := trialOf answer
          after := Breaker.executeFinish policy clock.settled awaited resolved.providerId probing
            answer.succeeded }
  else
    { position, resolved, clock, before := breaker
      called := false, trial := .skipped, after := check.2 }

def walkOrder (chain : List ResolvedModel) :
    List ℕ → List RouteAttempt → Breaker → RouteRun Result
  | [], attempts, breaker => ⟨.error (.routingFailed model attempts), [], breaker⟩
  | position :: rest, attempts, breaker =>
      match chain[position]? with
      -- No order of `pickOrder` leads here.
      | none =>
          ⟨.error (.resolve (.typeError
            "Cannot read properties of undefined (reading 'providerId')")), [], breaker⟩
      | some resolved =>
          let visit := tryPosition policy around attempts.length position resolved breaker
          let attempts := attempts ++ [visit.attempt]
          match visit.trial with
          | .succeeded result =>
              ⟨.ok { result, providerId := resolved.providerId, attempts }, [visit], visit.after⟩
          | _ =>
              let others := walkOrder chain rest attempts visit.after
              { others with visits := visit :: others.visits }

/-- `chain` is what `resolveChain` returned or threw. The second component is
the cursor the call leaves. -/
def route (router : Router) (random : ℚ) (breaker : Breaker)
    (chain : Except ResolveError (List ResolvedModel)) : RouteRun Result × RoundRobinCursor :=
  match chain with
  | .error error => (⟨.error (.resolve error), [], breaker⟩, router.cursor)
  | .ok [] => (⟨.error (.routingFailed model []), [], breaker⟩, router.cursor)
  | .ok chain =>
      (walkOrder policy around model chain (router.order random model chain) [] breaker,
        router.advanced model chain)

section Round

variable (tried position : ℕ) (resolved : ResolvedModel) (breaker : Breaker)

/-- A circuit that has just let a request pass lets `execute` pass too, at
whatever time it asks. -/
theorem executeStart_after_canRequest (first second : ℤ) (providerId : String)
    (allowed : (Breaker.canRequest policy first breaker providerId).1 = true) :
    (Breaker.executeStart policy second (Breaker.canRequest policy first breaker providerId).2
      providerId).1.isSome = true := by
  have check : ((Breaker.canRequest policy first breaker providerId).2.circuitOf
      providerId).admits policy = true := allowed
  have settled : ∀ c : ProviderCircuit, c.admits policy = true →
      c.maybeTransitionFromOpen policy second = c := by
    intro c admitted
    rcases ProviderCircuit.refresh_cases policy second c with same | ⟨opened, _⟩
    · exact same
    · simp [ProviderCircuit.admits, opened] at admitted
  rw [Breaker.executeStart_admission]
  simp only [settled _ check, check, ↓reduceIte, Option.isSome_some]

theorem tryPosition_cases :
    let visit := tryPosition policy around tried position resolved breaker
    let allowed := (Breaker.canRequest policy visit.clock.checked breaker resolved.providerId).1
    (allowed = true ∧ visit.called = true ∧ visit.trial = trialOf (around.executor tried resolved)) ∨
      (allowed = false ∧ visit.called = false ∧ visit.trial = .skipped) := by
  unfold tryPosition
  dsimp only
  split
  next allowed =>
    have enters := executeStart_after_canRequest policy breaker (around.clock tried).checked
      (around.clock tried).admitted resolved.providerId allowed
    split
    next refused => simp [refused] at enters
    next => exact Or.inl ⟨allowed, rfl, rfl⟩
  next refused => exact Or.inr ⟨by simpa using refused, rfl, rfl⟩

theorem tryPosition_frame :
    let visit := tryPosition policy around tried position resolved breaker
    visit.position = position ∧ visit.resolved = resolved ∧ visit.before = breaker := by
  unfold tryPosition
  dsimp only
  split
  · split <;> exact ⟨rfl, rfl, rfl⟩
  · exact ⟨rfl, rfl, rfl⟩

end Round

def Threaded : Breaker → List (Visit Result) → Breaker → Prop
  | start, [], last => last = start
  | start, visit :: rest, last => visit.before = start ∧ Threaded visit.after rest last

/-- What the loop does from any round on. -/
structure Walked (chain : List ResolvedModel) (order : List ℕ) (attempts : List RouteAttempt)
    (breaker : Breaker) (run : RouteRun Result) : Prop where
  positions : run.visits.map Visit.position <+: order
  rounds : ∀ index visit, run.visits[index]? = some visit →
    chain[visit.position]? = some visit.resolved ∧
      visit = tryPosition policy around (attempts.length + index) visit.position visit.resolved
        visit.before
  threaded : Threaded breaker run.visits run.breaker
  ending :
    (∃ earlier last result, run.visits = earlier ++ [last] ∧
      (∀ visit ∈ earlier, visit.trial.failure ≠ none) ∧ last.trial = .succeeded result ∧
      run.outcome = .ok ⟨result, last.resolved.providerId,
        attempts ++ run.visits.map Visit.attempt⟩) ∨
    (run.visits.map Visit.position = order ∧ (∀ visit ∈ run.visits, visit.trial.failure ≠ none) ∧
      run.outcome = .error (.routingFailed model (attempts ++ run.visits.map Visit.attempt)))

section Loop

variable (chain : List ResolvedModel)

theorem walked_success (tried position : ℕ) (rest : List ℕ) (attempts : List RouteAttempt)
    (breaker : Breaker) (resolved : ResolvedModel) (result : Result)
    (found : chain[position]? = some resolved) (length : attempts.length = tried)
    (succeeds : (tryPosition policy around tried position resolved breaker).trial =
      .succeeded result) :
    let visit := tryPosition policy around tried position resolved breaker
    Walked policy around model chain (position :: rest) attempts breaker
      ⟨.ok ⟨result, resolved.providerId, attempts ++ [visit.attempt]⟩, [visit], visit.after⟩ := by
  obtain ⟨here, named, start⟩ := tryPosition_frame policy around tried position resolved breaker
  constructor
  · simp [here]
  · intro index visit present
    cases index with
    | zero =>
        cases present
        rw [here, named, start, length]
        exact ⟨found, rfl⟩
    | succ later => simp at present
  · exact ⟨start, rfl⟩
  · refine Or.inl ⟨[], _, result, rfl, by simp, succeeds, ?_⟩
    simp [named]

theorem walked_failure (tried position : ℕ) (rest : List ℕ) (attempts : List RouteAttempt)
    (breaker : Breaker) (resolved : ResolvedModel) (others : RouteRun Result)
    (found : chain[position]? = some resolved) (length : attempts.length = tried)
    (fails : (tryPosition policy around tried position resolved breaker).trial.failure ≠ none)
    (tail : Walked policy around model chain rest
      (attempts ++ [(tryPosition policy around tried position resolved breaker).attempt])
      (tryPosition policy around tried position resolved breaker).after others) :
    Walked policy around model chain (position :: rest) attempts breaker
      { others with
        visits := tryPosition policy around tried position resolved breaker :: others.visits } := by
  obtain ⟨here, named, start⟩ := tryPosition_frame policy around tried position resolved breaker
  constructor
  · simpa [here] using tail.positions
  · intro index visit present
    cases index with
    | zero =>
        cases present
        rw [here, named, start, length]
        exact ⟨found, rfl⟩
    | succ later =>
        have round := tail.rounds later visit present
        rw [List.length_append, List.length_singleton] at round
        rwa [show attempts.length + (later + 1) = attempts.length + 1 + later by omega]
  · exact ⟨start, tail.threaded⟩
  · rcases tail.ending with ⟨earlier, last, result, visits, failing, succeeded, outcome⟩ |
      ⟨whole, failing, outcome⟩
    · refine Or.inl ⟨tryPosition policy around tried position resolved breaker :: earlier, last,
        result, by simp [visits], ?_, succeeded, ?_⟩
      · exact List.forall_mem_cons.mpr ⟨fails, failing⟩
      · simpa [List.append_assoc] using outcome
    · refine Or.inr ⟨by simp [here, whole], ?_, ?_⟩
      · exact List.forall_mem_cons.mpr ⟨fails, failing⟩
      · simpa [List.append_assoc] using outcome

theorem walkOrder_walked (order : List ℕ) (attempts : List RouteAttempt) (breaker : Breaker)
    (inside : ∀ position ∈ order, position < chain.length) :
    Walked policy around model chain order attempts breaker
      (walkOrder policy around model chain order attempts breaker) := by
  induction order generalizing attempts breaker with
  | nil =>
      constructor
      · exact List.prefix_rfl
      · intro index visit present
        cases present
      · rfl
      · exact Or.inr ⟨rfl, by simp [walkOrder], by simp [walkOrder]⟩
  | cons position rest ih =>
      have present : position < chain.length := inside position List.mem_cons_self
      have found : chain[position]? = some chain[position] := List.getElem?_eq_getElem present
      have others := fun tried start => ih tried start
        (fun later member => inside later (List.mem_cons_of_mem _ member))
      simp only [walkOrder, found]
      split
      next result succeeds =>
        exact walked_success policy around model chain _ position rest attempts breaker _ result
          found rfl succeeds
      next notSucceeded =>
        apply walked_failure policy around model chain _ position rest attempts breaker _ _ found rfl
        · intro clean
          obtain ⟨result, succeeds⟩ := Trial.failure_eq_none _ clean
          exact notSucceeded result succeeds
        · exact others _ _

end Loop

def Visit.Succeeded (visit : Visit Result) : Prop := visit.trial.failure = none

/-- The loop of `route` over one resolved chain. -/
structure RouteCorrect (chain : List ResolvedModel) (order : List ℕ) (breaker : Breaker)
    (run : RouteRun Result) : Prop where
  permutation : order.Perm (List.range chain.length)
  positions : run.visits.map Visit.position <+: order
  threaded : Threaded breaker run.visits run.breaker
  /-- Each round is at the model of its position, calls the executor exactly
  when the breaker lets it, and ends as the executor answers. -/
  rounds : ∀ (index : ℕ) (visit : Visit Result), run.visits[index]? = some visit →
    chain[visit.position]? = some visit.resolved ∧
      (visit.called = true ↔ (Breaker.canRequest policy visit.clock.checked visit.before
        visit.resolved.providerId).1 = true) ∧
      visit.trial = if visit.called then trialOf (around.executor index visit.resolved)
        else .skipped
  once : ((run.visits.filter Visit.called).map Visit.position).Nodup
  succeeds : ∀ r, run.outcome = .ok r → ∃ earlier last,
    run.visits = earlier ++ [last] ∧ (∀ visit ∈ earlier, ¬visit.Succeeded) ∧
      last.trial = .succeeded r.result ∧ r.providerId = last.resolved.providerId ∧
      r.attempts = run.visits.map Visit.attempt
  fails : ∀ error, run.outcome = .error error →
    error = .routingFailed model (run.visits.map Visit.attempt) ∧
      run.visits.map Visit.position = order ∧ run.visits.length = chain.length
  fails_iff : (∃ attempts, run.outcome = .error (.routingFailed model attempts)) ↔
    ∀ position < chain.length, ∃ visit ∈ run.visits,
      visit.position = position ∧ ¬visit.Succeeded

section Correct

variable (chain : List ResolvedModel) (order : List ℕ) (breaker : Breaker)
  (run : RouteRun Result)

theorem walked_rounds
    (walked : Walked policy around model chain order [] breaker run) (index : ℕ)
    (visit : Visit Result) (present : run.visits[index]? = some visit) :
    chain[visit.position]? = some visit.resolved ∧
      (visit.called = true ↔ (Breaker.canRequest policy visit.clock.checked visit.before
        visit.resolved.providerId).1 = true) ∧
      visit.trial = if visit.called then trialOf (around.executor index visit.resolved)
        else .skipped := by
  obtain ⟨found, made⟩ := walked.rounds index visit present
  have round := tryPosition_cases policy around index visit.position visit.resolved visit.before
  rw [List.length_nil, Nat.zero_add] at made
  rw [← made] at round
  refine ⟨found, ?_, ?_⟩
  · rcases round with ⟨allowed, called, _⟩ | ⟨refused, uncalled, _⟩
    · simp [allowed, called]
    · simp [refused, uncalled]
  · rcases round with ⟨_, called, answered⟩ | ⟨_, uncalled, skipped⟩
    · simp [called, answered]
    · simp [uncalled, skipped]

theorem walked_fails_iff (permutation : order.Perm (List.range chain.length))
    (walked : Walked policy around model chain order [] breaker run) :
    (∃ attempts, run.outcome = .error (.routingFailed model attempts)) ↔
      ∀ position < chain.length, ∃ visit ∈ run.visits,
        visit.position = position ∧ ¬visit.Succeeded := by
  have distinct : order.Nodup := permutation.nodup_iff.mpr List.nodup_range
  rcases walked.ending with ⟨earlier, last, result, visits, _, succeeded, outcome⟩ |
    ⟨whole, failing, outcome⟩
  · -- The last position was visited once, and that visit succeeded.
    rw [outcome]
    constructor
    · rintro ⟨_, same⟩
      cases same
    · intro failing
      have once : (run.visits.map Visit.position).Nodup :=
        distinct.sublist walked.positions.sublist
      have member : last ∈ run.visits := by simp [visits]
      have inside : last.position < chain.length := by
        have listed := walked.positions.subset (List.mem_map_of_mem member)
        exact List.mem_range.mp (permutation.subset listed)
      obtain ⟨visit, visited, same, failed⟩ := failing last.position inside
      have equal : visit = last := List.inj_on_of_nodup_map once visited member same
      subst equal
      have clean : visit.trial.failure = none := by
        rw [succeeded]
        rfl
      exact absurd clean failed
  · constructor
    · intro _ position inside
      have listed : position ∈ run.visits.map Visit.position := by
        rw [whole]
        exact permutation.symm.subset (List.mem_range.mpr inside)
      obtain ⟨visit, member, here⟩ := List.mem_map.mp listed
      exact ⟨visit, member, here, failing visit member⟩
    · intro _
      exact ⟨_, outcome⟩

theorem walked_correct (permutation : order.Perm (List.range chain.length))
    (walked : Walked policy around model chain order [] breaker run) :
    RouteCorrect policy around model chain order breaker run where
  permutation := permutation
  positions := walked.positions
  threaded := walked.threaded
  rounds := walked_rounds policy around model chain order breaker run walked
  once := by
    have distinct : order.Nodup := permutation.nodup_iff.mpr List.nodup_range
    have visited : (run.visits.map Visit.position).Nodup :=
      distinct.sublist walked.positions.sublist
    exact visited.sublist (List.filter_sublist.map Visit.position)
  succeeds := by
    intro r succeeds
    rcases walked.ending with ⟨earlier, last, result, visits, failing, succeeded, outcome⟩ |
      ⟨_, _, outcome⟩
    · rw [outcome] at succeeds
      cases succeeds
      exact ⟨earlier, last, visits, failing, succeeded, rfl, List.nil_append _⟩
    · rw [outcome] at succeeds
      cases succeeds
  fails := by
    intro error fails
    rcases walked.ending with ⟨_, _, _, _, _, _, outcome⟩ | ⟨whole, _, outcome⟩
    · rw [outcome] at fails
      cases fails
    · rw [outcome] at fails
      cases fails
      refine ⟨by rw [List.nil_append], whole, ?_⟩
      have lengths := congrArg List.length whole
      rw [List.length_map, permutation.length_eq, List.length_range] at lengths
      exact lengths
  fails_iff := walked_fails_iff policy around model chain order breaker run permutation walked

end Correct

/-- The walk over `order` in which each try ends as the loop's round did. -/
def walkOf (order : List ℕ) (run : RouteRun Result) : Walk Result where
  order := order
  trial := fun tried _ => (run.visits[tried]?).elim .skipped Visit.trial
  durationMs := fun tried =>
    (run.visits[tried]?).elim 0 fun visit => visit.clock.done - visit.clock.started

theorem walkChain_of_rounds (chain : List ResolvedModel) (walk : Walk Result) (order : List ℕ)
    (attempts : List RouteAttempt) (breaker : Breaker)
    (inside : ∀ position ∈ order, position < chain.length)
    (agree : ∀ index visit,
      (walkOrder policy around model chain order attempts breaker).visits[index]? = some visit →
      walk.trial (attempts.length + index) visit.resolved = visit.trial ∧
        walk.durationMs (attempts.length + index) = visit.clock.done - visit.clock.started) :
    (walkChain walk model (order.filterMap fun position => chain[position]?) attempts).1 =
      (walkOrder policy around model chain order attempts breaker).outcome := by
  induction order generalizing attempts breaker with
  | nil => rfl
  | cons position rest ih =>
      obtain ⟨resolved, found⟩ : ∃ resolved, chain[position]? = some resolved :=
        ⟨_, List.getElem?_eq_getElem (inside position (by simp))⟩
      have later : ∀ next ∈ rest, next < chain.length := fun next member =>
        inside next (List.mem_cons_of_mem _ member)
      obtain ⟨_, named, _⟩ := tryPosition_frame policy around attempts.length position resolved
        breaker
      simp only [walkOrder, found, List.filterMap_cons_some found] at agree ⊢
      split at agree
      next result succeeds =>
        obtain ⟨sameTrial, sameDuration⟩ := agree 0 _ rfl
        rw [Nat.add_zero, named, succeeds] at sameTrial
        rw [Nat.add_zero] at sameDuration
        simp only [walkChain, sameTrial, succeeds, attemptOf, sameDuration, Visit.attempt, named,
          Trial.failure]
      next notSucceeded =>
        obtain ⟨sameTrial, sameDuration⟩ := agree 0 _ rfl
        rw [Nat.add_zero, named] at sameTrial
        rw [Nat.add_zero] at sameDuration
        have entry : attemptOf walk resolved attempts.length =
            (tryPosition policy around attempts.length position resolved breaker).attempt := by
          simp only [attemptOf, sameTrial, sameDuration, Visit.attempt, named]
        rw [← ih _ _ later]
        · simp only [walkChain, sameTrial, entry]
        · intro index visit present
          have next := agree (index + 1) visit (by simpa using present)
          rw [List.length_append, List.length_singleton]
          rwa [show attempts.length + 1 + index = attempts.length + (index + 1) by omega]

/-- The early return for an empty chain is what the loop would do as well. -/
theorem route_eq_walkOrder (router : Router) (random : ℚ) (breaker : Breaker)
    (chain : List ResolvedModel) :
    (route policy around model router random breaker (.ok chain)).1 =
      walkOrder policy around model chain (router.order random model chain) [] breaker := by
  cases chain with
  | nil => simp [route, Router.order, pickOrder, walkOrder]
  | cons first rest => rfl

theorem route_is_walk (router : Router) (random : ℚ) (breaker : Breaker)
    (chain : List ResolvedModel) :
    let run := (route policy around model router random breaker (.ok chain)).1
    (Routing.route (walkOf (router.order random model chain) run) model (.ok chain)).1 =
      run.outcome := by
  have permutation := pickOrder_perm (router.strategyFor model) chain
    (router.cursor.next model chain.length).1 (router.aliasWeightsFor model chain.length) random
  have inside : ∀ position ∈ router.order random model chain, position < chain.length :=
    fun position member => List.mem_range.mp (permutation.subset member)
  simp only [route_eq_walkOrder]
  apply walkChain_of_rounds policy around model chain _ _ [] breaker inside
  intro index visit present
  simp [walkOf, present]

end LlmGateway.Routing.Service
