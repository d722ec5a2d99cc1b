import LlmGateway.Lib.JsValue
import LlmGateway.Providers.Registry

/-!
`RoutingService.route`: the walk over a resolved chain until one provider
answers. The order of the positions is what `pickOrder` returned; what the
breaker and the executor answer at each try is given from outside.
-/

namespace LlmGateway.Routing

open Providers

structure AttemptFailure where
  circuitOpen : Bool
  error : Option Js.Thrown
  deriving DecidableEq, Repr

/-- `RouteAttempt`; `ok` is the absence of a failure. -/
structure RouteAttempt where
  providerId : String
  upstreamModel : Option String
  durationMs : ℤ
  failure : Option AttemptFailure
  deriving DecidableEq, Repr

/-- One try of the loop: `canRequest` said no, `execute` rejected with
`CircuitOpenError`, the executor threw, or it returned. -/
inductive Trial (Result : Type) where
  | skipped
  | refused
  | failed (error : Js.Thrown)
  | succeeded (result : Result)

variable {Result : Type}

def Trial.failure : Trial Result → Option AttemptFailure
  | .skipped => some { circuitOpen := true, error := none }
  | .refused => some { circuitOpen := true, error := none }
  | .failed error => some { circuitOpen := false, error := some error }
  | .succeeded _ => none

theorem Trial.failure_eq_none (trial : Trial Result) (succeeded : trial.failure = none) :
    ∃ result, trial = .succeeded result := by
  cases trial with
  | skipped => cases succeeded
  | refused => cases succeeded
  | failed error => cases succeeded
  | succeeded result => exact ⟨result, rfl⟩

def Trial.calls : Trial Result → Bool
  | .skipped => false
  | .refused => false
  | .failed _ => true
  | .succeeded _ => true

structure RouteResult (Result : Type) where
  result : Result
  providerId : String
  attempts : List RouteAttempt
  deriving DecidableEq

inductive RouteError where
  | resolve (error : ResolveError)
  /-- `RoutingFailedError`. -/
  | routingFailed (requestedModel : String) (attempts : List RouteAttempt)
  deriving DecidableEq, Repr

/-- What the providers and the clock do to one call of `route`. -/
structure Walk (Result : Type) where
  order : List ℕ
  trial : ℕ → ResolvedModel → Trial Result
  durationMs : ℕ → ℤ

def attemptOf (walk : Walk Result) (resolved : ResolvedModel) (tried : ℕ) : RouteAttempt where
  providerId := resolved.providerId
  upstreamModel := resolved.upstreamModel
  durationMs := walk.durationMs tried
  failure := (walk.trial tried resolved).failure

/-- The loop over the chosen order. Besides the outcome it returns the models
whose provider was called. -/
def walkChain (walk : Walk Result) (model : String) :
    List ResolvedModel → List RouteAttempt → Except RouteError (RouteResult Result) × List ResolvedModel
  | [], attempts => (.error (.routingFailed model attempts), [])
  | resolved :: rest, attempts =>
      let tried := attempts.length
      let attempts := attempts ++ [attemptOf walk resolved tried]
      match walk.trial tried resolved with
      | .succeeded result =>
          (.ok { result, providerId := resolved.providerId, attempts }, [resolved])
      | trial =>
          let others := walkChain walk model rest attempts
          (others.1, if trial.calls then resolved :: others.2 else others.2)

def Walk.path (walk : Walk Result) (chain : List ResolvedModel) : List ResolvedModel :=
  walk.order.filterMap fun position => chain[position]?

def route (walk : Walk Result) (model : String)
    (chain : Except ResolveError (List ResolvedModel)) :
    Except RouteError (RouteResult Result) × List ResolvedModel :=
  match chain with
  | .error error => (.error (.resolve error), [])
  | .ok chain => walkChain walk model (walk.path chain) []

def Walk.FirstSucceeds (walk : Walk Result) (chain : List ResolvedModel) : Prop :=
  ∃ resolved, (walk.path chain).head? = some resolved ∧ (walk.trial 0 resolved).failure = none

def Walk.AllFail (walk : Walk Result) (chain : List ResolvedModel) : Prop :=
  ∀ tried resolved, (walk.path chain)[tried]? = some resolved →
    (walk.trial tried resolved).failure ≠ none

section Attempts

variable (walk : Walk Result) (model : String)

theorem walkChain_cons (first : ResolvedModel) (rest : List ResolvedModel)
    (attempts : List RouteAttempt) :
    (∃ result, walk.trial attempts.length first = .succeeded result ∧
      (walkChain walk model (first :: rest) attempts).1 = .ok
        { result, providerId := first.providerId
          attempts := attempts ++ [attemptOf walk first attempts.length] }) ∨
    (walk.trial attempts.length first).failure ≠ none ∧
      (walkChain walk model (first :: rest) attempts).1 =
        (walkChain walk model rest (attempts ++ [attemptOf walk first attempts.length])).1 := by
  cases trial : walk.trial attempts.length first with
  | succeeded result =>
      left
      exact ⟨result, rfl, by simp only [walkChain, trial]⟩
  | skipped | refused | failed error =>
      right
      exact ⟨Option.some_ne_none _, by simp only [walkChain, trial]⟩

theorem length_added (attempts : List RouteAttempt) (added : RouteAttempt) (index : ℕ) :
    (attempts ++ [added]).length + index = attempts.length + (index + 1) := by
  rw [List.length_append, List.length_singleton, Nat.add_assoc, Nat.add_comm 1]

theorem walkChain_failed (path : List ResolvedModel) (attempts : List RouteAttempt)
    (error : RouteError) (fails : (walkChain walk model path attempts).1 = .error error) :
    (∃ tried, error = .routingFailed model tried) ∧
      ∀ index resolved, path[index]? = some resolved →
        (walk.trial (attempts.length + index) resolved).failure ≠ none := by
  -- On the positions left; `attempts` counts the tries made before them.
  induction path generalizing attempts with
  | nil =>
      cases fails
      exact ⟨⟨attempts, rfl⟩, fun index resolved found => by cases found⟩
  | cons first rest ih =>
      rcases walkChain_cons walk model first rest attempts with
        ⟨result, _, ends⟩ | ⟨failed, continues⟩
      · cases ends.symm.trans fails
      · obtain ⟨named, failing⟩ := ih _ (continues.symm.trans fails)
        refine ⟨named, fun index resolved found => ?_⟩
        cases index with
        | zero =>
            cases found
            exact failed
        | succ later =>
            have tail := failing later resolved found
            rwa [length_added] at tail

theorem walkChain_ok (path : List ResolvedModel) (attempts : List RouteAttempt)
    (r : RouteResult Result) (succeeds : (walkChain walk model path attempts).1 = .ok r) :
    attempts <+: r.attempts ∧
      ∃ (tried : ℕ) (resolved : ResolvedModel), path[tried]? = some resolved ∧
        walk.trial (attempts.length + tried) resolved = .succeeded r.result ∧
        ∀ earlier < tried, ∀ other, path[earlier]? = some other →
          (walk.trial (attempts.length + earlier) other).failure ≠ none := by
  induction path generalizing attempts with
  | nil => cases succeeds
  | cons first rest ih =>
      rcases walkChain_cons walk model first rest attempts with
        ⟨result, answer, ends⟩ | ⟨failed, continues⟩
      · cases ends.symm.trans succeeds
        exact ⟨List.prefix_append _ _, 0, first, rfl, answer,
          fun earlier before => absurd before (Nat.not_lt_zero _)⟩
      · obtain ⟨kept, tried, resolved, found, answer, failing⟩ :=
          ih _ (continues.symm.trans succeeds)
        rw [length_added] at answer
        refine ⟨(List.prefix_append _ _).trans kept, tried + 1, resolved, found, answer, ?_⟩
        intro earlier before other position
        cases earlier with
        | zero =>
            cases position
            exact failed
        | succ earlier =>
            have tail := failing earlier (Nat.lt_of_succ_lt_succ before) other position
            rwa [length_added] at tail

theorem allFail_of_error (chain : List ResolvedModel) (error : RouteError)
    (fails : (route walk model (.ok chain)).1 = .error error) : walk.AllFail chain := by
  obtain ⟨_, failing⟩ := walkChain_failed walk model (walk.path chain) [] error fails
  intro tried resolved found
  have tail := failing tried resolved found
  rwa [List.length_nil, Nat.zero_add] at tail

theorem not_allFail_of_ok (chain : List ResolvedModel) (r : RouteResult Result)
    (succeeds : (route walk model (.ok chain)).1 = .ok r) : ¬walk.AllFail chain := by
  obtain ⟨_, index, resolved, found, answer, _⟩ :=
    walkChain_ok walk model (walk.path chain) [] r succeeds
  intro failing
  rw [List.length_nil, Nat.zero_add] at answer
  exact failing index resolved found (by rw [answer]; rfl)

theorem not_firstSucceeds_of_allFail (chain : List ResolvedModel)
    (failing : walk.AllFail chain) : ¬walk.FirstSucceeds chain := by
  rintro ⟨resolved, first, succeeded⟩
  rw [List.head?_eq_getElem?] at first
  exact failing 0 resolved first succeeded

theorem attempts_clean_iff (chain : List ResolvedModel) (r : RouteResult Result)
    (succeeds : (route walk model (.ok chain)).1 = .ok r) :
    (∀ attempt ∈ r.attempts, attempt.failure = none) ↔ walk.FirstSucceeds chain := by
  change (walkChain walk model (walk.path chain) []).1 = .ok r at succeeds
  unfold Walk.FirstSucceeds
  cases path : walk.path chain with
  | nil =>
      rw [path] at succeeds
      cases succeeds
  | cons first rest =>
      rw [path] at succeeds
      have listed : attemptOf walk first 0 ∈ r.attempts := by
        rcases walkChain_cons walk model first rest [] with ⟨result, _, ends⟩ | ⟨_, continues⟩
        · cases ends.symm.trans succeeds
          exact List.mem_singleton.mpr rfl
        · have kept := (walkChain_ok walk model rest _ r (continues.symm.trans succeeds)).1
          exact kept.subset (List.mem_singleton.mpr rfl)
      constructor
      · intro clean
        exact ⟨first, rfl, clean _ listed⟩
      -- A first try that succeeds ends the walk, so it is the only attempt.
      · rintro ⟨resolved, head, succeeded⟩ attempt member
        cases head
        obtain ⟨result, answer⟩ := Trial.failure_eq_none _ succeeded
        rw [walkChain, List.length_nil, answer] at succeeds
        cases succeeds
        cases List.mem_singleton.mp member
        exact succeeded

end Attempts

end LlmGateway.Routing
