import LlmGateway.Chat.Attribution
import LlmGateway.Chat.Ledger

/-!
Agreement of the request counters with the request log. A counter moves once
for each served request; the aggregation counts every row of a pair, also the
rows of refused and failed requests and of failed attempts.
-/

namespace LlmGateway.Chat

open Observability Providers Quota Routing Runs

def RouteFails (call : Call) (walk : Walk CompletionResult) : Prop :=
  ∀ chain, call.chain = .ok chain → walk.AllFail chain

def FallsBack (call : Call) (walk : Walk CompletionResult) : Prop :=
  ∃ chain, call.chain = .ok chain ∧ ¬ walk.AllFail chain ∧ ¬ walk.FirstSucceeds chain

theorem routeFails_of_error (call : Call) (walk : Walk CompletionResult) (error : RouteError)
    (fails : routedBy call walk = .error error) : RouteFails call walk := by
  intro chain resolved
  rw [routedBy, resolved] at fails
  exact allFail_of_error walk call.target chain error fails

theorem fallsBack_iff (call : Call) (walk : Walk CompletionResult)
    (r : RouteResult CompletionResult) (routed : routedBy call walk = .ok r) :
    ¬ RouteFails call walk ∧
      (FallsBack call walk ↔ ∃ attempt ∈ r.attempts, attempt.failure ≠ none) := by
  cases resolved : call.chain with
  | error error =>
      rw [routedBy, resolved] at routed
      cases routed
  | ok chain =>
      rw [routedBy, resolved] at routed
      have answered := not_allFail_of_ok walk call.target chain r routed
      refine ⟨fun fails => answered (fails chain resolved), ?_⟩
      unfold FallsBack
      rw [resolved]
      simp only [Except.ok.injEq, exists_eq_left']
      rw [and_iff_right answered, ← attempts_clean_iff walk call.target chain r routed]
      push Not
      rfl

namespace Gateway

/-- The counters of every metered pair equal the attributed rows, for every month. -/
def RequestsAgree (gateway : Gateway) : Prop :=
  ∀ pair, Metered gateway.world.quotas pair → ∀ month,
    gateway.world.quotas.requestsOf pair.1 pair.2 (keyOf month) =
      attributedRequests gateway.world.requestLogs (monthWindow month) pair

def servedCount (pair : QuotaKey) (month : ℤ) (gateway : Gateway) (event : Event) : ℕ :=
  weigh pair month (fun _ => 1) (gateway.served event)

/-- At every point of the run, the counter of a metered pair is the number of
rows the aggregation counts, and that is the number of requests served. -/
def RequestsReconciled (start : Gateway) (events : List Event) : Prop :=
  ∀ before, before <+: events → ∀ pair, Metered start.world.quotas pair → ∀ month,
    let reached := run step start before
    reached.world.quotas.requestsOf pair.1 pair.2 (keyOf month) =
        attributedRequests reached.world.requestLogs (monthWindow month) pair ∧
      attributedRequests reached.world.requestLogs (monthWindow month) pair =
        tally step (servedCount pair month) start before

/-- A request for an alias with a quota row is neither forbidden nor refused;
a route towards a target with a quota row does not fail; and a route of a
request for an alias with a quota row does not fall back. -/
def CountsOnlyServed (gateway : Gateway) : Event → Prop
  | .arrive request => ∀ clientId, request.clientId = some clientId →
      Metered gateway.world.quotas (clientId, request.body.model) →
      gateway.world.permits request = true ∧
        (gateway.world.quotas.BelowLimit (gateway.world.clock (gateway.world.readings + 1))
            clientId request.body.model ∨
          gateway.world.quotas.divertOf clientId request.body.model ≠ none)
  | .routed index walk => ∀ call, gateway.routing[index]? = some call → ∀ clientId,
      call.request.clientId = some clientId →
      (RouteFails call walk → ¬ Metered gateway.world.quotas (clientId, call.target)) ∧
        (FallsBack call walk →
          ¬ Metered gateway.world.quotas (clientId, call.request.body.model))
  | .consumed _ _ => True

section Steps

variable (gateway : Gateway)

/-- No row of what the step does not serve belongs to a metered pair. -/
def UnservedUnmetered (gateway : Gateway) (event : Event) : Prop :=
  ∀ label ∈ gateway.unserved event, ∀ clientId, label.clientKey = some clientId →
    ¬ Metered gateway.world.quotas (clientId, label.aliasKey)

theorem step_requests_iff (event : Event) (sound : gateway.world.faults = .none)
    (agree : gateway.RequestsAgree) :
    (gateway.step event).RequestsAgree ↔ gateway.UnservedUnmetered event := by
  have wrote := step_wrote gateway event sound
  have moved : ∀ pair, Metered gateway.world.quotas pair → ∀ month,
      ((gateway.step event).world.quotas.requestsOf pair.1 pair.2 (keyOf month) =
        attributedRequests (gateway.step event).world.requestLogs (monthWindow month) pair ↔
      (gateway.unserved event).countP (fun label => label.CountsFor pair month) = 0) := by
    intro pair metered month
    have start := agree pair metered month
    rw [attributedRequests_eq] at start ⊢
    -- Both sides move by the served request, the log also by what was not served.
    rw [wrote.requests pair month metered, wrote.count pair month, start]
    omega
  constructor
  · intro agrees label member clientId client metered
    have none := (moved (clientId, label.aliasKey) metered
      (utcMonth (label.requestedAt * 1000))).mp
        (agrees _ ((wrote.metered_iff _).mpr metered) _)
    rw [List.countP_eq_zero] at none
    exact none label member (decide_eq_true ⟨rfl, client, rfl⟩)
  · intro unmetered pair metered month
    have metered := (wrote.metered_iff pair).mp metered
    refine (moved pair metered month).mpr (List.countP_eq_zero.mpr fun label member counts => ?_)
    obtain ⟨_, client, named⟩ := of_decide_eq_true counts
    exact unmetered label member pair.1 client (by rw [named]; exact metered)

theorem unserved_arrive_iff (request : Request) :
    gateway.UnservedUnmetered (.arrive request) ↔ gateway.CountsOnlyServed (.arrive request) := by
  unfold UnservedUnmetered CountsOnlyServed unserved
  dsimp only
  constructor
  · intro unmetered clientId client metered
    cases permitted : gateway.world.permits request with
    | false =>
        rw [permitted] at unmetered
        exact absurd metered (unmetered _ (List.mem_singleton.mpr rfl) clientId client)
    | true =>
        refine ⟨rfl, ?_⟩
        by_contra refused
        push Not at refused
        obtain ⟨detail, gate, _⟩ := QuotaStore.resolveTarget_refuse gateway.world.quotas
          (gateway.world.clock (gateway.world.readings + 1)) clientId request.body.model
          refused.1 refused.2
        have decided : gateway.world.gate request = .error detail := by
          rw [World.gate, client, gate]
        simp only [permitted, decided] at unmetered
        exact unmetered _ (List.mem_singleton.mpr rfl) clientId client metered
  · intro served label member clientId client metered
    cases permitted : gateway.world.permits request with
    | false =>
        simp only [permitted, Bool.false_eq_true, ↓reduceIte, List.mem_singleton] at member
        subst member
        exact absurd ((served clientId client metered).1.symm.trans permitted) (by decide)
    | true =>
        cases decided : gateway.world.gate request with
        | ok target =>
            simp only [permitted, decided, ↓reduceIte] at member
            cases member
        | error detail =>
            simp only [permitted, decided, ↓reduceIte, List.mem_singleton] at member
            subst member
            change request.clientId = some clientId at client
            rw [World.gate, client] at decided
            rcases (served clientId client metered).2 with below | diverts
            · rw [QuotaStore.resolveTarget_below _ _ _ _ below] at decided
              cases decided
            · by_cases below : gateway.world.quotas.BelowLimit
                  (gateway.world.clock (gateway.world.readings + 1)) clientId request.body.model
              · rw [QuotaStore.resolveTarget_below _ _ _ _ below] at decided
                cases decided
              · obtain ⟨key, names⟩ := Option.ne_none_iff_exists'.mp diverts
                rw [QuotaStore.resolveTarget_divert _ _ _ _ key below names] at decided
                cases decided

theorem unserved_routed_iff (index : ℕ) (walk : Walk CompletionResult) :
    gateway.UnservedUnmetered (.routed index walk) ↔
      gateway.CountsOnlyServed (.routed index walk) := by
  unfold UnservedUnmetered CountsOnlyServed unserved
  cases found : gateway.routing[index]? with
  | none => simp [found]
  | some call =>
      simp only [found, Option.elim_some, Option.some.injEq, forall_eq']
      cases routed : routedBy call walk with
      | error error =>
          -- A failed route leaves one row, under the target; no attempt rows are written.
          have fails := routeFails_of_error call walk error routed
          have answered : ¬ FallsBack call walk := fun ⟨chain, resolved, answers, _⟩ =>
            answers (fails chain resolved)
          simp only [List.mem_singleton, forall_eq, fails, answered, forall_true_left,
            IsEmpty.forall_iff, and_true]
      | ok r =>
          obtain ⟨answers, falls⟩ := fallsBack_iff call walk r routed
          simp only [answers, falls, IsEmpty.forall_iff, true_and, List.mem_map, List.mem_filter,
            Option.isSome_iff_ne_none]
          constructor
          · rintro unmetered clientId client ⟨attempt, member, failed⟩
            exact unmetered _ ⟨attempt, ⟨member, failed⟩, rfl⟩ clientId client
          · rintro unmetered label ⟨attempt, ⟨member, failed⟩, rfl⟩ clientId client
            exact unmetered clientId client ⟨attempt, member, failed⟩

theorem unservedUnmetered_iff (event : Event) :
    gateway.UnservedUnmetered event ↔ gateway.CountsOnlyServed event := by
  cases event with
  | arrive request => exact unserved_arrive_iff gateway request
  | routed index walk => exact unserved_routed_iff gateway index walk
  | consumed index calls =>
      exact iff_of_true (fun label member => absurd member List.not_mem_nil) trivial

end Steps

section Runs

variable (world : World) (pair : QuotaKey) (events : List Event)

theorem run_metered_iff (start : Gateway) (sound : start.world.faults = .none) :
    Metered (run step start events).world.quotas pair ↔ Metered start.world.quotas pair := by
  induction events generalizing start with
  | nil => rfl
  | cons event rest ih =>
      exact (ih _ (step_sound start event sound)).trans
        ((step_wrote start event sound).metered_iff pair)

theorem run_requests (metered : Metered (freshGateway world).world.quotas pair) (month : ℤ) :
    (run step (freshGateway world) events).world.quotas.requestsOf pair.1 pair.2 (keyOf month) =
      tally step (servedCount pair month) (freshGateway world) events := by
  have moved := measure_run step
    (fun gateway => gateway.world.faults = .none ∧ Metered gateway.world.quotas pair)
    (fun gateway => gateway.world.quotas.requestsOf pair.1 pair.2 (keyOf month))
    (servedCount pair month)
    (fun gateway event base => ⟨step_sound gateway event base.1,
      ((step_wrote gateway event base.1).metered_iff pair).mpr base.2⟩)
    (fun gateway event base => (step_wrote gateway event base.1).requests pair month base.2)
    (freshGateway world) events ⟨rfl, metered⟩
  rw [moved, fresh_requests, zero_add]

theorem fresh_requestsAgree : (freshGateway world).RequestsAgree := by
  intro pair _ month
  rw [fresh_requests, attributedRequests_eq]
  rfl

end Runs

/-- Counters, aggregation and served requests agree along a run exactly while
what is not served concerns no pair with a quota row. -/
theorem requests_reconciled_iff (world : World) (events : List Event) :
    RequestsReconciled (freshGateway world) events ↔
      Guarded step CountsOnlyServed (freshGateway world) events := by
  have agrees : Always step RequestsAgree (freshGateway world) events ↔
      Guarded step CountsOnlyServed (freshGateway world) events := by
    refine always_iff_guarded step (fun gateway => gateway.world.faults = .none) _ _ step_sound ?_
      _ events rfl (fresh_requestsAgree world)
    intro gateway event sound agree
    rw [← unservedUnmetered_iff, step_requests_iff gateway event sound agree]
  rw [← agrees, always_iff]
  constructor
  · intro reconciled before isPrefix pair metered month
    have start := (run_metered_iff pair before (freshGateway world) rfl).mp metered
    exact (reconciled before isPrefix pair start month).1
  · intro agree before isPrefix pair metered month
    have same := agree before isPrefix pair
      ((run_metered_iff pair before (freshGateway world) rfl).mpr metered) month
    exact ⟨same, same.symm.trans (run_requests world pair before metered month)⟩

section Example

/-- A failed request stands in the log of `codex` and in no counter. -/
theorem failed_request_is_counted :
    ¬ ∀ (world : World) (events : List Event),
      RequestsReconciled (freshGateway world) events := by
  intro claimed
  have reconciled := claimed { exampleWorld with quotas := QuotaStore.meteredStore }
    [.arrive exampleRequest, .routed 0 failing] _ List.prefix_rfl
    (QuotaStore.exampleClient, "codex") (by decide +kernel) 23640
  exact absurd reconciled.1 (by decide +kernel)

end Example

end Gateway

end LlmGateway.Chat
