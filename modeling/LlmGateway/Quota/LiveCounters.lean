import LlmGateway.Lib.Runs
import LlmGateway.Quota.Service

/-!
Runs of the live path: accounting calls, changes of the quota rows and gate
decisions in any order. A counter is compared with the history of the run, so
nothing but the calls it was charged by can have moved it.
-/

namespace LlmGateway.Quota

open Runs

namespace LiveCounters

inductive Event where
  | recordUsage (clientId : Option ClientId) (servedAlias : String) (tokens : Js.Number) (atMs : ℤ)
  | upsertQuota (clientId : ClientId) (aliasKey : String) (monthlyTokenLimit : ℤ)
      (divertAliasKey : Option String)
  | deleteQuota (clientId : ClientId) (aliasKey : String)
  | resolveTarget (clientId : Option ClientId) (requestedAlias : String) (nowMs : ℤ)

/-- A write that violates a CHECK constraint throws and leaves the store alone. -/
def step (store : QuotaStore) : Event → QuotaStore
  | .recordUsage clientId servedAlias tokens atMs =>
      store.recordUsage clientId servedAlias tokens atMs
  | .upsertQuota clientId aliasKey monthlyTokenLimit divertAliasKey =>
      (store.upsertQuota clientId aliasKey monthlyTokenLimit divertAliasKey).getD store
  | .deleteQuota clientId aliasKey => (store.deleteQuota clientId aliasKey).2
  | .resolveTarget _ _ _ => store

def unused (quotas : AList fun key : QuotaKey => ClientAliasQuota key.2) : QuotaStore where
  quotas := quotas
  usage := ∅

/-- The event accounts a request of the pair that started in the month, while
the pair has a quota row. -/
def Accounts (clientId : ClientId) (aliasKey : String) (month : ℤ) (store : QuotaStore) :
    Event → Prop
  | .recordUsage charged servedAlias _ atMs =>
      charged = some clientId ∧ servedAlias = aliasKey ∧ utcMonth atMs = month ∧
        (store.getQuota clientId aliasKey).isSome = true
  | _ => False

instance (clientId : ClientId) (aliasKey : String) (month : ℤ) (store : QuotaStore)
    (event : Event) : Decidable (Accounts clientId aliasKey month store event) :=
  match event with
  | .recordUsage _ _ _ _ => inferInstanceAs (Decidable (_ ∧ _ ∧ _ ∧ _))
  | .upsertQuota _ _ _ _ => inferInstanceAs (Decidable False)
  | .deleteQuota _ _ => inferInstanceAs (Decidable False)
  | .resolveTarget _ _ _ => inferInstanceAs (Decidable False)

/-- What an amount weighs in a counter: the whole tokens it holds. -/
def wholeTokens : Js.Number → ℕ
  | .finite value => ⌊value⌋₊
  | .nan => 0
  | .infinite _ => 0

def Event.tokens : Event → ℕ
  | .recordUsage _ _ tokens _ => wholeTokens tokens
  | _ => 0

def accountedTokens (clientId : ClientId) (aliasKey : String) (month : ℤ) (start : QuotaStore)
    (events : List Event) : ℚ :=
  tally step (fun store event =>
    if Accounts clientId aliasKey month store event then (event.tokens : ℚ) else 0) start events

def accountedRequests (clientId : ClientId) (aliasKey : String) (month : ℤ) (start : QuotaStore)
    (events : List Event) : ℕ :=
  tally step (fun store event => if Accounts clientId aliasKey month store event then 1 else 0)
    start events

section Counters

variable (clientId : ClientId) (aliasKey : String) (month : ℤ) (store : QuotaStore)

theorem normaliseTokens_eq (tokens : Js.Number) : normaliseTokens tokens = wholeTokens tokens := by
  cases tokens with
  | finite value =>
      rw [normaliseTokens, wholeTokens, Js.trunc]
      split_ifs with nonneg
      · exact Int.floor_toNat value
      · have negative : value ≤ 0 := le_of_not_ge nonneg
        rw [Nat.floor_of_nonpos negative, Int.toNat_eq_zero]
        exact Int.ceil_nonpos.mpr negative
  | nan => rfl
  | infinite negative => rfl

theorem charges_month_iff (charged : Option ClientId) (servedAlias : String) (tokens : Js.Number)
    (atMs : ℤ) :
    store.Charges charged servedAlias atMs clientId aliasKey (keyOf month) ↔
      Accounts clientId aliasKey month store (.recordUsage charged servedAlias tokens atMs) := by
  unfold QuotaStore.Charges Accounts
  rw [periodKey_eq, keyOf_injective.eq_iff]

theorem step_usage (event : Event)
    (quiet : ∀ charged servedAlias tokens atMs,
      event ≠ .recordUsage charged servedAlias tokens atMs) :
    (step store event).usage = store.usage := by
  cases event with
  | recordUsage charged servedAlias tokens atMs => exact absurd rfl (quiet _ _ _ _)
  | upsertQuota other otherAlias limit divert =>
      rw [step]
      cases written : store.upsertQuota other otherAlias limit divert with
      | none => rfl
      | some next => exact store.usage_upsertQuota other otherAlias limit divert next written
  | deleteQuota other otherAlias => rfl
  | resolveTarget other requested nowMs => rfl

theorem tokensOf_congr (left right : QuotaStore) (same : left.usage = right.usage) (key : String) :
    left.tokensOf clientId aliasKey key = right.tokensOf clientId aliasKey key := by
  unfold QuotaStore.tokensOf QuotaStore.getUsage
  rw [same]

theorem requestsOf_congr (left right : QuotaStore) (same : left.usage = right.usage)
    (key : String) :
    left.requestsOf clientId aliasKey key = right.requestsOf clientId aliasKey key := by
  unfold QuotaStore.requestsOf QuotaStore.getUsage
  rw [same]

theorem step_tokens (event : Event) :
    (step store event).tokensOf clientId aliasKey (keyOf month) =
      store.tokensOf clientId aliasKey (keyOf month) +
        if Accounts clientId aliasKey month store event then (event.tokens : ℚ) else 0 := by
  cases event with
  | recordUsage charged servedAlias tokens atMs =>
      simp only [step, QuotaStore.tokensOf_recordUsage,
        charges_month_iff clientId aliasKey month store charged servedAlias tokens atMs,
        normaliseTokens_eq, Event.tokens]
  | upsertQuota other otherAlias limit divert =>
      rw [tokensOf_congr _ _ _ _ (step_usage store _ (by simp))]
      simp [Accounts]
  | deleteQuota other otherAlias =>
      rw [tokensOf_congr _ _ _ _ (step_usage store _ (by simp))]
      simp [Accounts]
  | resolveTarget other requested nowMs => simp [step, Accounts]

theorem step_requests (event : Event) :
    (step store event).requestsOf clientId aliasKey (keyOf month) =
      store.requestsOf clientId aliasKey (keyOf month) +
        if Accounts clientId aliasKey month store event then 1 else 0 := by
  cases event with
  | recordUsage charged servedAlias tokens atMs =>
      simp only [step, QuotaStore.requestsOf_recordUsage,
        charges_month_iff clientId aliasKey month store charged servedAlias tokens atMs]
  | upsertQuota other otherAlias limit divert =>
      rw [requestsOf_congr _ _ _ _ (step_usage store _ (by simp))]
      simp [Accounts]
  | deleteQuota other otherAlias =>
      rw [requestsOf_congr _ _ _ _ (step_usage store _ (by simp))]
      simp [Accounts]
  | resolveTarget other requested nowMs => simp [step, Accounts]

variable (quotas : AList fun key : QuotaKey => ClientAliasQuota key.2)

theorem run_tokens (events : List Event) :
    (run step (unused quotas) events).tokensOf clientId aliasKey (keyOf month) =
      accountedTokens clientId aliasKey month (unused quotas) events := by
  have moved := measure_run step (fun _ => True)
    (fun store => store.tokensOf clientId aliasKey (keyOf month)) _ (fun _ _ _ => trivial)
    (fun store event _ => step_tokens clientId aliasKey month store event) (unused quotas) events
    trivial
  have fresh : (unused quotas).tokensOf clientId aliasKey (keyOf month) = 0 := by
    simp [unused, QuotaStore.tokensOf, QuotaStore.getUsage]
  rw [moved, fresh, zero_add]
  rfl

theorem run_requests (events : List Event) :
    (run step (unused quotas) events).requestsOf clientId aliasKey (keyOf month) =
      accountedRequests clientId aliasKey month (unused quotas) events := by
  have moved := measure_run step (fun _ => True)
    (fun store => store.requestsOf clientId aliasKey (keyOf month)) _ (fun _ _ _ => trivial)
    (fun store event _ => step_requests clientId aliasKey month store event) (unused quotas) events
    trivial
  have fresh : (unused quotas).requestsOf clientId aliasKey (keyOf month) = 0 := by
    simp [unused, QuotaStore.requestsOf, QuotaStore.getUsage]
  rw [moved, fresh, zero_add]
  rfl

def MonthKeyed (store : QuotaStore) : Prop :=
  ∀ clientId aliasKey key, (store.getUsage clientId aliasKey key).isSome = true →
    ∃ month, key = keyOf month

theorem addUsage_monthKeyed (tokens : ℕ) (keyed : MonthKeyed store) :
    MonthKeyed (store.addUsage clientId aliasKey (keyOf month) tokens) := by
  intro other otherAlias key stored
  by_cases same : (other, otherAlias, key) = (clientId, aliasKey, keyOf month)
  · simp only [Prod.mk.injEq] at same
    exact ⟨month, same.2.2⟩
  · rw [store.getUsage_addUsage_other _ _ _ _ _ _ _ same] at stored
    exact keyed other otherAlias key stored

theorem step_monthKeyed (event : Event) (keyed : MonthKeyed store) :
    MonthKeyed (step store event) := by
  cases event with
  | recordUsage charged servedAlias tokens atMs =>
      rcases store.recordUsage_cases servedAlias tokens atMs charged with
        ⟨unchanged, _⟩ | ⟨payer, added, _⟩
      · rw [step, unchanged]
        exact keyed
      · rw [step, added]
        exact addUsage_monthKeyed payer servedAlias (utcMonth atMs) store _ keyed
  | upsertQuota other otherAlias limit divert =>
      unfold MonthKeyed QuotaStore.getUsage
      rw [step_usage store _ (by simp)]
      exact keyed
  | deleteQuota other otherAlias => exact keyed
  | resolveTarget other requested nowMs => exact keyed

theorem run_monthKeyed (events : List Event) :
    MonthKeyed (run step (unused quotas) events) :=
  run_invariant step MonthKeyed (fun store event => step_monthKeyed store event) _ events
    (fun clientId aliasKey key stored => by simp [unused, QuotaStore.getUsage] at stored)

theorem stored_counter (events : List Event) (key : String) (usage : ClientAliasUsage)
    (stored : (run step (unused quotas) events).getUsage clientId aliasKey key = some usage) :
    ∃ month, key = keyOf month ∧
      usage.tokens = accountedTokens clientId aliasKey month (unused quotas) events ∧
      usage.requests = accountedRequests clientId aliasKey month (unused quotas) events := by
  -- A stored key is the text of a month, which names the month uniquely.
  obtain ⟨month, rfl⟩ :=
    run_monthKeyed quotas events clientId aliasKey key (by rw [stored]; rfl)
  refine ⟨month, rfl, ?_, ?_⟩
  · rw [← run_tokens, QuotaStore.tokensOf, stored]
  · rw [← run_requests, QuotaStore.requestsOf, stored]

end Counters

section Limits

def Rewrites (clientId : ClientId) (aliasKey : String) : Event → Prop
  | .upsertQuota other otherAlias _ _ => (other, otherAlias) = (clientId, aliasKey)
  | .deleteQuota other otherAlias => (other, otherAlias) = (clientId, aliasKey)
  | .recordUsage _ _ _ _ => False
  | .resolveTarget _ _ _ => False

variable (clientId : ClientId) (aliasKey : String) (store : QuotaStore)

theorem step_getQuota (event : Event) (untouched : ¬ Rewrites clientId aliasKey event) :
    (step store event).getQuota clientId aliasKey = store.getQuota clientId aliasKey := by
  cases event with
  | recordUsage charged servedAlias tokens atMs =>
      exact store.getQuota_recordUsage clientId servedAlias aliasKey tokens atMs charged
  | upsertQuota other otherAlias limit divert =>
      rw [step]
      cases written : store.upsertQuota other otherAlias limit divert with
      | none => rfl
      | some next =>
          exact store.getQuota_upsertQuota_other other clientId otherAlias aliasKey limit divert
            next written (Ne.symm untouched)
  | deleteQuota other otherAlias =>
      exact store.getQuota_deleteQuota_other other clientId otherAlias aliasKey (Ne.symm untouched)
  | resolveTarget other requested nowMs => rfl

theorem run_getQuota (events : List Event)
    (untouched : ∀ event ∈ events, ¬ Rewrites clientId aliasKey event) :
    (run step store events).getQuota clientId aliasKey = store.getQuota clientId aliasKey := by
  induction events generalizing store with
  | nil => rfl
  | cons event rest ih =>
      rw [run, ih (step store event) fun other member =>
        untouched other (List.mem_cons_of_mem _ member)]
      exact step_getQuota clientId aliasKey store event (untouched event List.mem_cons_self)

theorem step_upsert_limit (limit : ℤ) (divert : Option String) (positive : 0 < limit)
    (proper : divert ≠ some aliasKey) :
    ∃ quota, (step store (.upsertQuota clientId aliasKey limit divert)).getQuota clientId aliasKey =
      some quota ∧ quota.monthlyTokenLimit = limit := by
  have accepted : ∃ written, store.upsertQuota clientId aliasKey limit divert = some written := by
    simp [QuotaStore.upsertQuota, positive, proper]
  obtain ⟨written, accepted⟩ := accepted
  obtain ⟨quota, found, same, _⟩ :=
    store.getQuota_upsertQuota clientId aliasKey limit divert written accepted
  exact ⟨quota, by rw [step, accepted]; exact found, same⟩

end Limits

/-- The live counters of any run are exactly what the run accounted, a diverted
request does not move the counter of the alias it asked for, and a limit
decides the next request against the counter of the month. -/
theorem live_counters_exact (quotas : AList fun key : QuotaKey => ClientAliasQuota key.2)
    (events : List Event) :
    (∀ clientId aliasKey key usage,
      (run step (unused quotas) events).getUsage clientId aliasKey key = some usage →
      ∃ month, key = keyOf month ∧
        usage.tokens = accountedTokens clientId aliasKey month (unused quotas) events ∧
        usage.requests = accountedRequests clientId aliasKey month (unused quotas) events) ∧
    (∀ clientId requestedAlias servedAlias nowMs tokens atMs key,
      let reached := run step (unused quotas) events
      reached.resolveTarget nowMs (some clientId) requestedAlias = .ok servedAlias →
      servedAlias ≠ requestedAlias →
      (reached.recordUsage (some clientId) servedAlias tokens atMs).getUsage clientId
        requestedAlias key = reached.getUsage clientId requestedAlias key) ∧
    (∀ clientId aliasKey limit divert later nowMs, 0 < limit → divert ≠ some aliasKey →
      (∀ event ∈ later, ¬ Rewrites clientId aliasKey event) →
      let all := events ++ .upsertQuota clientId aliasKey limit divert :: later
      ((run step (unused quotas) all).resolveTarget nowMs (some clientId) aliasKey =
          .ok aliasKey ↔
        accountedTokens clientId aliasKey (utcMonth nowMs) (unused quotas) all < limit)) := by
  refine ⟨?_, ?_, ?_⟩
  · intro clientId aliasKey key usage stored
    exact stored_counter clientId aliasKey quotas events key usage stored
  · intro clientId requestedAlias servedAlias nowMs tokens atMs key reached _ diverted
    rcases reached.recordUsage_cases servedAlias tokens atMs (some clientId) with
      ⟨unchanged, _⟩ | ⟨payer, added, _⟩
    · rw [unchanged]
    · rw [added]
      -- The charge goes to the counter of the served alias, which is another key.
      apply QuotaStore.getUsage_addUsage_other
      intro same
      simp only [Prod.mk.injEq] at same
      exact diverted same.2.1.symm
  · intro clientId aliasKey limit divert later nowMs positive proper untouched all
    obtain ⟨quota, found, same⟩ := step_upsert_limit clientId aliasKey
      (run step (unused quotas) events) limit divert positive proper
    have row : (run step (unused quotas) all).getQuota clientId aliasKey = some quota := by
      rw [run_append, run, run_getQuota clientId aliasKey _ later untouched]
      exact found
    -- The row of the upsert is still the one the gate reads.
    rw [QuotaStore.resolveTarget_serves_requested_iff, ← run_tokens, ← same, ← periodKey_eq]
    constructor
    · intro below
      exact below quota row
    · intro below other otherRow
      rw [row] at otherRow
      cases otherRow
      exact below

section Example

open QuotaStore (exampleClient)

/-- A fraction, a negative amount, no number at all and both infinities, behind a quota row. -/
def oddAmounts : List Event :=
  [.upsertQuota exampleClient "codex" 10 none,
    .recordUsage (some exampleClient) "codex" (.finite (29 / 4)) 0,
    .recordUsage (some exampleClient) "codex" (.finite (-5 / 2)) 1,
    .recordUsage (some exampleClient) "codex" .nan 2,
    .recordUsage (some exampleClient) "codex" (.infinite false) 3,
    .recordUsage (some exampleClient) "codex" (.infinite true) 4,
    .recordUsage (some exampleClient) "codex" (.finite 2) 5]

theorem odd_amounts_counted :
    ((run step (unused ∅) oddAmounts).getUsage exampleClient "codex" "1970-01").map
        (fun usage => (usage.tokens, usage.requests)) = some (9, 6) ∧
      ∀ usage ∈ (run step (unused ∅) oddAmounts).getUsage exampleClient "codex" "1970-01",
        ∃ month, "1970-01" = keyOf month ∧
          usage.tokens = accountedTokens exampleClient "codex" month (unused ∅) oddAmounts ∧
          usage.requests = accountedRequests exampleClient "codex" month (unused ∅) oddAmounts :=
  ⟨by decide +kernel, fun usage stored =>
    (live_counters_exact ∅ oddAmounts).1 exampleClient "codex" "1970-01" usage stored⟩

end Example

end LiveCounters

end LlmGateway.Quota
