import Mathlib.Algebra.Order.BigOperators.Group.List
import LlmGateway.Quota.Reconcile
import LlmGateway.Quota.Service

/-!
What a reconcile pass leaves: the counters of the quota pairs of its period
equal to the log, everything else as it was, and nothing to do for a second
pass.
-/

namespace LlmGateway.Quota

open Observability

section Writes

variable (store : QuotaStore) (clientId : ClientId) (aliasKey period : String) (tokens : ℚ)
  (requests : ℕ)

theorem setUsage_accepts (nonneg : 0 ≤ tokens) : ∃ written,
    store.setUsage clientId aliasKey period tokens requests = some written ∧
      written.quotas = store.quotas ∧
      written.getUsage clientId aliasKey period = some ⟨tokens, requests, nonneg⟩ ∧
      ∀ other otherAlias key, (other, otherAlias, key) ≠ (clientId, aliasKey, period) →
        written.getUsage other otherAlias key = store.getUsage other otherAlias key := by
  unfold QuotaStore.setUsage
  rw [dif_pos nonneg]
  refine ⟨_, rfl, rfl, ?_, ?_⟩
  · simp [QuotaStore.getUsage]
  · intro other otherAlias key different
    exact AList.lookup_insert_ne different

theorem setUsage_refuses (negative : tokens < 0) :
    store.setUsage clientId aliasKey period tokens requests = none := by
  unfold QuotaStore.setUsage
  rw [dif_neg (not_le.mpr negative)]

end Writes

section Loop

variable (rowOf : QuotaKey → ReconcileDriftRow) (period : String)

def drifted (pairs : List QuotaKey) : List ReconcileDriftRow :=
  (pairs.map rowOf).filter fun row => ¬row.InSync

/-- The pairs that drifted hold what was computed, and the rest is as before. -/
structure Repaired (pairs : List QuotaKey) (before after : Pass) : Prop where
  quotas : after.store.quotas = before.store.quotas
  written : ∀ pair ∈ pairs, ¬(rowOf pair).InSync → ∃ usage,
    after.store.getUsage pair.1 pair.2 period = some usage ∧
      usage.tokens = (rowOf pair).computedTokens ∧ usage.requests = (rowOf pair).computedRequests
  frame : ∀ pair key, ¬(key = period ∧ pair ∈ pairs ∧ ¬(rowOf pair).InSync) →
    after.store.getUsage pair.1 pair.2 key = before.store.getUsage pair.1 pair.2 key
  drift : after.drift = before.drift ++ drifted rowOf pairs
  repaired : after.repaired = before.repaired + (drifted rowOf pairs).length

theorem repairPairs_sync (dryRun : Bool) (pair : QuotaKey) (rest : List QuotaKey) (pass : Pass)
    (sync : (rowOf pair).InSync) :
    repairPairs rowOf period dryRun (pair :: rest) pass =
      repairPairs rowOf period dryRun rest pass := by
  simp only [repairPairs, sync, ↓reduceIte]

theorem repaired_sync (pair : QuotaKey) (rest : List QuotaKey) (before after : Pass)
    (sync : (rowOf pair).InSync) (repaired : Repaired rowOf period rest before after) :
    Repaired rowOf period (pair :: rest) before after := by
  have same : drifted rowOf (pair :: rest) = drifted rowOf rest := by
    simp [drifted, sync]
  constructor
  · exact repaired.quotas
  · intro asked member drifts
    rcases List.mem_cons.mp member with rfl | later
    · exact absurd sync drifts
    · exact repaired.written asked later drifts
  · intro asked key outside
    apply repaired.frame
    rintro ⟨here, later, drifts⟩
    exact outside ⟨here, List.mem_cons_of_mem _ later, drifts⟩
  · rw [same]
    exact repaired.drift
  · rw [same]
    exact repaired.repaired

/-- A drifted pair is written before the others, which leave it or write the
same again. -/
theorem repaired_written (pair : QuotaKey) (rest : List QuotaKey) (before after : Pass)
    (written : QuotaStore) (drifts : ¬(rowOf pair).InSync)
    (nonneg : 0 ≤ (rowOf pair).computedTokens)
    (accepted : before.store.setUsage pair.1 pair.2 period (rowOf pair).computedTokens
      (rowOf pair).computedRequests = some written)
    (repaired : Repaired rowOf period rest
      { store := written
        drift := before.drift ++ [rowOf pair]
        repaired := before.repaired + 1 } after) :
    Repaired rowOf period (pair :: rest) before after := by
  obtain ⟨_, same, quotas, here, others⟩ := setUsage_accepts before.store pair.1 pair.2 period
    (rowOf pair).computedTokens (rowOf pair).computedRequests nonneg
  cases Option.some.inj (same.symm.trans accepted)
  have added : drifted rowOf (pair :: rest) = rowOf pair :: drifted rowOf rest := by
    simp [drifted, drifts]
  constructor
  · exact repaired.quotas.trans quotas
  · intro asked member drift
    by_cases later : asked ∈ rest
    · exact repaired.written asked later drift
    · have first : asked = pair := (List.mem_cons.mp member).resolve_right later
      subst first
      have kept := repaired.frame asked period fun inside => later inside.2.1
      exact ⟨_, kept.trans here, rfl, rfl⟩
  · intro asked key outside
    have apart : (asked.1, asked.2, key) ≠ (pair.1, pair.2, period) := by
      intro equal
      simp only [Prod.mk.injEq] at equal
      obtain ⟨client, named, rfl⟩ := equal
      cases Prod.ext client named
      exact outside ⟨rfl, List.mem_cons_self, drifts⟩
    refine (repaired.frame asked key ?_).trans (others asked.1 asked.2 key apart)
    rintro ⟨here, later, drift⟩
    exact outside ⟨here, List.mem_cons_of_mem _ later, drift⟩
  · rw [added, repaired.drift, List.append_assoc, List.singleton_append]
  · rw [added, repaired.repaired, List.length_cons]
    dsimp only
    omega

theorem repairPairs_repairs (pairs : List QuotaKey) (pass : Pass)
    (nonneg : ∀ pair ∈ pairs, 0 ≤ (rowOf pair).computedTokens) :
    ∃ after, repairPairs rowOf period false pairs pass = (.ok (), after) ∧
      Repaired rowOf period pairs pass after := by
  induction pairs generalizing pass with
  | nil =>
      refine ⟨pass, rfl, rfl, ?_, fun _ _ _ => rfl, (List.append_nil _).symm, rfl⟩
      intro pair member
      cases member
  | cons pair rest ih =>
      have later := fun asked member => nonneg asked (List.mem_cons_of_mem pair member)
      by_cases sync : (rowOf pair).InSync
      · obtain ⟨after, ran, repaired⟩ := ih pass later
        rw [repairPairs_sync rowOf period false pair rest pass sync]
        exact ⟨after, ran, repaired_sync rowOf period pair rest pass after sync repaired⟩
      · have accepts := nonneg pair List.mem_cons_self
        obtain ⟨written, accepted, _⟩ := setUsage_accepts pass.store pair.1 pair.2 period
          (rowOf pair).computedTokens (rowOf pair).computedRequests accepts
        obtain ⟨after, ran, repaired⟩ := ih
          { store := written
            drift := pass.drift ++ [rowOf pair]
            repaired := pass.repaired + 1 } later
        refine ⟨after, ?_, repaired_written rowOf period pair rest pass after written sync accepts
          accepted repaired⟩
        simp only [repairPairs, sync, accepted, ↓reduceIte, Bool.false_eq_true]
        exact ran

theorem repairPairs_dry (pairs : List QuotaKey) (pass : Pass) :
    repairPairs rowOf period true pairs pass =
      (.ok (), { pass with drift := pass.drift ++ drifted rowOf pairs }) := by
  induction pairs generalizing pass with
  | nil => simp [repairPairs, drifted]
  | cons pair rest ih =>
      by_cases sync : (rowOf pair).InSync
      · rw [repairPairs_sync rowOf period true pair rest pass sync, ih]
        simp [drifted, sync]
      · simp only [repairPairs, sync, ↓reduceIte, ih]
        simp [drifted, sync]

end Loop

section Reconcile

def ReconcileOptions.period (options : ReconcileOptions) (nowMs : ℤ) : String :=
  options.periodKey.getD (Quota.periodKey nowMs)

def counters (store : QuotaStore) (period : String) (pair : QuotaKey) : ℚ × ℕ :=
  (store.tokensOf pair.1 pair.2 period, store.requestsOf pair.1 pair.2 period)

/-- The row is one of the client of the pair, served by its alias in the period. -/
def LoggedFor (period : String) (pair : QuotaKey) (row : RequestLogRow) : Prop :=
  row.clientKey = some pair.1 ∧ row.servedAlias.getD row.modelRequested = pair.2 ∧
    (utcMonthWindow period).Contains row.requestedAt

instance (period : String) (pair : QuotaKey) (row : RequestLogRow) :
    Decidable (LoggedFor period pair row) :=
  inferInstanceAs (Decidable (_ ∧ _ ∧ _))

def logged (rows : List RequestLogRow) (period : String) (pair : QuotaKey) : ℚ × ℕ :=
  let own := rows.filter fun row => LoggedFor period pair row
  ((own.map fun row => row.totalTokens.getD 0).sum, own.length)

variable (store : QuotaStore) (rows : List RequestLogRow)

def rowFor (period : String) (pair : QuotaKey) : ReconcileDriftRow :=
  driftRow (listUsageByPeriod store period) (aggregateRequestLogUsage rows (utcMonthWindow period))
    pair

def reportOf (period : String) (dryRun : Bool) (pass : Pass) : ReconcileReport where
  periodKey := period
  dryRun := dryRun
  rowsScanned := ((aggregateRequestLogUsage rows (utcMonthWindow period)).map
    RequestLogUsageAggregate.requests).sum
  pairsConsidered := (listAllQuotas store).length
  drift := pass.drift
  repaired := pass.repaired

def startPass : Pass where
  store := store
  drift := []
  repaired := 0

variable (period : String) (pair : QuotaKey)

theorem loggedFor_iff (row : RequestLogRow) :
    LoggedFor period pair row ↔ row.InGroup (utcMonthWindow period) pair := by
  unfold LoggedFor RequestLogRow.InGroup RequestLogRow.group RequestLogRow.aliasKey
  cases row.clientKey with
  | none => simp
  | some clientId => simp [Prod.ext_iff, and_comm, and_assoc]

theorem logged_eq :
    logged rows period pair = (attributedTokens rows (utcMonthWindow period) pair,
      attributedRequests rows (utcMonthWindow period) pair) := by
  rw [attributedTokens_eq, attributedRequests_eq, logged, sumOf, countOf]
  induction rows with
  | nil => rfl
  | cons row rest ih =>
      obtain ⟨tokens, requests⟩ := Prod.mk.inj ih
      have same := loggedFor_iff period pair row
      by_cases own : LoggedFor period pair row
      · simp [own, same.mp own, tokens, requests, Nat.add_comm]
      · simp [own, mt same.mpr own, tokens, requests]

theorem rowFor_inSync_iff :
    (rowFor store rows period pair).InSync ↔ counters store period pair = logged rows period pair := by
  rw [rowFor, driftRow_eq, counters, logged_eq, Prod.mk.injEq]
  rfl

theorem rowFor_tokens :
    (rowFor store rows period pair).computedTokens = (logged rows period pair).1 := by
  rw [rowFor, driftRow_eq, logged_eq]

theorem rowFor_requests :
    (rowFor store rows period pair).computedRequests = (logged rows period pair).2 := by
  rw [rowFor, driftRow_eq, logged_eq]

theorem mem_listAllQuotas :
    pair ∈ listAllQuotas store ↔ (store.getQuota pair.1 pair.2).isSome = true := by
  rw [listAllQuotas, List.mem_insertionSort]
  exact AList.lookup_isSome.symm

theorem counters_congr (left right : QuotaStore)
    (same : left.getUsage pair.1 pair.2 period = right.getUsage pair.1 pair.2 period) :
    counters left period pair = counters right period pair := by
  simp only [counters, QuotaStore.tokensOf, QuotaStore.requestsOf, same]

variable (nowMs : ℤ) (options : ReconcileOptions)

theorem reconcile_eq (accepted : isPeriodKey (options.period nowMs) = true) (pass : Pass)
    (ran : repairPairs (rowFor store rows (options.period nowMs)) (options.period nowMs)
      (options.dryRun = some true) (listAllQuotas store) (startPass store) = (.ok (), pass)) :
    reconcile store rows nowMs options =
      (.ok (reportOf store rows (options.period nowMs) (options.dryRun = some true) pass),
        pass.store) := by
  unfold ReconcileOptions.period rowFor startPass at *
  simp only [reconcile, accepted, ran]
  rfl

/-- A pass whose pairs are all in sync writes nothing, dry or not. -/
theorem repairPairs_all_sync (rowOf : QuotaKey → ReconcileDriftRow) (dryRun : Bool)
    (pairs : List QuotaKey) (pass : Pass) (sync : ∀ pair ∈ pairs, (rowOf pair).InSync) :
    repairPairs rowOf period dryRun pairs pass = (.ok (), pass) := by
  induction pairs with
  | nil => rfl
  | cons pair rest ih =>
      rw [repairPairs_sync rowOf period dryRun pair rest pass (sync pair List.mem_cons_self)]
      exact ih fun asked member => sync asked (List.mem_cons_of_mem pair member)

theorem reconcile_in_sync (accepted : isPeriodKey (options.period nowMs) = true)
    (sync : ∀ pair, (store.getQuota pair.1 pair.2).isSome = true →
      counters store (options.period nowMs) pair = logged rows (options.period nowMs) pair) :
    ∃ report, reconcile store rows nowMs options = (.ok report, store) ∧ report.drift = [] ∧
      report.repaired = 0 := by
  have ran := repairPairs_all_sync (options.period nowMs)
    (rowFor store rows (options.period nowMs)) (options.dryRun = some true) (listAllQuotas store)
    (startPass store) fun pair member => (rowFor_inSync_iff store rows _ pair).mpr
      (sync pair ((mem_listAllQuotas store pair).mp member))
  exact ⟨_, reconcile_eq store rows nowMs options accepted _ ran, rfl, rfl⟩

theorem reconcile_dry (accepted : isPeriodKey (options.period nowMs) = true)
    (dry : options.dryRun = some true) :
    ∃ report, reconcile store rows nowMs options = (.ok report, store) ∧
      report.drift = drifted (rowFor store rows (options.period nowMs)) (listAllQuotas store) ∧
      report.repaired = 0 := by
  have ran := repairPairs_dry (rowFor store rows (options.period nowMs)) (options.period nowMs)
    (listAllQuotas store) (startPass store)
  have decided : decide (options.dryRun = some true) = true := decide_eq_true dry
  rw [← decided] at ran
  exact ⟨_, reconcile_eq store rows nowMs options accepted _ ran, rfl, rfl⟩

/-- The pairs with a quota row have totals that the usage table accepts. -/
def NonnegTotals : Prop :=
  ∀ pair, (store.getQuota pair.1 pair.2).isSome = true → 0 ≤ (logged rows period pair).1

theorem reconcile_repairs (accepted : isPeriodKey (options.period nowMs) = true)
    (wet : options.dryRun ≠ some true)
    (nonneg : NonnegTotals store rows (options.period nowMs)) :
    ∃ report after, reconcile store rows nowMs options = (.ok report, after.store) ∧
      Repaired (rowFor store rows (options.period nowMs)) (options.period nowMs)
        (listAllQuotas store) (startPass store) after ∧
      report.drift = after.drift ∧ report.repaired = after.repaired := by
  obtain ⟨after, ran, repaired⟩ := repairPairs_repairs
    (rowFor store rows (options.period nowMs)) (options.period nowMs) (listAllQuotas store)
    (startPass store) (by
      intro pair member
      rw [rowFor_tokens]
      exact nonneg pair ((mem_listAllQuotas store pair).mp member))
  have decided : decide (options.dryRun = some true) = false := decide_eq_false wet
  rw [← decided] at ran
  exact ⟨_, after, reconcile_eq store rows nowMs options accepted _ ran, repaired, rfl, rfl⟩

theorem repaired_counters (after : Pass)
    (repaired : Repaired (rowFor store rows period) period (listAllQuotas store) (startPass store)
      after) (listed : pair ∈ listAllQuotas store) :
    counters after.store period pair = logged rows period pair := by
  by_cases sync : (rowFor store rows period pair).InSync
  · have kept := repaired.frame pair period fun inside => inside.2.2 sync
    rw [counters_congr period pair after.store store kept]
    exact (rowFor_inSync_iff store rows period pair).mp sync
  · obtain ⟨usage, held, tokens, requests⟩ := repaired.written pair listed sync
    rw [rowFor_tokens] at tokens
    rw [rowFor_requests] at requests
    simp only [counters, QuotaStore.tokensOf, QuotaStore.requestsOf, held, tokens, requests]

end Reconcile

theorem nonnegTotals_of_rows (store : QuotaStore) (rows : List RequestLogRow) (period : String)
    (nonneg : ∀ row ∈ rows, 0 ≤ row.totalTokens.getD 0) : NonnegTotals store rows period := by
  intro pair _
  apply List.sum_nonneg
  intro value member
  obtain ⟨row, listed, rfl⟩ := List.mem_map.mp member
  exact nonneg row (List.mem_of_mem_filter listed)

/-- What a pass that repairs leaves, and what a second or a dry one does. -/
structure Converges (store : QuotaStore) (rows : List RequestLogRow) (period : String)
    (outcome : Except ReconcileError ReconcileReport × QuotaStore) : Prop where
  returns : ∃ report, outcome.1 = .ok report ∧ report.repaired = report.drift.length
  repairs : ∀ pair, (store.getQuota pair.1 pair.2).isSome = true →
    counters outcome.2 period pair = logged rows period pair
  frame : ∀ (pair : QuotaKey) (key : String), store.getQuota pair.1 pair.2 = none ∨ key ≠ period →
    outcome.2.getUsage pair.1 pair.2 key = store.getUsage pair.1 pair.2 key
  quotas : outcome.2.quotas = store.quotas
  again : ∀ nowMs (options : ReconcileOptions), options.period nowMs = period →
    ∃ report, reconcile outcome.2 rows nowMs options = (.ok report, outcome.2) ∧
      report.drift = [] ∧ report.repaired = 0
  dry : ∀ nowMs (options : ReconcileOptions), options.period nowMs = period →
    options.dryRun = some true → ∃ report, reconcile store rows nowMs options = (.ok report, store) ∧
      report.repaired = 0 ∧ ∀ wet, outcome.1 = .ok wet → report.drift = wet.drift

section Witness

def quotaStore (aliasKeys : List String) : QuotaStore :=
  aliasKeys.foldl (fun store aliasKey =>
    (store.upsertQuota QuotaStore.exampleClient aliasKey 1000 none).getD store) .empty

def servedRow (aliasKey : String) (totalTokens : ℚ) : RequestLogRow :=
  successRow
    { requestedAt := 1767225600
      requestedModel := aliasKey
      servedAlias := some aliasKey
      resolvedProvider := "nan"
      resolvedModel := some "qwen3.6"
      attempts := 1
      latencyMs := 20
      clientKey := some QuotaStore.exampleClient
      promptTokens := none
      completionTokens := none
      totalTokens := some totalTokens }

end Witness

end LlmGateway.Quota
