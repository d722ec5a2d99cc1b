import LlmGateway.Quota.Convergence

/-!
A pass that the usage table stops halfway. The loop writes pair by pair and
nothing undoes the writes before a refused one, so what it leaves depends on
where the first negative total stands.
-/

namespace LlmGateway.Quota

open Observability

/-- The pass repairs every pair of the period, or throws and leaves each usage
row as it was. -/
def AllOrNothing (store : QuotaStore) (rows : List RequestLogRow) (period : String)
    (outcome : Except ReconcileError ReconcileReport × QuotaStore) : Prop :=
  (∃ report, outcome.1 = .ok report ∧ ∀ pair, (store.getQuota pair.1 pair.2).isSome = true →
    counters outcome.2 period pair = logged rows period pair) ∨
  ∃ error, outcome.1 = .error error ∧ ∀ (pair : QuotaKey) (key : String),
    outcome.2.getUsage pair.1 pair.2 key = store.getUsage pair.1 pair.2 key

/-- Before the first quota pair with a negative total every pair is in sync. -/
def CleanBeforeNegative (store : QuotaStore) (rows : List RequestLogRow) (period : String) : Prop :=
  ∀ before bad after, listAllQuotas store = before ++ bad :: after →
    (logged rows period bad).1 < 0 → (∀ pair ∈ before, 0 ≤ (logged rows period pair).1) →
    ∀ pair ∈ before, counters store period pair = logged rows period pair

section Stopped

variable (rowOf : QuotaKey → ReconcileDriftRow) (period : String)

theorem repairPairs_append (dryRun : Bool) (before rest : List QuotaKey) (pass middle : Pass)
    (ran : repairPairs rowOf period dryRun before pass = (.ok (), middle)) :
    repairPairs rowOf period dryRun (before ++ rest) pass =
      repairPairs rowOf period dryRun rest middle := by
  induction before generalizing pass with
  | nil =>
      cases ran
      rfl
  | cons pair others ih =>
      rw [List.cons_append]
      simp only [repairPairs] at ran ⊢
      split at ran
      next sync => rw [if_pos sync, ih pass ran]
      next drifts =>
        rw [if_neg drifts]
        split at ran
        next dry => rw [if_pos dry, ih _ ran]
        next wet =>
          rw [if_neg wet]
          split at ran
          next => cases ran
          next written accepted => exact ih _ ran

/-- A negative total is out of sync with every counter, and its write throws. -/
theorem repairPairs_refused (pair : QuotaKey) (rest : List QuotaKey) (pass : Pass)
    (drifts : ¬(rowOf pair).InSync) (negative : (rowOf pair).computedTokens < 0) :
    repairPairs rowOf period false (pair :: rest) pass =
      (.error .constraint, { pass with drift := pass.drift ++ [rowOf pair] }) := by
  have refused := setUsage_refuses pass.store pair.1 pair.2 period (rowOf pair).computedTokens
    (rowOf pair).computedRequests negative
  simp only [repairPairs, drifts, refused, ↓reduceIte, Bool.false_eq_true]

end Stopped

section Pass

variable (store : QuotaStore) (rows : List RequestLogRow) (nowMs : ℤ) (options : ReconcileOptions)

theorem reconcile_unaccepted (unaccepted : isPeriodKey (options.period nowMs) = false) :
    reconcile store rows nowMs options =
      (.error (.badPeriodKey (badPeriodKeyMessage (options.period nowMs))), store) := by
  unfold ReconcileOptions.period at *
  simp only [reconcile, unaccepted]
  rfl

theorem reconcile_throws (accepted : isPeriodKey (options.period nowMs) = true)
    (error : ReconcileError) (pass : Pass)
    (ran : repairPairs (rowFor store rows (options.period nowMs)) (options.period nowMs)
      (options.dryRun = some true) (listAllQuotas store) (startPass store) = (.error error, pass)) :
    reconcile store rows nowMs options = (.error error, pass.store) := by
  unfold ReconcileOptions.period rowFor startPass at *
  simp only [reconcile, accepted, ran]
  rfl

variable (accepted : isPeriodKey (options.period nowMs) = true) (wet : options.dryRun ≠ some true)
  (before : List QuotaKey) (bad : QuotaKey) (after : List QuotaKey)
  (pairs : listAllQuotas store = before ++ bad :: after)
  (negative : (logged rows (options.period nowMs) bad).1 < 0)
  (nonneg : ∀ pair ∈ before, 0 ≤ (logged rows (options.period nowMs) pair).1)
include accepted wet pairs negative nonneg

theorem reconcile_stops : ∃ middle,
    reconcile store rows nowMs options = (.error .constraint, middle.store) ∧
      Repaired (rowFor store rows (options.period nowMs)) (options.period nowMs) before
        (startPass store) middle := by
  obtain ⟨middle, ran, repaired⟩ := repairPairs_repairs
    (rowFor store rows (options.period nowMs)) (options.period nowMs) before (startPass store) (by
      intro pair member
      rw [rowFor_tokens]
      exact nonneg pair member)
  have drifts : ¬(rowFor store rows (options.period nowMs) bad).InSync := by
    rw [rowFor_inSync_iff]
    intro same
    have stored := store.tokensOf_nonneg bad.1 bad.2 (options.period nowMs)
    have equal : store.tokensOf bad.1 bad.2 (options.period nowMs) =
        (logged rows (options.period nowMs) bad).1 := congrArg Prod.fst same
    rw [equal] at stored
    exact absurd stored negative.not_ge
  have stops := repairPairs_refused (rowFor store rows (options.period nowMs))
    (options.period nowMs) bad after middle drifts (by rwa [rowFor_tokens])
  have whole := repairPairs_append (rowFor store rows (options.period nowMs))
    (options.period nowMs) false before (bad :: after) (startPass store) middle ran
  rw [stops, ← pairs] at whole
  have decided : decide (options.dryRun = some true) = false := decide_eq_false wet
  rw [← decided] at whole
  have throws := reconcile_throws store rows nowMs options accepted _ _ whole
  exact ⟨middle, throws, repaired⟩

/-- A stopped pass leaves the table alone exactly when it had nothing to repair
before it stopped. -/
theorem stopped_unchanged_iff :
    AllOrNothing store rows (options.period nowMs) (reconcile store rows nowMs options) ↔
      ∀ pair ∈ before, counters store (options.period nowMs) pair =
        logged rows (options.period nowMs) pair := by
  obtain ⟨middle, stops, repaired⟩ := reconcile_stops store rows nowMs options accepted wet before
    bad after pairs negative nonneg
  rw [stops]
  constructor
  · rintro (⟨report, returned, _⟩ | ⟨error, _, unchanged⟩) pair member
    · cases returned
    · by_contra apart
      rw [← rowFor_inSync_iff] at apart
      obtain ⟨usage, held, tokens, requests⟩ := repaired.written pair member apart
      rw [unchanged pair] at held
      rw [rowFor_inSync_iff] at apart
      apply apart
      rw [rowFor_tokens] at tokens
      rw [rowFor_requests] at requests
      simp only [counters, QuotaStore.tokensOf, QuotaStore.requestsOf, held, tokens, requests]
  · intro clean
    refine Or.inr ⟨.constraint, rfl, ?_⟩
    intro pair key
    apply repaired.frame
    rintro ⟨_, member, drifts⟩
    exact drifts ((rowFor_inSync_iff store rows _ pair).mpr (clean pair member))

end Pass

/-- A repairing pass is all or nothing exactly when no drifted pair stands
before the first negative total. -/
theorem reconcile_all_or_nothing_iff (store : QuotaStore) (rows : List RequestLogRow) (nowMs : ℤ)
    (options : ReconcileOptions) (wet : options.dryRun ≠ some true) :
    AllOrNothing store rows (options.period nowMs) (reconcile store rows nowMs options) ↔
      (isPeriodKey (options.period nowMs) = true →
        CleanBeforeNegative store rows (options.period nowMs)) := by
  constructor
  · intro whole accepted before bad after pairs negative nonneg
    exact (stopped_unchanged_iff store rows nowMs options accepted wet before bad after pairs
      negative nonneg).mp whole
  · intro clean
    cases accepted : isPeriodKey (options.period nowMs) with
    | false =>
        rw [reconcile_unaccepted store rows nowMs options accepted]
        exact Or.inr ⟨_, rfl, fun _ _ => rfl⟩
    | true =>
        cases first : (listAllQuotas store).find?
            (fun pair => (logged rows (options.period nowMs) pair).1 < 0) with
        | none =>
            have nonneg : NonnegTotals store rows (options.period nowMs) := by
              intro pair quota
              have kept := List.find?_eq_none.mp first pair ((mem_listAllQuotas store pair).mpr quota)
              simpa using kept
            have converges := reconcile_repairs store rows nowMs options accepted wet nonneg
            obtain ⟨report, pass, ran, repaired, _⟩ := converges
            rw [ran]
            exact Or.inl ⟨report, rfl, fun pair quota => repaired_counters store rows _ pair pass
              repaired ((mem_listAllQuotas store pair).mpr quota)⟩
        | some bad =>
            obtain ⟨negative, before, after, pairs, others⟩ :=
              List.find?_eq_some_iff_append.mp first
            have below : (logged rows (options.period nowMs) bad).1 < 0 := by simpa using negative
            have nonneg : ∀ pair ∈ before, 0 ≤ (logged rows (options.period nowMs) pair).1 := by
              intro pair member
              simpa using others pair member
            exact (stopped_unchanged_iff store rows nowMs options accepted wet before bad after
              pairs below nonneg).mpr (clean accepted before bad after pairs below nonneg)

section Witness

theorem reconcile_stops_at_once :
    AllOrNothing (quotaStore ["codex"]) [servedRow "codex" (-1)] "2026-01"
      (reconcile (quotaStore ["codex"]) [servedRow "codex" (-1)] 0 ⟨some "2026-01", none⟩) := by
  apply (reconcile_all_or_nothing_iff (quotaStore ["codex"]) [servedRow "codex" (-1)] 0
    ⟨some "2026-01", none⟩ (by decide)).mpr
  intro _ before bad after pairs _ _ pair member
  have one : (listAllQuotas (quotaStore ["codex"])).length = 1 := by decide +kernel
  have empty : before = [] := by
    have length := congrArg List.length pairs
    rw [one, List.length_append, List.length_cons] at length
    exact List.length_eq_zero_iff.mp (by omega)
  rw [empty] at member
  cases member

/-- The pair `codex` is repaired before the negative total of `slave` throws. -/
theorem reconcile_leaves_half :
    (∃ args, servedRow "codex" 5 = successRow args) ∧
      (∃ args, servedRow "slave" (-1) = successRow args) ∧
      ¬AllOrNothing (quotaStore ["codex", "slave"]) [servedRow "codex" 5, servedRow "slave" (-1)]
        "2026-01" (reconcile (quotaStore ["codex", "slave"])
          [servedRow "codex" 5, servedRow "slave" (-1)] 0 ⟨some "2026-01", none⟩) := by
  refine ⟨⟨_, rfl⟩, ⟨_, rfl⟩, ?_⟩
  rintro (⟨report, returned, _⟩ | ⟨error, _, unchanged⟩)
  · have throws : (reconcile (quotaStore ["codex", "slave"])
        [servedRow "codex" 5, servedRow "slave" (-1)] 0 ⟨some "2026-01", none⟩).1.isOk = false := by
      decide +kernel
    rw [returned] at throws
    cases throws
  · have same := unchanged (QuotaStore.exampleClient, "codex") "2026-01"
    revert same
    decide +kernel

end Witness

end LlmGateway.Quota
