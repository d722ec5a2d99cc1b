import LlmGateway.Observability.RequestLog

/-!
`QuotaReconcileService.reconcile`: the repair pass that recomputes the counters
of one month from `request_logs`. It visits the pairs that have a quota row and
overwrites each counter that differs from the recomputed one.
-/

namespace LlmGateway.Quota

open Observability

structure ReconcileDriftRow where
  clientId : ClientId
  aliasKey : String
  storedTokens : ℚ
  computedTokens : ℚ
  storedRequests : ℕ
  computedRequests : ℕ
  deriving DecidableEq

structure ReconcileReport where
  periodKey : String
  dryRun : Bool
  rowsScanned : ℕ
  pairsConsidered : ℕ
  drift : List ReconcileDriftRow
  repaired : ℕ
  deriving DecidableEq

structure ReconcileOptions where
  periodKey : Option String
  dryRun : Option Bool

inductive ReconcileError where
  /-- `BadRequestException`. -/
  | badPeriodKey (message : String)
  /-- The CHECK of the usage table refused a write. -/
  | constraint
  deriving DecidableEq, Repr

def pairKey (pair : QuotaKey) : String := pair.1.text ++ "\x00" ++ pair.2

/-- `new Map(entries).get(key)`: the last entry of a key wins. -/
def mapGet {Value : Type} (entries : List (String × Value)) (key : String) : Option Value :=
  (entries.reverse.find? fun entry => entry.1 = key).map Prod.snd

def listUsageByPeriod (store : QuotaStore) (periodKey : String) :
    List (QuotaKey × ClientAliasUsage) :=
  (((store.usage.keys.filter fun key => key.2.2 = periodKey).map fun key =>
    (key.1, key.2.1)).insertionSort keyOrder).filterMap fun pair =>
      (store.getUsage pair.1 pair.2 periodKey).map fun usage => (pair, usage)

def listAllQuotas (store : QuotaStore) : List QuotaKey := store.quotas.keys.insertionSort keyOrder

/-- The two counters of a pair, as the maps of the pass give them. -/
def driftRow (stored : List (QuotaKey × ClientAliasUsage))
    (aggregates : List RequestLogUsageAggregate) (pair : QuotaKey) : ReconcileDriftRow :=
  let stored := mapGet (stored.map fun entry => (pairKey entry.1, entry.2)) (pairKey pair)
  let computed := mapGet (aggregates.map fun row => (pairKey (row.clientId, row.aliasKey), row))
    (pairKey pair)
  { clientId := pair.1
    aliasKey := pair.2
    storedTokens := (stored.map ClientAliasUsage.tokens).getD 0
    computedTokens := (computed.map RequestLogUsageAggregate.tokens).getD 0
    storedRequests := (stored.map ClientAliasUsage.requests).getD 0
    computedRequests := (computed.map RequestLogUsageAggregate.requests).getD 0 }

def ReconcileDriftRow.InSync (row : ReconcileDriftRow) : Prop :=
  row.storedTokens = row.computedTokens ∧ row.storedRequests = row.computedRequests

instance (row : ReconcileDriftRow) : Decidable row.InSync :=
  inferInstanceAs (Decidable (_ ∧ _))

structure Pass where
  store : QuotaStore
  drift : List ReconcileDriftRow
  repaired : ℕ

/-- The loop over the quota pairs. A refused write throws out of it, and the
writes before it stay. -/
def repairPairs (rowOf : QuotaKey → ReconcileDriftRow) (periodKey : String) (dryRun : Bool) :
    List QuotaKey → Pass → Except ReconcileError Unit × Pass
  | [], pass => (.ok (), pass)
  | pair :: rest, pass =>
      let row := rowOf pair
      if row.InSync then repairPairs rowOf periodKey dryRun rest pass
      else
        let pass := { pass with drift := pass.drift ++ [row] }
        if dryRun then repairPairs rowOf periodKey dryRun rest pass
        else match pass.store.setUsage pair.1 pair.2 periodKey row.computedTokens
            row.computedRequests with
          | none => (.error .constraint, pass)
          | some written => repairPairs rowOf periodKey dryRun rest
              { pass with store := written, repaired := pass.repaired + 1 }

def badPeriodKeyMessage (periodKey : String) : String :=
  "periodKey: expected a UTC calendar month as YYYY-MM, got \"" ++ periodKey ++ "\""

def reconcile (store : QuotaStore) (rows : List RequestLogRow) (nowMs : ℤ)
    (options : ReconcileOptions) : Except ReconcileError ReconcileReport × QuotaStore :=
  let period := options.periodKey.getD (periodKey nowMs)
  if !isPeriodKey period then (.error (.badPeriodKey (badPeriodKeyMessage period)), store)
  else
    let dryRun := options.dryRun = some true
    let aggregates := aggregateRequestLogUsage rows (utcMonthWindow period)
    let pairs := listAllQuotas store
    let pass := repairPairs (driftRow (listUsageByPeriod store period) aggregates) period dryRun
      pairs { store := store, drift := [], repaired := 0 }
    match pass.1 with
    | .error error => (.error error, pass.2.store)
    | .ok _ =>
        (.ok
          { periodKey := period
            dryRun := dryRun
            rowsScanned := (aggregates.map RequestLogUsageAggregate.requests).sum
            pairsConsidered := pairs.length
            drift := pass.2.drift
            repaired := pass.2.repaired },
          pass.2.store)

section Maps

variable (store : QuotaStore) (period : String) (pair : QuotaKey)

theorem takeWhile_pairKey :
    (pairKey pair).toList.takeWhile (· ≠ '\x00') = pair.1.text.toList := by
  have text : (pairKey pair).toList = pair.1.text.toList ++ '\x00' :: pair.2.toList := by
    simp [pairKey]
  rw [text, List.takeWhile_append_of_pos]
  · simp
  · intro char member
    simpa using fun same : char = '\x00' => pair.1.noNul (same ▸ member)

theorem pairKey_injective : Function.Injective pairKey := by
  intro left right same
  have clients : left.1.text.toList = right.1.text.toList := by
    rw [← takeWhile_pairKey, ← takeWhile_pairKey, same]
  have clientId : left.1 = right.1 := by
    cases l : left.1
    cases r : right.1
    rw [l, r] at clients
    cases String.toList_injective clients
    rfl
  have texts := congrArg String.toList same
  simp only [pairKey, String.toList_append, List.append_assoc, clientId] at texts
  have tails := List.append_cancel_left texts
  exact Prod.ext clientId (String.toList_injective (List.append_cancel_left tails))

theorem mapGet_eq {Value : Type} (entries : List (String × Value)) (key : String)
    (value : Option Value) (sound : ∀ entry ∈ entries, entry.1 = key → value = some entry.2)
    (complete : value.isSome → ∃ entry ∈ entries, entry.1 = key) : mapGet entries key = value := by
  unfold mapGet
  cases found : entries.reverse.find? (fun entry => entry.1 = key) with
  | none =>
      rw [List.find?_eq_none] at found
      cases held : value with
      | none => rfl
      | some kept =>
          obtain ⟨entry, member, named⟩ := complete (by rw [held]; rfl)
          exact absurd (decide_eq_true named) (found entry (List.mem_reverse.mpr member))
  | some entry =>
      -- Whichever entry of the key comes last, it holds the value.
      have member := List.mem_reverse.mp (List.mem_of_find?_eq_some found)
      have named : entry.1 = key := by simpa using List.find?_some found
      rw [sound entry member named]
      rfl

theorem mapGet_rows {Row Value : Type} (rows : List Row) (key : Row → QuotaKey)
    (item : Row → Value) (value : QuotaKey → Option Value)
    (sound : ∀ row ∈ rows, value (key row) = some (item row))
    (complete : (value pair).isSome → ∃ row ∈ rows, key row = pair) :
    mapGet (rows.map fun row => (pairKey (key row), item row)) (pairKey pair) = value pair := by
  refine mapGet_eq _ (pairKey pair) (value pair) ?_ ?_
  · intro entry member named
    obtain ⟨row, listed, rfl⟩ := List.mem_map.mp member
    have same : key row = pair := pairKey_injective named
    rw [← same]
    exact sound row listed
  · intro present
    obtain ⟨row, member, named⟩ := complete present
    exact ⟨_, List.mem_map.mpr ⟨row, member, rfl⟩, congrArg pairKey named⟩

theorem mem_listUsageByPeriod (usage : ClientAliasUsage) :
    (pair, usage) ∈ listUsageByPeriod store period ↔
      store.getUsage pair.1 pair.2 period = some usage := by
  simp only [listUsageByPeriod, List.mem_filterMap, List.mem_insertionSort, List.mem_map,
    List.mem_filter, Option.map_eq_some_iff, Prod.mk.injEq, decide_eq_true_eq]
  constructor
  · rintro ⟨other, _, found, stored, rfl, rfl⟩
    exact stored
  · intro stored
    refine ⟨pair, ⟨(pair.1, pair.2, period), ⟨?_, rfl⟩, rfl⟩, usage, stored, rfl, rfl⟩
    exact AList.lookup_isSome.mp (Option.isSome_iff_exists.mpr ⟨usage, stored⟩)

theorem storedMap_get :
    mapGet ((listUsageByPeriod store period).map fun entry => (pairKey entry.1, entry.2))
      (pairKey pair) = store.getUsage pair.1 pair.2 period := by
  refine mapGet_rows pair _ Prod.fst Prod.snd
    (fun asked => store.getUsage asked.1 asked.2 period) ?_ ?_
  · rintro ⟨asked, usage⟩ member
    exact (mem_listUsageByPeriod store period asked usage).mp member
  · intro stored
    obtain ⟨usage, stored⟩ := Option.isSome_iff_exists.mp stored
    exact ⟨(pair, usage), (mem_listUsageByPeriod store period pair usage).mpr stored, rfl⟩

theorem computedMap_get (rows : List RequestLogRow) (window : Window) :
    mapGet ((aggregateRequestLogUsage rows window).map fun row =>
      (pairKey (row.clientId, row.aliasKey), row)) (pairKey pair) = attributed rows window pair := by
  refine mapGet_rows pair (aggregateRequestLogUsage rows window)
    (fun row => (row.clientId, row.aliasKey)) (fun row => row) (attributed rows window) ?_ ?_
  · intro row member
    obtain ⟨grouped, same⟩ := (mem_aggregate rows window row).mp member
    rw [attributed_eq, if_pos grouped, ← same]
  · intro present
    obtain ⟨row, found⟩ := Option.isSome_iff_exists.mp present
    exact ⟨row, List.mem_of_find?_eq_some found, by simpa using List.find?_some found⟩

theorem driftRow_eq (rows : List RequestLogRow) (window : Window) :
    driftRow (listUsageByPeriod store period) (aggregateRequestLogUsage rows window) pair =
      { clientId := pair.1
        aliasKey := pair.2
        storedTokens := store.tokensOf pair.1 pair.2 period
        computedTokens := attributedTokens rows window pair
        storedRequests := store.requestsOf pair.1 pair.2 period
        computedRequests := attributedRequests rows window pair } := by
  simp only [driftRow, storedMap_get, computedMap_get, attributedTokens, attributedRequests,
    QuotaStore.tokensOf, QuotaStore.requestsOf]
  cases store.getUsage pair.1 pair.2 period <;> rfl

end Maps

section Repair

variable (store written : QuotaStore) (clientId other : ClientId) (aliasKey otherAlias : String)
  (period key : String) (tokens : ℚ) (requests : ℕ)

theorem tokensOf_setUsage
    (accepted : store.setUsage clientId aliasKey period tokens requests = some written) :
    written.tokensOf other otherAlias key =
      if (other, otherAlias, key) = (clientId, aliasKey, period) then tokens
      else store.tokensOf other otherAlias key := by
  unfold QuotaStore.setUsage at accepted
  split at accepted
  · cases accepted
    by_cases same : (other, otherAlias, key) = (clientId, aliasKey, period)
    · rw [if_pos same]
      simp only [Prod.mk.injEq] at same
      obtain ⟨rfl, rfl, rfl⟩ := same
      simp [QuotaStore.tokensOf, QuotaStore.getUsage]
    · rw [if_neg same, QuotaStore.tokensOf, QuotaStore.getUsage, AList.lookup_insert_ne same]
      rfl
  · cases accepted

/-- As long as each row computes the tokens that are stored, the loop leaves
every token counter as it is. -/
theorem repairPairs_tokens (rowOf : QuotaKey → ReconcileDriftRow) (dryRun : Bool)
    (pairs : List QuotaKey) (pass : Pass)
    (agree : ∀ pair ∈ pairs,
      pass.store.tokensOf pair.1 pair.2 period = (rowOf pair).computedTokens) :
    (repairPairs rowOf period dryRun pairs pass).2.store.tokensOf other otherAlias key =
      pass.store.tokensOf other otherAlias key := by
  -- On the pairs still to visit: the store of the pass keeps every token counter.
  induction pairs generalizing pass with
  | nil => rfl
  | cons pair rest ih =>
      have later := fun asked member => agree asked (List.mem_cons_of_mem pair member)
      unfold repairPairs
      dsimp only
      split
      · exact ih pass later
      · split
        · exact ih _ later
        · split
          · rfl
          · rename_i written accepted
            -- Only the request counter drifted, so the write repeats the stored tokens.
            have same : ∀ client named counter, written.tokensOf client named counter =
                pass.store.tokensOf client named counter := by
              intro client named counter
              rw [tokensOf_setUsage _ written pair.1 client pair.2 named period counter _ _
                accepted]
              split
              · rename_i itself
                simp only [Prod.mk.injEq] at itself
                obtain ⟨rfl, rfl, rfl⟩ := itself
                exact (agree pair List.mem_cons_self).symm
              · rfl
            refine (ih _ ?_).trans (same other otherAlias key)
            intro asked member
            exact (same _ _ _).trans (later asked member)

theorem reconcile_keeps_tokens (rows : List RequestLogRow) (nowMs : ℤ) (options : ReconcileOptions)
    (agree : ∀ pair, (store.getQuota pair.1 pair.2).isSome →
      store.tokensOf pair.1 pair.2 (options.periodKey.getD (periodKey nowMs)) =
        attributedTokens rows (utcMonthWindow (options.periodKey.getD (periodKey nowMs))) pair) :
    (reconcile store rows nowMs options).2.tokensOf other otherAlias key =
      store.tokensOf other otherAlias key := by
  have kept := repairPairs_tokens other otherAlias (options.periodKey.getD (periodKey nowMs)) key
    (driftRow (listUsageByPeriod store (options.periodKey.getD (periodKey nowMs)))
      (aggregateRequestLogUsage rows (utcMonthWindow (options.periodKey.getD (periodKey nowMs)))))
    (options.dryRun = some true) (listAllQuotas store)
    { store := store, drift := [], repaired := 0 } (by
      intro pair member
      rw [driftRow_eq]
      refine agree pair (AList.lookup_isSome.mpr ?_)
      exact (List.mem_insertionSort keyOrder).mp member)
  unfold reconcile
  dsimp only
  split
  · rfl
  · split
    · exact kept
    · exact kept

end Repair

end LlmGateway.Quota
