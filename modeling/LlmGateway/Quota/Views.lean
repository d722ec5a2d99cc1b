import LlmGateway.Quota.Reconcile
import LlmGateway.Quota.Service
import LlmGateway.Quota.Windows

/-!
The read model of the quotas: the listing of one client, the view an admin
write returns and the envelope both HTTP surfaces send. Each of them reads the
usage on its own, and all of them show what the gate enforces.
-/

namespace LlmGateway.Quota

structure ClientQuotaView where
  aliasKey : String
  monthlyTokenLimit : ℤ
  divertAliasKey : Option String
  periodKey : String
  tokens : ℚ
  requests : ℕ
  remaining : ℚ
  exhausted : Bool
  /-- Unix seconds. -/
  resetsAt : ℤ
  retryAfterSeconds : ℤ
  deriving DecidableEq

structure ClientQuotasView where
  clientId : ClientId
  periodKey : String
  resetsAt : ℤ
  retryAfterSeconds : ℤ
  quotas : List ClientQuotaView
  deriving DecidableEq

/-- `quotaRetryAfterSeconds` of the 429 answers. -/
def QuotaExhaustedDetail.retryAfterSeconds (detail : QuotaExhaustedDetail) (nowMs : ℤ) : ℤ :=
  secondsUntilInstant detail.resetsAt nowMs

namespace QuotaStore

/-- The rows of one client, `ORDER BY alias_key`. -/
def listQuotasByClient (store : QuotaStore) (clientId : ClientId) :
    List (Σ aliasKey, ClientAliasQuota aliasKey) :=
  (((store.quotas.keys.filter fun key => key.1 = clientId).map Prod.snd).insertionSort
    (· ≤ ·)).filterMap fun aliasKey => (store.getQuota clientId aliasKey).map (Sigma.mk aliasKey)

/-- The counters of one client and period with their aliases, `ORDER BY alias_key`. -/
def listUsageByClientPeriod (store : QuotaStore) (clientId : ClientId) (periodKey : String) :
    List (String × ClientAliasUsage) :=
  (((store.usage.keys.filter fun key => key.1 = clientId ∧ key.2.2 = periodKey).map fun key =>
    key.2.1).insertionSort (· ≤ ·)).filterMap fun aliasKey =>
      (store.getUsage clientId aliasKey periodKey).map fun usage => (aliasKey, usage)

end QuotaStore

namespace QuotaService

def toView (aliasKey : String) (monthlyTokenLimit : ℤ) (divertAliasKey : Option String)
    (usage : Option ClientAliasUsage) (periodKey : String) (nowMs : ℤ) : ClientQuotaView :=
  let tokens := (usage.map ClientAliasUsage.tokens).getD 0
  { aliasKey, monthlyTokenLimit, divertAliasKey, periodKey, tokens
    requests := (usage.map ClientAliasUsage.requests).getD 0
    remaining := max 0 (monthlyTokenLimit - tokens)
    exhausted := (monthlyTokenLimit : ℚ) ≤ tokens
    resetsAt := nextUtcMonthStart nowMs / 1000
    retryAfterSeconds := retryAfterSeconds nowMs }

def describeQuotas (store : QuotaStore) (clientId : ClientId) (nowMs : ℤ) :
    List ClientQuotaView :=
  let period := periodKey nowMs
  let usageByAlias := store.listUsageByClientPeriod clientId period
  (store.listQuotasByClient clientId).map fun quota =>
    toView quota.1 quota.2.monthlyTokenLimit quota.2.divertAliasKey
      (mapGet usageByAlias quota.1) period nowMs

/-- The view of the input just written, and the store with the row. A write the
table refuses throws. -/
def upsertQuota (store : QuotaStore) (clientId : ClientId) (aliasKey : String)
    (monthlyTokenLimit : ℤ) (divertAliasKey : Option String) (nowMs : ℤ) :
    Option (ClientQuotaView × QuotaStore) :=
  (store.upsertQuota clientId aliasKey monthlyTokenLimit divertAliasKey).map fun written =>
    let period := periodKey nowMs
    (toView aliasKey monthlyTokenLimit divertAliasKey (written.getUsage clientId aliasKey period)
      period nowMs, written)

/-- The listing reads the clock of the service, the fallbacks take `nowMs`. -/
def describeClientQuotas (store : QuotaStore) (clientId : ClientId) (clockMs nowMs : ℤ) :
    ClientQuotasView :=
  let quotas := describeQuotas store clientId clockMs
  let retryAfter := match quotas.head? with
    | some sample => sample.retryAfterSeconds
    | none => retryAfterSeconds nowMs
  { clientId
    periodKey := match quotas.head? with
      | some sample => sample.periodKey
      | none => periodKey nowMs
    resetsAt := match quotas.head? with
      | some sample => sample.resetsAt
      | none => nowMs / 1000 + retryAfter
    retryAfterSeconds := retryAfter
    quotas }

def entriesOf (store : QuotaStore) (clientId : ClientId) (aliasKey : String) (nowMs : ℤ) :
    List ClientQuotaView :=
  (describeQuotas store clientId nowMs).filter fun view => view.aliasKey = aliasKey

section Listing

variable (store : QuotaStore) (clientId : ClientId) (aliasKey period : String) (nowMs : ℤ)

theorem usageMap_get :
    mapGet (store.listUsageByClientPeriod clientId period) aliasKey =
      store.getUsage clientId aliasKey period := by
  refine mapGet_eq _ aliasKey _ ?_ ?_
  · rintro entry member rfl
    simp only [QuotaStore.listUsageByClientPeriod, List.mem_filterMap, Option.map_eq_some_iff]
      at member
    obtain ⟨listed, _, usage, stored, rfl⟩ := member
    exact stored
  · intro present
    obtain ⟨usage, stored⟩ := Option.isSome_iff_exists.mp present
    refine ⟨(aliasKey, usage), ?_, rfl⟩
    simp only [QuotaStore.listUsageByClientPeriod, List.mem_filterMap, List.mem_insertionSort,
      List.mem_map, List.mem_filter, decide_eq_true_eq, Option.map_eq_some_iff]
    refine ⟨aliasKey, ⟨(clientId, aliasKey, period), ⟨?_, rfl, rfl⟩, rfl⟩, usage, stored, rfl⟩
    exact AList.lookup_isSome.mp present

def quotaAliases (store : QuotaStore) (clientId : ClientId) : List String :=
  ((store.quotas.keys.filter fun key => key.1 = clientId).map Prod.snd).insertionSort (· ≤ ·)

theorem mem_quotaAliases :
    aliasKey ∈ quotaAliases store clientId ↔ (store.getQuota clientId aliasKey).isSome = true := by
  unfold quotaAliases QuotaStore.getQuota
  rw [List.mem_insertionSort, AList.lookup_isSome]
  constructor
  · intro member
    obtain ⟨key, kept, rfl⟩ := List.mem_map.mp member
    obtain ⟨stored, same⟩ := List.mem_filter.mp kept
    rw [decide_eq_true_eq] at same
    rw [← same]
    exact stored
  · intro stored
    exact List.mem_map.mpr ⟨(clientId, aliasKey), List.mem_filter.mpr ⟨stored, by simp⟩, rfl⟩

theorem quotaAliases_nodup : (quotaAliases store clientId).Nodup := by
  unfold quotaAliases
  rw [(List.perm_insertionSort _ _).nodup_iff]
  refine List.Nodup.map_on ?_ (store.quotas.keys_nodup.filter _)
  -- The keys kept are all of this client, so the alias tells them apart.
  intro left leftKept right rightKept same
  have leftClient := of_decide_eq_true (List.mem_filter.mp leftKept).2
  have rightClient := of_decide_eq_true (List.mem_filter.mp rightKept).2
  exact Prod.ext (leftClient.trans rightClient.symm) same

theorem listQuotasByClient_alias (quota : ClientAliasQuota aliasKey)
    (found : store.getQuota clientId aliasKey = some quota) :
    ((store.listQuotasByClient clientId).filter fun row => row.1 = aliasKey) =
      [⟨aliasKey, quota⟩] := by
  have picked : (fun other => ((store.getQuota clientId other).map (Sigma.mk other)).filter
      fun row => row.1 = aliasKey) = fun other => if other == aliasKey then
        (store.getQuota clientId other).map (Sigma.mk other) else none := by
    funext other
    cases store.getQuota clientId other <;> by_cases same : other = aliasKey <;>
      simp [Option.filter, same]
  have listed : aliasKey ∈ quotaAliases store clientId :=
    (mem_quotaAliases store clientId aliasKey).mpr (by rw [found]; rfl)
  have once : (quotaAliases store clientId).filter (· == aliasKey) = [aliasKey] := by
    rw [List.filter_beq, List.count_eq_one_of_mem (quotaAliases_nodup store clientId) listed]
    rfl
  change ((quotaAliases store clientId).filterMap _).filter _ = _
  rw [List.filter_filterMap, picked, ← List.filterMap_filter, once]
  simp [found]

def viewOf (store : QuotaStore) (clientId : ClientId) (aliasKey : String)
    (quota : ClientAliasQuota aliasKey) (nowMs : ℤ) : ClientQuotaView :=
  toView aliasKey quota.monthlyTokenLimit quota.divertAliasKey
    (store.getUsage clientId aliasKey (periodKey nowMs)) (periodKey nowMs) nowMs

theorem describeQuotas_eq :
    describeQuotas store clientId nowMs =
      (store.listQuotasByClient clientId).map fun row =>
        viewOf store clientId row.1 row.2 nowMs := by
  simp only [describeQuotas, usageMap_get, viewOf]

theorem entriesOf_metered (quota : ClientAliasQuota aliasKey)
    (found : store.getQuota clientId aliasKey = some quota) :
    entriesOf store clientId aliasKey nowMs = [viewOf store clientId aliasKey quota nowMs] := by
  unfold entriesOf
  rw [describeQuotas_eq, List.filter_map]
  have alone := listQuotasByClient_alias store clientId aliasKey quota found
  change List.map _ ((store.listQuotasByClient clientId).filter fun row => row.1 = aliasKey) = _
  rw [alone]
  rfl

theorem describeQuotas_stamp (view : ClientQuotaView)
    (listed : view ∈ describeQuotas store clientId nowMs) :
    view.periodKey = periodKey nowMs ∧ view.resetsAt = nextUtcMonthStart nowMs / 1000 ∧
      view.retryAfterSeconds = retryAfterSeconds nowMs := by
  obtain ⟨row, _, rfl⟩ := List.mem_map.mp listed
  exact ⟨rfl, rfl, rfl⟩

end Listing

def DivertsOrThrows (aliasKey : String) (answer : Except QuotaExhaustedDetail String) : Prop :=
  (∃ target, target ≠ aliasKey ∧ answer = .ok target) ∨ ∃ detail, answer = .error detail

/-- The entry of an alias, the gate on it and the envelope around it, at one instant. -/
structure ShowsGate (store : QuotaStore) (clientId : ClientId) (aliasKey : String) (nowMs : ℤ)
    (view : ClientQuotaView) : Prop where
  exhausted : view.exhausted = true ↔
    DivertsOrThrows aliasKey (store.resolveTarget nowMs (some clientId) aliasKey)
  divert : ∀ target, target ≠ aliasKey →
    store.resolveTarget nowMs (some clientId) aliasKey = .ok target →
      view.divertAliasKey = some target
  refusal : ∀ detail, store.resolveTarget nowMs (some clientId) aliasKey = .error detail →
    view.aliasKey = detail.aliasKey ∧ view.tokens = detail.used ∧
      view.monthlyTokenLimit = detail.limit ∧ view.periodKey = detail.periodKey ∧
      view.resetsAt = detail.resetsAt ∧ view.retryAfterSeconds = detail.retryAfterSeconds nowMs
  envelope : ∀ fallbackMs,
    (describeClientQuotas store clientId nowMs fallbackMs).periodKey = view.periodKey ∧
      (describeClientQuotas store clientId nowMs fallbackMs).resetsAt = view.resetsAt ∧
      (describeClientQuotas store clientId nowMs fallbackMs).retryAfterSeconds =
        view.retryAfterSeconds ∧
      view ∈ (describeClientQuotas store clientId nowMs fallbackMs).quotas

section Gate

variable (store : QuotaStore) (clientId : ClientId) (aliasKey : String) (nowMs : ℤ)
  (quota : ClientAliasQuota aliasKey)

theorem divertsOrThrows_iff (answer : Except QuotaExhaustedDetail String) :
    DivertsOrThrows aliasKey answer ↔ answer ≠ .ok aliasKey := by
  unfold DivertsOrThrows
  cases answer with
  | error detail => simp
  | ok target => simp

theorem viewOf_tokens :
    (viewOf store clientId aliasKey quota nowMs).tokens =
      store.tokensOf clientId aliasKey (periodKey nowMs) := by
  unfold viewOf toView QuotaStore.tokensOf
  cases store.getUsage clientId aliasKey (periodKey nowMs) <;> rfl

theorem viewOf_exhausted (found : store.getQuota clientId aliasKey = some quota) :
    (viewOf store clientId aliasKey quota nowMs).exhausted = true ↔
      ¬ store.BelowLimit nowMs clientId aliasKey := by
  have shown : (viewOf store clientId aliasKey quota nowMs).exhausted =
      decide ((quota.monthlyTokenLimit : ℚ) ≤
        (viewOf store clientId aliasKey quota nowMs).tokens) := rfl
  rw [shown, viewOf_tokens, decide_eq_true_eq]
  simp only [QuotaStore.BelowLimit, found, Option.mem_some_iff, forall_eq', not_lt]

theorem viewOf_divert (found : store.getQuota clientId aliasKey = some quota) (target : String)
    (other : target ≠ aliasKey)
    (answer : store.resolveTarget nowMs (some clientId) aliasKey = .ok target) :
    quota.divertAliasKey = some target := by
  simp only [QuotaStore.resolveTarget, found] at answer
  split at answer
  · cases answer
    exact absurd rfl other
  · split at answer
    · rename_i named
      cases answer
      exact (Option.filter_eq_some_iff.mp named).1
    · cases answer

theorem viewOf_refusal (found : store.getQuota clientId aliasKey = some quota)
    (detail : QuotaExhaustedDetail)
    (answer : store.resolveTarget nowMs (some clientId) aliasKey = .error detail) :
    detail =
      { clientId, aliasKey, periodKey := periodKey nowMs
        limit := quota.monthlyTokenLimit
        used := (viewOf store clientId aliasKey quota nowMs).tokens
        resetsAt := (viewOf store clientId aliasKey quota nowMs).resetsAt } := by
  simp only [QuotaStore.resolveTarget, found] at answer
  rw [viewOf_tokens]
  split at answer
  · cases answer
  · split at answer
    · cases answer
    · cases answer
      rfl

theorem viewOf_envelope (fallbackMs : ℤ) (view : ClientQuotaView)
    (listed : view ∈ describeQuotas store clientId nowMs) :
    (describeClientQuotas store clientId nowMs fallbackMs).periodKey = view.periodKey ∧
      (describeClientQuotas store clientId nowMs fallbackMs).resetsAt = view.resetsAt ∧
      (describeClientQuotas store clientId nowMs fallbackMs).retryAfterSeconds =
        view.retryAfterSeconds ∧
      view ∈ (describeClientQuotas store clientId nowMs fallbackMs).quotas := by
  obtain ⟨period, resets, hint⟩ := describeQuotas_stamp store clientId nowMs view listed
  -- The sample is an entry of the same reading, so it carries the same stamp.
  cases first : (describeQuotas store clientId nowMs).head? with
  | none =>
      rw [List.head?_eq_none_iff] at first
      rw [first] at listed
      cases listed
  | some sample =>
      obtain ⟨samplePeriod, sampleResets, sampleHint⟩ :=
        describeQuotas_stamp store clientId nowMs sample (List.mem_of_head? first)
      simp only [describeClientQuotas, first]
      exact ⟨samplePeriod.trans period.symm, sampleResets.trans resets.symm,
        sampleHint.trans hint.symm, listed⟩

theorem viewOf_showsGate (found : store.getQuota clientId aliasKey = some quota) :
    ShowsGate store clientId aliasKey nowMs (viewOf store clientId aliasKey quota nowMs) where
  exhausted := by
    rw [viewOf_exhausted store clientId aliasKey nowMs quota found, divertsOrThrows_iff,
      Ne, QuotaStore.resolveTarget_serves_requested_iff]
  divert := viewOf_divert store clientId aliasKey nowMs quota found
  refusal detail answer := by
    rw [viewOf_refusal store clientId aliasKey nowMs quota found detail answer]
    exact ⟨rfl, rfl, rfl, rfl, rfl, rfl⟩
  envelope fallbackMs := by
    refine viewOf_envelope store clientId nowMs fallbackMs _ ?_
    have entry : viewOf store clientId aliasKey quota nowMs ∈
        entriesOf store clientId aliasKey nowMs := by
      rw [entriesOf_metered store clientId aliasKey nowMs quota found]
      exact List.mem_singleton_self _
    exact (List.mem_filter.mp entry).1

theorem upsertQuota_listed (monthlyTokenLimit : ℤ) (divertAliasKey : Option String)
    (view : ClientQuotaView) (written : QuotaStore)
    (accepted : upsertQuota store clientId aliasKey monthlyTokenLimit divertAliasKey nowMs =
      some (view, written)) :
    entriesOf written clientId aliasKey nowMs = [view] := by
  obtain ⟨_, wrote, same⟩ := Option.map_eq_some_iff.mp accepted
  cases same
  obtain ⟨quota, found, limit, divert⟩ :=
    QuotaStore.getQuota_upsertQuota store clientId aliasKey monthlyTokenLimit divertAliasKey written
      wrote
  rw [entriesOf_metered written clientId aliasKey nowMs quota found, viewOf, limit, divert]

end Gate

/-- Of an alias with a quota row the listing has one entry, and it shows what
the gate does at that instant. The view of a write is the entry listed next. -/
theorem reported_is_enforced (store : QuotaStore) (clientId : ClientId) (aliasKey : String)
    (nowMs : ℤ) :
    ((store.getQuota clientId aliasKey).isSome = true →
      ∃ view, entriesOf store clientId aliasKey nowMs = [view] ∧
        ShowsGate store clientId aliasKey nowMs view) ∧
    ∀ monthlyTokenLimit divertAliasKey view written,
      upsertQuota store clientId aliasKey monthlyTokenLimit divertAliasKey nowMs =
        some (view, written) →
      entriesOf written clientId aliasKey nowMs = [view] := by
  refine ⟨fun metered => ?_, upsertQuota_listed store clientId aliasKey nowMs⟩
  obtain ⟨quota, found⟩ := Option.isSome_iff_exists.mp metered
  exact ⟨viewOf store clientId aliasKey quota nowMs,
    entriesOf_metered store clientId aliasKey nowMs quota found,
    viewOf_showsGate store clientId aliasKey nowMs quota found⟩

/-- `codex` has spent all of its ten tokens and is shown as the gate treats it. -/
theorem reported_is_enforced_spent :
    (∃ view, entriesOf QuotaStore.spentDivert QuotaStore.exampleClient "codex" 0 = [view] ∧
        ShowsGate QuotaStore.spentDivert QuotaStore.exampleClient "codex" 0 view) ∧
      DivertsOrThrows "codex"
        (QuotaStore.spentDivert.resolveTarget 0 (some QuotaStore.exampleClient) "codex") := by
  refine ⟨(reported_is_enforced QuotaStore.spentDivert QuotaStore.exampleClient "codex" 0).1
    (by decide +kernel), Or.inl ⟨"slave", by decide, by decide +kernel⟩⟩

end QuotaService

end LlmGateway.Quota
