import LlmGateway.Quota.Store

/-!
The monthly quota gate and the accounting behind it. The gate looks at one
alias, the requested one; an exhausted alias is answered by the divert key of
its own row or refused. Accounting charges the alias that served.
-/

namespace LlmGateway.Quota

/-- `if (text)` of an optional string: absent and empty are both false. -/
def truthy (text : Option String) : Option String := text.filter (· ≠ "")

def normaliseTokens : Js.Number → ℕ
  | .finite value => (Js.trunc value).toNat
  | .nan => 0
  | .infinite _ => 0

structure QuotaExhaustedDetail where
  clientId : ClientId
  aliasKey : String
  periodKey : String
  limit : ℤ
  used : ℚ
  /-- Unix seconds. -/
  resetsAt : ℤ
  deriving DecidableEq

namespace QuotaStore

def resolveTarget (store : QuotaStore) (nowMs : ℤ) (clientId : Option ClientId)
    (requestedAlias : String) : Except QuotaExhaustedDetail String :=
  match clientId with
  | none => .ok requestedAlias
  | some clientId =>
      match store.getQuota clientId requestedAlias with
      | none => .ok requestedAlias
      | some quota =>
          let used := store.tokensOf clientId requestedAlias (periodKey nowMs)
          if used < quota.monthlyTokenLimit then .ok requestedAlias
          -- The row of the divert target, if it has one, is not read.
          else match truthy quota.divertAliasKey with
            | some divertAliasKey => .ok divertAliasKey
            | none => .error
                { clientId, aliasKey := requestedAlias, periodKey := periodKey nowMs
                  limit := quota.monthlyTokenLimit, used
                  resetsAt := nextUtcMonthStart nowMs / 1000 }

def recordUsage (store : QuotaStore) (clientId : Option ClientId) (servedAlias : String)
    (tokens : Js.Number) (atMs : ℤ) : QuotaStore :=
  match clientId with
  | none => store
  | some clientId =>
      -- The row of the alias that served decides, not that of the alias asked for.
      if (store.getQuota clientId servedAlias).isSome then
        store.addUsage clientId servedAlias (periodKey atMs) (normaliseTokens tokens)
      else store

/-- The client has no quota row for the alias, or its usage of the current
month is strictly below the limit. -/
def BelowLimit (store : QuotaStore) (nowMs : ℤ) (clientId : ClientId) (aliasKey : String) : Prop :=
  ∀ quota ∈ store.getQuota clientId aliasKey,
    store.tokensOf clientId aliasKey (periodKey nowMs) < quota.monthlyTokenLimit

instance (store : QuotaStore) (nowMs : ℤ) (clientId : ClientId) (aliasKey : String) :
    Decidable (store.BelowLimit nowMs clientId aliasKey) :=
  inferInstanceAs (Decidable (∀ quota ∈ _, _))

def divertOf (store : QuotaStore) (clientId : ClientId) (aliasKey : String) : Option String :=
  (store.getQuota clientId aliasKey).bind fun quota => truthy quota.divertAliasKey

section Gate

variable (store : QuotaStore) (nowMs : ℤ) (clientId : ClientId) (requestedAlias : String)

theorem resolveTarget_below (below : store.BelowLimit nowMs clientId requestedAlias) :
    store.resolveTarget nowMs (some clientId) requestedAlias = .ok requestedAlias := by
  unfold resolveTarget
  cases found : store.getQuota clientId requestedAlias with
  | none => simp [found]
  | some quota => simp [found, below quota found]

theorem resolveTarget_divert (divertAliasKey : String)
    (exhausted : ¬ store.BelowLimit nowMs clientId requestedAlias)
    (names : store.divertOf clientId requestedAlias = some divertAliasKey) :
    store.resolveTarget nowMs (some clientId) requestedAlias = .ok divertAliasKey := by
  unfold BelowLimit at exhausted
  unfold divertOf at names
  unfold resolveTarget
  cases found : store.getQuota clientId requestedAlias with
  | none => simp [found] at names
  | some quota =>
      simp only [found, Option.mem_some_iff, forall_eq'] at exhausted
      simp only [found, Option.bind_some] at names
      simp [found, exhausted, names]

theorem resolveTarget_refuse (exhausted : ¬ store.BelowLimit nowMs clientId requestedAlias)
    (alone : store.divertOf clientId requestedAlias = none) :
    ∃ detail : QuotaExhaustedDetail,
      store.resolveTarget nowMs (some clientId) requestedAlias = .error detail ∧
      detail.clientId = clientId ∧ detail.aliasKey = requestedAlias ∧
      detail.periodKey = periodKey nowMs := by
  unfold BelowLimit at exhausted
  unfold divertOf at alone
  unfold resolveTarget
  cases found : store.getQuota clientId requestedAlias with
  | none => simp [found] at exhausted
  | some quota =>
      simp only [found, Option.mem_some_iff, forall_eq'] at exhausted
      simp only [found, Option.bind_some] at alone
      simp [found, exhausted, alone]

theorem divertOf_ne (divertAliasKey : String)
    (names : store.divertOf clientId requestedAlias = some divertAliasKey) :
    divertAliasKey ≠ requestedAlias := by
  unfold divertOf at names
  cases found : store.getQuota clientId requestedAlias with
  | none => simp [found] at names
  | some quota =>
      simp only [found, Option.bind_some, truthy, Option.filter_eq_some_iff] at names
      intro same
      exact quota.noSelfDivert (by rw [names.1, same])

theorem resolveTarget_ok (served : String)
    (answer : store.resolveTarget nowMs (some clientId) requestedAlias = .ok served) :
    (served = requestedAlias ∧ store.BelowLimit nowMs clientId requestedAlias) ∨
      (¬ store.BelowLimit nowMs clientId requestedAlias ∧
        store.divertOf clientId requestedAlias = some served) := by
  by_cases below : store.BelowLimit nowMs clientId requestedAlias
  · rw [resolveTarget_below store nowMs clientId requestedAlias below] at answer
    cases answer
    exact Or.inl ⟨rfl, below⟩
  · cases names : store.divertOf clientId requestedAlias with
    | some divertAliasKey =>
        rw [resolveTarget_divert store nowMs clientId requestedAlias divertAliasKey below names]
          at answer
        cases answer
        exact Or.inr ⟨below, rfl⟩
    | none =>
        obtain ⟨detail, refused, _⟩ :=
          resolveTarget_refuse store nowMs clientId requestedAlias below names
        rw [refused] at answer
        cases answer

theorem resolveTarget_serves_requested_iff :
    store.resolveTarget nowMs (some clientId) requestedAlias = .ok requestedAlias ↔
      store.BelowLimit nowMs clientId requestedAlias := by
  refine ⟨fun serves => ?_, resolveTarget_below store nowMs clientId requestedAlias⟩
  rcases resolveTarget_ok store nowMs clientId requestedAlias requestedAlias serves with
    ⟨_, below⟩ | ⟨_, names⟩
  · exact below
  · exact absurd rfl (divertOf_ne store clientId requestedAlias requestedAlias names)

theorem served_below_limit_iff :
    (∀ served, store.resolveTarget nowMs (some clientId) requestedAlias = .ok served →
        store.BelowLimit nowMs clientId served) ↔
      (¬ store.BelowLimit nowMs clientId requestedAlias →
        ∀ divertAliasKey, store.divertOf clientId requestedAlias = some divertAliasKey →
          store.BelowLimit nowMs clientId divertAliasKey) := by
  constructor
  · intro serves exhausted divertAliasKey names
    exact serves divertAliasKey
      (resolveTarget_divert store nowMs clientId requestedAlias divertAliasKey exhausted names)
  · intro room served answer
    rcases resolveTarget_ok store nowMs clientId requestedAlias served answer with
      ⟨rfl, below⟩ | ⟨exhausted, names⟩
    · exact below
    · exact room exhausted served names

/-- What the gate serves has tokens left, or an exhausted alias diverts to it: the
gate is not applied again to a divert target. Room is certain exactly when the
target of an exhausted alias has some. -/
theorem served_has_room_or_diverted :
    (∀ served, store.resolveTarget nowMs (some clientId) requestedAlias = .ok served →
      store.BelowLimit nowMs clientId served ∨
        (served ≠ requestedAlias ∧ ¬ store.BelowLimit nowMs clientId requestedAlias ∧
          store.divertOf clientId requestedAlias = some served)) ∧
    ((∀ served, store.resolveTarget nowMs (some clientId) requestedAlias = .ok served →
        store.BelowLimit nowMs clientId served) ↔
      (¬ store.BelowLimit nowMs clientId requestedAlias →
        ∀ divertAliasKey, store.divertOf clientId requestedAlias = some divertAliasKey →
          store.BelowLimit nowMs clientId divertAliasKey)) := by
  refine ⟨fun served answer => ?_, served_below_limit_iff store nowMs clientId requestedAlias⟩
  rcases resolveTarget_ok store nowMs clientId requestedAlias served answer with
    ⟨rfl, below⟩ | ⟨exhausted, names⟩
  · exact Or.inl below
  · exact Or.inr ⟨divertOf_ne store clientId requestedAlias served names, exhausted, names⟩

end Gate

def exampleClient : ClientId := ⟨"acme", by decide, by decide⟩

/-- `codex` diverts to `slave`, and both have spent the whole month. -/
def spentDivert : QuotaStore where
  quotas := (∅ : AList fun key : QuotaKey => ClientAliasQuota key.2)
    |>.insert (exampleClient, "codex") ⟨10, some "slave", by decide, by decide⟩
    |>.insert (exampleClient, "slave") ⟨5, none, by decide, by decide⟩
  usage := (∅ : AList fun _ : UsageKey => ClientAliasUsage)
    |>.insert (exampleClient, "codex", "1970-01") ⟨10, 1, by decide⟩
    |>.insert (exampleClient, "slave", "1970-01") ⟨5, 1, by decide⟩

theorem spent_divert_is_served :
    ¬ ∀ (store : QuotaStore) (nowMs : ℤ) (clientId : ClientId) (requestedAlias served : String),
      store.resolveTarget nowMs (some clientId) requestedAlias = .ok served →
        store.BelowLimit nowMs clientId served := by
  intro claimed
  have spent : ¬ spentDivert.BelowLimit 0 exampleClient "slave" := by decide +kernel
  exact spent (claimed spentDivert 0 exampleClient "codex" "slave" (by decide +kernel))

/-- `codex` has its quota and room in it. -/
def meteredStore : QuotaStore where
  quotas := (∅ : AList fun key : QuotaKey => ClientAliasQuota key.2)
    |>.insert (exampleClient, "codex") ⟨10, none, by decide, by decide⟩
  usage := ∅

/-- Ten tokens are spent on `codex`, and no alias has a quota. -/
def unmeteredStore : QuotaStore where
  quotas := ∅
  usage := (∅ : AList fun _ : UsageKey => ClientAliasUsage)
    |>.insert (exampleClient, "codex", "1970-01") ⟨10, 1, by decide⟩

section Accounting

variable (store : QuotaStore) (clientId : ClientId) (servedAlias aliasKey : String)
  (tokens : Js.Number) (atMs : ℤ) (key : String)

/-- Accounting moves at most one counter: the served alias's, in the month the
request started, and only while the pair has a quota row. -/
def Charges (store : QuotaStore) (charged : Option ClientId) (servedAlias : String) (atMs : ℤ)
    (clientId : ClientId) (aliasKey key : String) : Prop :=
  charged = some clientId ∧ servedAlias = aliasKey ∧ periodKey atMs = key ∧
    (store.getQuota clientId aliasKey).isSome = true

instance (charged : Option ClientId) :
    Decidable (store.Charges charged servedAlias atMs clientId aliasKey key) :=
  inferInstanceAs (Decidable (_ ∧ _ ∧ _ ∧ _))

@[simp] theorem getQuota_recordUsage (charged : Option ClientId) :
    (store.recordUsage charged servedAlias tokens atMs).getQuota clientId aliasKey =
      store.getQuota clientId aliasKey := by
  unfold recordUsage
  split
  · rfl
  · split <;> rfl

theorem recordUsage_cases (charged : Option ClientId) :
    (store.recordUsage charged servedAlias tokens atMs = store ∧
      ∀ clientId aliasKey key,
        ¬ store.Charges charged servedAlias atMs clientId aliasKey key) ∨
    ∃ payer,
      store.recordUsage charged servedAlias tokens atMs =
        store.addUsage payer servedAlias (periodKey atMs) (normaliseTokens tokens) ∧
      ∀ clientId aliasKey key,
        store.Charges charged servedAlias atMs clientId aliasKey key ↔
          (clientId, aliasKey, key) = (payer, servedAlias, periodKey atMs) := by
  cases charged with
  | none => exact Or.inl ⟨rfl, fun _ _ _ charges => by cases charges.1⟩
  | some payer =>
      by_cases metered : (store.getQuota payer servedAlias).isSome = true
      · refine Or.inr ⟨payer, by simp [recordUsage, metered], fun clientId aliasKey key => ?_⟩
        constructor
        · rintro ⟨same, rfl, rfl, _⟩
          cases same
          rfl
        · intro same
          cases same
          exact ⟨rfl, rfl, rfl, metered⟩
      · refine Or.inl ⟨by simp [recordUsage, metered], ?_⟩
        rintro clientId aliasKey key ⟨same, rfl, _, row⟩
        cases same
        exact metered row

theorem tokensOf_recordUsage (charged : Option ClientId) :
    (store.recordUsage charged servedAlias tokens atMs).tokensOf clientId aliasKey key =
      store.tokensOf clientId aliasKey key +
        if store.Charges charged servedAlias atMs clientId aliasKey key then
          (normaliseTokens tokens : ℚ) else 0 := by
  rcases recordUsage_cases store servedAlias tokens atMs charged with
    ⟨unchanged, nobody⟩ | ⟨payer, added, charges⟩
  · rw [unchanged, if_neg (nobody clientId aliasKey key), add_zero]
  · rw [added, tokensOf_addUsage]
    simp only [charges]

theorem requestsOf_recordUsage (charged : Option ClientId) :
    (store.recordUsage charged servedAlias tokens atMs).requestsOf clientId aliasKey key =
      store.requestsOf clientId aliasKey key +
        if store.Charges charged servedAlias atMs clientId aliasKey key then 1 else 0 := by
  rcases recordUsage_cases store servedAlias tokens atMs charged with
    ⟨unchanged, nobody⟩ | ⟨payer, added, charges⟩
  · rw [unchanged, if_neg (nobody clientId aliasKey key), add_zero]
  · rw [added, requestsOf_addUsage]
    simp only [charges]

end Accounting

end QuotaStore

end LlmGateway.Quota
