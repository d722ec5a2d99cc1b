import LlmGateway.Lib.JsValue
import LlmGateway.Quota.Period

/-!
The two quota tables and the statements `QuotaRepository` runs on them. The
primary keys are the keys of the maps and the CHECK constraints are fields of
the row types, so a violating write is a statement that returns `none`.
-/

namespace LlmGateway.Quota

structure ClientId where
  text : String
  nonempty : text ≠ ""
  noNul : '\x00' ∉ text.toList
  deriving DecidableEq

structure ClientAliasQuota (aliasKey : String) where
  monthlyTokenLimit : ℤ
  divertAliasKey : Option String
  positive : 0 < monthlyTokenLimit
  noSelfDivert : divertAliasKey ≠ some aliasKey
  deriving DecidableEq

structure ClientAliasUsage where
  tokens : ℚ
  requests : ℕ
  nonneg : 0 ≤ tokens
  deriving DecidableEq

abbrev QuotaKey := ClientId × String

/-- `(client_id, alias_key, period_key)`. -/
abbrev UsageKey := ClientId × String × String

structure QuotaStore where
  quotas : AList fun key : QuotaKey => ClientAliasQuota key.2
  usage : AList fun _ : UsageKey => ClientAliasUsage

namespace QuotaStore

def empty : QuotaStore where
  quotas := ∅
  usage := ∅

def getQuota (store : QuotaStore) (clientId : ClientId) (aliasKey : String) :
    Option (ClientAliasQuota aliasKey) :=
  store.quotas.lookup (clientId, aliasKey)

def upsertQuota (store : QuotaStore) (clientId : ClientId) (aliasKey : String)
    (monthlyTokenLimit : ℤ) (divertAliasKey : Option String) : Option QuotaStore :=
  if valid : 0 < monthlyTokenLimit ∧ divertAliasKey ≠ some aliasKey then
    some { store with
      quotas := store.quotas.insert (clientId, aliasKey)
        ⟨monthlyTokenLimit, divertAliasKey, valid.1, valid.2⟩ }
  else none

def deleteQuota (store : QuotaStore) (clientId : ClientId) (aliasKey : String) :
    Bool × QuotaStore :=
  ((store.getQuota clientId aliasKey).isSome,
    { store with quotas := store.quotas.erase (clientId, aliasKey) })

def getUsage (store : QuotaStore) (clientId : ClientId) (aliasKey periodKey : String) :
    Option ClientAliasUsage :=
  store.usage.lookup (clientId, aliasKey, periodKey)

/-- `usage?.tokens ?? 0` of one counter. -/
def tokensOf (store : QuotaStore) (clientId : ClientId) (aliasKey periodKey : String) : ℚ :=
  match store.getUsage clientId aliasKey periodKey with
  | some usage => usage.tokens
  | none => 0

def requestsOf (store : QuotaStore) (clientId : ClientId) (aliasKey periodKey : String) : ℕ :=
  match store.getUsage clientId aliasKey periodKey with
  | some usage => usage.requests
  | none => 0

theorem tokensOf_nonneg (store : QuotaStore) (clientId : ClientId) (aliasKey periodKey : String) :
    0 ≤ store.tokensOf clientId aliasKey periodKey := by
  unfold tokensOf
  split
  next usage _ => exact usage.nonneg
  next => exact le_refl 0

def addUsage (store : QuotaStore) (clientId : ClientId) (aliasKey periodKey : String)
    (tokens : ℕ) : QuotaStore :=
  { store with
    usage := store.usage.insert (clientId, aliasKey, periodKey)
      -- The upsert adds to the stored counter, and inserts one that starts from zero.
      { tokens := store.tokensOf clientId aliasKey periodKey + tokens
        requests := store.requestsOf clientId aliasKey periodKey + 1
        nonneg := add_nonneg (store.tokensOf_nonneg clientId aliasKey periodKey)
          (Nat.cast_nonneg tokens) } }

def setUsage (store : QuotaStore) (clientId : ClientId) (aliasKey periodKey : String)
    (tokens : ℚ) (requests : ℕ) : Option QuotaStore :=
  if valid : 0 ≤ tokens then
    some { store with
      usage := store.usage.insert (clientId, aliasKey, periodKey) ⟨tokens, requests, valid⟩ }
  else none

section Reads

variable (store : QuotaStore) (clientId other : ClientId) (aliasKey otherAlias : String)
  (periodKey otherPeriod : String) (tokens : ℕ)

theorem getUsage_addUsage_same :
    (store.addUsage clientId aliasKey periodKey tokens).getUsage clientId aliasKey periodKey =
      some { tokens := store.tokensOf clientId aliasKey periodKey + tokens
             requests := store.requestsOf clientId aliasKey periodKey + 1
             nonneg := add_nonneg (store.tokensOf_nonneg clientId aliasKey periodKey)
               (Nat.cast_nonneg tokens) } := by
  simp [addUsage, getUsage]

theorem getUsage_addUsage_other
    (different : (other, otherAlias, otherPeriod) ≠ (clientId, aliasKey, periodKey)) :
    (store.addUsage clientId aliasKey periodKey tokens).getUsage other otherAlias otherPeriod =
      store.getUsage other otherAlias otherPeriod :=
  AList.lookup_insert_ne different

theorem tokensOf_addUsage :
    (store.addUsage clientId aliasKey periodKey tokens).tokensOf other otherAlias otherPeriod =
      store.tokensOf other otherAlias otherPeriod +
        if (other, otherAlias, otherPeriod) = (clientId, aliasKey, periodKey) then (tokens : ℚ)
        else 0 := by
  by_cases same : (other, otherAlias, otherPeriod) = (clientId, aliasKey, periodKey)
  · rw [if_pos same]
    simp only [Prod.mk.injEq] at same
    obtain ⟨rfl, rfl, rfl⟩ := same
    rw [tokensOf, getUsage_addUsage_same]
  · rw [if_neg same, add_zero, tokensOf, getUsage_addUsage_other _ _ _ _ _ _ _ _ same]
    rfl

theorem requestsOf_addUsage :
    (store.addUsage clientId aliasKey periodKey tokens).requestsOf other otherAlias otherPeriod =
      store.requestsOf other otherAlias otherPeriod +
        if (other, otherAlias, otherPeriod) = (clientId, aliasKey, periodKey) then 1 else 0 := by
  by_cases same : (other, otherAlias, otherPeriod) = (clientId, aliasKey, periodKey)
  · rw [if_pos same]
    simp only [Prod.mk.injEq] at same
    obtain ⟨rfl, rfl, rfl⟩ := same
    rw [requestsOf, getUsage_addUsage_same]
  · rw [if_neg same, add_zero, requestsOf, getUsage_addUsage_other _ _ _ _ _ _ _ _ same]
    rfl

theorem getQuota_upsertQuota (monthlyTokenLimit : ℤ) (divertAliasKey : Option String)
    (written : QuotaStore)
    (accepted : store.upsertQuota clientId aliasKey monthlyTokenLimit divertAliasKey =
      some written) :
    ∃ quota, written.getQuota clientId aliasKey = some quota ∧
      quota.monthlyTokenLimit = monthlyTokenLimit ∧ quota.divertAliasKey = divertAliasKey := by
  unfold upsertQuota at accepted
  split at accepted
  next valid =>
    cases accepted
    exact ⟨⟨monthlyTokenLimit, divertAliasKey, valid.1, valid.2⟩, by simp [getQuota], rfl, rfl⟩
  next => cases accepted

theorem getQuota_upsertQuota_other (monthlyTokenLimit : ℤ) (divertAliasKey : Option String)
    (written : QuotaStore)
    (accepted : store.upsertQuota clientId aliasKey monthlyTokenLimit divertAliasKey =
      some written) (different : (other, otherAlias) ≠ (clientId, aliasKey)) :
    written.getQuota other otherAlias = store.getQuota other otherAlias := by
  unfold upsertQuota at accepted
  split at accepted
  · cases accepted
    exact AList.lookup_insert_ne different
  · cases accepted

theorem getQuota_deleteQuota_other (different : (other, otherAlias) ≠ (clientId, aliasKey)) :
    (store.deleteQuota clientId aliasKey).2.getQuota other otherAlias =
      store.getQuota other otherAlias :=
  AList.lookup_erase_ne different

theorem usage_upsertQuota (monthlyTokenLimit : ℤ) (divertAliasKey : Option String)
    (written : QuotaStore)
    (accepted : store.upsertQuota clientId aliasKey monthlyTokenLimit divertAliasKey =
      some written) : written.usage = store.usage := by
  unfold upsertQuota at accepted
  split at accepted
  · cases accepted
    rfl
  · cases accepted

end Reads

end QuotaStore

end LlmGateway.Quota
