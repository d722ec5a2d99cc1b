import LlmGateway.Admin.Aliases
import LlmGateway.Quota.Service

/-!
The admin operations that write and delete quota rows. A write checks the whole
body before its first row, the aliases it names against the registry of that
moment; nothing checks them again later.
-/

namespace LlmGateway.Admin

open Providers Quota

/-- `monthlyTokenLimit` is the number its coercion gives. -/
structure QuotaEntry where
  aliasKey : String
  monthlyTokenLimit : Js.Number
  divertAliasKey : Option String
  deriving DecidableEq

/-- `.int().positive()`; an integer of the schema is a safe one. -/
def tokenLimit : Js.Number → Option ℤ
  | .finite value =>
      if value.den = 1 ∧ 0 < value.num ∧ value.num ≤ 9007199254740991 then some value.num else none
  | .nan => none
  | .infinite _ => none

def QuotaEntry.isValid (entry : QuotaEntry) : Bool :=
  entry.aliasKey ≠ "" && (tokenLimit entry.monthlyTokenLimit).isSome &&
    entry.divertAliasKey ≠ some ""

/-- One round of the loop of `assertAliasesExist`. -/
def assertEntry (registry : ProviderRegistry) (index : ℕ) (entry : QuotaEntry) :
    Except AdminError Unit :=
  let field := "quotas[" ++ toString index ++ "]."
  if ¬registry.AliasRegistered entry.aliasKey then .error (.badRequest
    (field ++ "aliasKey: alias \"" ++ entry.aliasKey ++ "\" is not in the alias registry"))
  else match entry.divertAliasKey with
    | none => .ok ()
    | some divertAliasKey =>
        if ¬registry.AliasRegistered divertAliasKey then .error (.badRequest
          (field ++ "divertAliasKey: alias \"" ++ divertAliasKey ++
            "\" is not in the alias registry"))
        else if divertAliasKey = entry.aliasKey then .error (.badRequest
          (field ++ "divertAliasKey: must differ from aliasKey (\"" ++ entry.aliasKey ++ "\")"))
        else .ok ()

def assertAliasesExist (registry : ProviderRegistry) :
    ℕ → List QuotaEntry → Except AdminError Unit
  | _, [] => .ok ()
  | index, entry :: rest =>
      match assertEntry registry index entry with
      | .error error => .error error
      | .ok _ => assertAliasesExist registry (index + 1) rest

/-- The rows are written one by one. A row the schema of the table refuses
throws there, and the rows before it stay. -/
def writeEntries (clientId : ClientId) : QuotaStore → List QuotaEntry → Option Unit × QuotaStore
  | store, [] => (some (), store)
  | store, entry :: rest =>
      match (tokenLimit entry.monthlyTokenLimit).bind fun limit =>
        store.upsertQuota clientId entry.aliasKey limit entry.divertAliasKey with
      | some written => writeEntries clientId written rest
      | none => (none, store)

section Handlers

variable (clients : List ClientId) (registry : ProviderRegistry) (store : QuotaStore)
  (clientId : ClientId)

def clientNotFound (clientId : ClientId) : AdminError :=
  .notFound ("Client \"" ++ clientId.text ++ "\" not found")

/-- The checks of `upsertQuotas` before its first write. -/
def admitQuotas (quotas : List QuotaEntry) : Except AdminError Unit :=
  if clientId ∉ clients then .error (clientNotFound clientId)
  else if !quotas.all QuotaEntry.isValid then .error .invalidBody
  else assertAliasesExist registry 0 quotas

/-- Behind the checks the writes go through: `admitted_writes`. -/
def upsertQuotas (quotas : List QuotaEntry) : Except AdminError QuotaStore :=
  match admitQuotas clients registry clientId quotas with
  | .error error => .error error
  | .ok _ => .ok (writeEntries clientId store quotas).2

def deleteQuota (aliasKey : String) : Except AdminError QuotaStore :=
  if clientId ∉ clients then .error (clientNotFound clientId)
  else match store.deleteQuota clientId aliasKey with
    | (true, written) => .ok written
    | (false, _) => .error (.notFound
        ("Client \"" ++ clientId.text ++ "\" has no quota for alias \"" ++ aliasKey ++ "\""))

end Handlers

section Rows

variable (registry : ProviderRegistry) (store : QuotaStore) (clientId other : ClientId)
  (aliasKey divertAliasKey : String)

theorem assertEntry_ok (index : ℕ) (entry : QuotaEntry)
    (admitted : assertEntry registry index entry = .ok ()) :
    (∀ key, entry.divertAliasKey = some key → registry.AliasRegistered key) ∧
      entry.divertAliasKey ≠ some entry.aliasKey := by
  unfold assertEntry at admitted
  dsimp only at admitted
  split at admitted
  · cases admitted
  · split at admitted
    · rename_i alone
      rw [alone]
      exact ⟨fun key named => (by cases named), fun same => (by cases same)⟩
    · rename_i key named
      split at admitted
      · cases admitted
      · rename_i registered
        split at admitted
        · cases admitted
        · rename_i different
          rw [named]
          refine ⟨fun key same => ?_, fun same => different (Option.some.inj same)⟩
          cases same
          exact not_not.mp registered

theorem assertAliasesExist_ok (index : ℕ) (quotas : List QuotaEntry)
    (admitted : assertAliasesExist registry index quotas = .ok ()) :
    ∀ entry ∈ quotas, (∀ key, entry.divertAliasKey = some key → registry.AliasRegistered key) ∧
      entry.divertAliasKey ≠ some entry.aliasKey := by
  induction quotas generalizing index with
  | nil => exact fun _ member => absurd member List.not_mem_nil
  | cons first rest ih =>
      unfold assertAliasesExist at admitted
      split at admitted
      · cases admitted
      · rename_i checked
        intro entry member
        rcases List.mem_cons.mp member with rfl | later
        · exact assertEntry_ok registry index entry checked
        · exact ih (index + 1) admitted entry later

theorem tokenLimit_pos (value : Js.Number) (limit : ℤ) (accepted : tokenLimit value = some limit) :
    0 < limit := by
  unfold tokenLimit at accepted
  split at accepted
  · split at accepted
    · rename_i bounds
      cases accepted
      exact bounds.2.1
    · cases accepted
  · cases accepted
  · cases accepted

theorem writeEntries_complete (quotas : List QuotaEntry)
    (valid : quotas.all QuotaEntry.isValid = true)
    (distinct : ∀ entry ∈ quotas, entry.divertAliasKey ≠ some entry.aliasKey) :
    (writeEntries clientId store quotas).1 = some () := by
  induction quotas generalizing store with
  | nil => rfl
  | cons first rest ih =>
      rw [List.all_cons, Bool.and_eq_true] at valid
      have limited : (tokenLimit first.monthlyTokenLimit).isSome = true := by
        have checked := valid.1
        simp only [QuotaEntry.isValid, Bool.and_eq_true] at checked
        exact checked.1.2
      obtain ⟨limit, number⟩ := Option.isSome_iff_exists.mp limited
      -- Both CHECK constraints of the table were checked before the first write.
      have accepted : (store.upsertQuota clientId first.aliasKey limit
          first.divertAliasKey).isSome = true := by
        rw [QuotaStore.upsertQuota, dif_pos
          ⟨tokenLimit_pos _ limit number, distinct first List.mem_cons_self⟩]
        rfl
      obtain ⟨written, row⟩ := Option.isSome_iff_exists.mp accepted
      rw [writeEntries, number, Option.bind_some, row]
      exact ih written valid.2 fun entry member => distinct entry (List.mem_cons_of_mem _ member)

theorem divertOf_upsertQuota (limit : ℤ) (divert : Option String) (written : QuotaStore)
    (accepted : store.upsertQuota clientId aliasKey limit divert = some written)
    (otherAlias : String) (names : written.divertOf other otherAlias = some divertAliasKey) :
    store.divertOf other otherAlias = some divertAliasKey ∨ divert = some divertAliasKey := by
  by_cases same : (other, otherAlias) = (clientId, aliasKey)
  · cases same
    obtain ⟨quota, found, _, stored⟩ :=
      store.getQuota_upsertQuota clientId aliasKey limit divert written accepted
    rw [QuotaStore.divertOf, found, Option.bind_some, stored] at names
    exact Or.inr (Option.filter_eq_some_iff.mp names).1
  · rw [QuotaStore.divertOf, store.getQuota_upsertQuota_other clientId other aliasKey otherAlias
      limit divert written accepted same] at names
    exact Or.inl names

theorem divertOf_writeEntries (quotas : List QuotaEntry)
    (names : (writeEntries clientId store quotas).2.divertOf other aliasKey =
      some divertAliasKey) :
    store.divertOf other aliasKey = some divertAliasKey ∨
      ∃ entry ∈ quotas, entry.divertAliasKey = some divertAliasKey := by
  induction quotas generalizing store with
  | nil => exact Or.inl names
  | cons first rest ih =>
      unfold writeEntries at names
      split at names
      · rename_i written accepted
        obtain ⟨limit, _, row⟩ := Option.bind_eq_some_iff.mp accepted
        -- A key read after the write of `first` was there before, or `first` wrote it.
        rcases ih written names with before | ⟨entry, member, named⟩
        · rcases divertOf_upsertQuota store clientId other first.aliasKey divertAliasKey limit
            first.divertAliasKey written row aliasKey before with before | named
          · exact Or.inl before
          · exact Or.inr ⟨first, List.mem_cons_self, named⟩
        · exact Or.inr ⟨entry, List.mem_cons_of_mem _ member, named⟩
      · exact Or.inl names

theorem divertOf_deleteQuota (deleted : String)
    (names : (store.deleteQuota clientId deleted).2.divertOf other aliasKey =
      some divertAliasKey) : store.divertOf other aliasKey = some divertAliasKey := by
  by_cases same : (other, aliasKey) = (clientId, deleted)
  · cases same
    simp [QuotaStore.divertOf, QuotaStore.getQuota, QuotaStore.deleteQuota] at names
  · rwa [QuotaStore.divertOf,
      store.getQuota_deleteQuota_other clientId other deleted aliasKey same] at names

end Rows

section Accepted

variable (clients : List ClientId) (registry : ProviderRegistry) (store written : QuotaStore)
  (clientId other : ClientId) (aliasKey divertAliasKey : String)

theorem admitQuotas_ok (quotas : List QuotaEntry)
    (admitted : admitQuotas clients registry clientId quotas = .ok ()) :
    quotas.all QuotaEntry.isValid = true ∧ assertAliasesExist registry 0 quotas = .ok () := by
  unfold admitQuotas at admitted
  split at admitted
  · cases admitted
  · split at admitted
    · cases admitted
    · rename_i valid
      exact ⟨by simpa using valid, admitted⟩

theorem admitted_writes (quotas : List QuotaEntry)
    (admitted : admitQuotas clients registry clientId quotas = .ok ()) :
    (writeEntries clientId store quotas).1 = some () := by
  obtain ⟨valid, exist⟩ := admitQuotas_ok clients registry clientId quotas admitted
  exact writeEntries_complete store clientId quotas valid fun entry member =>
    (assertAliasesExist_ok registry 0 quotas exist entry member).2

theorem divertOf_upsertQuotas (quotas : List QuotaEntry)
    (accepted : upsertQuotas clients registry store clientId quotas = .ok written)
    (names : written.divertOf other aliasKey = some divertAliasKey) :
    store.divertOf other aliasKey = some divertAliasKey ∨
      registry.AliasRegistered divertAliasKey := by
  unfold upsertQuotas at accepted
  split at accepted
  · cases accepted
  · rename_i admitted
    cases accepted
    rcases divertOf_writeEntries store clientId other aliasKey divertAliasKey quotas names with
      before | ⟨entry, member, named⟩
    · exact Or.inl before
    · have exist := (admitQuotas_ok clients registry clientId quotas admitted).2
      exact Or.inr ((assertAliasesExist_ok registry 0 quotas exist entry member).1 _ named)

theorem divertOf_deleteQuota_ok (deleted : String)
    (accepted : deleteQuota clients store clientId deleted = .ok written)
    (names : written.divertOf other aliasKey = some divertAliasKey) :
    store.divertOf other aliasKey = some divertAliasKey := by
  unfold deleteQuota at accepted
  split at accepted
  · cases accepted
  · split at accepted
    · rename_i row answer
      cases accepted
      exact divertOf_deleteQuota store clientId other aliasKey divertAliasKey deleted
        (by rw [answer]; exact names)
    · cases accepted

end Accepted

end LlmGateway.Admin
