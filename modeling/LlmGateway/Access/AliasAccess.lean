import Mathlib.Data.Finset.Dedup
import LlmGateway.Chat.World

/-!
`AliasAccessService` over the rows of `client_alias_access`. No rows of a
client mean every alias; rows are exhaustive. A replacement is one transaction,
so a client's rows are never half of a set.
-/

namespace LlmGateway.Access

open Quota

/-- The rows of `client_alias_access`, as the requests read them. -/
abbrev AccessRows := List (ClientId × String)

inductive AliasAccess where
  | unrestricted
  | restricted (aliases : Finset String)
  deriving DecidableEq

structure AliasAccessDescription where
  clientId : ClientId
  mode : String
  aliases : List String
  deriving DecidableEq

inductive AccessError where
  | duplicateAliasKey (clientId : ClientId) (aliasKey : String)
  /-- A statement of the database throws. -/
  | statement
  deriving DecidableEq

section Service

variable (rows : AccessRows) (clientId : ClientId)

/-- `listByClient`, without the order of the keys. -/
def listByClient : List String := (rows.filter fun row => row.1 = clientId).map Prod.snd

def getAccess (rows : AccessRows) : Option ClientId → AliasAccess
  | none => .unrestricted
  | some clientId =>
      if listByClient rows clientId = [] then .unrestricted
      else .restricted (listByClient rows clientId).toFinset

def AliasAccess.permits : AliasAccess → String → Bool
  | .unrestricted, _ => true
  | .restricted aliases, aliasKey => aliasKey ∈ aliases

def describe (localeCompare : String → String → Bool) : AliasAccessDescription :=
  match getAccess rows (some clientId) with
  | .unrestricted => { clientId, mode := "unrestricted", aliases := [] }
  | .restricted _ =>
      { clientId, mode := "restricted"
        aliases := (listByClient rows clientId).dedup.insertionSort fun a b => localeCompare a b }

def repeatedKey : List String → List String → Option String
  | _, [] => none
  | seen, aliasKey :: rest =>
      if aliasKey ∈ seen then some aliasKey else repeatedKey (aliasKey :: seen) rest

/-- The inserts of the transaction; `fails n` is a failure of the insert of the
key at `n`. The primary key refuses a row that is there. -/
def insertRows (clientId : ClientId) (fails : ℕ → Bool) :
    ℕ → AccessRows → List String → Except AccessError AccessRows
  | _, rows, [] => .ok rows
  | index, rows, aliasKey :: rest =>
      if fails index ∨ (clientId, aliasKey) ∈ rows then .error .statement
      else insertRows clientId fails (index + 1) (rows ++ [(clientId, aliasKey)]) rest

def deleteByClient : AccessRows := rows.filter fun row => row.1 ≠ clientId

def transaction (body : AccessRows → Except AccessError AccessRows) :
    Except AccessError Unit × AccessRows :=
  match body rows with
  | .ok written => (.ok (), written)
  | .error error => (.error error, rows)

def replaceForClient (fails : ℕ → Bool) (aliasKeys : List String) :
    Except AccessError Unit × AccessRows :=
  match repeatedKey [] aliasKeys with
  | some aliasKey => (.error (.duplicateAliasKey clientId aliasKey), rows)
  | none => transaction rows fun rows =>
      insertRows clientId fails 0 (deleteByClient rows clientId) aliasKeys

def deleteForClient (fails : Bool) : Except AccessError Unit × AccessRows :=
  if fails then (.error .statement, rows) else (.ok (), deleteByClient rows clientId)

end Service

section Rows

variable (rows : AccessRows) (clientId other : ClientId)

theorem listByClient_append (more : AccessRows) :
    listByClient (rows ++ more) clientId = listByClient rows clientId ++ listByClient more clientId := by
  simp [listByClient]

theorem listByClient_deleteByClient (different : other ≠ clientId) :
    listByClient (deleteByClient rows clientId) other = listByClient rows other := by
  unfold listByClient deleteByClient
  rw [List.filter_filter]
  congr 1
  apply List.filter_congr
  rintro ⟨owner, aliasKey⟩ _
  by_cases same : owner = other
  · subst same
    simp [different]
  · simp [same]

theorem listByClient_deleted : listByClient (deleteByClient rows clientId) clientId = [] := by
  unfold listByClient deleteByClient
  rw [List.filter_filter, List.map_eq_nil_iff, List.filter_eq_nil_iff]
  rintro ⟨owner, aliasKey⟩ _
  simp

theorem listByClient_keys (aliasKeys : List String) :
    listByClient (aliasKeys.map fun aliasKey => (clientId, aliasKey)) clientId = aliasKeys := by
  induction aliasKeys with
  | nil => rfl
  | cons aliasKey rest ih =>
      unfold listByClient at ih ⊢
      rw [List.map_cons, List.filter_cons_of_pos (by simp), List.map_cons, ih]

theorem listByClient_foreign (aliasKeys : List String) (different : other ≠ clientId) :
    listByClient (aliasKeys.map fun aliasKey => (clientId, aliasKey)) other = [] := by
  unfold listByClient
  rw [List.map_eq_nil_iff, List.filter_eq_nil_iff]
  intro row member
  obtain ⟨aliasKey, _, rfl⟩ := List.mem_map.mp member
  simpa using different.symm

theorem insertRows_ok (fails : ℕ → Bool) (index : ℕ) (aliasKeys : List String)
    (written : AccessRows) (inserted : insertRows clientId fails index rows aliasKeys = .ok written) :
    written = rows ++ aliasKeys.map fun aliasKey => (clientId, aliasKey) := by
  induction aliasKeys generalizing index rows with
  | nil =>
      cases inserted
      exact (List.append_nil _).symm
  | cons aliasKey rest ih =>
      unfold insertRows at inserted
      split at inserted
      · cases inserted
      · rw [ih _ _ inserted, List.append_assoc]
        rfl

theorem replaceForClient_cases (fails : ℕ → Bool) (aliasKeys : List String) :
    (∃ error, replaceForClient rows clientId fails aliasKeys = (.error error, rows)) ∨
      replaceForClient rows clientId fails aliasKeys = (.ok (),
        deleteByClient rows clientId ++ aliasKeys.map fun aliasKey => (clientId, aliasKey)) := by
  unfold replaceForClient transaction
  split
  · exact Or.inl ⟨_, rfl⟩
  · cases inserted : insertRows clientId fails 0 (deleteByClient rows clientId) aliasKeys with
    | error error => exact Or.inl ⟨error, by simp only [inserted]⟩
    | ok written =>
        right
        simp only [inserted]
        rw [insertRows_ok _ _ _ _ _ _ inserted]

theorem getAccess_replaced (aliasKeys : List String) (nonempty : aliasKeys ≠ []) :
    getAccess (deleteByClient rows clientId ++ aliasKeys.map fun aliasKey => (clientId, aliasKey))
      (some clientId) = .restricted aliasKeys.toFinset := by
  have keys : listByClient (deleteByClient rows clientId ++
      aliasKeys.map fun aliasKey => (clientId, aliasKey)) clientId = aliasKeys := by
    rw [listByClient_append, listByClient_deleted, listByClient_keys, List.nil_append]
  rw [getAccess, keys, if_neg nonempty]

theorem getAccess_cleared :
    getAccess (deleteByClient rows clientId) (some clientId) = .unrestricted := by
  rw [getAccess, listByClient_deleted, if_pos rfl]

theorem getAccess_same (left right : AccessRows)
    (same : listByClient left clientId = listByClient right clientId) :
    getAccess left (some clientId) = getAccess right (some clientId) := by
  rw [getAccess, getAccess, same]

theorem permits_getAccess (clientId : Option ClientId) (aliasKey : String) :
    (getAccess rows clientId).permits aliasKey = Chat.isPermitted rows clientId aliasKey := by
  cases clientId with
  | none => rfl
  | some clientId =>
      have named : (aliasKey ∈ listByClient rows clientId) ↔
          ((rows.filter fun row => row.1 = clientId).any fun row => row.2 == aliasKey) = true := by
        simp [listByClient]
      by_cases unstored : listByClient rows clientId = []
      · have access : getAccess rows (some clientId) = .unrestricted := if_pos unstored
        have empty : rows.filter (fun row => row.1 = clientId) = [] := by
          simpa [listByClient] using unstored
        rw [access]
        simp [AliasAccess.permits, Chat.isPermitted, empty]
      · have access : getAccess rows (some clientId) =
            .restricted (listByClient rows clientId).toFinset := if_neg unstored
        have stored : (rows.filter fun row => row.1 = clientId).isEmpty = false := by
          simpa [listByClient] using unstored
        rw [access, Chat.isPermitted]
        simp only [AliasAccess.permits, List.mem_toFinset, stored, Bool.false_or]
        exact Bool.eq_iff_iff.mpr (by rw [decide_eq_true_iff, named])

end Rows

end LlmGateway.Access
