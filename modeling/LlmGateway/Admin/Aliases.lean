import LlmGateway.Lib.JsText
import LlmGateway.Providers.Registry

/-!
The admin operations that create and delete an alias. A created alias replaces
whatever entries its name had; both operations are refused by a truthy read of
`aliases`, which also finds inherited names.
-/

namespace LlmGateway.Admin

open Providers

/-- What a rejected request is answered with. The issues of a body that fails
its schema are outside the model. -/
inductive AdminError where
  | invalidBody
  | badRequest (message : String)
  | notFound (message : String)
  | conflict (message : String)
  deriving DecidableEq, Repr

/-- `/^[a-z0-9][a-z0-9_-]*$/` of at most 64 characters. -/
def isAliasId (id : String) : Bool :=
  Js.utf16Length id ≤ 64 && match id.toList with
    | [] => false
    | head :: tail =>
        (head.isLower || head.isDigit) &&
          tail.all fun c => c.isLower || c.isDigit || c == '_' || c == '-'

/-- `/^[^/\s]+\/[^/\s]+$/`. -/
def isChainEntry (entry : String) : Bool :=
  match entry.toList.splitOn '/' with
  | [providerId, modelKey] =>
      !providerId.isEmpty && !modelKey.isEmpty && (providerId ++ modelKey).all fun c => !Js.isSpace c
  | _ => false

structure CreateAliasBody where
  id : String
  chain : List String

def CreateAliasBody.isValid (body : CreateAliasBody) : Bool :=
  isAliasId body.id && 1 ≤ body.chain.length && body.chain.length ≤ 64 &&
    body.chain.all isChainEntry

/-- `const [providerId, modelKey] = path.split('/')`, an absent part as empty. -/
def splitEntry (path : String) : String × String :=
  ((segments path)[0]?.getD "", (segments path)[1]?.getD "")

/-- A model row has a provider row, which the schema asks for, so the provider
read can only add inherited names. -/
def entryExists (registry : ProviderRegistry) (path : String) : Bool :=
  let (providerId, modelKey) := splitEntry path
  providerId ≠ "" && modelKey ≠ "" &&
    readProperty (registry.providers.lookup providerId) providerId ≠ .absent &&
    (registry.models.lookup (providerId, modelKey)).isSome

def deleteAlias (registry : ProviderRegistry) (aliasName : String) : ProviderRegistry :=
  { registry with
    aliasEntries := registry.aliasEntries.filter fun entry => entry.aliasName ≠ aliasName }

def entryRow (aliasName : String) (path : String × ℕ) : AliasEntryRow where
  aliasName := aliasName
  position := path.2
  providerId := (splitEntry path.1).1
  modelKey := (splitEntry path.1).2
  priority := 0

def createAlias (registry : ProviderRegistry) (aliasName : String) (chain : List String) :
    ProviderRegistry :=
  { registry with
    aliasEntries := (deleteAlias registry aliasName).aliasEntries ++
      chain.zipIdx.map (entryRow aliasName) }

/-- `registry.aliases[id]` converts to `true`. -/
def aliasFound (registry : ProviderRegistry) (id : String) : Bool :=
  readAliases registry id ≠ .absent

def create (registry : ProviderRegistry) (body : CreateAliasBody) :
    Except AdminError ProviderRegistry :=
  if !body.isValid then .error .invalidBody
  else if aliasFound registry body.id then
    .error (.conflict ("Alias \"" ++ body.id ++ "\" already exists"))
  else match body.chain.filter fun path => !entryExists registry path with
    | [] => .ok (createAlias registry body.id body.chain)
    | missing => .error (.badRequest
        ("Alias chain references unknown entries: " ++ ", ".intercalate missing))

def remove (registry : ProviderRegistry) (id : String) : Except AdminError ProviderRegistry :=
  if aliasFound registry id then .ok (deleteAlias registry id)
  else .error (.notFound ("Alias \"" ++ id ++ "\" not found"))

section Registered

variable (registry written : ProviderRegistry) (name : String)

theorem aliasRegistered_deleteAlias (aliasName : String) :
    (deleteAlias registry aliasName).AliasRegistered name ↔
      registry.AliasRegistered name ∧ name ≠ aliasName := by
  simp only [ProviderRegistry.AliasRegistered, deleteAlias, List.mem_map, List.mem_filter]
  constructor
  · rintro ⟨entry, ⟨member, kept⟩, rfl⟩
    exact ⟨⟨entry, member, rfl⟩, by simpa using kept⟩
  · rintro ⟨⟨entry, member, rfl⟩, different⟩
    exact ⟨entry, ⟨member, by simpa using different⟩, rfl⟩

theorem aliasRegistered_createAlias (aliasName : String) (chain : List String)
    (nonempty : chain ≠ []) :
    (createAlias registry aliasName chain).AliasRegistered name ↔
      registry.AliasRegistered name ∨ name = aliasName := by
  have split : (createAlias registry aliasName chain).AliasRegistered name ↔
      (deleteAlias registry aliasName).AliasRegistered name ∨ name = aliasName := by
    simp only [ProviderRegistry.AliasRegistered, createAlias, List.map_append, List.mem_append,
      List.map_map]
    refine or_congr_right ⟨?_, ?_⟩
    · intro member
      obtain ⟨path, _, same⟩ := List.mem_map.mp member
      exact same.symm
    · rintro rfl
      -- The chain is not empty, so its first entry carries the name.
      obtain ⟨first, rest, rfl⟩ := List.exists_cons_of_ne_nil nonempty
      exact List.mem_map.mpr ⟨(first, 0), by simp, rfl⟩
  rw [split, aliasRegistered_deleteAlias]
  by_cases same : name = aliasName <;> simp [same]

theorem create_registers (body : CreateAliasBody) (created : create registry body = .ok written) :
    written.AliasRegistered name ↔ registry.AliasRegistered name ∨ name = body.id := by
  unfold create at created
  split at created
  · cases created
  · rename_i valid
    split at created
    · cases created
    · split at created
      · cases created
        refine aliasRegistered_createAlias registry name body.id body.chain ?_
        intro empty
        simp [CreateAliasBody.isValid, empty] at valid
      · cases created

theorem remove_registers (id : String) (removed : remove registry id = .ok written) :
    written.AliasRegistered name ↔ registry.AliasRegistered name ∧ name ≠ id := by
  unfold remove at removed
  split at removed
  · cases removed
    exact aliasRegistered_deleteAlias registry name id
  · cases removed

end Registered

end LlmGateway.Admin
