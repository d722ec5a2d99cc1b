import LlmGateway.Admin.Aliases
import LlmGateway.Lib.Positions
import LlmGateway.Lib.Runs

/-!
The admin operations on aliases, providers and models over the three tables
they keep aligned. The controllers look an alias up with a truthy read of
`registry.aliases`, which also finds inherited properties.
-/

namespace LlmGateway.Admin

open Positions Providers

/-- A row of `alias_weights`. -/
structure WeightRow where
  aliasKey : String
  position : ℕ
  weight : ℤ
  deriving DecidableEq, Repr

structure RegistryStore where
  registry : ProviderRegistry
  weights : List WeightRow

def entryLayout : Layout AliasEntryRow String (String × String × ℤ) where
  key := AliasEntryRow.aliasName
  position := AliasEntryRow.position
  value := fun row => (row.providerId, row.modelKey, row.priority)
  place := fun n row => { row with position := n }
  key_place := fun _ _ => rfl
  position_place := fun _ _ => rfl
  value_place := fun _ _ => rfl

def weightLayout : Layout WeightRow String ℤ where
  key := WeightRow.aliasKey
  position := WeightRow.position
  value := WeightRow.weight
  place := fun n row => { row with position := n }
  key_place := fun _ _ => rfl
  position_place := fun _ _ => rfl
  value_place := fun _ _ => rfl

inductive OperationError where
  | refused (error : AdminError)
  /-- A constraint of the schema failed and the transaction was rolled back. -/
  | database
  deriving DecidableEq, Repr

structure CreateModelBody where
  modelKey : String
  config : ModelConfig
  deriving DecidableEq, Repr

def CreateModelBody.isValid (body : CreateModelBody) : Bool :=
  1 ≤ Js.utf16Length body.modelKey && Js.utf16Length body.modelKey ≤ 120 &&
    1 ≤ Js.utf16Length body.config.real && Js.utf16Length body.config.real ≤ 200 &&
    body.config.maxTokens ≠ some 0

/-- `PutWeightsSchema`. -/
def validWeights (weights : List ℤ) : Bool :=
  weights.all (0 < ·) && 1 ≤ weights.length && weights.length ≤ 64

inductive Operation where
  /-- A body of another shape than its schema has. -/
  | malformed
  | createAlias (body : CreateAliasBody)
  | removeAlias (id : String)
  | appendEntry (id entry : String)
  /-- `index` is `Number(position)`. -/
  | removeEntry (id position : String) (index : Js.Number)
  | setWeights (id : String) (weights : List ℤ)
  | setPriorities (id : String) (priorities : AList fun _ : ℕ => ℕ)
  | createProvider (id : String) (row : ProviderRow)
  | removeProvider (id : String)
  | createModel (id : String) (body : CreateModelBody)
  | removeModel (id modelKey : String)

def refuse {α : Type} (error : AdminError) : Except OperationError α := .error (.refused error)

def refuseIf (condition : Bool) (error : AdminError) : Except OperationError Unit :=
  if condition then refuse error else .ok ()

namespace RegistryStore

def entries (store : RegistryStore) : List AliasEntryRow := store.registry.aliasEntries

def withEntries (store : RegistryStore) (entries : List AliasEntryRow) : RegistryStore :=
  { store with registry := { store.registry with aliasEntries := entries } }

/-- The number of rows an alias has in `alias_entries`. -/
def countEntries (store : RegistryStore) (id : String) : ℕ :=
  (entryLayout.group id store.entries).length

def ensureAlias (store : RegistryStore) (id : String) : Except OperationError Unit :=
  refuseIf (readAliases store.registry id = .absent) (.notFound
    ("Alias \"" ++ id ++ "\" not found"))

/-- `ProviderRegistryService.has`. -/
def hasProvider (store : RegistryStore) (id : String) : Bool :=
  readProperty (store.registry.providers.lookup id) id ≠ .absent

def modelExists (store : RegistryStore) (providerId modelKey : String) : Bool :=
  (store.registry.models.lookup (providerId, modelKey)).isSome

def createAlias (store : RegistryStore) (body : CreateAliasBody) :
    Except OperationError RegistryStore :=
  if !body.isValid then refuse .invalidBody
  else if readAliases store.registry body.id ≠ .absent then
    refuse (.conflict ("Alias \"" ++ body.id ++ "\" already exists"))
  else match body.chain.filter fun path => !entryExists store.registry path with
    | [] => .ok
        { registry := Admin.createAlias store.registry body.id body.chain
          weights := weightLayout.deleteGroup body.id store.weights }
    | missing => refuse (.badRequest
        ("Alias chain references unknown entries: " ++ ", ".intercalate missing))

def removeAlias (store : RegistryStore) (id : String) : Except OperationError RegistryStore := do
  ensureAlias store id
  return { registry := deleteAlias store.registry id
           weights := weightLayout.deleteGroup id store.weights }

/-- `INSERT INTO alias_weights … ON CONFLICT DO UPDATE`. -/
def insertWeight (id : String) (position : ℕ) (weight : ℤ) (weights : List WeightRow) :
    List WeightRow :=
  weightLayout.deleteAt id position weights ++ [⟨id, position, weight⟩]

def appendAliasEntry (store : RegistryStore) (id entry : String) :
    Except OperationError RegistryStore :=
  let count := store.countEntries id
  if (entryLayout.group id store.entries).any (·.position = count) then .error .database
  else
    let weights :=
      if (weightLayout.group id store.weights).isEmpty then store.weights
      else insertWeight id count 1 store.weights
    .ok { store.withEntries (store.entries ++ [entryRow id (entry, count)]) with weights := weights }

def appendRefusal (store : RegistryStore) (id entry : String) : Except OperationError Unit := do
  refuseIf (!isChainEntry entry) .invalidBody
  ensureAlias store id
  refuseIf (!entryExists store.registry entry) (.notFound
    ("Alias entry \"" ++ entry ++ "\" does not reference a configured provider/model"))
  refuseIf ((readAliases store.registry id).length.any (64 ≤ ·)) (.badRequest
    ("Alias \"" ++ id ++ "\" already has the maximum of 64 chain entries"))

def appendEntry (store : RegistryStore) (id entry : String) :
    Except OperationError RegistryStore := do
  appendRefusal store id entry
  appendAliasEntry store id entry

def removeAliasEntry (store : RegistryStore) (id : String) (index : ℕ) : RegistryStore where
  registry := { store.registry with
    aliasEntries := entryLayout.shiftAfter id index (entryLayout.deleteAt id index store.entries) }
  weights := weightLayout.shiftAfter id index (weightLayout.deleteAt id index store.weights)

/-- `Number.isInteger(index) && index >= 0`. -/
def wholeIndex : Js.Number → Option ℕ
  | .finite value => if value.den = 1 ∧ 0 ≤ value.num then some value.num.toNat else none
  | .nan => none
  | .infinite _ => none

def printLength (length : Option ℕ) : String := length.elim "undefined" toString

def removeEntry (store : RegistryStore) (id position : String) (index : Js.Number) :
    Except OperationError RegistryStore := do
  ensureAlias store id
  let length := (readAliases store.registry id).length
  let outOfRange := refuse (.notFound ("Position " ++ position ++ " is out of range for alias \"" ++
    id ++ "\" (chain length " ++ printLength length ++ ")"))
  match wholeIndex index with
  | none => outOfRange
  | some index =>
      -- A comparison with an undefined length is false.
      if length.any (· ≤ index) then outOfRange
      else if length.any (· ≤ 1) then
        refuse (.badRequest ("Alias \"" ++ id ++ "\" must keep at least one chain entry"))
      else return removeAliasEntry store id index

def setWeights (store : RegistryStore) (id : String) (weights : List ℤ) :
    Except OperationError RegistryStore := do
  refuseIf (!validWeights weights) .invalidBody
  ensureAlias store id
  let length := (readAliases store.registry id).length
  refuseIf (length ≠ some weights.length) (.badRequest ("weights length (" ++
    toString weights.length ++ ") must match chain length (" ++ printLength length ++ ")"))
  return { store with
    weights := weightLayout.deleteGroup id store.weights ++
      weights.zipIdx.map fun item => ⟨id, item.2, item.1⟩ }

/-- `UPDATE alias_entries SET priority = ? WHERE alias_name = ? AND position = ?`. -/
def updatePriority (id : String) (position : ℕ) (priority : ℤ) (entries : List AliasEntryRow) :
    List AliasEntryRow :=
  entryLayout.updateAt id position (fun row => { row with priority := priority }) entries

/-- One round of the loop in `replacePriorities`; `current` was read before it. -/
def replacePriority (id : String) (current : List ℤ) (priorities : AList fun _ : ℕ => ℕ)
    (entries : List AliasEntryRow) (position : ℕ) : List AliasEntryRow :=
  match priorities.lookup position with
  | none => entries
  | some requested =>
      if current[position]? = some (requested : ℤ) then entries
      else updatePriority id position requested entries

def setPriorities (store : RegistryStore) (id : String) (priorities : AList fun _ : ℕ => ℕ) :
    Except OperationError RegistryStore := do
  ensureAlias store id
  let length := (readAliases store.registry id).length
  let current := (store.registry.entriesOf id).map AliasEntryRow.priority
  match (priorities.keys.insertionSort (· ≤ ·)).find? fun position => length.any (· ≤ position) with
  | some position => refuse (.badRequest ("position " ++ toString position ++
      " is out of range (chain length " ++ printLength length ++ ")"))
  | none =>
      return store.withEntries ((List.range (length.getD 0)).foldl
        (replacePriority id current priorities) store.entries)

def aliasesUsing (store : RegistryStore) (uses : AliasEntryRow → Bool) : List String :=
  ((store.entries.filter uses).map AliasEntryRow.aliasName).dedup.insertionSort (· ≤ ·)

def createProvider (store : RegistryStore) (id : String) (row : ProviderRow) :
    Except OperationError RegistryStore := do
  refuseIf (!isAliasId id) .invalidBody
  refuseIf (store.hasProvider id) (.conflict ("Provider \"" ++ id ++ "\" already exists"))
  return { store with
    registry := { store.registry with providers := store.registry.providers.insert id row } }

def eraseAll {Key Value : Type} [DecidableEq Key] (keys : List Key)
    (table : AList fun _ : Key => Value) : AList fun _ : Key => Value :=
  keys.foldl (fun table key => table.erase key) table

def ensureProvider (store : RegistryStore) (id : String) : Except OperationError Unit :=
  refuseIf (!store.hasProvider id) (.notFound ("Provider \"" ++ id ++ "\" not found"))

/-- `DELETE FROM providers`, which cascades to the models and the chains. -/
def deleteProvider (store : RegistryStore) (id : String) : RegistryStore :=
  { store with
    registry := { store.registry with
      providers := store.registry.providers.erase id
      models := eraseAll (store.registry.models.keys.filter (·.1 = id)) store.registry.models
      aliasEntries := store.entries.filter (·.providerId ≠ id) } }

def removeProvider (store : RegistryStore) (id : String) :
    Except OperationError RegistryStore := do
  ensureProvider store id
  match store.aliasesUsing (·.providerId = id) with
  | [] => return deleteProvider store id
  | aliases => refuse (.conflict ("Provider \"" ++ id ++ "\" is used by aliases (" ++
      ", ".intercalate aliases ++ "); remove it from those chains first"))

def createModel (store : RegistryStore) (id : String) (body : CreateModelBody) :
    Except OperationError RegistryStore := do
  refuseIf (!body.isValid) .invalidBody
  ensureProvider store id
  refuseIf (store.modelExists id body.modelKey) (.conflict
    ("Model \"" ++ body.modelKey ++ "\" already exists on provider \"" ++ id ++ "\""))
  -- An inherited name passes the check and has no row for the foreign key.
  if (store.registry.providers.lookup id).isNone then .error .database
  else return { store with
    registry := { store.registry with
      models := store.registry.models.insert (id, body.modelKey) body.config } }

/-- `DELETE FROM model_configs`, which cascades to the chains. -/
def deleteModel (store : RegistryStore) (id modelKey : String) : RegistryStore :=
  { store with
    registry := { store.registry with
      models := store.registry.models.erase (id, modelKey)
      aliasEntries := store.entries.filter fun entry =>
        ¬(entry.providerId = id ∧ entry.modelKey = modelKey) } }

def removeModel (store : RegistryStore) (id modelKey : String) :
    Except OperationError RegistryStore := do
  ensureProvider store id
  refuseIf (!store.modelExists id modelKey) (.notFound
    ("Model \"" ++ modelKey ++ "\" not found on provider \"" ++ id ++ "\""))
  match store.aliasesUsing fun entry => entry.providerId = id ∧ entry.modelKey = modelKey with
  | [] => return deleteModel store id modelKey
  | aliases => refuse (.conflict ("Model \"" ++ modelKey ++ "\" on provider \"" ++ id ++
      "\" is used by aliases (" ++ ", ".intercalate aliases ++
      "); remove it from those chains first"))

def perform (store : RegistryStore) : Operation → Except OperationError RegistryStore
  | .malformed => refuse .invalidBody
  | .createAlias body => createAlias store body
  | .removeAlias id => removeAlias store id
  | .appendEntry id entry => appendEntry store id entry
  | .removeEntry id position index => removeEntry store id position index
  | .setWeights id weights => setWeights store id weights
  | .setPriorities id priorities => setPriorities store id priorities
  | .createProvider id row => createProvider store id row
  | .removeProvider id => removeProvider store id
  | .createModel id body => createModel store id body
  | .removeModel id modelKey => removeModel store id modelKey

/-- A refused operation leaves the store as it was. -/
def step (store : RegistryStore) (operation : Operation) : RegistryStore :=
  match perform store operation with
  | .ok written => written
  | .error _ => store

end RegistryStore

end LlmGateway.Admin
