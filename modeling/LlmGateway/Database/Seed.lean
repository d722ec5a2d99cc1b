import LlmGateway.Admin.AliasInvariant
import LlmGateway.Admin.ModelPaths
import LlmGateway.Database.Migrations
import LlmGateway.Lib.KeyedWrites
import LlmGateway.Lib.Schema
import LlmGateway.Routing.FallbackSwitch

/-!
`seedProvidersFromFile`: the file of the first boot, its schema, and what it
writes to the tables of the registry. What `registry.file` reads afterwards is
the file, its defaults left out, over what was there before.
-/

namespace LlmGateway.Seed

open Database Effects KeyedWrites Providers Routing

/-- A model as the file and `listProviders` have it; `Providers.ModelConfig` is its row. -/
structure ModelConfig where
  real : String
  maxTokens : Option ℕ
  supportsStream : Option Bool
  disableThinking : Option Bool
  deriving DecidableEq

structure ProviderConfig (Models : Type) where
  apiKeyEnv : String
  baseURL : Option String
  timeoutMs : Option ℕ
  supportsSearch : Option Bool
  models : Models
  deriving DecidableEq

/-- `Object.entries` puts index keys first, which decides only what fails first. -/
abbrev FileModels := AList fun _ : String => ModelConfig

abbrev Models := Finmap fun _ : String => ModelConfig

structure ProvidersFile where
  providers : AList fun _ : String => ProviderConfig FileModels
  aliases : Option (AList fun _ : String => List String)
  routing : Option RoutingPolicy

section Schemas

open Schema

/-- `.int().positive()`; an integer of the schema is a safe one. -/
def positiveInt : Schema ℕ := fun value =>
  (refine number (fun number => number.den = 1 ∧ 0 < number.num ∧
    number.num ≤ 9007199254740991) value).map fun number => number.num.toNat

/-- `.min(1)`. -/
def nonempty : Schema String := refine string fun text => text ≠ ""

/-- `z.record`, which copies no `__proto__`. -/
def recordOf {Value : Type} (item : Schema Value) : Schema (AList fun _ : String => Value) :=
  fun value => do
    let fields ← record (· ≠ "__proto__") value
    let items ← fields.mapM fun field => (item field.2).map (Sigma.mk field.1)
    some items.toAList

def modelConfigSchema : Schema ModelConfig := fun value => do
  let fields ← object value
  let real ← required nonempty fields "real"
  let maxTokens ← optional positiveInt fields "maxTokens"
  let supportsStream ← optional boolean fields "supportsStream"
  let disableThinking ← optional boolean fields "disableThinking"
  some { real, maxTokens, supportsStream, disableThinking }

/-- `url` is `z.string().url()`. -/
def providerConfigSchema (url : Schema String) : Schema (ProviderConfig FileModels) :=
  fun value => do
    let fields ← object value
    let apiKeyEnv ← required nonempty fields "apiKeyEnv"
    let baseURL ← optional url fields "baseURL"
    let timeoutMs ← optional positiveInt fields "timeoutMs"
    let supportsSearch ← optional boolean fields "supportsSearch"
    let models ← required (recordOf modelConfigSchema) fields "models"
    some { apiKeyEnv, baseURL, timeoutMs, supportsSearch, models }

def aliasesSchema : Schema (AList fun _ : String => List String) :=
  recordOf (refine (array (refine string Admin.isChainEntry)) fun chain => chain ≠ [])

def routingSchema : Schema RoutingPolicy := fun value => do
  let fields ← object value
  let fallbackEnabled ← optional boolean fields "fallbackEnabled"
  let healthCheckIntervalMs ← optional positiveInt fields "healthCheckIntervalMs"
  let requestTimeoutMs ← optional positiveInt fields "requestTimeoutMs"
  let failureThreshold ← optional positiveInt fields "failureThreshold"
  let cooldownMs ← optional positiveInt fields "cooldownMs"
  let halfOpenProbes ← optional positiveInt fields "halfOpenProbes"
  some
    { fallbackEnabled := fallbackEnabled.getD true
      healthCheckIntervalMs := healthCheckIntervalMs.getD 30000
      requestTimeoutMs := requestTimeoutMs.getD 120000
      failureThreshold := failureThreshold.getD 5
      cooldownMs := cooldownMs.getD 30000
      halfOpenProbes := halfOpenProbes.getD 1 }

def providersFileSchema (url : Schema String) : Schema ProvidersFile := fun value => do
  let fields ← object value
  let providers ← required (recordOf (providerConfigSchema url)) fields "providers"
  let aliases ← optional aliasesSchema fields "aliases"
  let routing ← optional routingSchema fields "routing"
  some { providers, aliases, routing }

end Schemas

structure Tables where
  providers : AList fun _ : String => ProviderRow
  /-- The providers whose `supports_search` is 1. -/
  searchable : List String
  models : AList fun _ : String × String => Providers.ModelConfig
  aliasEntries : List AliasEntryRow
  weights : List Admin.WeightRow
  policy : Option RoutingPolicyRow

namespace Tables

def registry (tables : Tables) : ProviderRegistry where
  providers := tables.providers
  models := tables.models
  aliasEntries := tables.aliasEntries
  requestTimeoutMs := (getPolicy tables.policy).requestTimeoutMs

/-- `DELETE FROM providers`, with its cascades. -/
def deleteProvider (tables : Tables) (id : String) : Tables :=
  let left := Admin.RegistryStore.deleteProvider ⟨tables.registry, tables.weights⟩ id
  { tables with
    providers := left.registry.providers
    searchable := tables.searchable.filter (· ≠ id)
    models := left.registry.models
    aliasEntries := left.registry.aliasEntries }

end Tables

def ModelConfig.row (config : ModelConfig) : Providers.ModelConfig where
  real := config.real
  maxTokens := config.maxTokens
  supportsStream := config.supportsStream ≠ some false
  disableThinking := config.disableThinking = some true

def ProviderConfig.row {Models : Type} (config : ProviderConfig Models) : ProviderRow where
  apiKeyEnv := config.apiKeyEnv
  baseUrl := config.baseURL
  timeoutMs := config.timeoutMs

namespace Tables

def insertModel (id : String) (tables : Tables) (modelKey : String) (config : ModelConfig) :
    Except String Tables :=
  if config.maxTokens = some 0 then
    .error "CHECK constraint failed: max_tokens IS NULL OR max_tokens > 0"
  else .ok { tables with models := tables.models.insert (id, modelKey) config.row }

/-- The id is free: its row was deleted before. -/
def insertProvider (tables : Tables) (id : String) (config : ProviderConfig FileModels) :
    Except String Tables :=
  if config.timeoutMs = some 0 then
    .error "CHECK constraint failed: timeout_ms IS NULL OR timeout_ms > 0"
  else .ok
    { tables with
      providers := tables.providers.insert id config.row
      searchable :=
        if config.supportsSearch = some true then id :: tables.searchable else tables.searchable }

def upsertProvider (tables : Tables) (id : String) (config : ProviderConfig FileModels) :
    Except String Tables := do
  let inserted ← insertProvider (tables.deleteProvider id) id config
  writeAll (insertModel id) config.models inserted

def replaceAliasEntry (tables : Tables) (aliasName : String) (paths : List String) :
    Except String Tables :=
  match Admin.replaceAliasEntry tables.registry aliasName paths with
  | .ok next => .ok { tables with aliasEntries := next.aliasEntries }
  | .error error => .error error.message

/-- `ProviderRegistryRepository.setPolicy` with every field given. -/
def setPolicy (tables : Tables) (policy : RoutingPolicy) : Except String Tables :=
  let fields : PolicyFields :=
    { fallbackEnabled := some policy.fallbackEnabled
      healthCheckIntervalMs := some policy.healthCheckIntervalMs
      requestTimeoutMs := some policy.requestTimeoutMs
      failureThreshold := some policy.failureThreshold
      cooldownMs := some policy.cooldownMs
      halfOpenProbes := some policy.halfOpenProbes }
  match Routing.setPolicy tables.policy fields with
  | some row => .ok { tables with policy := row }
  | none => .error "CHECK constraint failed: routing_policy"

end Tables

def writeRouting (file : ProvidersFile) (tables : Tables) : Except String Tables :=
  match file.routing with
  | none => .ok tables
  | some routing => tables.setPolicy routing

def seedTables (file : ProvidersFile) (tables : Tables) : Except String Tables := do
  let upserted ← writeAll Tables.upsertProvider file.providers tables
  let replaced ← writeAll Tables.replaceAliasEntry (file.aliases.getD ∅) upserted
  writeRouting file replaced

section Seeding

structure SeedFile where
  name : String
  path : String
  /-- What `readFileSync` gives. -/
  raw : Except String String

/-- What the program does not bring itself. -/
structure Platform where
  /-- `JSON.parse`. -/
  parseJson : String → Except String Js.Json
  /-- `z.string().url()`. -/
  url : Schema String
  /-- The message of what `ProvidersFileSchema.parse` throws. -/
  issues : Js.Json → String

structure SeedResult where
  applied : Bool
  providers : ℕ
  aliases : ℕ
  policy : Bool
  deriving DecidableEq

variable (platform : Platform) (seed : SeedFile) (recordedAt : ℤ)

def readSeed : Except String ProvidersFile :=
  match seed.raw with
  | .error message => .error ("Cannot read seed file at " ++ seed.path ++ ": " ++ message)
  | .ok raw =>
      match platform.parseJson raw with
      | .error message =>
          .error ("Invalid JSON in seed file at " ++ seed.path ++ ": " ++ message)
      | .ok value =>
          match providersFileSchema platform.url value with
          | none => .error (platform.issues value)
          | some file => .ok file

def alreadySeeded (store : Store Tables) (seedName : String) : Bool :=
  store.rows.any fun row => row.kind = .seed ∧ row.name = seedName

def writeTables (file : ProvidersFile) : EStateM String (Store Tables) Unit := fun store =>
  match seedTables file store.db with
  | .ok db => .ok () { store with db := db }
  | .error message => .error message store

def ProvidersFile.result (file : ProvidersFile) : SeedResult where
  applied := true
  providers := file.providers.keys.length
  aliases := (file.aliases.getD ∅).keys.length
  policy := file.routing.isSome

def seedProvidersFromFile : EStateM String (Store Tables) SeedResult := do
  modify ensureSchema
  let store ← get
  if alreadySeeded store seed.name then
    return { applied := false, providers := 0, aliases := 0, policy := false }
  match readSeed platform seed with
  | .error message => throw message
  | .ok file =>
      transaction none do
        writeTables file
        insertRecord { name := seed.name, appliedAt := recordedAt, kind := .seed }
      return file.result

end Seeding

section Reading

def listedModel (row : Providers.ModelConfig) : ModelConfig where
  real := row.real
  maxTokens := row.maxTokens
  supportsStream := if row.supportsStream then none else some false
  disableThinking := if row.disableThinking then some true else none

namespace Tables

variable (tables : Tables)

/-- Assigning `__proto__` makes no property. -/
def listModels (id : String) : Models :=
  tabulate ((tables.models.keys.filter (·.1 = id)).map Prod.snd) fun modelKey =>
    if modelKey = "__proto__" then none
    else (tables.models.lookup (id, modelKey)).map listedModel

def listedProvider (id : String) (row : ProviderRow) : ProviderConfig Models where
  apiKeyEnv := row.apiKeyEnv
  baseURL := row.baseUrl.filter (· ≠ "")
  timeoutMs := row.timeoutMs.filter (· ≠ 0)
  supportsSearch := if id ∈ tables.searchable then some true else none
  models := tables.listModels id

def listProviders : Finmap fun _ : String => ProviderConfig Models :=
  tabulate tables.providers.keys fun id =>
    if id = "__proto__" then none
    else (tables.providers.lookup id).map (tables.listedProvider id)

def listAliases : Finmap fun _ : String => List String :=
  tabulate tables.registry.aliasNames fun aliasName =>
    if aliasName = "__proto__" then none else tables.registry.listAliases aliasName

end Tables

end Reading

end LlmGateway.Seed
