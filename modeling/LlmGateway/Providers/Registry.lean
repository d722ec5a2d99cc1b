import Mathlib.Data.List.AList
import Mathlib.Data.List.Dedup
import Mathlib.Data.List.Sort
import LlmGateway.Lib.JsValue

/-!
The provider registry and the resolution of a requested model name to the
chain of upstream models that may serve it. The registry is read from its
tables on every call. Its read models are plain JavaScript objects filled by
assignment, so a lookup by name also finds what an object inherits, and a row
called `__proto__` replaces what its object inherits from.
-/

namespace LlmGateway.Providers

structure ModelConfig where
  real : String
  maxTokens : Option ℕ
  supportsStream : Bool
  disableThinking : Bool
  deriving DecidableEq, Repr

/-- The properties of the object `listProviders` builds that convert to `true`. -/
def ModelConfig.truthyFields (config : ModelConfig) : List String :=
  (if config.real = "" then [] else ["real"]) ++
    (if config.maxTokens.any (· ≠ 0) then ["maxTokens"] else []) ++
    if config.disableThinking then ["disableThinking"] else []

structure ProviderRow where
  apiKeyEnv : String
  baseUrl : Option String
  timeoutMs : Option ℕ
  deriving DecidableEq, Repr

structure AliasEntryRow where
  aliasName : String
  position : ℕ
  providerId : String
  modelKey : String
  priority : ℤ
  deriving DecidableEq, Repr

structure ProviderRegistry where
  providers : AList fun _ : String => ProviderRow
  models : AList fun _ : String × String => ModelConfig
  aliasEntries : List AliasEntryRow
  requestTimeoutMs : ℕ

/-- `process.env`, and `LLM_PROVIDER_BASE_URL` of the parsed environment. -/
structure Environment where
  env : String → Option String
  providerBaseUrl : Option String

structure ResolvedModel where
  requestedAs : String
  providerId : String
  modelKey : String
  /-- `undefined` when the model config is an inherited property. -/
  upstreamModel : Option String
  apiKey : String
  baseURL : String
  maxTokens : Option ℕ
  disableThinking : Bool
  supportsStream : Bool
  timeoutMs : ℕ
  priority : ℤ
  deriving DecidableEq, Repr

/-- The property names every plain object inherits; the values are truthy. -/
def objectPrototype : List String :=
  ["constructor", "__defineGetter__", "__defineSetter__", "hasOwnProperty",
    "__lookupGetter__", "__lookupSetter__", "isPrototypeOf", "propertyIsEnumerable",
    "toString", "valueOf", "__proto__", "toLocaleString"]

/-- A read `object[name]` of a plain object. -/
inductive Property (α : Type) where
  | own (value : α)
  | inherited
  | absent
  deriving DecidableEq

def readProperty {α : Type} (own : Option α) (name : String) : Property α :=
  match own with
  | some value => .own value
  | none => if name ∈ objectPrototype then .inherited else .absent

/-- What a truthy or falsy read `registry.aliases[name]` yields; a value that is
no chain counts by its `length`. -/
inductive AliasRead where
  | chain (paths : List String)
  | other (length : Option ℕ)
  | absent
  deriving DecidableEq, Repr

def AliasRead.length : AliasRead → Option ℕ
  | .chain paths => some paths.length
  | .other length => length
  | .absent => none

/-- The members of `Object.prototype` with the `length` of each function. -/
def objectMembers : List (String × Option ℕ) :=
  [("constructor", some 1), ("__defineGetter__", some 2), ("__defineSetter__", some 2),
    ("hasOwnProperty", some 1), ("__lookupGetter__", some 1), ("__lookupSetter__", some 1),
    ("isPrototypeOf", some 1), ("propertyIsEnumerable", some 1), ("toString", some 0),
    ("valueOf", some 0), ("__proto__", none), ("toLocaleString", some 0)]

/-- The members of `Array.prototype`. -/
def arrayMembers : List (String × Option ℕ) :=
  [("length", none), ("constructor", some 1), ("at", some 1), ("concat", some 1),
    ("copyWithin", some 2), ("fill", some 1), ("find", some 1), ("findIndex", some 1),
    ("findLast", some 1), ("findLastIndex", some 1), ("lastIndexOf", some 1), ("pop", some 0),
    ("push", some 1), ("reverse", some 0), ("shift", some 0), ("unshift", some 1),
    ("slice", some 2), ("sort", some 1), ("splice", some 2), ("includes", some 1),
    ("indexOf", some 1), ("join", some 1), ("keys", some 0), ("entries", some 0),
    ("values", some 0), ("forEach", some 1), ("filter", some 1), ("flat", some 0),
    ("flatMap", some 1), ("map", some 1), ("every", some 1), ("some", some 1),
    ("reduce", some 1), ("reduceRight", some 1), ("toReversed", some 0), ("toSorted", some 1),
    ("toSpliced", some 2), ("with", some 2), ("toLocaleString", some 0), ("toString", some 0)]

def memberRead (members : List (String × Option ℕ)) (name : String) : AliasRead :=
  match members.find? (·.1 = name) with
  | some (_, length) => .other length
  | none => .absent

/-- What `resolveChain` throws: `Error`s of its own, and the `TypeError` of a
method call on a value of the wrong shape. -/
inductive ResolveError where
  | modelNameRequired
  | invalidPath (path : String)
  | unknownProvider (providerId requestedAs : String)
  | unknownModelOnProvider (modelKey providerId : String)
  | keyNotSet (providerId apiKeyEnv : String)
  | unknownModel (model : String) (knownAliases knownModels : List String)
  | typeError (message : String)
  deriving DecidableEq, Repr

def ResolveError.name : ResolveError → String
  | .typeError _ => "TypeError"
  | _ => "Error"

def ResolveError.message : ResolveError → String
  | .modelNameRequired => "Model name is required"
  | .invalidPath path =>
      "Invalid provider/model path \"" ++ path ++ "\" — expected \"providerId/modelKey\""
  | .unknownProvider providerId requestedAs =>
      "Unknown provider \"" ++ providerId ++ "\" referenced by \"" ++ requestedAs ++ "\"."
  | .unknownModelOnProvider modelKey providerId =>
      "Unknown model \"" ++ modelKey ++ "\" on provider \"" ++ providerId ++ "\"."
  | .keyNotSet providerId apiKeyEnv =>
      "Provider \"" ++ providerId ++ "\" requires env var " ++ apiKeyEnv ++ " but it is not set."
  | .unknownModel model knownAliases knownModels =>
      "Unknown model \"" ++ model ++ "\". Known aliases: " ++
        (if knownAliases = [] then "(none)" else ", ".intercalate knownAliases) ++
        ". Known models: " ++ ", ".intercalate knownModels ++ "."
  | .typeError message => message

/-- `path.split('/')`. -/
def segments (path : String) : List String :=
  (path.toList.splitOn '/').map String.ofList

namespace ProviderRegistry

def entriesOf (registry : ProviderRegistry) (aliasName : String) : List AliasEntryRow :=
  (registry.aliasEntries.filter (·.aliasName == aliasName)).insertionSort
    fun left right => left.position ≤ right.position

def AliasRegistered (registry : ProviderRegistry) (aliasName : String) : Prop :=
  aliasName ∈ registry.aliasEntries.map AliasEntryRow.aliasName

instance (registry : ProviderRegistry) (aliasName : String) :
    Decidable (registry.AliasRegistered aliasName) :=
  inferInstanceAs (Decidable (_ ∈ _))

/-- The own properties of `listAliases()`: the chains of the registered aliases. -/
def listAliases (registry : ProviderRegistry) (aliasName : String) : Option (List String) :=
  if registry.AliasRegistered aliasName then
    some ((registry.entriesOf aliasName).map fun entry => entry.providerId ++ "/" ++ entry.modelKey)
  else none

end ProviderRegistry

/-- `aliases[name]` where `name` is no own property. -/
def inheritedRead (registry : ProviderRegistry) (name : String) : AliasRead :=
  match registry.listAliases "__proto__" with
  | none => memberRead objectMembers name
  -- The chain of an alias `__proto__` has become the prototype of the object.
  | some paths =>
      match paths.zipIdx.find? fun item => toString item.2 = name with
      | some (path, _) => .other (some (Js.utf16Length path))
      | none => memberRead (arrayMembers ++ objectMembers) name

def readAliases (registry : ProviderRegistry) (name : String) : AliasRead :=
  match registry.listAliases name with
  | some paths => .chain paths
  | none => inheritedRead registry name

namespace ProviderRegistry

/-- `registry.get(providerId).models[modelKey]` of a registered provider. -/
def readModel (registry : ProviderRegistry) (providerId modelKey : String) :
    Property ModelConfig :=
  match registry.models.lookup (providerId, modelKey) with
  | some config => .own config
  | none =>
      -- The config of a model `__proto__` has become the prototype of the object.
      if modelKey ∈ objectPrototype ∨
          ∃ config ∈ registry.models.lookup (providerId, "__proto__"),
            modelKey ∈ config.truthyFields
      then .inherited else .absent

def aliasNames (registry : ProviderRegistry) : List String :=
  (registry.aliasEntries.map AliasEntryRow.aliasName).dedup.insertionSort (· ≤ ·)

/-- `Object.values(providers).flatMap((p) => Object.keys(p.models))`, over rows
that are read without an ORDER BY. -/
def modelKeys (registry : ProviderRegistry) : List String :=
  (Js.objectKeys registry.providers.keys).flatMap fun providerId =>
    Js.objectKeys ((registry.models.keys.filter (·.1 == providerId)).map Prod.snd)

/-- `ORDER BY provider_id LIMIT 1`. -/
def findModel (registry : ProviderRegistry) (modelKey : String) :
    Option (String × ProviderRow) :=
  let holders := (registry.models.keys.filter (·.2 == modelKey)).map Prod.fst
  match holders.insertionSort (· ≤ ·) with
  | [] => none
  | providerId :: _ => (registry.providers.lookup providerId).map fun row => (providerId, row)

def aliasPrioritiesByPosition (registry : ProviderRegistry) (aliasName : String) (position : ℕ) :
    ℤ :=
  match (registry.entriesOf aliasName).find? (·.position == position) with
  | some entry => entry.priority
  | none => 0

variable (environment : Environment)

def buildResolved (registry : ProviderRegistry) (requestedAs modelKey providerId : String)
    (provider : ProviderRow) (config : Option ModelConfig) (priority : ℤ) :
    Except ResolveError ResolvedModel :=
  match (environment.env provider.apiKeyEnv).filter (· ≠ "") with
  | none => .error (.keyNotSet providerId provider.apiKeyEnv)
  | some apiKey => .ok
      { requestedAs, providerId, modelKey, apiKey, priority
        upstreamModel := config.map ModelConfig.real
        baseURL := (provider.baseUrl.filter (· ≠ "")).getD
          (environment.providerBaseUrl.getD "https://api.openai.com/v1")
        maxTokens := config.bind ModelConfig.maxTokens
        disableThinking := config.any ModelConfig.disableThinking
        supportsStream := config.all ModelConfig.supportsStream
        timeoutMs := (provider.timeoutMs.filter (· ≠ 0)).getD registry.requestTimeoutMs }

def resolvePath (registry : ProviderRegistry) (path requestedAs : String) (priority : ℤ) :
    Except ResolveError ResolvedModel :=
  match (segments path)[0]?.filter (· ≠ ""), (segments path)[1]?.filter (· ≠ "") with
  | some providerId, some modelKey =>
      match readProperty (registry.providers.lookup providerId) providerId with
      | .absent => .error (.unknownProvider providerId requestedAs)
      | .inherited => .error (.typeError
          ("Cannot read properties of undefined (reading '" ++ modelKey ++ "')"))
      | .own provider =>
          match registry.readModel providerId modelKey with
          | .absent => .error (.unknownModelOnProvider modelKey providerId)
          -- An inherited property has none of the fields of a model config.
          | .inherited => registry.buildResolved environment requestedAs modelKey providerId
              provider none priority
          | .own config => registry.buildResolved environment requestedAs modelKey providerId
              provider (some config) priority
  | _, _ => .error (.invalidPath path)

def chainFor (registry : ProviderRegistry) (model : String) (paths : List String) :
    Except ResolveError (List ResolvedModel) :=
  paths.zipIdx.mapM fun entry =>
    registry.resolvePath environment entry.1 model
      (registry.aliasPrioritiesByPosition model entry.2)

/-- A truthy read of `aliases` is mapped over as a chain. -/
def aliasChain (registry : ProviderRegistry) (model name : String) :
    Option (Except ResolveError (List ResolvedModel)) :=
  match readAliases registry name with
  | .chain paths => some (registry.chainFor environment model paths)
  | .other _ => some (.error (.typeError "paths.map is not a function"))
  | .absent => none

def resolveChain (registry : ProviderRegistry) (model : String) :
    Except ResolveError (List ResolvedModel) :=
  if model = "" then .error .modelNameRequired
  -- The alias comes first, then the explicit path, the model key and `default`.
  else match registry.aliasChain environment model model with
    | some chain => chain
    | none =>
        if '/' ∈ model.toList then
          (registry.resolvePath environment model model 0).map fun resolved => [resolved]
        else match registry.findModel model with
          | some (providerId, provider) =>
              (registry.buildResolved environment model model providerId provider
                (registry.models.lookup (providerId, model)) 0).map fun resolved => [resolved]
          | none =>
              match registry.listAliases "default" with
              | some paths => registry.chainFor environment model paths
              | none =>
                  .error (.unknownModel model (Js.objectKeys registry.aliasNames) registry.modelKeys)

end ProviderRegistry

end LlmGateway.Providers
