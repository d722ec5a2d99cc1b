import LlmGateway.Lib.Effects
import LlmGateway.Providers.Paths

/-!
The documented cascade over the registered rows, and when `resolveChain`
follows it: the reads of `registry.aliases` and of `provider.models` also find
inherited properties, and a path is cut at every slash.
-/

namespace LlmGateway.Providers

open Effects

def Serves (registry : ProviderRegistry) (environment : Environment) (requestedAs : String)
    (priority : ℤ) (key : String × String) (resolved : ResolvedModel) : Prop :=
  ∃ provider config, registry.providers.lookup key.1 = some provider ∧
    registry.models.lookup key = some config ∧
    registry.buildResolved environment requestedAs key.2 key.1 provider (some config) priority =
      .ok resolved

def ServesRows (registry : ProviderRegistry) (environment : Environment) (requestedAs : String)
    (priorityOf : AliasEntryRow → ℤ) (rows : List AliasEntryRow) (chain : List ResolvedModel) :
    Prop :=
  List.Forall₂ (fun row resolved => Serves registry environment requestedAs (priorityOf row)
    (row.providerId, row.modelKey) resolved) rows chain

/-- The provider whose model a bare key means: the least that has one. -/
def LeastHolder (registry : ProviderRegistry) (modelKey providerId : String) : Prop :=
  (registry.models.lookup (providerId, modelKey)).isSome = true ∧
    ∀ other, (registry.models.lookup (other, modelKey)).isSome = true → providerId ≤ other

/-- The key names a model of a registered provider; the name `__proto__` of
either makes no property. -/
def Listed (registry : ProviderRegistry) (modelKey : String) : Prop :=
  modelKey ≠ "__proto__" ∧ ∃ providerId ≠ "__proto__",
    (registry.providers.lookup providerId).isSome = true ∧
      (registry.models.lookup (providerId, modelKey)).isSome = true

/-- The stages of the documented cascade, each on the names that reach it. A
name without an alias of its own is served at priority 0. The message of an
unknown name lists the models in an order the cascade leaves open. -/
structure Cascade (registry : ProviderRegistry) (environment : Environment) (name : String)
    (result : Except ResolveError (List ResolvedModel)) : Prop where
  aliased : registry.AliasRegistered name → ∃ chain, result = .ok chain ∧
    ServesRows registry environment name AliasEntryRow.priority (registry.entriesOf name) chain
  path : ¬registry.AliasRegistered name → ∀ providerId modelKey, '/' ∉ providerId.toList →
    name = modelPath providerId modelKey →
    ((registry.models.lookup (providerId, modelKey)).isSome = true → ∃ resolved,
      result = .ok [resolved] ∧
        Serves registry environment name 0 (providerId, modelKey) resolved) ∧
    (registry.models.lookup (providerId, modelKey) = none → ∃ error, result = .error error)
  model : ¬registry.AliasRegistered name → '/' ∉ name.toList →
    ∀ providerId, LeastHolder registry name providerId → ∃ resolved, result = .ok [resolved] ∧
      Serves registry environment name 0 (providerId, name) resolved
  fallback : ¬registry.AliasRegistered name → '/' ∉ name.toList →
    (∀ providerId, registry.models.lookup (providerId, name) = none) →
    registry.AliasRegistered "default" → ∃ chain, result = .ok chain ∧
      ServesRows registry environment name (fun _ => 0) (registry.entriesOf "default") chain
  unknown : ¬registry.AliasRegistered name → '/' ∉ name.toList →
    (∀ providerId, registry.models.lookup (providerId, name) = none) →
    ¬registry.AliasRegistered "default" → ∃ knownModels,
      result = .error (.unknownModel name (Js.objectKeys registry.aliasNames) knownModels) ∧
        ∀ modelKey, modelKey ∈ knownModels ↔ Listed registry modelKey

def UpstreamNamed (registry : ProviderRegistry)
    (result : Except ResolveError (List ResolvedModel)) : Prop :=
  ∀ chain, result = .ok chain → ∀ resolved ∈ chain, ∃ key config,
    registry.models.lookup key = some config ∧ resolved.upstreamModel = some config.real

def ReadableRow (row : AliasEntryRow) : Prop :=
  row.providerId ≠ "" ∧ '/' ∉ row.providerId.toList ∧ row.modelKey ≠ "" ∧
    '/' ∉ row.modelKey.toList

structure Unambiguous (registry : ProviderRegistry) (name : String) : Prop where
  /-- The rows of the alias are readable, and a row's rank is its position as
  far as priorities can tell. -/
  rows : registry.AliasRegistered name → ∀ row rank,
    (registry.entriesOf name)[rank]? = some row →
      ReadableRow row ∧ registry.aliasPrioritiesByPosition name rank = row.priority
  /-- The name is no property that the aliases inherit. -/
  own : ¬registry.AliasRegistered name → '/' ∉ name.toList → readAliases registry name = .absent
  /-- The path of a model has two segments; the first two segments of any other
  path name nothing. -/
  path : ¬registry.AliasRegistered name → ∀ providerId modelKey, '/' ∉ providerId.toList →
    name = modelPath providerId modelKey →
    ((registry.models.lookup (providerId, modelKey)).isSome = true →
      providerId ≠ "" ∧ modelKey ≠ "" ∧ '/' ∉ modelKey.toList) ∧
    (registry.models.lookup (providerId, modelKey) = none →
      providerId = "" ∨ leadingSegment modelKey = "" ∨
        registry.providers.lookup providerId = none ∨
        registry.readModel providerId (leadingSegment modelKey) = .absent)
  fallback : ¬registry.AliasRegistered name → '/' ∉ name.toList →
    (∀ providerId, registry.models.lookup (providerId, name) = none) →
    ∀ row ∈ registry.entriesOf "default", ReadableRow row

def KeysSet (registry : ProviderRegistry) (environment : Environment) : Prop :=
  ∀ providerId provider, registry.providers.lookup providerId = some provider →
    (environment.env provider.apiKeyEnv).any (· ≠ "") = true

/-- The foreign keys: chains refer to models, and models to providers. -/
structure Referenced (registry : ProviderRegistry) : Prop where
  entries : ∀ row ∈ registry.aliasEntries,
    (registry.models.lookup (row.providerId, row.modelKey)).isSome = true
  models : ∀ key, (registry.models.lookup key).isSome = true →
    (registry.providers.lookup key.1).isSome = true

section Entries

variable (registry : ProviderRegistry) (environment : Environment)
  (requestedAs providerId modelKey : String) (priority : ℤ)

theorem buildResolved_returns (keys : KeysSet registry environment) (provider : ProviderRow)
    (owner : registry.providers.lookup providerId = some provider)
    (config : Option ModelConfig) :
    ∃ resolved, registry.buildResolved environment requestedAs modelKey providerId provider config
      priority = .ok resolved := by
  have set := keys providerId provider owner
  unfold ProviderRegistry.buildResolved
  cases read : environment.env provider.apiKeyEnv with
  | none => simp [read] at set
  | some apiKey =>
      have filled : apiKey ≠ "" := by simpa [read] using set
      have kept : Option.filter (· ≠ "") (some apiKey) = some apiKey := by simp [filled]
      rw [kept]
      exact ⟨_, rfl⟩

theorem buildResolved_priority (provider : ProviderRow) (config : Option ModelConfig)
    (resolved : ResolvedModel)
    (returns : registry.buildResolved environment requestedAs modelKey providerId provider config
      priority = .ok resolved) : resolved.priority = priority := by
  unfold ProviderRegistry.buildResolved at returns
  split at returns
  · cases returns
  · cases returns
    rfl

theorem serves_upstream (key : String × String) (resolved : ResolvedModel)
    (serves : Serves registry environment requestedAs priority key resolved) :
    ∃ key config, registry.models.lookup key = some config ∧
      resolved.upstreamModel = some config.real := by
  obtain ⟨provider, config, _, model, built⟩ := serves
  exact ⟨key, config, model, (buildResolved_ok _ _ _ _ _ _ _ _ _ built).2.2⟩

theorem servesRows_upstream (priorityOf : AliasEntryRow → ℤ) (rows : List AliasEntryRow)
    (chain : List ResolvedModel)
    (serves : ServesRows registry environment requestedAs priorityOf rows chain) :
    ∀ resolved ∈ chain, ∃ key config, registry.models.lookup key = some config ∧
      resolved.upstreamModel = some config.real := by
  induction serves with
  | nil => simp
  | cons head tail ih =>
      rw [List.forall_mem_cons]
      exact ⟨serves_upstream _ _ _ _ _ _ head, ih⟩

theorem resolvePath_parts (path : String) (resolved : ResolvedModel) (slash : '/' ∈ path.toList)
    (returns : registry.resolvePath environment path requestedAs priority = .ok resolved) :
    resolved.providerId ≠ "" ∧ '/' ∉ resolved.providerId.toList ∧ resolved.modelKey ≠ "" ∧
      '/' ∉ resolved.modelKey.toList ∧ resolved.priority = priority := by
  obtain ⟨front, rest, plain, rfl⟩ := exists_modelPath path slash
  obtain ⟨owned, named, provider, config, _, _, built⟩ := (resolvePath_modelPath_ok_iff registry
    environment requestedAs front rest priority plain resolved).mp returns
  obtain ⟨provider, model, _⟩ := buildResolved_ok _ _ _ _ _ _ _ _ _ built
  rw [provider, model]
  exact ⟨owned, plain, named, leadingSegment_no_slash rest, buildResolved_priority _ _ _ _ _ _ _ _ _
    built⟩

variable (keys : KeysSet registry environment)
include keys

theorem path_refused_iff (plain : '/' ∉ providerId.toList) (given : ℤ) :
    (∃ error, registry.resolvePath environment (modelPath providerId modelKey) requestedAs given =
        .error error) ↔
      providerId = "" ∨ leadingSegment modelKey = "" ∨
        registry.providers.lookup providerId = none ∨
        registry.readModel providerId (leadingSegment modelKey) = .absent := by
  have accepted := resolvePath_modelPath_ok_iff registry environment requestedAs providerId modelKey
    given plain
  cases outcome : registry.resolvePath environment (modelPath providerId modelKey) requestedAs
    given with
  | ok resolved =>
      obtain ⟨owned, named, provider, config, owner, read, _⟩ := (accepted resolved).mp outcome
      have found : registry.readModel providerId (leadingSegment modelKey) ≠ .absent := by
        rw [read]
        cases config <;> simp
      simp [owned, named, owner, found]
  | error error =>
      refine ⟨fun _ => ?_, fun _ => ⟨error, rfl⟩⟩
      by_contra found
      rw [not_or, not_or, not_or] at found
      obtain ⟨owned, named, owner, read⟩ := found
      obtain ⟨provider, owner⟩ := Option.ne_none_iff_exists'.mp owner
      obtain ⟨config, same⟩ : ∃ config : Option ModelConfig,
          registry.readModel providerId (leadingSegment modelKey) =
            config.elim .inherited .own := by
        cases held : registry.readModel providerId (leadingSegment modelKey) with
        | own config => exact ⟨some config, rfl⟩
        | inherited => exact ⟨none, rfl⟩
        | absent => exact absurd held read
      obtain ⟨resolved, built⟩ := buildResolved_returns registry environment requestedAs providerId
        (leadingSegment modelKey) given keys provider owner config
      have returns := (accepted resolved).mpr
        ⟨owned, named, provider, config, owner, same, built⟩
      rw [outcome] at returns
      cases returns

variable (referenced : Referenced registry)
include referenced

theorem serves_registered (key : String × String)
    (registered : (registry.models.lookup key).isSome = true) :
    ∃ provider config resolved, registry.providers.lookup key.1 = some provider ∧
      registry.models.lookup key = some config ∧
      registry.buildResolved environment requestedAs key.2 key.1 provider (some config) priority =
        .ok resolved ∧
      Serves registry environment requestedAs priority key resolved := by
  obtain ⟨config, model⟩ := Option.isSome_iff_exists.mp registered
  obtain ⟨provider, owner⟩ := Option.isSome_iff_exists.mp (referenced.models key registered)
  obtain ⟨resolved, built⟩ := buildResolved_returns registry environment requestedAs key.1 key.2
    priority keys provider owner (some config)
  exact ⟨provider, config, resolved, owner, model, built, provider, config, owner, model, built⟩

theorem path_served_iff (given : ℤ)
    (registered : (registry.models.lookup (providerId, modelKey)).isSome = true) :
    (∃ resolved, registry.resolvePath environment (modelPath providerId modelKey) requestedAs given =
        .ok resolved ∧
      Serves registry environment requestedAs priority (providerId, modelKey) resolved) ↔
    (providerId ≠ "" ∧ '/' ∉ providerId.toList ∧ modelKey ≠ "" ∧ '/' ∉ modelKey.toList) ∧
      given = priority := by
  constructor
  · rintro ⟨resolved, returns, provider, config, _, _, built⟩
    obtain ⟨named, plain, keyed, plainKey, same⟩ := resolvePath_parts registry environment
      requestedAs given _ resolved (slash_mem_modelPath providerId modelKey) returns
    obtain ⟨owner, model, _⟩ := buildResolved_ok _ _ _ _ _ _ _ _ _ built
    rw [owner] at named plain
    rw [model] at keyed plainKey
    rw [← same, buildResolved_priority _ _ _ _ _ _ _ _ _ built]
    exact ⟨⟨named, plain, keyed, plainKey⟩, rfl⟩
  · rintro ⟨⟨named, plain, keyed, plainKey⟩, rfl⟩
    obtain ⟨provider, config, resolved, owner, model, built, serves⟩ := serves_registered registry
      environment requestedAs given keys referenced _ registered
    refine ⟨resolved, ?_, serves⟩
    rw [resolvePath_registered registry environment requestedAs providerId modelKey given provider
      config plain plainKey named keyed owner model]
    exact built

theorem chainFor_served_iff (model aliasName : String) (priorityOf : AliasEntryRow → ℤ) :
    (∃ chain, registry.chainFor environment model
        ((registry.entriesOf aliasName).map fun row => modelPath row.providerId row.modelKey) =
          .ok chain ∧
      ServesRows registry environment model priorityOf (registry.entriesOf aliasName) chain) ↔
    ∀ row rank, (registry.entriesOf aliasName)[rank]? = some row →
      ReadableRow row ∧ registry.aliasPrioritiesByPosition model rank = priorityOf row := by
  have rows : ∀ row ∈ registry.entriesOf aliasName,
      (registry.models.lookup (row.providerId, row.modelKey)).isSome = true := by
    intro row member
    have held := (List.mem_insertionSort _).mp member
    exact referenced.entries row (List.mem_filter.mp held).1
  have related := mapM_related_iff
    (fun item : AliasEntryRow × ℕ => registry.resolvePath environment
      (modelPath item.1.providerId item.1.modelKey) model
      (registry.aliasPrioritiesByPosition model item.2))
    (fun item resolved => Serves registry environment model (priorityOf item.1)
      (item.1.providerId, item.1.modelKey) resolved)
    (registry.entriesOf aliasName).zipIdx
  have chain : ∀ chain, ServesRows registry environment model priorityOf
      (registry.entriesOf aliasName) chain ↔ List.Forall₂ (fun item resolved => Serves registry
        environment model (priorityOf item.1) (item.1.providerId, item.1.modelKey) resolved)
        (registry.entriesOf aliasName).zipIdx chain := by
    intro chain
    unfold ServesRows
    conv_lhs => rw [← List.zipIdx_map_fst 0 (registry.entriesOf aliasName)]
    exact List.forall₂_map_left_iff
  unfold ProviderRegistry.chainFor
  rw [List.zipIdx_map, List.mapM_map]
  simp only [chain]
  refine related.trans ?_
  constructor
  · intro served row rank held
    have item : (row, rank) ∈ (registry.entriesOf aliasName).zipIdx :=
      List.mem_zipIdx_iff_getElem?.mpr held
    exact (path_served_iff registry environment model row.providerId row.modelKey (priorityOf row)
      keys referenced _ (rows row (List.fst_mem_of_mem_zipIdx item))).mp (served (row, rank) item)
  · rintro readable ⟨row, rank⟩ item
    exact (path_served_iff registry environment model row.providerId row.modelKey (priorityOf row)
      keys referenced _ (rows row (List.fst_mem_of_mem_zipIdx item))).mpr
      (readable row rank (List.mem_zipIdx_iff_getElem?.mp item))

end Entries

section Lookups

variable (registry : ProviderRegistry) (name : String)

theorem memberRead_slash (members : List (String × Option ℕ))
    (plain : ∀ item ∈ members, '/' ∉ item.1.toList) (slash : '/' ∈ name.toList) :
    memberRead members name = .absent := by
  have none : members.find? (·.1 = name) = none := by
    apply List.find?_eq_none.mpr
    intro item member same
    rw [← of_decide_eq_true same] at slash
    exact plain item member slash
  simp [memberRead, none]

theorem inheritedRead_slash (slash : '/' ∈ name.toList) : inheritedRead registry name = .absent := by
  unfold inheritedRead
  cases registry.listAliases "__proto__" with
  | none => exact memberRead_slash name objectMembers (by decide) slash
  | some paths =>
      have none : (paths.zipIdx.find? fun item => toString item.2 = name) = none := by
        apply List.find?_eq_none.mpr
        intro item _ same
        rw [← of_decide_eq_true same, Nat.toString_eq_repr, Nat.toList_repr] at slash
        exact absurd (Nat.isDigit_of_mem_toDigits (by decide) (by decide) slash) (by decide)
      simp only [none]
      exact memberRead_slash name (arrayMembers ++ objectMembers) (by decide) slash

theorem listAliases_registered (registered : registry.AliasRegistered name) :
    registry.listAliases name =
      some ((registry.entriesOf name).map fun row => modelPath row.providerId row.modelKey) := by
  simp [ProviderRegistry.listAliases, registered, modelPath]

theorem listAliases_unregistered (unregistered : ¬registry.AliasRegistered name) :
    registry.listAliases name = none := by
  simp [ProviderRegistry.listAliases, unregistered]

theorem readAliases_slash (unregistered : ¬registry.AliasRegistered name)
    (slash : '/' ∈ name.toList) : readAliases registry name = .absent := by
  unfold readAliases
  rw [listAliases_unregistered registry name unregistered]
  exact inheritedRead_slash registry name slash

theorem mem_holders (modelKey providerId : String) :
    providerId ∈ (registry.models.keys.filter (·.2 == modelKey)).map Prod.fst ↔
      (registry.models.lookup (providerId, modelKey)).isSome = true := by
  rw [AList.lookup_isSome]
  simp [AList.mem_keys]

def holders (modelKey : String) : List String :=
  ((registry.models.keys.filter (·.2 == modelKey)).map Prod.fst).insertionSort (· ≤ ·)

theorem holders_first (modelKey first : String) (rest : List String)
    (sorted : holders registry modelKey = first :: rest) : LeastHolder registry modelKey first := by
  have ordered := List.pairwise_insertionSort (· ≤ ·)
    ((registry.models.keys.filter (·.2 == modelKey)).map Prod.fst)
  have same := fun other => (List.mem_insertionSort (· ≤ ·)).trans
    (mem_holders registry modelKey other)
  unfold holders at sorted
  rw [sorted] at ordered same
  refine ⟨(same first).mp (by simp), ?_⟩
  intro other listed
  rcases List.mem_cons.mp ((same other).mpr listed) with here | later
  · exact here ▸ String.le_refl other
  · exact (List.pairwise_cons.mp ordered).1 other later

theorem holders_nil_iff (modelKey : String) :
    holders registry modelKey = [] ↔
      ∀ providerId, registry.models.lookup (providerId, modelKey) = none := by
  have same := fun other => (List.mem_insertionSort (· ≤ ·)).trans
    (mem_holders registry modelKey other)
  rw [List.eq_nil_iff_forall_not_mem]
  refine forall_congr' fun other => ?_
  rw [← Option.not_isSome_iff_eq_none]
  exact not_congr (same other)

theorem held_or_none (modelKey : String) :
    (∃ least, LeastHolder registry modelKey least) ∨
      ∀ providerId, registry.models.lookup (providerId, modelKey) = none := by
  cases sorted : holders registry modelKey with
  | nil => exact .inr ((holders_nil_iff registry modelKey).mp sorted)
  | cons first rest => exact .inl ⟨first, holders_first registry modelKey first rest sorted⟩

theorem mem_modelKeys (modelKey : String) :
    modelKey ∈ registry.modelKeys ↔ Listed registry modelKey := by
  simp only [ProviderRegistry.modelKeys, List.mem_flatMap, Js.mem_objectKeys, List.mem_map,
    List.mem_filter, AList.mem_keys.symm, beq_iff_eq, Listed, AList.lookup_isSome]
  constructor
  · rintro ⟨_, ⟨named, registered⟩, keyed, ⟨providerId, _⟩, ⟨model, rfl⟩, rfl⟩
    exact ⟨keyed, providerId, named, registered, model⟩
  · rintro ⟨keyed, providerId, named, registered, model⟩
    exact ⟨providerId, ⟨named, registered⟩, keyed, (providerId, modelKey), ⟨model, rfl⟩, rfl⟩

theorem findModel_least (modelKey providerId : String) (provider : ProviderRow)
    (least : LeastHolder registry modelKey providerId)
    (owner : registry.providers.lookup providerId = some provider) :
    registry.findModel modelKey = some (providerId, provider) := by
  cases sorted : holders registry modelKey with
  | nil =>
      have none := (holders_nil_iff registry modelKey).mp sorted providerId
      have held := least.1
      rw [none] at held
      cases held
  | cons first rest =>
      have head := holders_first registry modelKey first rest sorted
      have same : first = providerId :=
        String.le_antisymm (head.2 providerId least.1) (least.2 first head.1)
      unfold holders at sorted
      simp only [ProviderRegistry.findModel, sorted, same, owner, Option.map_some]

theorem findModel_none (modelKey : String)
    (none : ∀ providerId, registry.models.lookup (providerId, modelKey) = none) :
    registry.findModel modelKey = .none := by
  have sorted := (holders_nil_iff registry modelKey).mpr none
  unfold holders at sorted
  simp only [ProviderRegistry.findModel, sorted]

theorem aliasPriorities_unregistered (unregistered : ¬registry.AliasRegistered name) (rank : ℕ) :
    registry.aliasPrioritiesByPosition name rank = 0 := by
  have empty : registry.entriesOf name = [] := by
    apply List.eq_nil_iff_forall_not_mem.mpr
    intro row member
    have held := List.mem_filter.mp ((List.mem_insertionSort _).mp member)
    exact unregistered (List.mem_map.mpr ⟨row, held.1, by simpa using held.2⟩)
  simp [ProviderRegistry.aliasPrioritiesByPosition, empty]

theorem memberRead_no_chain (members : List (String × Option ℕ)) (paths : List String) :
    memberRead members name ≠ .chain paths := by
  unfold memberRead
  split <;> simp

theorem readAliases_no_chain (unregistered : ¬registry.AliasRegistered name)
    (paths : List String) : readAliases registry name ≠ .chain paths := by
  unfold readAliases
  rw [listAliases_unregistered registry name unregistered]
  unfold inheritedRead
  cases registry.listAliases "__proto__" with
  | none => exact memberRead_no_chain name objectMembers paths
  | some chain =>
      simp only
      split
      · simp
      · exact memberRead_no_chain name _ paths

end Lookups

section Stages

variable (registry : ProviderRegistry) (environment : Environment) (name : String)
  (nonempty : name ≠ "")
include nonempty

theorem resolveChain_aliased (registered : registry.AliasRegistered name) :
    registry.resolveChain environment name = registry.chainFor environment name
      ((registry.entriesOf name).map fun row => modelPath row.providerId row.modelKey) := by
  have listed := listAliases_registered registry name registered
  simp only [ProviderRegistry.resolveChain, nonempty, ↓reduceIte, ProviderRegistry.aliasChain,
    readAliases, listed]

theorem resolveChain_inherited (unregistered : ¬registry.AliasRegistered name)
    (inherited : readAliases registry name ≠ .absent) :
    registry.resolveChain environment name =
      .error (.typeError "paths.map is not a function") := by
  have chain := readAliases_no_chain registry name unregistered
  simp only [ProviderRegistry.resolveChain, nonempty, ↓reduceIte, ProviderRegistry.aliasChain]
  cases read : readAliases registry name with
  | chain paths => exact absurd read (chain paths)
  | other length => rfl
  | absent => exact absurd read inherited

variable (absent : readAliases registry name = .absent)
include absent

theorem resolveChain_path (slash : '/' ∈ name.toList) :
    registry.resolveChain environment name =
      (registry.resolvePath environment name name 0).map fun resolved => [resolved] := by
  simp only [ProviderRegistry.resolveChain, nonempty, ↓reduceIte, ProviderRegistry.aliasChain,
    absent, slash]

theorem resolveChain_model (plain : '/' ∉ name.toList) (providerId : String)
    (provider : ProviderRow) (found : registry.findModel name = some (providerId, provider)) :
    registry.resolveChain environment name =
      (registry.buildResolved environment name name providerId provider
        (registry.models.lookup (providerId, name)) 0).map fun resolved => [resolved] := by
  simp only [ProviderRegistry.resolveChain, nonempty, ↓reduceIte, ProviderRegistry.aliasChain,
    absent, plain, found]

theorem resolveChain_fallback (plain : '/' ∉ name.toList)
    (unknown : registry.findModel name = none) (registered : registry.AliasRegistered "default") :
    registry.resolveChain environment name = registry.chainFor environment name
      ((registry.entriesOf "default").map fun row => modelPath row.providerId row.modelKey) := by
  have listed := listAliases_registered registry "default" registered
  simp only [ProviderRegistry.resolveChain, nonempty, ↓reduceIte, ProviderRegistry.aliasChain,
    absent, plain, unknown, listed]

theorem resolveChain_unknown (plain : '/' ∉ name.toList)
    (unknown : registry.findModel name = none)
    (unregistered : ¬registry.AliasRegistered "default") :
    registry.resolveChain environment name =
      .error (.unknownModel name (Js.objectKeys registry.aliasNames) registry.modelKeys) := by
  have listed := listAliases_unregistered registry "default" unregistered
  simp only [ProviderRegistry.resolveChain, nonempty, ↓reduceIte, ProviderRegistry.aliasChain,
    absent, plain, unknown, listed]

end Stages

section Agreement

variable (registry : ProviderRegistry) (environment : Environment) (name : String)

theorem cascade_upstream (result : Except ResolveError (List ResolvedModel))
    (cascade : Cascade registry environment name result) : UpstreamNamed registry result := by
  intro chain returns
  -- Every stage that returns serves registered rows.
  by_cases registered : registry.AliasRegistered name
  · obtain ⟨served, same, rows⟩ := cascade.aliased registered
    cases returns.symm.trans same
    exact servesRows_upstream registry environment name _ _ _ rows
  by_cases slash : '/' ∈ name.toList
  · obtain ⟨providerId, modelKey, plain, same⟩ := exists_modelPath name slash
    obtain ⟨present, missing⟩ := cascade.path registered providerId modelKey plain same
    cases model : registry.models.lookup (providerId, modelKey) with
    | none =>
        obtain ⟨error, refused⟩ := missing model
        cases returns.symm.trans refused
    | some config =>
        obtain ⟨resolved, same, serves⟩ := present (by simp [model])
        cases returns.symm.trans same
        rw [List.forall_mem_singleton]
        exact serves_upstream registry environment name 0 _ _ serves
  rcases held_or_none registry name with ⟨least, holder⟩ | none
  · obtain ⟨resolved, same, serves⟩ := cascade.model registered slash least holder
    cases returns.symm.trans same
    rw [List.forall_mem_singleton]
    exact serves_upstream registry environment name 0 _ _ serves
  by_cases fallback : registry.AliasRegistered "default"
  · obtain ⟨served, same, rows⟩ := cascade.fallback registered slash none fallback
    cases returns.symm.trans same
    exact servesRows_upstream registry environment name _ _ _ rows
  · obtain ⟨known, refused, _⟩ := cascade.unknown registered slash none fallback
    cases returns.symm.trans refused

variable (referenced : Referenced registry) (keys : KeysSet registry environment)
include referenced keys

theorem unambiguous_of_cascade (nonempty : name ≠ "")
    (cascade : Cascade registry environment name (registry.resolveChain environment name)) :
    Unambiguous registry name := by
  have own : ¬registry.AliasRegistered name → '/' ∉ name.toList →
      readAliases registry name = .absent := by
    intro unregistered plain
    by_contra inherited
    have throws := resolveChain_inherited registry environment name nonempty unregistered inherited
    -- None of the stages throws a `TypeError`.
    rcases held_or_none registry name with ⟨least, holder⟩ | none
    · obtain ⟨_, same, _⟩ := cascade.model unregistered plain least holder
      cases throws.symm.trans same
    by_cases fallback : registry.AliasRegistered "default"
    · obtain ⟨_, same, _⟩ := cascade.fallback unregistered plain none fallback
      cases throws.symm.trans same
    · obtain ⟨_, same, _⟩ := cascade.unknown unregistered plain none fallback
      cases throws.symm.trans same
  constructor
  · intro registered
    have served := cascade.aliased registered
    rw [resolveChain_aliased registry environment name nonempty registered] at served
    exact (chainFor_served_iff registry environment keys referenced name name _).mp served
  · exact own
  · intro unregistered providerId modelKey plain same
    subst same
    have slash := slash_mem_modelPath providerId modelKey
    have absent := readAliases_slash registry _ unregistered slash
    have steps := cascade.path unregistered providerId modelKey plain rfl
    rw [resolveChain_path registry environment _ nonempty absent slash] at steps
    constructor
    · intro registered
      obtain ⟨resolved, same, serves⟩ := steps.1 registered
      cases outcome : registry.resolvePath environment (modelPath providerId modelKey)
        (modelPath providerId modelKey) 0 with
      | error error =>
          rw [outcome] at same
          cases same
      | ok value =>
          rw [outcome] at same
          cases same
          have split := (path_served_iff registry environment (modelPath providerId modelKey)
            providerId modelKey 0 keys referenced 0 registered).mp ⟨resolved, outcome, serves⟩
          exact ⟨split.1.1, split.1.2.2⟩
    · intro missing
      obtain ⟨error, same⟩ := steps.2 missing
      apply (path_refused_iff registry environment (modelPath providerId modelKey) providerId
        modelKey keys plain 0).mp
      cases outcome : registry.resolvePath environment (modelPath providerId modelKey)
        (modelPath providerId modelKey) 0 with
      | error error => exact ⟨error, rfl⟩
      | ok value =>
          rw [outcome] at same
          cases same
  · intro unregistered plain none row member
    by_cases fallback : registry.AliasRegistered "default"
    · have served := cascade.fallback unregistered plain none fallback
      rw [resolveChain_fallback registry environment name nonempty (own unregistered plain) plain
        (findModel_none registry name none) fallback] at served
      obtain ⟨rank, held⟩ := List.mem_iff_getElem?.mp member
      exact ((chainFor_served_iff registry environment keys referenced name "default" _).mp served
        row rank held).1
    · have held := List.mem_filter.mp ((List.mem_insertionSort _).mp member)
      exact absurd (List.mem_map.mpr ⟨row, held.1, by simpa using held.2⟩) fallback

theorem cascade_of_unambiguous (nonempty : name ≠ "") (unambiguous : Unambiguous registry name) :
    Cascade registry environment name (registry.resolveChain environment name) := by
  constructor
  · intro registered
    rw [resolveChain_aliased registry environment name nonempty registered]
    exact (chainFor_served_iff registry environment keys referenced name name _).mpr
      (unambiguous.rows registered)
  · intro unregistered providerId modelKey plain same
    subst same
    have slash := slash_mem_modelPath providerId modelKey
    have absent := readAliases_slash registry _ unregistered slash
    obtain ⟨present, missing⟩ := unambiguous.path unregistered providerId modelKey plain rfl
    rw [resolveChain_path registry environment _ nonempty absent slash]
    constructor
    · intro registered
      obtain ⟨named, keyed, plainKey⟩ := present registered
      obtain ⟨resolved, returns, serves⟩ := (path_served_iff registry environment
        (modelPath providerId modelKey) providerId modelKey 0 keys referenced 0 registered).mpr
        ⟨⟨named, plain, keyed, plainKey⟩, rfl⟩
      exact ⟨resolved, by rw [returns]; rfl, serves⟩
    · intro unknown
      obtain ⟨error, refused⟩ := (path_refused_iff registry environment
        (modelPath providerId modelKey) providerId modelKey keys plain 0).mpr (missing unknown)
      exact ⟨error, by rw [refused]; rfl⟩
  · intro unregistered plain providerId least
    have absent := unambiguous.own unregistered plain
    obtain ⟨provider, config, resolved, owner, model, built, serves⟩ := serves_registered registry
      environment name 0 keys referenced (providerId, name) least.1
    refine ⟨resolved, ?_, serves⟩
    rw [resolveChain_model registry environment name nonempty absent plain providerId provider
      (findModel_least registry name providerId provider least owner), model]
    simp only at built
    rw [built]
    rfl
  · intro unregistered plain none registered
    rw [resolveChain_fallback registry environment name nonempty
      (unambiguous.own unregistered plain) plain (findModel_none registry name none) registered]
    apply (chainFor_served_iff registry environment keys referenced name "default" _).mpr
    intro row rank held
    exact ⟨unambiguous.fallback unregistered plain none row (List.mem_of_getElem? held),
      aliasPriorities_unregistered registry name unregistered rank⟩
  · intro unregistered plain none unlisted
    exact ⟨registry.modelKeys, resolveChain_unknown registry environment name nonempty
      (unambiguous.own unregistered plain) plain (findModel_none registry name none) unlisted,
      mem_modelKeys registry⟩

end Agreement

/-- With every key set, the resolver follows the documented cascade exactly on
the names that are not ambiguous. -/
theorem resolveChain_cascade_iff (registry : ProviderRegistry) (environment : Environment)
    (name : String) (nonempty : name ≠ "") (referenced : Referenced registry)
    (keys : KeysSet registry environment) :
    Cascade registry environment name (registry.resolveChain environment name) ∧
        UpstreamNamed registry (registry.resolveChain environment name) ↔
      Unambiguous registry name := by
  constructor
  · rintro ⟨cascade, _⟩
    exact unambiguous_of_cascade registry environment name referenced keys nonempty cascade
  · intro unambiguous
    have cascade := cascade_of_unambiguous registry environment name referenced keys nonempty
      unambiguous
    exact ⟨cascade, cascade_upstream registry environment name _ cascade⟩

/-- One provider with one model, behind the alias `default`. -/
def defaultRegistry : ProviderRegistry where
  providers := AList.insert "nan" ⟨"NAN_API_KEY", none, none⟩ ∅
  models := AList.insert ("nan", "qwen") ⟨"qwen3.6", none, true, false⟩ ∅
  aliasEntries := [⟨"default", 0, "nan", "qwen", 0⟩]
  requestTimeoutMs := 120000

theorem defaultRegistry_referenced : Referenced defaultRegistry where
  entries := by
    intro row member
    cases List.mem_singleton.mp member
    rfl
  models := by
    intro key model
    have known : key ∈ [("nan", "qwen")] := AList.mem_keys.mpr (AList.lookup_isSome.mp model)
    cases List.mem_singleton.mp known
    rfl

theorem everyKeySet_keys (registry : ProviderRegistry) : KeysSet registry everyKeySet := by
  intro providerId provider _
  rfl

theorem resolveChain_cascade_qwen :
    Cascade defaultRegistry everyKeySet "qwen" (defaultRegistry.resolveChain everyKeySet "qwen") ∧
        UpstreamNamed defaultRegistry (defaultRegistry.resolveChain everyKeySet "qwen") ↔
      Unambiguous defaultRegistry "qwen" :=
  resolveChain_cascade_iff defaultRegistry everyKeySet "qwen" (by decide)
    defaultRegistry_referenced (everyKeySet_keys defaultRegistry)

/-- An unknown name falls back to `default`, but `constructor` throws. -/
theorem constructor_off_cascade :
    Referenced defaultRegistry ∧ KeysSet defaultRegistry everyKeySet ∧
      ¬defaultRegistry.AliasRegistered "constructor" ∧
      defaultRegistry.resolveChain everyKeySet "constructor" =
        .error (.typeError "paths.map is not a function") ∧
      ¬Cascade defaultRegistry everyKeySet "constructor"
        (defaultRegistry.resolveChain everyKeySet "constructor") := by
  have throws : defaultRegistry.resolveChain everyKeySet "constructor" =
      .error (.typeError "paths.map is not a function") := rfl
  refine ⟨defaultRegistry_referenced, everyKeySet_keys _, by decide, throws, ?_⟩
  intro cascade
  have none : ∀ providerId, defaultRegistry.models.lookup (providerId, "constructor") = none := by
    intro providerId
    exact AList.lookup_eq_none.mpr fun member => by
      have known : (providerId, "constructor") ∈ [("nan", "qwen")] := AList.mem_keys.mpr member
      simp at known
  obtain ⟨_, same, _⟩ := cascade.fallback (by decide) (by decide) none (by decide)
  cases throws.symm.trans same

end LlmGateway.Providers
