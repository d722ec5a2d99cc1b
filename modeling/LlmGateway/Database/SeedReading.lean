import LlmGateway.Database.Seed

/-!
What a seed leaves in the tables, read back as `registry.file` reads them: the
file over what was there before, or, when a chain of the file names a model that
neither has, nothing at all.
-/

namespace LlmGateway.Seed

open Admin Database Effects KeyedWrites Positions Providers Routing

section Checks

def ProviderConfig.Checked (config : ProviderConfig FileModels) : Prop :=
  config.baseURL ≠ some "" ∧ config.timeoutMs ≠ some 0 ∧
    ∀ modelKey model, config.models.lookup modelKey = some model →
      modelKey ≠ "__proto__" ∧ model.maxTokens ≠ some 0

def ProperChain (chain : List String) : Prop :=
  chain ≠ [] ∧ ∀ path ∈ chain, Admin.isChainEntry path = true

def PositivePolicy (policy : RoutingPolicy) : Prop :=
  0 < policy.healthCheckIntervalMs ∧ 0 < policy.requestTimeoutMs ∧ 0 < policy.failureThreshold ∧
    0 < policy.cooldownMs ∧ 0 < policy.halfOpenProbes

/-- What the schema of the file makes sure of. -/
structure ProvidersFile.Checked (file : ProvidersFile) : Prop where
  providers : ∀ id config, file.providers.lookup id = some config →
    id ≠ "__proto__" ∧ config.Checked
  aliases : ∀ aliasName chain, (file.aliases.getD ∅).lookup aliasName = some chain →
    aliasName ≠ "__proto__" ∧ ProperChain chain
  routing : ∀ policy, file.routing = some policy → PositivePolicy policy

open Schema

theorem positiveInt_pos (value : Js.Json) (number : ℕ) (read : positiveInt value = some number) :
    0 < number := by
  obtain ⟨printed, checked, rfl⟩ := Option.map_eq_some_iff.mp read
  have positive := (Option.filter_eq_some_iff.mp checked).2
  simp only [decide_eq_true_eq] at positive
  exact Int.lt_toNat.mpr positive.2.1

theorem recordOf_holds {Value : Type} (item : Schema Value) (good : Value → Prop)
    (reads : ∀ value result, item value = some result → good result) (value : Js.Json)
    (found : AList fun _ : String => Value) (read : recordOf item value = some found)
    (key : String) (result : Value) (present : found.lookup key = some result) :
    key ≠ "__proto__" ∧ good result := by
  obtain ⟨fields, copied, rest⟩ := Option.bind_eq_some_iff.mp read
  obtain ⟨items, accepted, same⟩ := Option.bind_eq_some_iff.mp rest
  cases same
  rw [AList.lookup_to_alist] at present
  have member := List.of_mem_dlookup present
  have proper : ∀ field ∈ fields, field.1 ≠ "__proto__" := by
    cases value with
    | object own =>
        cases copied
        intro field among
        simpa using (List.mem_filter.mp among).2
    | null => cases copied
    | boolean _ => cases copied
    | number _ => cases copied
    | string _ => cases copied
    | array _ => cases copied
  clear read rest present copied
  induction fields generalizing items with
  | nil =>
      cases accepted
      cases member
  | cons field others ih =>
      rw [List.mapM_cons] at accepted
      obtain ⟨head, here, tail⟩ := Option.bind_eq_some_iff.mp accepted
      obtain ⟨later, behind, built⟩ := Option.bind_eq_some_iff.mp tail
      cases built
      obtain ⟨first, proper⟩ := List.forall_mem_cons.mp proper
      rcases List.mem_cons.mp member with same | further
      · obtain ⟨content, kept, called⟩ := Option.map_eq_some_iff.mp here
        rw [← same] at called
        cases called
        exact ⟨first, reads _ _ kept⟩
      · exact ih later behind further proper

theorem modelConfigSchema_checked (value : Js.Json) (config : ModelConfig)
    (read : modelConfigSchema value = some config) : config.maxTokens ≠ some 0 := by
  unfold modelConfigSchema at read
  simp only [Option.bind_eq_bind, Option.bind_eq_some_iff] at read
  obtain ⟨fields, _, real, _, maxTokens, given, supportsStream, _, disableThinking, _, same⟩ := read
  cases same
  intro zero
  exact absurd (optional_holds positiveInt (0 < ·) positiveInt_pos fields _ _ given 0 zero)
    (Nat.lt_irrefl 0)

variable (url : Schema String) (urls : ∀ value, url value ≠ some "")

include urls in
theorem providerConfigSchema_checked (value : Js.Json) (config : ProviderConfig FileModels)
    (read : providerConfigSchema url value = some config) : config.Checked := by
  unfold providerConfigSchema at read
  simp only [Option.bind_eq_bind, Option.bind_eq_some_iff] at read
  obtain ⟨fields, _, apiKeyEnv, _, baseURL, location, timeoutMs, time, supportsSearch, _, models,
    listed, same⟩ := read
  cases same
  refine ⟨?_, ?_, ?_⟩
  · intro empty
    exact optional_holds url (· ≠ "") (fun value result accepted called =>
      urls value (called ▸ accepted)) fields _ _ location "" empty rfl
  · intro zero
    exact absurd (optional_holds positiveInt (0 < ·) positiveInt_pos fields _ _ time 0 zero)
      (Nat.lt_irrefl 0)
  · obtain ⟨record, _, accepted⟩ := Option.bind_eq_some_iff.mp listed
    exact recordOf_holds modelConfigSchema _ modelConfigSchema_checked record models accepted

theorem aliasesSchema_checked (value : Js.Json) (aliases : AList fun _ : String => List String)
    (read : aliasesSchema value = some aliases) (aliasName : String) (chain : List String)
    (present : aliases.lookup aliasName = some chain) :
    aliasName ≠ "__proto__" ∧ ProperChain chain := by
  apply recordOf_holds _ ProperChain _ value aliases read aliasName chain present
  intro value chain accepted
  obtain ⟨items, filled⟩ := Option.filter_eq_some_iff.mp accepted
  refine ⟨by simpa using filled, ?_⟩
  exact array_holds (refine string Admin.isChainEntry) (fun path => Admin.isChainEntry path = true)
    (fun _ _ taken => (Option.filter_eq_some_iff.mp taken).2) value chain items

theorem getD_positive (given : Option ℕ) (fallback : ℕ) (positive : 0 < fallback)
    (read : ∀ number, given = some number → 0 < number) : 0 < given.getD fallback := by
  cases given with
  | none => exact positive
  | some number => exact read number rfl

theorem routingSchema_checked (value : Js.Json) (policy : RoutingPolicy)
    (read : routingSchema value = some policy) : PositivePolicy policy := by
  unfold routingSchema at read
  simp only [Option.bind_eq_bind, Option.bind_eq_some_iff] at read
  obtain ⟨fields, _, _, _, _, health, _, request, _, failure, _, cooldown, _, probes, same⟩ := read
  cases same
  have positive : ∀ (fallback : ℕ) key found, 0 < fallback →
      Schema.optional positiveInt fields key = some found → 0 < found.getD fallback :=
    fun fallback key found default given => getD_positive found fallback default
      (optional_holds positiveInt _ positiveInt_pos fields key found given)
  exact ⟨positive _ _ _ (by decide) health, positive _ _ _ (by decide) request,
    positive _ _ _ (by decide) failure, positive _ _ _ (by decide) cooldown,
    positive _ _ _ (by decide) probes⟩

include urls in
theorem providersFileSchema_checked (value : Js.Json) (file : ProvidersFile)
    (read : providersFileSchema url value = some file) : file.Checked := by
  unfold providersFileSchema at read
  simp only [Option.bind_eq_bind, Option.bind_eq_some_iff] at read
  obtain ⟨fields, _, providers, first, aliases, second, routing, third, same⟩ := read
  cases same
  constructor
  · obtain ⟨record, _, accepted⟩ := Option.bind_eq_some_iff.mp first
    exact recordOf_holds _ _ (providerConfigSchema_checked url urls) record providers accepted
  · intro aliasName chain present
    cases aliases with
    | none => cases present
    | some table =>
        exact optional_holds aliasesSchema
          (fun table => ∀ aliasName chain, table.lookup aliasName = some chain →
            aliasName ≠ "__proto__" ∧ ProperChain chain)
          aliasesSchema_checked fields _ _ second table rfl aliasName chain present
  · intro policy given
    exact optional_holds routingSchema _ routingSchema_checked fields _ _ third policy given

end Checks

section Providers

variable (tables : Tables) (id : String)

def Tables.held (tables : Tables) (id : String) :
    Option ProviderRow × Bool × (String → Option Providers.ModelConfig) :=
  (tables.providers.lookup id, id ∈ tables.searchable, fun modelKey =>
    tables.models.lookup (id, modelKey))

def heldOf (config : ProviderConfig FileModels) :
    Option ProviderRow × Bool × (String → Option Providers.ModelConfig) :=
  (some config.row, config.supportsSearch = some true, fun modelKey =>
    (config.models.lookup modelKey).map ModelConfig.row)

theorem lookup_deleteProvider (key : String × String) :
    (tables.deleteProvider id).models.lookup key =
      if key.1 = id then none else tables.models.lookup key := by
  change (Admin.RegistryStore.eraseAll (tables.models.keys.filter (·.1 = id))
    tables.models).lookup key = _
  rw [Admin.RegistryStore.lookup_eraseAll]
  by_cases owned : key.1 = id
  · rw [if_pos owned]
    split
    · rfl
    · rename_i absent
      apply AList.lookup_eq_none.mpr
      intro present
      exact absent (List.mem_filter.mpr ⟨present, by simpa using owned⟩)
  · rw [if_neg owned, if_neg]
    intro among
    exact owned (of_decide_eq_true (List.mem_filter.mp among).2)

theorem insertModel_settles :
    Settles (Tables.insertModel id) (fun _ => True)
      (fun tables modelKey => tables.models.lookup (id, modelKey))
      fun _ config => some config.row where
  written := by
    intro tables modelKey config next _ written
    unfold Tables.insertModel at written
    split at written
    · cases written
    · cases written
      exact AList.lookup_insert _
  kept := by
    intro tables modelKey config next other written different
    unfold Tables.insertModel at written
    split at written
    · cases written
    · cases written
      exact AList.lookup_insert_ne fun same => different (congrArg Prod.snd same)

def Tables.besideModels (id : String) (tables : Tables) :=
  (tables.providers, tables.searchable, tables.aliasEntries, tables.weights, tables.policy,
    fun key : String × String => if key.1 = id then none else tables.models.lookup key)

theorem insertModel_beside (modelKey : String) (config : ModelConfig) (next : Tables)
    (written : tables.insertModel id modelKey config = .ok next) :
    next.besideModels id = tables.besideModels id := by
  unfold Tables.insertModel at written
  split at written
  · cases written
  · cases written
    have others : (fun key : String × String => if key.1 = id then none
        else (tables.models.insert (id, modelKey) config.row).lookup key) =
        fun key => if key.1 = id then none else tables.models.lookup key := by
      funext key
      split
      · rfl
      · rename_i foreign
        exact AList.lookup_insert_ne fun same => foreign (congrArg Prod.fst same)
    unfold Tables.besideModels
    rw [others]

structure Upserted (tables : Tables) (id : String) (config : ProviderConfig FileModels)
    (next : Tables) : Prop where
  providers : ∀ other, next.providers.lookup other =
    if other = id then some config.row else tables.providers.lookup other
  searchable : ∀ other, other ∈ next.searchable ↔
    if other = id then config.supportsSearch = some true else other ∈ tables.searchable
  models : ∀ key, next.models.lookup key =
    if key.1 = id then (config.models.lookup key.2).map ModelConfig.row
    else tables.models.lookup key
  aliasEntries : next.aliasEntries = tables.aliasEntries.filter (·.providerId ≠ id)
  weights : next.weights = tables.weights
  policy : next.policy = tables.policy

theorem upsertProvider_ok (config : ProviderConfig FileModels) (next : Tables)
    (written : tables.upsertProvider id config = .ok next) : Upserted tables id config next := by
  obtain ⟨inserted, first, later⟩ := except_bind_ok.mp written
  have beside := kept_writeAll (Tables.insertModel id) (Tables.besideModels id)
    (fun tables modelKey config next => insertModel_beside tables id modelKey config next)
    config.models inserted next later
  have own := read_writeAll (Tables.insertModel id) _ _ _ (insertModel_settles id) config.models
    (fun _ _ _ => trivial) inserted next later
  unfold Tables.insertProvider at first
  split at first
  · cases first
  cases first
  unfold Tables.besideModels at beside
  simp only [Prod.mk.injEq] at beside
  obtain ⟨providers, searchable, aliasEntries, weights, policy, models⟩ := beside
  constructor
  · intro other
    rw [providers]
    by_cases same : other = id
    · subst same
      rw [if_pos rfl]
      exact AList.lookup_insert _
    · rw [if_neg same, AList.lookup_insert_ne same]
      exact AList.lookup_erase_ne same
  · intro other
    rw [searchable]
    by_cases same : other = id
    · subst same
      by_cases flagged : config.supportsSearch = some true <;>
        simp [flagged, Tables.deleteProvider]
    · by_cases flagged : config.supportsSearch = some true <;>
        simp [flagged, same, Tables.deleteProvider]
  · intro key
    by_cases same : key.1 = id
    · obtain ⟨owner, modelKey⟩ := key
      cases same
      have cleared := lookup_deleteProvider tables owner (owner, modelKey)
      rw [if_pos rfl] at cleared
      rw [if_pos rfl, own modelKey]
      change (_ : Option (Option _)).getD ((tables.deleteProvider owner).models.lookup _) = _
      rw [cleared]
      cases config.models.lookup modelKey <;> rfl
    · have others := congrFun models key
      rw [if_neg same, if_neg same] at others
      rw [if_neg same, others]
      exact (lookup_deleteProvider tables id key).trans (if_neg same)
  · exact aliasEntries
  · exact weights
  · exact policy

/-- An upsert fails for a value that violates a CHECK, whatever the tables hold. -/
theorem upsertProvider_ok_iff (config : ProviderConfig FileModels) :
    (∃ next, tables.upsertProvider id config = .ok next) ↔
      config.timeoutMs ≠ some 0 ∧
        ∀ modelKey model, config.models.lookup modelKey = some model →
          model.maxTokens ≠ some 0 := by
  have models := fun start : Tables => writeAll_ok_iff (Tables.insertModel id) (fun _ => ())
    (fun _ => True) (fun _ _ config => config.maxTokens ≠ some 0) (fun _ _ _ _ _ => rfl)
    (fun tables modelKey config _ => by unfold Tables.insertModel; split <;> simp [*])
    config.models (fun _ _ _ => trivial) start
  unfold Tables.upsertProvider Tables.insertProvider
  by_cases instant : config.timeoutMs = some 0
  · simp [instant, bind, Except.bind]
  · rw [if_neg instant]
    exact (models _).trans (and_iff_right instant).symm

end Providers

section Listing

variable (tables : Tables)

theorem lookup_listModels (id modelKey : String) :
    (tables.listModels id).lookup modelKey =
      if modelKey = "__proto__" then none
      else (tables.models.lookup (id, modelKey)).map listedModel := by
  apply lookup_tabulate
  intro name present
  split at present
  · cases present
  · rw [Option.isSome_map, AList.lookup_isSome] at present
    exact List.mem_map.mpr ⟨(id, name), List.mem_filter.mpr ⟨present, by simp⟩, rfl⟩

theorem lookup_listProviders (id : String) :
    tables.listProviders.lookup id =
      if id = "__proto__" then none
      else (tables.providers.lookup id).map (tables.listedProvider id) := by
  apply lookup_tabulate
  intro name present
  split at present
  · cases present
  · rwa [Option.isSome_map, AList.lookup_isSome] at present

theorem lookup_listAliases (aliasName : String) :
    tables.listAliases.lookup aliasName =
      if aliasName = "__proto__" then none else tables.registry.listAliases aliasName := by
  apply lookup_tabulate
  intro name present
  split at present
  · cases present
  · have registered : tables.registry.AliasRegistered name := by
      by_contra unregistered
      rw [ProviderRegistry.listAliases, if_neg unregistered] at present
      cases present
    exact (List.mem_insertionSort _).mpr (List.mem_dedup.mpr registered)

end Listing

section Normal

/-- A model as it is read back: a flag with its default is left out. -/
def ModelConfig.normal (config : ModelConfig) : ModelConfig where
  real := config.real
  maxTokens := config.maxTokens
  supportsStream := config.supportsStream.filter (· = false)
  disableThinking := config.disableThinking.filter (· = true)

def ProviderConfig.normal (config : ProviderConfig FileModels) : ProviderConfig Models where
  apiKeyEnv := config.apiKeyEnv
  baseURL := config.baseURL
  timeoutMs := config.timeoutMs
  supportsSearch := config.supportsSearch.filter (· = true)
  models := tabulate config.models.keys fun modelKey =>
    (config.models.lookup modelKey).map ModelConfig.normal

def ProvidersFile.listing (file : ProvidersFile) : Finmap fun _ : String => ProviderConfig Models :=
  tabulate file.providers.keys fun id => (file.providers.lookup id).map ProviderConfig.normal

theorem listedModel_row (config : ModelConfig) : listedModel config.row = config.normal := by
  obtain ⟨real, maxTokens, supportsStream, disableThinking⟩ := config
  unfold listedModel ModelConfig.row ModelConfig.normal
  rcases supportsStream with _ | _ | _ <;> rcases disableThinking with _ | _ | _ <;> rfl

theorem lookup_normal_models (config : ProviderConfig FileModels) (modelKey : String) :
    config.normal.models.lookup modelKey =
      (config.models.lookup modelKey).map ModelConfig.normal := by
  apply lookup_tabulate
  intro name present
  rwa [Option.isSome_map, AList.lookup_isSome] at present

theorem lookup_listing (file : ProvidersFile) (id : String) :
    file.listing.lookup id = (file.providers.lookup id).map ProviderConfig.normal := by
  apply lookup_tabulate
  intro name present
  rwa [Option.isSome_map, AList.lookup_isSome] at present

theorem listedProvider_row (tables : Tables) (id : String) (config : ProviderConfig FileModels)
    (holds : tables.held id = heldOf config) (checked : config.Checked) :
    tables.listedProvider id config.row = config.normal := by
  obtain ⟨addressed, timed, keyed⟩ := checked
  simp only [Tables.held, heldOf, Prod.mk.injEq] at holds
  obtain ⟨_, searchable, rows⟩ := holds
  have models : tables.listModels id = config.normal.models := by
    refine Finmap.ext_lookup fun modelKey => ?_
    rw [lookup_listModels, congrFun rows modelKey, lookup_normal_models, Option.map_map]
    split
    · rename_i inherited
      subst inherited
      cases held : config.models.lookup "__proto__" with
      | none => rfl
      | some model => exact absurd rfl (keyed _ model held).1
    · exact congrArg (Option.map · _) (funext listedModel_row)
  obtain ⟨apiKeyEnv, baseURL, timeoutMs, supportsSearch, held⟩ := config
  have base : baseURL.filter (· ≠ "") = baseURL := by
    cases baseURL <;> simp_all
  have timeout : timeoutMs.filter (· ≠ 0) = timeoutMs := by
    cases timeoutMs <;> simp_all
  have search : (if id ∈ tables.searchable then some true else none) =
      supportsSearch.filter (· = true) := by
    rw [if_congr (decide_eq_decide.mp searchable) rfl rfl]
    rcases supportsSearch with _ | _ | _ <;> rfl
  simp only [Tables.listedProvider, ProviderConfig.row, base, timeout, search, models]
  rfl

end Normal

section Writing

variable (file : ProvidersFile) (tables next : Tables)

theorem upsertProvider_settles :
    Settles Tables.upsertProvider (fun _ => True) Tables.held fun _ config => heldOf config where
  written := by
    intro tables id config next _ written
    have upserted := upsertProvider_ok tables id config next written
    simp only [Tables.held, heldOf, Prod.mk.injEq]
    refine ⟨(upserted.providers id).trans (if_pos rfl), decide_eq_decide.mpr ?_, ?_⟩
    · exact (upserted.searchable id).trans (by rw [if_pos rfl])
    · exact funext fun modelKey => (upserted.models (id, modelKey)).trans (if_pos rfl)
  kept := by
    intro tables id config next other written different
    have upserted := upsertProvider_ok tables id config next written
    simp only [Tables.held, Prod.mk.injEq]
    refine ⟨(upserted.providers other).trans (if_neg different), decide_eq_decide.mpr ?_, ?_⟩
    · exact (upserted.searchable other).trans (by rw [if_neg different])
    · exact funext fun modelKey => (upserted.models (other, modelKey)).trans (if_neg different)

theorem foldl_filter_ne (ids : List String) (entries : List AliasEntryRow) :
    ids.foldl (fun entries id => entries.filter (·.providerId ≠ id)) entries =
      entries.filter (·.providerId ∉ ids) := by
  induction ids generalizing entries with
  | nil => simp
  | cons id rest ih =>
      rw [List.foldl_cons, ih, List.filter_filter]
      refine List.filter_congr fun entry _ => ?_
      by_cases same : entry.providerId = id <;> simp [same]

structure ProvidersWritten (file : ProvidersFile) (tables next : Tables) : Prop where
  held : ∀ id, next.held id = ((file.providers.lookup id).map heldOf).getD (tables.held id)
  aliasEntries : next.aliasEntries = tables.aliasEntries.filter (·.providerId ∉ file.providers.keys)
  weights : next.weights = tables.weights
  policy : next.policy = tables.policy

theorem providersWritten
    (written : writeAll Tables.upsertProvider file.providers tables = .ok next) :
    ProvidersWritten file tables next where
  held := read_writeAll Tables.upsertProvider _ Tables.held _ upsertProvider_settles
    file.providers (fun _ _ _ => trivial) tables next written
  aliasEntries := by
    rw [view_writeAll Tables.upsertProvider Tables.aliasEntries
      (fun entries id => entries.filter (·.providerId ≠ id))
      (fun state id config next written =>
        (upsertProvider_ok state id config next written).aliasEntries)
      file.providers tables next written]
    exact foldl_filter_ne _ _
  weights := kept_writeAll Tables.upsertProvider Tables.weights
    (fun state id config next written => (upsertProvider_ok state id config next written).weights)
    file.providers tables next written
  policy := kept_writeAll Tables.upsertProvider Tables.policy
    (fun state id config next written => (upsertProvider_ok state id config next written).policy)
    file.providers tables next written

theorem listProviders_congr (id : String) (same : next.held id = tables.held id) :
    next.listProviders.lookup id = tables.listProviders.lookup id := by
  simp only [Tables.held, Prod.mk.injEq] at same
  obtain ⟨row, searchable, rows⟩ := same
  have models : next.listModels id = tables.listModels id := by
    refine Finmap.ext_lookup fun modelKey => ?_
    rw [lookup_listModels, lookup_listModels, congrFun rows modelKey]
  rw [lookup_listProviders, lookup_listProviders, row]
  refine congrArg (fun listed => if id = "__proto__" then none else Option.map listed _) ?_
  funext row
  unfold Tables.listedProvider
  rw [models, if_congr (decide_eq_decide.mp searchable) rfl rfl]

theorem listProviders_written (checked : file.Checked)
    (written : ProvidersWritten file tables next) :
    next.listProviders = file.listing ∪ tables.listProviders := by
  refine Finmap.ext_lookup fun id => ?_
  rw [lookup_union, lookup_listing]
  have held := written.held id
  cases given : file.providers.lookup id with
  | none =>
      rw [given] at held
      rw [Option.map_none, Option.none_or]
      exact listProviders_congr tables next id held
  | some config =>
      rw [given] at held
      obtain ⟨named, proper⟩ := checked.providers id config given
      rw [lookup_listProviders, if_neg named, (Prod.mk.inj held).1, Option.map_some,
        Option.map_some, Option.some_or]
      exact congrArg some (listedProvider_row next id config held proper)

end Writing

section Aliases

theorem segments_single (text part : String) (single : segments text = [part]) :
    text = part ∧ '/' ∉ text.toList := by
  by_cases slash : '/' ∈ text.toList
  · obtain ⟨front, rest, plain, rfl⟩ := exists_modelPath text slash
    rw [segments_modelPath front rest plain] at single
    have none : segments rest = [] := (List.cons.inj single).2
    exact absurd (List.map_eq_nil_iff.mp none) (List.splitOn_ne_nil _ _)
  · rw [segments_plain text slash] at single
    exact ⟨(List.cons.inj single).1, slash⟩

theorem isChainEntry_parts (path : String) (accepted : isChainEntry path = true) :
    ∃ providerId modelKey, path = modelPath providerId modelKey ∧ '/' ∉ providerId.toList ∧
      '/' ∉ modelKey.toList ∧ providerId ≠ "" ∧ modelKey ≠ "" := by
  unfold isChainEntry at accepted
  split at accepted
  · rename_i front rest cut
    simp only [Bool.and_eq_true, Bool.not_eq_true', List.isEmpty_eq_false_iff] at accepted
    obtain ⟨⟨front_named, rest_named⟩, _⟩ := accepted
    have parts : segments path = [String.ofList front, String.ofList rest] := by
      rw [segments, cut]
      rfl
    by_cases slash : '/' ∈ path.toList
    · obtain ⟨providerId, modelKey, plain, rfl⟩ := exists_modelPath path slash
      rw [segments_modelPath providerId modelKey plain] at parts
      obtain ⟨first, others⟩ := List.cons.inj parts
      obtain ⟨second, simple⟩ := segments_single modelKey _ others
      refine ⟨providerId, modelKey, rfl, plain, simple, ?_, ?_⟩
      · rw [first]
        simpa using front_named
      · rw [second]
        simpa using rest_named
    · rw [segments_plain path slash] at parts
      cases parts
  · cases accepted

def Storable (registry : ProviderRegistry) (path : String) : Prop :=
  (registry.providers.lookup (splitEntry path).1).isSome = true ∧
    (registry.models.lookup (splitEntry path)).isSome = true

theorem splitEntry_parts (providerId modelKey : String) (plainProvider : '/' ∉ providerId.toList)
    (plainModel : '/' ∉ modelKey.toList) :
    splitEntry (modelPath providerId modelKey) = (providerId, modelKey) := by
  rw [splitEntry_modelPath providerId modelKey plainProvider,
    leadingSegment_plain modelKey plainModel]

theorem insertAliasEntry_written (registry : ProviderRegistry) (aliasName : String)
    (path : String × ℕ) (row : AliasEntryRow)
    (written : insertAliasEntry registry aliasName path = .ok row) :
    row = entryRow aliasName path := by
  unfold insertAliasEntry at written
  split at written
  · cases written
  · split at written
    · cases written
    · exact (Except.ok.inj written).symm

theorem insertAliasEntry_returns_iff (registry : ProviderRegistry) (aliasName : String)
    (path : String × ℕ) (accepted : isChainEntry path.1 = true) :
    (∃ row, insertAliasEntry registry aliasName path = .ok row) ↔ Storable registry path.1 := by
  obtain ⟨item, position⟩ := path
  obtain ⟨providerId, modelKey, rfl, plain, simple, owner, named⟩ :=
    isChainEntry_parts item accepted
  have parts := splitEntry_parts providerId modelKey plain simple
  unfold insertAliasEntry Storable
  simp only [parts, owner, named, or_self, if_false]
  split
  · rename_i missing
    rcases missing with missing | missing <;> simp_all
  · rename_i present
    rw [not_or, Bool.not_eq_true, Bool.not_eq_true, Option.isNone_eq_false_iff,
      Option.isNone_eq_false_iff] at present
    exact ⟨fun _ => present, fun _ => ⟨_, rfl⟩⟩

variable (tables next : Tables) (aliasName : String) (chain : List String)

theorem replaceAliasEntry_written (written : tables.replaceAliasEntry aliasName chain = .ok next) :
    next = { tables with
      aliasEntries := entryLayout.deleteGroup aliasName tables.aliasEntries ++
        chain.zipIdx.map (entryRow aliasName) } := by
  unfold Tables.replaceAliasEntry at written
  split at written
  · rename_i registry replaced
    obtain ⟨rows, inserted, same⟩ := except_bind_ok.mp replaced
    cases mapM_image _ (entryRow aliasName) (insertAliasEntry_written tables.registry aliasName)
      chain.zipIdx rows inserted
    cases same
    exact (Except.ok.inj written).symm
  · cases written

theorem replaceAliasEntry_returns_iff (entries : ∀ path ∈ chain, isChainEntry path = true) :
    (∃ next, tables.replaceAliasEntry aliasName chain = .ok next) ↔
      ∀ path ∈ chain, Storable tables.registry path := by
  have visits :
      (∃ rows, chain.zipIdx.mapM (insertAliasEntry tables.registry aliasName) = .ok rows) ↔
        ∀ path ∈ chain, Storable tables.registry path := by
    rw [mapM_returns_iff]
    constructor
    · intro each path member
      obtain ⟨position, found⟩ := List.getElem?_of_mem member
      exact (insertAliasEntry_returns_iff tables.registry aliasName (path, position)
        (entries path member)).mp (each _ (List.mem_zipIdx_iff_getElem?.mpr found))
    · intro each item member
      have listed := List.mem_of_getElem? (List.mem_zipIdx_iff_getElem?.mp member)
      exact (insertAliasEntry_returns_iff tables.registry aliasName item (entries _ listed)).mpr
        (each _ listed)
  rw [← visits]
  unfold Tables.replaceAliasEntry Admin.replaceAliasEntry
  cases chain.zipIdx.mapM (insertAliasEntry tables.registry aliasName) with
  | ok rows => exact ⟨fun _ => ⟨rows, rfl⟩, fun _ => ⟨_, rfl⟩⟩
  | error error =>
      constructor <;>
      · rintro ⟨_, impossible⟩
        cases impossible

theorem listAliases_layout (registry : ProviderRegistry) (name : String) :
    registry.listAliases name =
      if entryLayout.group name registry.aliasEntries = [] then none
      else some ((entryLayout.column name registry.aliasEntries).map fun value =>
        modelPath value.1 value.2.1) := by
  have registered := RegistryStore.registered_iff ⟨registry, []⟩ name
  have entries := RegistryStore.entriesOf_eq ⟨registry, []⟩ name
  change registry.AliasRegistered name ↔ entryLayout.group name registry.aliasEntries ≠ []
    at registered
  change registry.entriesOf name = _ at entries
  unfold ProviderRegistry.listAliases
  rw [entries, Layout.column, List.map_map]
  by_cases empty : entryLayout.group name registry.aliasEntries = []
  · rw [if_pos empty, if_neg fun held => registered.mp held empty]
  · rw [if_neg empty, if_pos (registered.mpr empty)]
    rfl

theorem replaceAliasEntry_settles :
    Settles Tables.replaceAliasEntry ProperChain
      (fun tables aliasName => tables.registry.listAliases aliasName)
      fun _ chain => some chain where
  written := by
    intro tables aliasName chain next ⟨nonempty, entries⟩ written
    cases replaceAliasEntry_written tables next aliasName chain written
    obtain ⟨column, positions⟩ := entryLayout.column_write aliasName
      (entryLayout.deleteGroup aliasName tables.aliasEntries) chain (entryRow aliasName)
      (fun path => ((splitEntry path).1, (splitEntry path).2, 0))
      (entryLayout.group_deleteGroup aliasName tables.aliasEntries) (fun _ => rfl) (fun _ => rfl)
      fun _ => rfl
    rw [listAliases_layout, if_neg]
    · refine congrArg some ?_
      change (entryLayout.column aliasName (_ ++ _)).map _ = chain
      rw [column, List.map_map]
      refine (List.map_congr_left fun path member => ?_).trans (List.map_id chain)
      obtain ⟨providerId, modelKey, rfl, plain, simple, _⟩ :=
        isChainEntry_parts path (entries path member)
      simp only [Function.comp_apply, splitEntry_parts providerId modelKey plain simple, id_eq]
    · intro empty
      change entryLayout.group aliasName (_ ++ _) = [] at empty
      rw [empty] at positions
      exact nonempty (List.length_eq_zero_iff.mp (List.range_eq_nil.mp positions.symm))
  kept := by
    intro tables aliasName chain next other written different
    cases replaceAliasEntry_written tables next aliasName chain written
    have others : entryLayout.group other (entryLayout.deleteGroup aliasName tables.aliasEntries ++
        chain.zipIdx.map (entryRow aliasName)) = entryLayout.group other tables.aliasEntries :=
      (entryLayout.group_write_other aliasName other _ chain (entryRow aliasName) different
        fun _ => rfl).trans
        (entryLayout.group_deleteGroup_other aliasName other tables.aliasEntries different)
    rw [listAliases_layout, listAliases_layout]
    unfold Layout.column
    change (if entryLayout.group other (_ ++ _) = [] then _ else some (List.map _ (List.map _
      (entryLayout.ordered (entryLayout.group other (_ ++ _)))))) = _
    rw [others]
    rfl

end Aliases

section Placing

variable (file : ProvidersFile) (tables next : Tables)

/-- A model of the file, or one of a provider that the file leaves alone. -/
inductive Held (file : ProvidersFile) (tables : Tables) (providerId modelKey : String) : Prop where
  | given (config : ProviderConfig FileModels)
      (listed : file.providers.lookup providerId = some config)
      (known : modelKey ∈ config.models)
  | before (unlisted : providerId ∉ file.providers) (row : providerId ∈ tables.providers)
      (known : (providerId, modelKey) ∈ tables.models)

/-- Every entry of a chain names a model that the tables then have. -/
def Placeable : Prop :=
  ∀ aliasName chain, (file.aliases.getD ∅).lookup aliasName = some chain →
    ∀ providerId modelKey, '/' ∉ providerId.toList → modelPath providerId modelKey ∈ chain →
      Held file tables providerId modelKey

theorem held_iff (written : ProvidersWritten file tables next) (providerId modelKey : String) :
    Held file tables providerId modelKey ↔
      (next.providers.lookup providerId).isSome = true ∧
        (next.models.lookup (providerId, modelKey)).isSome = true := by
  have held := written.held providerId
  cases listed : file.providers.lookup providerId with
  | some config =>
      rw [listed] at held
      obtain ⟨row, _, rows⟩ := Prod.mk.inj held |>.imp_right Prod.mk.inj
      rw [row, congrFun rows modelKey, Option.isSome_map, AList.lookup_isSome]
      refine ⟨?_, fun ⟨_, known⟩ => .given config listed known⟩
      intro holds
      cases holds with
      | given other same known =>
          cases listed.symm.trans same
          exact ⟨rfl, known⟩
      | before unlisted _ _ =>
          exact absurd (AList.lookup_isSome.mp (Option.isSome_of_eq_some listed)) unlisted
  | none =>
      rw [listed] at held
      obtain ⟨row, _, rows⟩ := Prod.mk.inj held |>.imp_right Prod.mk.inj
      rw [row, congrFun rows modelKey, AList.lookup_isSome, AList.lookup_isSome]
      refine ⟨?_, fun ⟨row, known⟩ => .before (AList.lookup_eq_none.mp listed) row known⟩
      intro holds
      cases holds with
      | given config same _ => cases listed.symm.trans same
      | before _ row known => exact ⟨row, known⟩

theorem storable_iff (chain : List String) (proper : ProperChain chain) :
    (∀ path ∈ chain, Storable next.registry path) ↔
      ∀ providerId modelKey, '/' ∉ providerId.toList → modelPath providerId modelKey ∈ chain →
        (next.providers.lookup providerId).isSome = true ∧
          (next.models.lookup (providerId, modelKey)).isSome = true := by
  constructor
  · intro storable providerId modelKey plain member
    have stored := storable _ member
    obtain ⟨owner, model, same, simple, plainModel, _⟩ :=
      isChainEntry_parts _ (proper.2 _ member)
    -- A path has one reading without a slash before its first slash.
    have first : providerId = owner := by
      rw [← leadingSegment_modelPath providerId modelKey plain, same,
        leadingSegment_modelPath owner model simple]
    subst first
    have second : modelKey = model := by
      rw [modelPath, modelPath, String.append_right_inj] at same
      exact same
    subst second
    unfold Storable at stored
    rwa [splitEntry_parts providerId modelKey plain plainModel] at stored
  · intro rows path member
    obtain ⟨providerId, modelKey, rfl, plain, simple, _⟩ :=
      isChainEntry_parts path (proper.2 path member)
    unfold Storable
    rw [splitEntry_parts providerId modelKey plain simple]
    exact rows providerId modelKey plain member

theorem writeAliases_returns_iff (checked : file.Checked)
    (written : ProvidersWritten file tables next) :
    (∃ replaced, writeAll Tables.replaceAliasEntry (file.aliases.getD ∅) next = .ok replaced) ↔
      Placeable file tables := by
  have judged := writeAll_ok_iff Tables.replaceAliasEntry
    (fun tables : Tables => (tables.providers, tables.models)) ProperChain
    (fun rows _ chain => ∀ providerId modelKey, '/' ∉ providerId.toList →
      modelPath providerId modelKey ∈ chain → (rows.1.lookup providerId).isSome = true ∧
        (rows.2.lookup (providerId, modelKey)).isSome = true)
    (by
      intro tables aliasName chain next written
      cases replaceAliasEntry_written tables next aliasName chain written
      rfl)
    (fun tables aliasName chain proper =>
      (replaceAliasEntry_returns_iff tables aliasName chain proper.2).trans
        (storable_iff tables chain proper))
    (file.aliases.getD ∅)
    (fun aliasName chain present => (checked.aliases aliasName chain present).2) next
  rw [judged]
  simp only [Placeable, held_iff file tables next written]

end Placing

section Policy

variable (tables : Tables) (policy : RoutingPolicy)

theorem setPolicy_positive (positive : PositivePolicy policy) :
    ∃ row, tables.setPolicy policy = .ok { tables with policy := row } ∧
      getPolicy row = if tables.policy.isSome then policy else getPolicy none := by
  unfold Tables.setPolicy Routing.setPolicy
  cases held : tables.policy with
  | none => exact ⟨none, rfl, rfl⟩
  | some row =>
      unfold PositivePolicy at positive
      simp only [Option.getD_some, dif_pos positive]
      refine ⟨_, rfl, ?_⟩
      obtain ⟨fallbackEnabled, _, _, _, _, _⟩ := policy
      cases fallbackEnabled <;> rfl

end Policy
section Seeds

variable (file : ProvidersFile) (tables next : Tables)

def Tables.dropped (tables : Tables) (file : ProvidersFile) : Tables :=
  { tables with aliasEntries := tables.aliasEntries.filter (·.providerId ∉ file.providers.keys) }

/-- What is listed after the seed: the file over what was there, except that a
table without its row of the policy takes none. -/
structure Seeded (file : ProvidersFile) (tables next : Tables) : Prop where
  providers : next.listProviders = file.listing ∪ tables.listProviders
  aliases : next.listAliases =
    (file.aliases.getD ∅).toFinmap ∪ (tables.dropped file).listAliases
  policy : getPolicy next.policy =
    if tables.policy.isSome then file.routing.getD (getPolicy tables.policy) else getPolicy none
  weights : next.weights = tables.weights

theorem listAliases_written (checked : file.Checked) (upserted : Tables)
    (entries : upserted.aliasEntries = (tables.dropped file).aliasEntries)
    (written : writeAll Tables.replaceAliasEntry (file.aliases.getD ∅) upserted = .ok next) :
    next.listAliases = (file.aliases.getD ∅).toFinmap ∪ (tables.dropped file).listAliases := by
  refine Finmap.ext_lookup fun aliasName => ?_
  have reads := read_writeAll Tables.replaceAliasEntry ProperChain _ _ replaceAliasEntry_settles
    (file.aliases.getD ∅)
    (fun aliasName chain present => (checked.aliases aliasName chain present).2)
    upserted next written aliasName
  have before : upserted.registry.listAliases aliasName =
      (tables.dropped file).registry.listAliases aliasName := by
    rw [listAliases_layout, listAliases_layout]
    change (if entryLayout.group aliasName upserted.aliasEntries = [] then _ else some (List.map _
      (entryLayout.column aliasName upserted.aliasEntries))) = _
    rw [entries]
    rfl
  rw [lookup_union, lookup_listAliases, lookup_listAliases, reads, before]
  change _ = ((file.aliases.getD ∅).lookup aliasName).or _
  cases given : (file.aliases.getD ∅).lookup aliasName with
  | none => rfl
  | some chain =>
      rw [if_neg (checked.aliases aliasName chain given).1]
      rfl

theorem writeAliases_beside (aliases : AList fun _ : String => List String) (upserted : Tables)
    (written : writeAll Tables.replaceAliasEntry aliases upserted = .ok next) :
    next = { upserted with aliasEntries := next.aliasEntries } := by
  have beside := kept_writeAll Tables.replaceAliasEntry
    (fun tables : Tables => { tables with aliasEntries := [] })
    (by
      intro tables aliasName chain next written
      cases replaceAliasEntry_written tables next aliasName chain written
      rfl)
    aliases upserted next written
  exact congrArg (fun tables : Tables => { tables with aliasEntries := next.aliasEntries }) beside

theorem writeRouting_ok (checked : file.Checked) :
    ∃ row, writeRouting file tables = .ok { tables with policy := row } ∧
      getPolicy row =
        if tables.policy.isSome then file.routing.getD (getPolicy tables.policy)
        else getPolicy none := by
  unfold writeRouting
  cases given : file.routing with
  | none =>
      refine ⟨tables.policy, rfl, ?_⟩
      cases tables.policy <;> rfl
  | some policy => exact setPolicy_positive tables policy (checked.routing policy given)

theorem seedTables_ok_iff :
    seedTables file tables = .ok next ↔
      ∃ upserted, writeAll Tables.upsertProvider file.providers tables = .ok upserted ∧
        ∃ replaced, writeAll Tables.replaceAliasEntry (file.aliases.getD ∅) upserted =
          .ok replaced ∧ writeRouting file replaced = .ok next := by
  unfold seedTables
  simp only [except_bind_ok]

theorem seedTables_seeded (checked : file.Checked) (written : seedTables file tables = .ok next) :
    Seeded file tables next := by
  obtain ⟨upserted, first, replaced, second, third⟩ :=
    (seedTables_ok_iff file tables next).mp written
  have providers := providersWritten file tables upserted first
  have aliases :=
    listAliases_written file tables replaced checked upserted providers.aliasEntries second
  have beside := writeAliases_beside replaced (file.aliases.getD ∅) upserted second
  obtain ⟨row, routed, policy⟩ := writeRouting_ok file replaced checked
  cases Except.ok.inj (routed.symm.trans third)
  have kept : replaced.policy = tables.policy := by rw [beside, providers.policy]
  constructor
  · calc
      { replaced with policy := row }.listProviders = replaced.listProviders := rfl
      _ = upserted.listProviders := by rw [beside]; rfl
      _ = file.listing ∪ tables.listProviders :=
        listProviders_written file tables upserted checked providers
  · exact aliases
  · rw [← kept]
    exact policy
  · change replaced.weights = _
    rw [beside, providers.weights]

theorem upsertProviders_return (checked : file.Checked) :
    ∃ upserted, writeAll Tables.upsertProvider file.providers tables = .ok upserted := by
  refine (writeAll_ok_iff Tables.upsertProvider (fun _ => ()) (fun _ => True)
    (fun _ _ config => config.timeoutMs ≠ some 0 ∧ ∀ modelKey model,
      config.models.lookup modelKey = some model → model.maxTokens ≠ some 0)
    (fun _ _ _ _ _ => rfl) (fun tables id config _ => upsertProvider_ok_iff tables id config)
    file.providers (fun _ _ _ => trivial) tables).mpr ?_
  intro id config given
  obtain ⟨_, timed, models⟩ := (checked.providers id config given).2
  exact ⟨timed, fun modelKey model present => (models modelKey model present).2⟩

theorem seedTables_returns_iff (checked : file.Checked) :
    (∃ next, seedTables file tables = .ok next) ↔ Placeable file tables := by
  obtain ⟨upserted, first⟩ := upsertProviders_return file tables checked
  rw [← writeAliases_returns_iff file tables upserted checked
    (providersWritten file tables upserted first)]
  simp only [seedTables_ok_iff]
  constructor
  · rintro ⟨next, other, same, replaced, second, _⟩
    cases Except.ok.inj (first.symm.trans same)
    exact ⟨replaced, second⟩
  · rintro ⟨replaced, second⟩
    obtain ⟨row, routed, _⟩ := writeRouting_ok file replaced checked
    exact ⟨_, upserted, first, replaced, second, routed⟩

end Seeds

section Calls

variable (platform : Platform) (seed : SeedFile) (recordedAt : ℤ) (before : Store Tables)

inductive SeedCall : EStateM.Result String (Store Tables) SeedResult → Prop
  | again (seeded : alreadySeeded before seed.name = true) :
      SeedCall (.ok { applied := false, providers := 0, aliases := 0, policy := false }
        (ensureSchema before))
  | unread (message : String) (fresh : alreadySeeded before seed.name = false)
      (read : readSeed platform seed = .error message) :
      SeedCall (.error message (ensureSchema before))
  /-- An entry has no model, or the name is that of a migration. -/
  | refused (file : ProvidersFile) (message : String)
      (fresh : alreadySeeded before seed.name = false) (read : readSeed platform seed = .ok file)
      (stuck : ¬ Placeable file before.db ∨ seed.name ∈ listKnownNames before) :
      SeedCall (.error message (ensureSchema before))
  | applied (file : ProvidersFile) (next : Store Tables)
      (fresh : alreadySeeded before seed.name = false) (read : readSeed platform seed = .ok file)
      (placeable : Placeable file before.db) (named : seed.name ∉ listKnownNames before)
      (listed : Seeded file before.db next.db)
      (rows : next.rows = before.rows ++ [⟨seed.name, recordedAt, .seed⟩]) :
      SeedCall (.ok file.result next)

theorem alreadySeeded_ensureSchema (name : String) :
    alreadySeeded (ensureSchema before) name = alreadySeeded before name := by
  rw [alreadySeeded, rows_ensureSchema, alreadySeeded]

theorem seedTransaction (file : ProvidersFile) (record : MigrationRecord) (ledger : Ledger)
    (held : before.ledger = some ledger) :
    (∃ db longer, seedTables file before.db = .ok db ∧ record.name ∉ ledger.names ∧
      longer.rows = ledger.rows ++ [record] ∧
      transaction none (do writeTables file; insertRecord record) before =
        .ok () ⟨db, some longer⟩) ∨
    ∃ message, ((∀ db, seedTables file before.db ≠ .ok db) ∨ record.name ∈ ledger.names) ∧
      transaction none (do writeTables file; insertRecord record) before =
        .error message before := by
  unfold transaction
  cases written : seedTables file before.db with
  | error message =>
      have stops : writeTables file before = .error message before := by
        rw [writeTables, written]
      refine .inr ⟨message, .inl fun _ => by simp, ?_⟩
      simp only [bind_error _ _ _ _ message stops]
  | ok db =>
      have writes : writeTables file before = .ok () { before with db := db } := by
        rw [writeTables, written]
      by_cases fresh : record.name ∉ ledger.names
      · obtain ⟨longer, inserted, rows⟩ := insert_fresh ledger record fresh
        refine .inl ⟨db, longer, rfl, fresh, rows, ?_⟩
        simp only [bind_ok _ _ _ _ () writes, insertRecord, held, inserted]
      · refine .inr ⟨"UNIQUE constraint failed: _migrations.name", .inr (not_not.mp fresh), ?_⟩
        simp only [bind_ok _ _ _ _ () writes, insertRecord, held, insert_taken ledger record fresh]

theorem seedProvidersFromFile_cases :
    (alreadySeeded before seed.name = true ∧
      seedProvidersFromFile platform seed recordedAt before =
        .ok { applied := false, providers := 0, aliases := 0, policy := false }
          (ensureSchema before)) ∨
    alreadySeeded before seed.name = false ∧
      ((∃ message, readSeed platform seed = .error message ∧
        seedProvidersFromFile platform seed recordedAt before =
          .error message (ensureSchema before)) ∨
      ∃ file, readSeed platform seed = .ok file ∧
        ((∃ next, seedTables file before.db = .ok next.db ∧ seed.name ∉ listKnownNames before ∧
          next.rows = before.rows ++ [⟨seed.name, recordedAt, .seed⟩] ∧
          seedProvidersFromFile platform seed recordedAt before = .ok file.result next) ∨
        ∃ message, ((∀ db, seedTables file before.db ≠ .ok db) ∨
            seed.name ∈ listKnownNames before) ∧
          seedProvidersFromFile platform seed recordedAt before =
            .error message (ensureSchema before))) := by
  unfold seedProvidersFromFile
  rw [modify_bind, get_bind, alreadySeeded_ensureSchema]
  cases seeded : alreadySeeded before seed.name with
  | true => exact .inl ⟨rfl, rfl⟩
  | false =>
      refine .inr ⟨rfl, ?_⟩
      cases read : readSeed platform seed with
      | error message => exact .inl ⟨message, rfl, rfl⟩
      | ok file =>
          refine .inr ⟨file, rfl, ?_⟩
          have names : (before.ledger.getD Ledger.empty).names = listKnownNames before :=
            knownNames_ensureSchema before
          have ledgers : (before.ledger.getD Ledger.empty).rows = before.rows :=
            rows_ensureSchema before
          rcases seedTransaction (ensureSchema before) file ⟨seed.name, recordedAt, .seed⟩ _ rfl
            with ⟨db, longer, written, fresh, rows, committed⟩ | ⟨message, reason, rolled⟩
          · refine .inl ⟨⟨db, some longer⟩, written, names ▸ fresh, ?_, ?_⟩
            · rw [← ledgers]
              exact rows
            · simp only [Bool.false_eq_true, if_false, bind_ok _ _ _ _ () committed]
              rfl
          · refine .inr ⟨message, names ▸ reason, ?_⟩
            simp only [Bool.false_eq_true, if_false, bind_error _ _ _ _ message rolled]

theorem readSeed_checked (urls : ∀ value, platform.url value ≠ some "") (file : ProvidersFile)
    (read : readSeed platform seed = .ok file) : file.Checked := by
  unfold readSeed at read
  split at read
  · cases read
  · split at read
    · cases read
    · rename_i value _
      split at read
      · cases read
      · rename_i found accepted
        cases read
        exact providersFileSchema_checked platform.url urls value file accepted

end Calls

section FirstBoot

/-- A start of the file that the repository brings. -/
def providersJson : Js.Json :=
  .object
    [("providers", .object [("nan", .object
      [("apiKeyEnv", .string "NAN_API_KEY"), ("baseURL", .string "https://api.nan.builders/v1"),
        ("timeoutMs", .number "180000"), ("supportsSearch", .boolean true),
        ("models", .object
          [("qwen", .object [("real", .string "qwen3.6")]),
            ("deepseek1", .object [("real", .string "deepseek-v4-flash")])])])]),
      ("routing", .object [("fallbackEnabled", .boolean true), ("failureThreshold", .number "5")]),
      ("aliases", .object [("coder", .array [.string "nan/qwen", .string "nan/deepseek1"])])]

def firstBoot : SeedFile where
  name := "0001_initial_providers"
  path := "migrations/seeds/0001_initial_providers.json"
  raw := .ok providersJson.stringify

def firstPlatform : Platform where
  parseJson := fun _ => .ok providersJson
  url := nonempty
  issues := fun _ => "invalid_type"

def emptyStore : Store Tables where
  db := ⟨∅, [], ∅, [], [], none⟩
  ledger := some Ledger.empty

theorem nonempty_named (value : Js.Json) : nonempty value ≠ some "" := by
  intro accepted
  have checked := (Option.filter_eq_some_iff.mp accepted).2
  simp at checked

end FirstBoot

end LlmGateway.Seed
