import LlmGateway.Providers.Resolution
import LlmGateway.Routing.Tables

/-!
A request that `resolveChain` serves through `default`, next to a request for
`default` itself. The chain is found under the fallback name; strategy,
weights and priorities are looked up under the requested one.
-/

namespace LlmGateway.Routing

open Providers Service CircuitBreaker Effects

/-- A name that reaches the last step of the cascade. -/
structure FallsBack (registry : ProviderRegistry) (name : String) : Prop where
  nonempty : name ≠ ""
  noAlias : readAliases registry name = .absent
  noPath : '/' ∉ name.toList
  noModel : registry.findModel name = none

def renamed (name : String) (resolved : ResolvedModel) : ResolvedModel :=
  { resolved with requestedAs := name }

section Chains

variable (registry : ProviderRegistry) (environment : Environment)

theorem resolvePath_under (path left right : String) (before after : ℤ) (resolved : ResolvedModel)
    (returns : registry.resolvePath environment path left before = .ok resolved) :
    registry.resolvePath environment path right after =
      .ok { resolved with requestedAs := right, priority := after } := by
  have built : ∀ modelKey providerId provider config,
      registry.buildResolved environment left modelKey providerId provider config before =
        .ok resolved →
      registry.buildResolved environment right modelKey providerId provider config after =
        .ok { resolved with requestedAs := right, priority := after } := by
    intro modelKey providerId provider config made
    unfold ProviderRegistry.buildResolved at made ⊢
    split at made
    · cases made
    · cases made
      rfl
  rw [resolvePath_ok_iff] at returns ⊢
  obtain ⟨providerId, modelKey, provider, config, first, named, second, keyed, found, read, made⟩ :=
    returns
  exact ⟨providerId, modelKey, provider, config, first, named, second, keyed, found, read,
    built _ _ _ _ made⟩

theorem resolvePath_named (path requestedAs : String) (priority : ℤ) (resolved : ResolvedModel)
    (returns : registry.resolvePath environment path requestedAs priority = .ok resolved) :
    resolved.requestedAs = requestedAs ∧ resolved.priority = priority := by
  have again := resolvePath_under registry environment path requestedAs requestedAs priority
    priority resolved returns
  have same := Except.ok.inj (returns.symm.trans again)
  exact ⟨congrArg ResolvedModel.requestedAs same, congrArg ResolvedModel.priority same⟩

theorem chainFor_under (paths : List String) (left right : String) (served : List ResolvedModel)
    (returns : registry.chainFor environment left paths = .ok served) :
    served.length = paths.length ∧
      registry.chainFor environment right paths = .ok (served.zipIdx.map fun item =>
        { item.1 with
          requestedAs := right
          priority := registry.aliasPrioritiesByPosition right item.2 }) ∧
      ∀ (rank : ℕ) (resolved : ResolvedModel), served[rank]? = some resolved →
        resolved.requestedAs = left ∧
          resolved.priority = registry.aliasPrioritiesByPosition left rank := by
  have visited := (mapM_ok_iff _ _ _).mp returns
  have length : served.length = paths.length := by
    simpa using visited.length_eq.symm
  have each : ∀ (rank : ℕ) (resolved : ResolvedModel), served[rank]? = some resolved → ∃ path,
      paths[rank]? = some path ∧ registry.resolvePath environment path left
        (registry.aliasPrioritiesByPosition left rank) = .ok resolved := by
    intro rank resolved found
    obtain ⟨inside, same⟩ := List.getElem?_eq_some_iff.mp found
    have here := visited.get (by simpa [← length] using inside) inside
    refine ⟨paths[rank], List.getElem?_eq_getElem (length ▸ inside), ?_⟩
    simpa [← same] using here
  refine ⟨length, ?_, ?_⟩
  · apply (mapM_ok_iff _ _ _).mpr
    rw [List.forall₂_iff_get]
    refine ⟨by simp [length], ?_⟩
    intro rank inPaths inServed
    have inside : rank < served.length := by simpa using inServed
    obtain ⟨path, held, resolves⟩ := each rank served[rank] (List.getElem?_eq_getElem inside)
    have listed : rank < paths.length := length ▸ inside
    have same : paths[rank] = path := by
      simpa [List.getElem?_eq_getElem listed] using held
    simp only [List.get_eq_getElem, List.getElem_zipIdx, List.getElem_map, Nat.zero_add]
    rw [same]
    exact resolvePath_under registry environment path left right _ _ _ resolves
  · intro rank resolved found
    obtain ⟨path, _, resolves⟩ := each rank resolved found
    exact resolvePath_named registry environment path left _ resolved resolves

end Chains

section Walks

variable {Result : Type}

def RouteError.renamed (name : String) : RouteError → RouteError
  | .routingFailed _ attempts => .routingFailed name attempts
  | .resolve error => .resolve error

def Service.Visit.renamed (name : String) (visit : Visit Result) : Visit Result :=
  { visit with resolved := Routing.renamed name visit.resolved }

def Service.RouteRun.renamed (name : String) (run : RouteRun Result) : RouteRun Result where
  outcome := run.outcome.mapError (RouteError.renamed name)
  visits := run.visits.map (Visit.renamed name)
  breaker := run.breaker

variable (policy : CircuitBreakerPolicy) (around : Surroundings Result) (name other : String)
  (blind : ∀ tried resolved,
    around.executor tried (renamed name resolved) = around.executor tried resolved)
include blind

theorem tryPosition_renamed (tried position : ℕ) (resolved : ResolvedModel) (breaker : Breaker) :
    tryPosition policy around tried position (renamed name resolved) breaker =
      (tryPosition policy around tried position resolved breaker).renamed name := by
  have provider : (renamed name resolved).providerId = resolved.providerId := rfl
  unfold tryPosition
  simp only [provider, blind]
  split
  · split <;> rfl
  · rfl

theorem walkOrder_renamed (chain : List ResolvedModel) (order : List ℕ)
    (attempts : List RouteAttempt) (breaker : Breaker) :
    walkOrder policy around name (chain.map (renamed name)) order attempts breaker =
      (walkOrder policy around other chain order attempts breaker).renamed name := by
  induction order generalizing attempts breaker with
  | nil => rfl
  | cons position rest ih =>
      simp only [walkOrder, List.getElem?_map]
      cases chain[position]? with
      | none => rfl
      | some resolved =>
          have round := tryPosition_renamed policy around name blind attempts.length position
            resolved breaker
          have attempt : ((tryPosition policy around attempts.length position resolved
              breaker).renamed name).attempt =
              (tryPosition policy around attempts.length position resolved breaker).attempt := rfl
          have trial : ((tryPosition policy around attempts.length position resolved
              breaker).renamed name).trial =
              (tryPosition policy around attempts.length position resolved breaker).trial := rfl
          simp only [Option.map_some, round, attempt, trial, ih]
          split <;> rfl

end Walks

section Orders

variable (left right : List ResolvedModel) (cursorNext : ℕ)
  (first second : Option (List Js.Number)) (random : ℚ)

theorem sampleWeightedIndex_congr (n : ℕ)
    (weights : ∀ i < n, effectiveWeight first i = effectiveWeight second i) :
    sampleWeightedIndex first n random = sampleWeightedIndex second n random := by
  have same : (List.range n).map (effectiveWeight first) =
      (List.range n).map (effectiveWeight second) :=
    List.map_congr_left fun i member => weights i (List.mem_range.mp member)
  simp only [sampleWeightedIndex, same]

/-- An order depends on a chain by its priorities, and on an array of weights
by what each position counts. -/
theorem pickOrder_congr (strategy : RoutingStrategyKind) (name : String)
    (chains : left = right.map (renamed name))
    (weights : ∀ i < right.length, effectiveWeight first i = effectiveWeight second i) :
    pickOrder strategy left cursorNext first random =
      pickOrder strategy right cursorNext second random := by
  have length : left.length = right.length := by rw [chains, List.length_map]
  unfold pickOrder
  simp only [length]
  split
  · rfl
  · split
    · rfl
    · cases strategy with
      | primary => rfl
      | fallback => rfl
      | roundRobin => rfl
      | weighted => simp only [sampleWeightedIndex_congr first second random _ weights]
      | priorityGrouped =>
          have sorted : left.zipIdx.insertionSort priorityBefore =
              (right.zipIdx.insertionSort priorityBefore).map (Prod.map (renamed name) id) := by
            rw [chains, List.zipIdx_map]
            symm
            apply List.map_insertionSort
            intro _ _ _ _
            exact Iff.rfl
          simp only [sorted, List.map_map]
          rfl

end Orders

namespace RoutingTables

variable (tables : RoutingTables)

/-- The orders `route` can try a chain in, over every cursor and every draw. -/
def possibleOrders (name : String) (chain : List ResolvedModel) : Set (List ℕ) :=
  {order | ∃ cursor random, 0 ≤ random ∧ random < 1 ∧
    order = (tables.routingService cursor).order random name chain}

end RoutingTables

/-- A request that is served `served` is routed as one for `default`, which is
served `chain`. -/
structure RoutedAlike (tables : RoutingTables) (name : String)
    (served chain : List ResolvedModel) : Prop where
  /-- With their priorities. -/
  models : served = chain.map (renamed name)
  strategy : tables.getStrategy name = tables.getStrategy "default"
  weights : ∀ cursor, ∀ i < chain.length,
    effectiveWeight ((tables.routingService cursor).aliasWeightsFor name served.length) i =
      effectiveWeight ((tables.routingService cursor).aliasWeightsFor "default" chain.length) i
  orders : tables.possibleOrders name served = tables.possibleOrders "default" chain
  /-- Along one order the two requests run alike, from any breaker. -/
  runs : ∀ (Result : Type) (policy : CircuitBreakerPolicy) (around : Surroundings Result)
    (order : List ℕ) (breaker : Breaker),
    (∀ tried resolved, around.executor tried (renamed name resolved) =
      around.executor tried resolved) →
    walkOrder policy around name served order [] breaker =
      (walkOrder policy around "default" chain order [] breaker).renamed name

/-- What is stored for `default` is what is stored, or counts, for the name. -/
structure DefaultPlain (tables : RoutingTables) (name : String) : Prop where
  strategy : (tables.policies.lookup "default").getD .primary =
    (tables.policies.lookup name).getD .primary
  priorities : ∀ row ∈ tables.registry.aliasEntries, row.aliasName = "default" →
    row.position < (tables.registry.entriesOf "default").length → row.priority = 0
  weights : ∀ position < (tables.registry.entriesOf "default").length,
    tables.weightAt "default" position = tables.weightAt name position

section Fallback

variable (tables : RoutingTables) (environment : Environment) (name : String)

theorem readAliases_unregistered (registry : ProviderRegistry)
    (absent : readAliases registry name = .absent) : ¬registry.AliasRegistered name := by
  intro registered
  rw [readAliases, listAliases_registered registry name registered] at absent
  cases absent

theorem priorities_zero_iff :
    (∀ rank < (tables.registry.entriesOf "default").length,
        tables.registry.aliasPrioritiesByPosition "default" rank = 0) ↔
      ∀ row ∈ tables.registry.aliasEntries, row.aliasName = "default" →
        row.position < (tables.registry.entriesOf "default").length → row.priority = 0 := by
  have listed : ∀ row, row ∈ tables.registry.entriesOf "default" ↔
      row ∈ tables.registry.aliasEntries ∧ row.aliasName = "default" := by
    intro row
    simp [ProviderRegistry.entriesOf]
  constructor
  · intro zero row member mine inside
    have given := zero row.position inside
    unfold ProviderRegistry.aliasPrioritiesByPosition at given
    split at given
    next entry found =>
      have held := (listed entry).mp (List.mem_of_find?_eq_some found)
      have placed : entry.position = row.position := by simpa using List.find?_some found
      have same : entry = row := by
        apply List.inj_on_of_nodup_map tables.positions held.1 member
        rw [held.2, mine, placed]
      rwa [← same]
    next missing =>
      have apart := List.find?_eq_none.mp missing row ((listed row).mpr ⟨member, mine⟩)
      simp at apart
  · intro zero rank inside
    unfold ProviderRegistry.aliasPrioritiesByPosition
    split
    next entry found =>
      have held := (listed entry).mp (List.mem_of_find?_eq_some found)
      have placed : entry.position = rank := by simpa using List.find?_some found
      exact zero entry held.1 held.2 (placed ▸ inside)
    next => rfl

theorem served_chains (falls : FallsBack tables.registry name) (served : List ResolvedModel)
    (returns : tables.registry.resolveChain environment name = .ok served) :
    served.length = (tables.registry.entriesOf "default").length ∧
      tables.registry.resolveChain environment "default" = .ok (served.zipIdx.map fun item =>
        { item.1 with
          requestedAs := "default"
          priority := tables.registry.aliasPrioritiesByPosition "default" item.2 }) ∧
      ∀ (rank : ℕ) (resolved : ResolvedModel), served[rank]? = some resolved →
        resolved.requestedAs = name ∧ resolved.priority = 0 := by
  have unregistered := readAliases_unregistered name tables.registry falls.noAlias
  have registered : tables.registry.AliasRegistered "default" := by
    by_contra missing
    rw [resolveChain_unknown _ environment name falls.nonempty falls.noAlias falls.noPath
      falls.noModel missing] at returns
    cases returns
  rw [resolveChain_fallback _ environment name falls.nonempty falls.noAlias falls.noPath
    falls.noModel registered] at returns
  obtain ⟨length, other, named⟩ := chainFor_under _ environment _ name "default" served returns
  refine ⟨by simpa using length, ?_, ?_⟩
  · rw [resolveChain_aliased _ environment "default" (by decide) registered]
    exact other
  · intro rank resolved found
    have given := named rank resolved found
    rwa [aliasPriorities_unregistered _ name unregistered] at given

theorem models_iff (served : List ResolvedModel) (priority : ℕ → ℤ)
    (named : ∀ (rank : ℕ) (resolved : ResolvedModel), served[rank]? = some resolved →
      resolved.requestedAs = name ∧ resolved.priority = 0) :
    served = (served.zipIdx.map fun item =>
        { item.1 with requestedAs := "default", priority := priority item.2 }).map (renamed name) ↔
      ∀ rank < served.length, priority rank = 0 := by
  constructor
  · intro same rank inside
    have here := congrArg (·[rank]?) same
    simp only [List.getElem?_map, List.getElem?_zipIdx, List.getElem?_eq_getElem inside,
      Option.map_some, Option.some.injEq, Nat.zero_add] at here
    have zero := (named rank _ (List.getElem?_eq_getElem inside)).2
    rw [here] at zero
    exact zero
  · intro zero
    apply List.ext_getElem
    · simp
    · intro rank inside _
      have kept : ∀ resolved : ResolvedModel, resolved.requestedAs = name →
          resolved.priority = 0 →
            resolved = { resolved with requestedAs := name, priority := 0 } := by
        intro resolved requested unset
        rw [← requested, ← unset]
      obtain ⟨requested, unset⟩ := named rank _ (List.getElem?_eq_getElem inside)
      simp only [List.getElem_map, List.getElem_zipIdx, Nat.zero_add, renamed, zero rank inside]
      exact kept _ requested unset

/-- A cursor whose counter for `second` is what it was for `first`. -/
def RoundRobinCursor.moved (cursor : RoundRobinCursor) (first second : String) :
    RoundRobinCursor where
  cursors := AList.insert second ((cursor.cursors.lookup first).getD 0) ∅

theorem RoundRobinCursor.next_moved (cursor : RoundRobinCursor) (first second : String) (n : ℕ) :
    ((cursor.moved first second).next second n).1 = (cursor.next first n).1 := by
  unfold RoundRobinCursor.next RoundRobinCursor.moved
  split
  · rfl
  · rw [AList.lookup_insert]
    rfl

/-- With like models, strategies and weights every order is possible for both
names; their counters differ, but each takes every value. -/
theorem possibleOrders_congr (left right : String) (here there : List ResolvedModel)
    (other : String) (chains : here = there.map (renamed other))
    (strategy : tables.getStrategy left = tables.getStrategy right)
    (weights : ∀ cursor, ∀ i < there.length,
      effectiveWeight ((tables.routingService cursor).aliasWeightsFor left here.length) i =
        effectiveWeight ((tables.routingService cursor).aliasWeightsFor right there.length) i) :
    tables.possibleOrders left here = tables.possibleOrders right there := by
  have length : here.length = there.length := by rw [chains, List.length_map]
  have alike : ∀ (mine theirs : RoundRobinCursor) (random : ℚ),
      (mine.next left here.length).1 = (theirs.next right there.length).1 →
      (tables.routingService mine).order random left here =
        (tables.routingService theirs).order random right there := by
    intro mine theirs random same
    have order := pickOrder_congr here there (mine.next left here.length).1
      ((tables.routingService mine).aliasWeightsFor left here.length)
      ((tables.routingService mine).aliasWeightsFor right there.length) random
      (tables.getStrategy left) other chains (weights mine)
    calc (tables.routingService mine).order random left here
        = pickOrder (tables.getStrategy left) there (mine.next left here.length).1
            ((tables.routingService mine).aliasWeightsFor right there.length) random := order
      _ = (tables.routingService theirs).order random right there := by
            rw [same, strategy]
            rfl
  ext order
  constructor
  · rintro ⟨cursor, random, low, high, rfl⟩
    refine ⟨_, random, low, high, alike cursor (cursor.moved left right) random ?_⟩
    rw [cursor.next_moved, length]
  · rintro ⟨cursor, random, low, high, rfl⟩
    refine ⟨_, random, low, high, (alike (cursor.moved right left) cursor random ?_).symm⟩
    rw [cursor.next_moved, length]

theorem routedAlike_iff (falls : FallsBack tables.registry name) (served chain : List ResolvedModel)
    (returns : tables.registry.resolveChain environment name = .ok served)
    (returnsDefault : tables.registry.resolveChain environment "default" = .ok chain) :
    RoutedAlike tables name served chain ↔ DefaultPlain tables name := by
  obtain ⟨length, resolves, named⟩ := served_chains tables environment name falls served returns
  have same := Except.ok.inj (returnsDefault.symm.trans resolves)
  have models := models_iff name served (tables.registry.aliasPrioritiesByPosition "default") named
  rw [← same, length, priorities_zero_iff] at models
  have lengths : chain.length = served.length := by simp [same]
  have counted : ∀ cursor aliasKey, ∀ i < served.length,
      effectiveWeight ((tables.routingService cursor).aliasWeightsFor aliasKey served.length) i =
        tables.weightAt aliasKey i := fun cursor aliasKey =>
    tables.effectiveWeight_aliasWeightsFor cursor aliasKey served.length
  constructor
  · intro alike
    constructor
    · exact alike.strategy.symm
    · exact models.mp alike.models
    · intro position inside
      rw [← length] at inside
      have weights := alike.weights .initial position (lengths ▸ inside)
      rw [lengths, counted _ _ position inside, counted _ _ position inside] at weights
      exact_mod_cast weights.symm
  · intro plain
    have chains := models.mpr plain.priorities
    have weights : ∀ cursor, ∀ i < chain.length,
        effectiveWeight ((tables.routingService cursor).aliasWeightsFor name served.length) i =
          effectiveWeight ((tables.routingService cursor).aliasWeightsFor "default" chain.length)
            i := by
      intro cursor i inside
      rw [lengths] at inside ⊢
      rw [counted _ _ i inside, counted _ _ i inside]
      exact_mod_cast (plain.weights i (length ▸ inside)).symm
    have strategy : tables.getStrategy name = tables.getStrategy "default" := plain.strategy.symm
    constructor
    · exact chains
    · exact strategy
    · exact weights
    · exact possibleOrders_congr tables name "default" served chain name chains strategy weights
    · intro Result policy around order breaker blind
      rw [chains]
      exact walkOrder_renamed policy around name "default" blind chain order [] breaker

end Fallback

/-- A name served through `default` is routed as `default` exactly when what is
stored under the name of `default` makes no difference to it. -/
theorem default_routed_alike_iff (tables : RoutingTables) (environment : Environment)
    (name : String) (falls : FallsBack tables.registry name) (served : List ResolvedModel)
    (returns : tables.registry.resolveChain environment name = .ok served) :
    ∃ chain, tables.registry.resolveChain environment "default" = .ok chain ∧
      (RoutedAlike tables name served chain ↔ DefaultPlain tables name) := by
  obtain ⟨_, resolves, _⟩ := served_chains tables environment name falls served returns
  exact ⟨_, resolves, routedAlike_iff tables environment name falls served _ returns resolves⟩

section Witness

def twoModels : ProviderRegistry where
  providers := AList.insert "nan" ⟨"NAN_API_KEY", none, none⟩ ∅
  models := AList.insert ("nan", "qwen") ⟨"qwen3.6", none, true, false⟩
    (AList.insert ("nan", "gemma") ⟨"gemma-4", none, true, false⟩ ∅)
  aliasEntries := [⟨"default", 0, "nan", "qwen", 1⟩, ⟨"default", 1, "nan", "gemma", 0⟩]
  requestTimeoutMs := 120000

/-- Nothing is stored for `default` but its one entry. -/
def plainDefault : RoutingTables where
  registry := defaultRegistry
  policies := ∅
  weights := ∅
  positions := by decide
  positive := by
    intro key weight stored
    cases stored

theorem plainDefault_plain (name : String) : DefaultPlain plainDefault name where
  strategy := rfl
  priorities := by
    intro row member _ _
    cases List.mem_singleton.mp member
    rfl
  weights := fun _ _ => rfl

theorem default_routed_alike_gpt : ∃ served chain,
    plainDefault.registry.resolveChain everyKeySet "gpt-5" = .ok served ∧
      plainDefault.registry.resolveChain everyKeySet "default" = .ok chain ∧
      RoutedAlike plainDefault "gpt-5" served chain := by
  have falls : FallsBack plainDefault.registry "gpt-5" :=
    ⟨by decide, by decide +kernel, by decide, by decide +kernel⟩
  obtain ⟨served, returns⟩ : ∃ served,
      plainDefault.registry.resolveChain everyKeySet "gpt-5" = .ok served := ⟨_, rfl⟩
  obtain ⟨chain, resolves, alike⟩ := default_routed_alike_iff plainDefault everyKeySet "gpt-5"
    falls served returns
  exact ⟨served, chain, returns, resolves, alike.mpr (plainDefault_plain "gpt-5")⟩

/-- `default` tries its second model first. -/
def groupedDefault : RoutingTables where
  registry := twoModels
  policies := AList.insert "default" .priorityGrouped ∅
  weights := ∅
  positions := by decide
  positive := by
    intro key weight stored
    cases stored

def exampleOrder (tables : RoutingTables) (name : String) : Option (List ℕ) :=
  match tables.registry.resolveChain everyKeySet name with
  | .ok chain => some ((tables.routingService .initial).order 0 name chain)
  | .error _ => none

theorem unknown_name_ignores_priorities :
    FallsBack groupedDefault.registry "gpt-5" ∧
      exampleOrder groupedDefault "default" = some [1, 0] ∧
      exampleOrder groupedDefault "gpt-5" = some [0, 1] ∧
      ∃ served chain, groupedDefault.registry.resolveChain everyKeySet "gpt-5" = .ok served ∧
        groupedDefault.registry.resolveChain everyKeySet "default" = .ok chain ∧
        ¬RoutedAlike groupedDefault "gpt-5" served chain := by
  have falls : FallsBack groupedDefault.registry "gpt-5" :=
    ⟨by decide, by decide +kernel, by decide, by decide +kernel⟩
  refine ⟨falls, by decide +kernel, by decide +kernel, ?_⟩
  obtain ⟨served, returns⟩ : ∃ served,
      groupedDefault.registry.resolveChain everyKeySet "gpt-5" = .ok served := ⟨_, rfl⟩
  obtain ⟨_, resolves, _⟩ := served_chains groupedDefault everyKeySet "gpt-5" falls served returns
  refine ⟨served, _, returns, resolves, ?_⟩
  intro alike
  have strategy := alike.strategy
  revert strategy
  decide

end Witness

end LlmGateway.Routing
