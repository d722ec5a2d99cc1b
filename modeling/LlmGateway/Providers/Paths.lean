import LlmGateway.Providers.Registry

/-!
Model paths `provider/model`: what splitting makes of them, and what a path
that `resolvePath` accepts has found.
-/

namespace LlmGateway.Providers

/-- `${providerId}/${modelKey}`. -/
def modelPath (providerId modelKey : String) : String := providerId ++ "/" ++ modelKey

def leadingSegment (text : String) : String := (segments text)[0]?.getD ""

def everyKeySet : Environment where
  env := fun _ => some "sk-key"
  providerBaseUrl := none

section Splitting

variable (text providerId modelKey : String)

theorem toList_modelPath :
    (modelPath providerId modelKey).toList = providerId.toList ++ '/' :: modelKey.toList := by
  simp [modelPath]

theorem slash_mem_modelPath : '/' ∈ (modelPath providerId modelKey).toList := by
  simp [toList_modelPath]

theorem segments_plain (plain : '/' ∉ text.toList) : segments text = [text] := by
  simp [segments, List.splitOn_eq_singleton plain]

theorem segments_modelPath (plain : '/' ∉ providerId.toList) :
    segments (modelPath providerId modelKey) = providerId :: segments modelKey := by
  simp [segments, toList_modelPath, List.splitOn_append_cons_self_of_not_mem plain]

theorem segments_head : (segments text)[0]? = some (leadingSegment text) := by
  unfold leadingSegment
  cases parts : segments text with
  | nil => exact absurd (List.map_eq_nil_iff.mp parts) (List.splitOn_ne_nil _ _)
  | cons first rest => rfl

theorem leadingSegment_plain (plain : '/' ∉ text.toList) : leadingSegment text = text := by
  simp [leadingSegment, segments_plain text plain]

theorem leadingSegment_modelPath (plain : '/' ∉ providerId.toList) :
    leadingSegment (modelPath providerId modelKey) = providerId := by
  simp [leadingSegment, segments_modelPath providerId modelKey plain]

theorem exists_modelPath (slash : '/' ∈ text.toList) :
    ∃ front rest, '/' ∉ front.toList ∧ text = modelPath front rest := by
  obtain ⟨front, rest, cut, plain⟩ := List.eq_append_cons_of_mem slash
  refine ⟨String.ofList front, String.ofList rest, by simpa using plain, ?_⟩
  apply String.toList_inj.mp
  rw [toList_modelPath, cut]
  simp

theorem leadingSegment_no_slash : '/' ∉ (leadingSegment text).toList := by
  by_cases slash : '/' ∈ text.toList
  · obtain ⟨front, rest, plain, rfl⟩ := exists_modelPath text slash
    rwa [leadingSegment_modelPath front rest plain]
  · rwa [leadingSegment_plain text slash]

theorem leadingSegment_ne (slash : '/' ∈ text.toList) : leadingSegment text ≠ text := by
  intro same
  have plain := leadingSegment_no_slash text
  rw [same] at plain
  exact plain slash

end Splitting

section Resolving

variable (registry : ProviderRegistry) (environment : Environment)
  (requestedAs providerId modelKey : String) (priority : ℤ)

theorem readProperty_own_iff {α : Type} (own : Option α) (name : String) (value : α) :
    readProperty own name = .own value ↔ own = some value := by
  cases own with
  | some held => simp [readProperty]
  | none =>
      by_cases inherited : name ∈ objectPrototype <;> simp [readProperty, inherited]

theorem readModel_own_iff (config : ModelConfig) :
    registry.readModel providerId modelKey = .own config ↔
      registry.models.lookup (providerId, modelKey) = some config := by
  unfold ProviderRegistry.readModel
  cases registry.models.lookup (providerId, modelKey) with
  | some held => simp
  | none =>
      simp only [reduceCtorEq, iff_false]
      split <;> simp

theorem buildResolved_ok (provider : ProviderRow) (config : Option ModelConfig)
    (resolved : ResolvedModel)
    (returns : registry.buildResolved environment requestedAs modelKey providerId provider config
      priority = .ok resolved) :
    resolved.providerId = providerId ∧ resolved.modelKey = modelKey ∧
      resolved.upstreamModel = config.map ModelConfig.real := by
  unfold ProviderRegistry.buildResolved at returns
  split at returns
  · cases returns
  · cases returns
    exact ⟨rfl, rfl, rfl⟩

theorem resolvePath_ok_iff (path : String) (resolved : ResolvedModel) :
    registry.resolvePath environment path requestedAs priority = .ok resolved ↔
      ∃ providerId modelKey provider config,
        (segments path)[0]? = some providerId ∧ providerId ≠ "" ∧
        (segments path)[1]? = some modelKey ∧ modelKey ≠ "" ∧
        registry.providers.lookup providerId = some provider ∧
        registry.readModel providerId modelKey = config.elim .inherited .own ∧
        registry.buildResolved environment requestedAs modelKey providerId provider config
          priority = .ok resolved := by
  unfold ProviderRegistry.resolvePath
  constructor
  · intro returns
    split at returns
    · rename_i providerId modelKey first second
      obtain ⟨first, named⟩ := Option.filter_eq_some_iff.mp first
      obtain ⟨second, keyed⟩ := Option.filter_eq_some_iff.mp second
      rw [decide_eq_true_eq] at named keyed
      split at returns
      · cases returns
      · cases returns
      · rename_i provider owned
        have found := (readProperty_own_iff _ providerId provider).mp owned
        split at returns
        · cases returns
        · rename_i read
          exact ⟨providerId, modelKey, provider, none, first, named, second, keyed, found, read,
            returns⟩
        · rename_i config read
          exact ⟨providerId, modelKey, provider, some config, first, named, second, keyed, found,
            read, returns⟩
    · cases returns
  · rintro ⟨providerId, modelKey, provider, config, first, named, second, keyed, found, read,
      returns⟩
    have owned := (readProperty_own_iff _ providerId provider).mpr found
    simp only [first, second, Option.filter_some, named, keyed, ne_eq, not_false_eq_true,
      decide_true, ↓reduceIte, owned, read]
    cases config <;> exact returns

theorem resolvePath_modelPath_ok_iff (plain : '/' ∉ providerId.toList)
    (resolved : ResolvedModel) :
    registry.resolvePath environment (modelPath providerId modelKey) requestedAs priority =
        .ok resolved ↔
      providerId ≠ "" ∧ leadingSegment modelKey ≠ "" ∧ ∃ provider config,
        registry.providers.lookup providerId = some provider ∧
        registry.readModel providerId (leadingSegment modelKey) = config.elim .inherited .own ∧
        registry.buildResolved environment requestedAs (leadingSegment modelKey) providerId provider
          config priority = .ok resolved := by
  rw [resolvePath_ok_iff, segments_modelPath providerId modelKey plain]
  simp only [List.getElem?_cons_zero, List.getElem?_cons_succ, segments_head, Option.some.injEq]
  constructor
  · rintro ⟨_, _, provider, config, rfl, named, rfl, keyed, found⟩
    exact ⟨named, keyed, provider, config, found⟩
  · rintro ⟨named, keyed, provider, config, found⟩
    exact ⟨_, _, provider, config, rfl, named, rfl, keyed, found⟩

theorem resolvePath_registered (provider : ProviderRow) (config : ModelConfig)
    (plainProvider : '/' ∉ providerId.toList) (plainModel : '/' ∉ modelKey.toList)
    (namedProvider : providerId ≠ "") (namedModel : modelKey ≠ "")
    (owned : registry.providers.lookup providerId = some provider)
    (registered : registry.models.lookup (providerId, modelKey) = some config) :
    registry.resolvePath environment (modelPath providerId modelKey) requestedAs priority =
      registry.buildResolved environment requestedAs modelKey providerId provider (some config)
        priority := by
  have read := (readModel_own_iff registry providerId modelKey config).mpr registered
  unfold ProviderRegistry.resolvePath
  rw [segments_modelPath providerId modelKey plainProvider, segments_plain modelKey plainModel]
  simp only [List.getElem?_cons_zero, List.getElem?_cons_succ, Option.filter_some, namedProvider,
    namedModel, ne_eq, not_false_eq_true, decide_true, ↓reduceIte, owned, readProperty, read]

end Resolving

end LlmGateway.Providers
