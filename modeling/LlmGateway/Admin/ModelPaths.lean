import LlmGateway.Admin.AliasRegistry
import LlmGateway.Lib.Effects
import LlmGateway.Providers.Paths

/-!
`provider/model` as an encoding. Provider ids have no slash, but a model key
may have one, and then the decoders, which look at the first two segments
only, read another key.
-/

namespace LlmGateway.Admin

open Effects Providers

/-- The body of `CreateModelSchema` and the id of its provider are accepted. -/
def AcceptedModel (providerId modelKey : String) : Prop :=
  isAliasId providerId = true ∧ 1 ≤ Js.utf16Length modelKey ∧ Js.utf16Length modelKey ≤ 120

instance (providerId modelKey : String) : Decidable (AcceptedModel providerId modelKey) :=
  inferInstanceAs (Decidable (_ ∧ _ ∧ _))

inductive ReplaceError where
  | malformed (path : String)
  /-- A foreign key failed. -/
  | database
  deriving DecidableEq, Repr

def ReplaceError.message : ReplaceError → String
  | .malformed path => "Alias entry \"" ++ path ++ "\" must be \"providerId/modelKey\""
  | .database => "FOREIGN KEY constraint failed"

/-- One iteration of `replaceAliasEntry`. -/
def insertAliasEntry (registry : ProviderRegistry) (aliasName : String) (path : String × ℕ) :
    Except ReplaceError AliasEntryRow :=
  if (splitEntry path.1).1 = "" ∨ (splitEntry path.1).2 = "" then .error (.malformed path.1)
  else if (registry.providers.lookup (splitEntry path.1).1).isNone ∨
      (registry.models.lookup (splitEntry path.1)).isNone then .error .database
  else .ok (entryRow aliasName path)

/-- `ProviderRegistryRepository.replaceAliasEntry`, one transaction. -/
def replaceAliasEntry (registry : ProviderRegistry) (aliasName : String) (paths : List String) :
    Except ReplaceError ProviderRegistry := do
  let rows ← paths.zipIdx.mapM (insertAliasEntry registry aliasName)
  return { registry with aliasEntries := (deleteAlias registry aliasName).aliasEntries ++ rows }

/-- Every decoder reads the path of the two parts as these parts, and takes it
when they name a registered model. -/
structure Decoded (registry : ProviderRegistry) (providerId modelKey : String) : Prop where
  resolved : ∀ environment requestedAs priority resolved,
    registry.resolvePath environment (modelPath providerId modelKey) requestedAs priority =
        .ok resolved →
      resolved.providerId = providerId ∧ resolved.modelKey = modelKey
  resolves : ∀ provider config, registry.providers.lookup providerId = some provider →
    registry.models.lookup (providerId, modelKey) = some config →
    ∀ environment requestedAs priority,
      registry.resolvePath environment (modelPath providerId modelKey) requestedAs priority =
        registry.buildResolved environment requestedAs modelKey providerId provider (some config)
          priority
  found : entryExists registry (modelPath providerId modelKey) = true ↔
    (registry.models.lookup (providerId, modelKey)).isSome = true
  stored : ∀ aliasName paths next position,
    replaceAliasEntry registry aliasName paths = .ok next →
    paths[position]? = some (modelPath providerId modelKey) →
      ⟨aliasName, position, providerId, modelKey, 0⟩ ∈ next.aliasEntries
  stores : (registry.models.lookup (providerId, modelKey)).isSome = true → ∀ aliasName,
    ∃ next, replaceAliasEntry registry aliasName [modelPath providerId modelKey] = .ok next ∧
      next.listAliases aliasName = some [modelPath providerId modelKey]

/-- The key names no model, and the segment that the decoders would take for
the key names nothing on the provider either. -/
def Refused (registry : ProviderRegistry) (providerId modelKey : String) : Prop :=
  registry.models.lookup (providerId, modelKey) = none ∧
    (registry.providers.lookup providerId = none ∨ leadingSegment modelKey = "" ∨
      registry.readModel providerId (leadingSegment modelKey) = .absent)

section Accepting

variable (providerId modelKey : String)

theorem isAliasId_plain (accepted : isAliasId providerId = true) :
    '/' ∉ providerId.toList ∧ providerId ≠ "" := by
  unfold isAliasId at accepted
  simp only [Bool.and_eq_true] at accepted
  obtain ⟨_, letters⟩ := accepted
  cases text : providerId.toList with
  | nil => simp [text] at letters
  | cons head tail =>
      simp only [text, Bool.and_eq_true, List.all_eq_true] at letters
      constructor
      · intro slash
        rcases List.mem_cons.mp slash with first | later
        · rw [← first] at letters
          exact absurd letters.1 (by decide)
        · exact absurd (letters.2 '/' later) (by decide)
      · rintro rfl
        cases text

theorem named_of_length (nonempty : 1 ≤ Js.utf16Length modelKey) : modelKey ≠ "" := by
  rintro rfl
  exact absurd nonempty (by decide)

end Accepting

section Decoding

variable (registry : ProviderRegistry) (providerId modelKey : String)

theorem splitEntry_modelPath (plain : '/' ∉ providerId.toList) :
    splitEntry (modelPath providerId modelKey) = (providerId, leadingSegment modelKey) := by
  simp [splitEntry, segments_modelPath providerId modelKey plain, segments_head]

theorem entryExists_modelPath (plain : '/' ∉ providerId.toList) (named : providerId ≠ "")
    (owned : ∀ key, (registry.models.lookup key).isSome = true →
      (registry.providers.lookup key.1).isSome = true) :
    entryExists registry (modelPath providerId modelKey) = true ↔
      leadingSegment modelKey ≠ "" ∧
        (registry.models.lookup (providerId, leadingSegment modelKey)).isSome = true := by
  unfold entryExists
  rw [splitEntry_modelPath providerId modelKey plain]
  simp only [Bool.and_eq_true, decide_eq_true_eq]
  constructor
  · rintro ⟨⟨⟨_, key⟩, _⟩, model⟩
    exact ⟨key, model⟩
  · rintro ⟨key, model⟩
    obtain ⟨provider, held⟩ := Option.isSome_iff_exists.mp (owned _ model)
    exact ⟨⟨⟨named, key⟩, by simp [readProperty, held]⟩, model⟩

theorem insertAliasEntry_ok (plain : '/' ∉ providerId.toList) (aliasName : String) (position : ℕ)
    (row : AliasEntryRow)
    (written : insertAliasEntry registry aliasName (modelPath providerId modelKey, position) =
      .ok row) :
    leadingSegment modelKey ≠ "" ∧
      (registry.providers.lookup providerId).isSome = true ∧
      (registry.models.lookup (providerId, leadingSegment modelKey)).isSome = true ∧
      row = ⟨aliasName, position, providerId, leadingSegment modelKey, 0⟩ := by
  unfold insertAliasEntry at written
  rw [splitEntry_modelPath providerId modelKey plain] at written
  split at written
  · cases written
  · rename_i parts
    split at written
    · cases written
    · rename_i rows
      rw [not_or, Bool.not_eq_true, Bool.not_eq_true, Option.isNone_eq_false_iff,
        Option.isNone_eq_false_iff] at rows
      refine ⟨(not_or.mp parts).2, rows.1, rows.2, ?_⟩
      rw [← Except.ok.inj written, entryRow, splitEntry_modelPath providerId modelKey plain]

theorem replaceAliasEntry_row (aliasName : String) (paths : List String) (path : String)
    (position : ℕ) (next : ProviderRegistry)
    (replaced : replaceAliasEntry registry aliasName paths = .ok next)
    (listed : paths[position]? = some path) :
    ∃ row ∈ next.aliasEntries, insertAliasEntry registry aliasName (path, position) = .ok row := by
  obtain ⟨rows, written, same⟩ := except_bind_ok.mp replaced
  have member : (path, position) ∈ paths.zipIdx := List.mem_zipIdx_iff_getElem?.mpr listed
  obtain ⟨row, inserted⟩ := (mapM_returns_iff _ _).mp ⟨rows, written⟩ _ member
  have held : row ∈ rows := (mem_mapM_iff _ _ _ written row).mpr ⟨_, member, inserted⟩
  refine ⟨row, ?_, inserted⟩
  rw [← Except.ok.inj same]
  exact List.mem_append_right _ held

theorem listAliases_replaced (aliasName : String) (row : AliasEntryRow)
    (named : row.aliasName = aliasName) :
    ProviderRegistry.listAliases { registry with
      aliasEntries := (deleteAlias registry aliasName).aliasEntries ++ [row] } aliasName =
      some [modelPath row.providerId row.modelKey] := by
  have cleared : (deleteAlias registry aliasName).aliasEntries.filter
      (fun entry => entry.aliasName == aliasName) = [] := by
    apply List.filter_eq_nil_iff.mpr
    intro entry member
    have kept := (List.mem_filter.mp member).2
    simpa using kept
  simp [ProviderRegistry.listAliases, ProviderRegistry.AliasRegistered,
    ProviderRegistry.entriesOf, List.filter_append, cleared, named, modelPath]

end Decoding

section RoundTrip

variable (registry : ProviderRegistry) (providerId modelKey : String)

theorem decoded_of_plain (plainProvider : '/' ∉ providerId.toList) (namedProvider : providerId ≠ "")
    (plainModel : '/' ∉ modelKey.toList) (namedModel : modelKey ≠ "")
    (owned : ∀ key, (registry.models.lookup key).isSome = true →
      (registry.providers.lookup key.1).isSome = true) :
    Decoded registry providerId modelKey := by
  have whole := leadingSegment_plain modelKey plainModel
  constructor
  · intro environment requestedAs priority resolved returns
    obtain ⟨_, _, _, _, _, _, built⟩ := (resolvePath_modelPath_ok_iff registry environment
      requestedAs providerId modelKey priority plainProvider resolved).mp returns
    rw [whole] at built
    obtain ⟨provider, model, _⟩ := buildResolved_ok _ _ _ _ _ _ _ _ _ built
    exact ⟨provider, model⟩
  · intro provider config owner registered environment requestedAs priority
    exact resolvePath_registered registry environment requestedAs providerId modelKey priority
      provider config plainProvider plainModel namedProvider namedModel owner registered
  · rw [entryExists_modelPath registry providerId modelKey plainProvider namedProvider owned, whole]
    simp [namedModel]
  · intro aliasName paths next position replaced listed
    obtain ⟨row, member, inserted⟩ := replaceAliasEntry_row registry aliasName paths _ position next
      replaced listed
    obtain ⟨_, _, _, rfl⟩ := insertAliasEntry_ok registry providerId modelKey plainProvider
      aliasName position row inserted
    rw [whole] at member
    exact member
  · intro registered aliasName
    obtain ⟨config, model⟩ := Option.isSome_iff_exists.mp registered
    obtain ⟨provider, owner⟩ := Option.isSome_iff_exists.mp (owned _ registered)
    have split := splitEntry_modelPath providerId modelKey plainProvider
    rw [whole] at split
    have inserted : insertAliasEntry registry aliasName (modelPath providerId modelKey, 0) =
        .ok ⟨aliasName, 0, providerId, modelKey, 0⟩ := by
      have parts : ¬(providerId = "" ∨ modelKey = "") := not_or.mpr ⟨namedProvider, namedModel⟩
      have rows : ¬((registry.providers.lookup providerId).isNone = true ∨
          (registry.models.lookup (providerId, modelKey)).isNone = true) := by
        simp only at owner
        simp [owner, model]
      unfold insertAliasEntry
      rw [split, if_neg parts, if_neg rows, entryRow, split]
    refine ⟨{ registry with aliasEntries := (deleteAlias registry aliasName).aliasEntries ++
      [⟨aliasName, 0, providerId, modelKey, 0⟩] }, ?_, ?_⟩
    · simp [replaceAliasEntry, inserted, bind, Except.bind, pure, Except.pure]
    · exact listAliases_replaced registry aliasName _ rfl

theorem decoded_of_refused (plain : '/' ∉ providerId.toList) (named : providerId ≠ "")
    (owned : ∀ key, (registry.models.lookup key).isSome = true →
      (registry.providers.lookup key.1).isSome = true)
    (refused : Refused registry providerId modelKey) : Decoded registry providerId modelKey := by
  obtain ⟨unregistered, nothing⟩ := refused
  -- What a decoder accepts is a model under the leading segment.
  have misses : leadingSegment modelKey ≠ "" →
      (registry.models.lookup (providerId, leadingSegment modelKey)).isSome = true → False := by
    intro key model
    obtain ⟨config, held⟩ := Option.isSome_iff_exists.mp model
    rcases nothing with none | empty | absent
    · simpa [none] using owned _ model
    · exact key empty
    · rw [(readModel_own_iff registry providerId _ config).mpr held] at absent
      cases absent
  constructor
  · intro environment requestedAs priority resolved returns
    obtain ⟨_, key, provider, config, owner, read, _⟩ := (resolvePath_modelPath_ok_iff registry
      environment requestedAs providerId modelKey priority plain resolved).mp returns
    rcases nothing with none | empty | absent
    · simp [none] at owner
    · exact absurd empty key
    · rw [absent] at read
      cases config <;> cases read
  · intro provider config _ registered
    rw [unregistered] at registered
    cases registered
  · rw [entryExists_modelPath registry providerId modelKey plain named owned, unregistered]
    simp only [Option.isSome_none, Bool.false_eq_true, iff_false]
    rintro ⟨key, model⟩
    exact misses key model
  · intro aliasName paths next position replaced listed
    obtain ⟨row, _, inserted⟩ := replaceAliasEntry_row registry aliasName paths _ position next
      replaced listed
    obtain ⟨key, _, model, _⟩ := insertAliasEntry_ok registry providerId modelKey plain aliasName
      position row inserted
    exact absurd model (fun model => misses key model)
  · intro registered
    simp [unregistered] at registered

theorem resolved_elsewhere (plain : '/' ∉ providerId.toList)
    (slash : '/' ∈ modelKey.toList) (environment : Environment) (requestedAs : String)
    (priority : ℤ) (resolved : ResolvedModel)
    (returns : registry.resolvePath environment (modelPath providerId modelKey) requestedAs
      priority = .ok resolved) : resolved.modelKey ≠ modelKey := by
  obtain ⟨_, _, _, _, _, _, built⟩ := (resolvePath_modelPath_ok_iff registry environment requestedAs
    providerId modelKey priority plain resolved).mp returns
  rw [(buildResolved_ok _ _ _ _ _ _ _ _ _ built).2.1]
  exact leadingSegment_ne modelKey slash

theorem buildResolved_everyKeySet (requestedAs : String) (provider : ProviderRow)
    (config : Option ModelConfig) (priority : ℤ) :
    ∃ resolved, registry.buildResolved everyKeySet requestedAs modelKey providerId provider config
      priority = .ok resolved :=
  ⟨_, rfl⟩

end RoundTrip

/-- The paths of an accepted pair are decoded as that pair exactly when the key
has no slash, or every decoder refuses the path. -/
theorem decoded_iff (registry : ProviderRegistry) (providerId modelKey : String)
    (accepted : AcceptedModel providerId modelKey)
    (owned : ∀ key, (registry.models.lookup key).isSome = true →
      (registry.providers.lookup key.1).isSome = true) :
    Decoded registry providerId modelKey ↔
      '/' ∉ modelKey.toList ∨ Refused registry providerId modelKey := by
  obtain ⟨plain, named⟩ := isAliasId_plain providerId accepted.1
  constructor
  · intro decoded
    by_contra neither
    rw [not_or, not_not] at neither
    obtain ⟨slash, accepting⟩ := neither
    have elsewhere := resolved_elsewhere registry providerId modelKey plain slash
    cases model : registry.models.lookup (providerId, modelKey) with
    | some config =>
        -- A registered model would have to be resolved from its path.
        obtain ⟨provider, owner⟩ := Option.isSome_iff_exists.mp (owned (providerId, modelKey)
          (by simp [model]))
        obtain ⟨resolved, built⟩ := buildResolved_everyKeySet registry providerId modelKey "" provider
          (some config) 0
        have returns := decoded.resolves provider config owner model everyKeySet "" 0
        rw [built] at returns
        exact elsewhere everyKeySet "" 0 resolved returns (decoded.resolved _ _ _ _ returns).2
    | none =>
        -- Otherwise the leading segment is found, and resolved instead.
        simp only [Refused, model, true_and, not_or] at accepting
        obtain ⟨owner, key, read⟩ := accepting
        obtain ⟨provider, owner⟩ := Option.ne_none_iff_exists'.mp owner
        obtain ⟨config, found⟩ : ∃ config : Option ModelConfig,
            registry.readModel providerId (leadingSegment modelKey) =
              config.elim .inherited .own := by
          cases found : registry.readModel providerId (leadingSegment modelKey) with
          | own config => exact ⟨some config, rfl⟩
          | inherited => exact ⟨none, rfl⟩
          | absent => exact absurd found read
        obtain ⟨resolved, built⟩ := buildResolved_everyKeySet registry providerId
          (leadingSegment modelKey) "" provider config 0
        have returns := (resolvePath_modelPath_ok_iff registry everyKeySet "" providerId modelKey 0
          plain resolved).mpr ⟨named, key, provider, config, owner, found, built⟩
        exact elsewhere everyKeySet "" 0 resolved returns (decoded.resolved _ _ _ _ returns).2
  · rintro (plainModel | refused)
    · exact decoded_of_plain registry providerId modelKey plain named plainModel
        (named_of_length modelKey accepted.2.1) owned
    · exact decoded_of_refused registry providerId modelKey plain named owned refused

/-- A provider with a model `a` and a model `a/b`. -/
def slashedRegistry : ProviderRegistry where
  providers := AList.insert "nan" ⟨"NAN_API_KEY", none, none⟩ ∅
  models := AList.insert ("nan", "a/b") ⟨"deep", none, true, false⟩
    (AList.insert ("nan", "a") ⟨"shallow", none, true, false⟩ ∅)
  aliasEntries := []
  requestTimeoutMs := 120000

theorem slashed_owned (key : String × String)
    (model : (slashedRegistry.models.lookup key).isSome = true) :
    (slashedRegistry.providers.lookup key.1).isSome = true := by
  have known : key ∈ [("nan", "a/b"), ("nan", "a")] :=
    AList.mem_keys.mpr (AList.lookup_isSome.mp model)
  rcases List.mem_pair.mp known with rfl | rfl <;> rfl

theorem decoded_shallow :
    Decoded slashedRegistry "nan" "a" ↔
      '/' ∉ "a".toList ∨ Refused slashedRegistry "nan" "a" :=
  decoded_iff slashedRegistry "nan" "a" (by decide) slashed_owned

/-- Both models are accepted and registered; the path of the second resolves to
the first. -/
theorem slashed_misread :
    AcceptedModel "nan" "a" ∧ AcceptedModel "nan" "a/b" ∧
      (slashedRegistry.models.lookup ("nan", "a/b")).isSome = true ∧
      ((slashedRegistry.resolvePath everyKeySet (modelPath "nan" "a/b") "nan/a/b" 0).toOption.map
        fun resolved => (resolved.providerId, resolved.modelKey)) = some ("nan", "a") ∧
      ¬Decoded slashedRegistry "nan" "a/b" := by
  refine ⟨by decide, by decide, rfl, rfl, ?_⟩
  intro decoded
  have resolved := decoded.resolved everyKeySet "nan/a/b" 0 _ rfl
  exact absurd resolved.2 (by decide)

end LlmGateway.Admin
