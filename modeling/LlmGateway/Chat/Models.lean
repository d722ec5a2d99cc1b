import LlmGateway.Chat.World
import LlmGateway.Providers.Paths

/-!
`GET /v1/models`. The listing looks at the first entry of a chain, the
resolver builds the whole chain, and both read the same registry; the gate
reads the same allowlist as the listing.
-/

namespace LlmGateway.Chat

open Effects Providers Quota

structure ModelListEntry where
  id : String
  object : String
  created : ℤ
  ownedBy : String
  deriving DecidableEq, Repr

/-- `process.env[name]` converts to `true`. -/
def hasKey (environment : Environment) (name : String) : Bool :=
  (environment.env name).any (· ≠ "")

def advertise (registry : ProviderRegistry) (environment : Environment) (createdAt : ℤ)
    (aliasKey : String) (aliasChain : List String) :
    Except ResolveError (Option ModelListEntry) :=
  match aliasChain.head?.filter (· ≠ "") with
  | none => .ok none
  | some primary =>
      let providerId := (segments primary)[0]?.getD ""
      let modelKey := (segments primary)[1]?.getD "undefined"
      match readProperty (registry.providers.lookup providerId) providerId with
      | .absent => .ok none
      -- An inherited property has neither `apiKeyEnv` nor `models`.
      | .inherited =>
          if hasKey environment "undefined" then .error (.typeError
            ("Cannot read properties of undefined (reading '" ++ modelKey ++ "')"))
          else .ok none
      | .own provider =>
          if !hasKey environment provider.apiKeyEnv then .ok none
          else match registry.readModel providerId modelKey with
            | .absent => .ok none
            | _ => .ok (some
                { id := aliasKey, object := "model", created := createdAt, ownedBy := providerId })

/-- The keys of `Object.entries(registry.aliases)`: assigning `__proto__` does
not make a property. -/
def listedAliases (registry : ProviderRegistry) : List String :=
  registry.aliasNames.filter (· ≠ "__proto__")

/-- `localeCompare` is the comparison of the runtime, here as "not after". -/
def list (localeCompare : String → String → Bool) (registry : ProviderRegistry)
    (environment : Environment) (access : List (ClientId × String)) (createdAt : ℤ)
    (clientId : Option ClientId) : Except ResolveError (List ModelListEntry) := do
  let permitted := (listedAliases registry).filter (isPermitted access clientId)
  let entries ← permitted.mapM fun aliasKey =>
    advertise registry environment createdAt aliasKey ((registry.listAliases aliasKey).getD [])
  return (entries.filterMap id).insertionSort fun a b => localeCompare a.id b.id

/-- What the listing asks of a chain entry: its provider exists and has its key
in the environment, and its model exists. -/
def Reachable (registry : ProviderRegistry) (environment : Environment) (path : String) : Prop :=
  ∃ provider, registry.providers.lookup ((segments path)[0]?.getD "") = some provider ∧
    hasKey environment provider.apiKeyEnv = true ∧
    registry.readModel ((segments path)[0]?.getD "") ((segments path)[1]?.getD "undefined") ≠
      .absent

/-- What the resolver asks: both parts of the path are there, too. -/
def Resolvable (registry : ProviderRegistry) (environment : Environment) (path : String) : Prop :=
  (∃ providerId modelKey, (segments path)[0]? = some providerId ∧ providerId ≠ "" ∧
    (segments path)[1]? = some modelKey ∧ modelKey ≠ "") ∧
  Reachable registry environment path

section Resolving

variable (registry : ProviderRegistry) (environment : Environment)

theorem readProperty_not_own {α : Type} (own : Option α) (name : String)
    (other : ∀ value, readProperty own name ≠ .own value) : own = none := by
  cases own with
  | some held => exact absurd rfl (other held)
  | none => rfl

theorem hasKey_iff (name : String) :
    hasKey environment name = true ↔
      ∃ apiKey, (environment.env name).filter (· ≠ "") = some apiKey := by
  unfold hasKey
  cases environment.env name with
  | none => simp
  | some value => by_cases empty : value = "" <;> simp [empty]

theorem buildResolved_returns_iff (requestedAs modelKey providerId : String)
    (provider : ProviderRow) (config : Option ModelConfig) (priority : ℤ) :
    (∃ resolved, registry.buildResolved environment requestedAs modelKey providerId provider config
      priority = .ok resolved) ↔ hasKey environment provider.apiKeyEnv = true := by
  rw [hasKey_iff]
  unfold ProviderRegistry.buildResolved
  cases (environment.env provider.apiKeyEnv).filter (· ≠ "") with
  | none => simp
  | some apiKey => simp

theorem resolvePath_returns_iff (path requestedAs : String) (priority : ℤ) :
    (∃ resolved, registry.resolvePath environment path requestedAs priority = .ok resolved) ↔
      Resolvable registry environment path := by
  simp only [Resolvable, Reachable, resolvePath_ok_iff]
  constructor
  · rintro ⟨resolved, providerId, modelKey, provider, config, first, named, second, keyed, found,
      read, returns⟩
    rw [first, second]
    refine ⟨⟨providerId, modelKey, rfl, named, rfl, keyed⟩, provider, found, ?_, ?_⟩
    · exact (buildResolved_returns_iff registry environment requestedAs modelKey providerId provider
        config priority).mp ⟨resolved, returns⟩
    · rw [Option.getD_some, Option.getD_some, read]
      cases config <;> simp
  · rintro ⟨⟨providerId, modelKey, first, named, second, keyed⟩, provider, found, key, read⟩
    rw [first] at found read
    rw [second] at read
    have returns := fun config => (buildResolved_returns_iff registry environment requestedAs
      modelKey providerId provider config priority).mpr key
    cases stored : registry.readModel providerId modelKey with
    | absent => exact absurd stored read
    | inherited =>
        obtain ⟨resolved, built⟩ := returns none
        exact ⟨resolved, providerId, modelKey, provider, none, first, named, second, keyed, found,
          stored, built⟩
    | own config =>
        obtain ⟨resolved, built⟩ := returns (some config)
        exact ⟨resolved, providerId, modelKey, provider, some config, first, named, second, keyed,
          found, stored, built⟩

theorem chainFor_returns_iff (model : String) (paths : List String) (nonempty : paths ≠ []) :
    (∃ chain, registry.chainFor environment model paths = .ok chain ∧ chain ≠ []) ↔
      ∀ path ∈ paths, Resolvable registry environment path := by
  have returns : (∃ chain, registry.chainFor environment model paths = .ok chain) ↔
      ∀ path ∈ paths, Resolvable registry environment path := by
    unfold ProviderRegistry.chainFor
    simp only [mapM_returns_iff, resolvePath_returns_iff]
    constructor
    · intro resolvable path member
      obtain ⟨position, inside, here⟩ := List.mem_iff_getElem.mp member
      exact resolvable (path, position) (List.mem_zipIdx_iff_getElem?.mpr
        (here ▸ List.getElem?_eq_getElem inside))
    · intro resolvable item member
      exact resolvable item.1 (List.fst_mem_of_mem_zipIdx member)
  rw [← returns]
  constructor
  · rintro ⟨chain, resolved, _⟩
    exact ⟨chain, resolved⟩
  · rintro ⟨chain, resolved⟩
    refine ⟨chain, resolved, ?_⟩
    intro empty
    have related := (mapM_ok_iff _ _ _).mp resolved
    rw [empty, List.forall₂_nil_right_iff] at related
    exact nonempty (by simpa using related)

theorem path_ne_empty (providerId modelKey : String) : providerId ++ "/" ++ modelKey ≠ "" := by
  intro empty
  have letters := congrArg String.toList empty
  simp at letters

theorem listAliases_head (name : String) (registered : registry.AliasRegistered name) :
    ∃ primary rest, primary ≠ "" ∧ registry.listAliases name = some (primary :: rest) := by
  obtain ⟨entry, member, named⟩ := List.mem_map.mp registered
  have listed : entry ∈ registry.entriesOf name := by
    simp [ProviderRegistry.entriesOf, List.mem_insertionSort, member, named]
  obtain ⟨first, others, entries⟩ := List.exists_cons_of_ne_nil (List.ne_nil_of_mem listed)
  refine ⟨first.providerId ++ "/" ++ first.modelKey, others.map fun entry =>
    entry.providerId ++ "/" ++ entry.modelKey, path_ne_empty _ _, ?_⟩
  simp [ProviderRegistry.listAliases, registered, entries]

theorem resolveChain_returns_iff (name : String) (paths : List String) (nonempty : paths ≠ [])
    (listed : registry.listAliases name = some paths) :
    (∃ chain, registry.resolveChain environment name = .ok chain ∧ chain ≠ []) ↔
      name ≠ "" ∧ ∀ path ∈ paths, Resolvable registry environment path := by
  unfold ProviderRegistry.resolveChain ProviderRegistry.aliasChain
  by_cases unnamed : name = ""
  · simp [unnamed]
  · simp only [unnamed, ↓reduceIte, readAliases, listed, ne_eq, not_false_eq_true, true_and]
    exact chainFor_returns_iff registry environment name paths nonempty

end Resolving

section Listing

variable (localeCompare : String → String → Bool) (registry : ProviderRegistry)
  (environment : Environment) (access : List (ClientId × String)) (createdAt : ℤ)
  (clientId : Option ClientId)

theorem mem_listedAliases (name : String) :
    name ∈ listedAliases registry ↔ registry.AliasRegistered name ∧ name ≠ "__proto__" := by
  simp [listedAliases, ProviderRegistry.aliasNames, ProviderRegistry.AliasRegistered,
    List.mem_insertionSort]

theorem advertise_id (aliasKey : String) (aliasChain : List String) (entry : ModelListEntry)
    (returns : advertise registry environment createdAt aliasKey aliasChain = .ok (some entry)) :
    entry.id = aliasKey := by
  unfold advertise at returns
  split at returns
  · cases returns
  · dsimp only at returns
    split at returns
    · cases returns
    · split at returns <;> cases returns
    · split at returns
      · cases returns
      · split at returns <;> cases returns
        rfl

theorem advertise_iff (aliasKey primary : String) (rest : List String) (nonempty : primary ≠ "")
    (answer : Option ModelListEntry)
    (returns : advertise registry environment createdAt aliasKey (primary :: rest) = .ok answer) :
    (∃ entry, answer = some entry) ↔ Reachable registry environment primary := by
  unfold advertise at returns
  unfold Reachable
  simp only [List.head?_cons, Option.filter_some, nonempty, ne_eq, not_false_eq_true,
    decide_true, ↓reduceIte] at returns
  cases read : readProperty (registry.providers.lookup ((segments primary)[0]?.getD ""))
    ((segments primary)[0]?.getD "") with
  | own provider =>
      have found := (readProperty_own_iff _ _ _).mp read
      simp only [read] at returns
      simp only [found, Option.some.injEq, exists_eq_left']
      by_cases keyed : hasKey environment provider.apiKeyEnv = true
      · simp only [keyed, Bool.not_true, Bool.false_eq_true, ↓reduceIte] at returns
        split at returns <;> rename_i model <;> cases returns
        · simp [model]
        · simpa [keyed] using model
      · simp only [keyed, Bool.not_false, ↓reduceIte] at returns
        cases returns
        simp [keyed]
  | inherited =>
      have missing : registry.providers.lookup ((segments primary)[0]?.getD "") = none :=
        readProperty_not_own _ _ (fun value same => by rw [read] at same; cases same)
      simp only [read] at returns
      split at returns <;> cases returns
      simp [missing]
  | absent =>
      have missing : registry.providers.lookup ((segments primary)[0]?.getD "") = none :=
        readProperty_not_own _ _ (fun value same => by rw [read] at same; cases same)
      simp only [read] at returns
      cases returns
      simp [missing]

theorem listed_iff (entries : List ModelListEntry)
    (returns : list localeCompare registry environment access createdAt clientId = .ok entries)
    (name : String) :
    (∃ entry ∈ entries, entry.id = name) ↔
      name ∈ listedAliases registry ∧ isPermitted access clientId name = true ∧
        ∃ primary, ((registry.listAliases name).getD []).head? = some primary ∧
          Reachable registry environment primary := by
  obtain ⟨answers, asked, sorted⟩ := except_bind_ok.mp returns
  have members : ∀ entry, entry ∈ entries ↔ some entry ∈ answers := by
    intro entry
    rw [← Except.ok.inj sorted, List.mem_insertionSort]
    simp
  have answered := mem_mapM_iff _ _ _ asked
  constructor
  · rintro ⟨entry, member, rfl⟩
    obtain ⟨name, permitted, advertised⟩ := (answered _).mp ((members entry).mp member)
    obtain ⟨named, allowed⟩ := List.mem_filter.mp permitted
    have registered := ((mem_listedAliases registry name).mp named).1
    obtain ⟨primary, rest, nonempty, paths⟩ := listAliases_head registry name registered
    simp only [paths, Option.getD_some] at advertised
    have same : entry.id = name := advertise_id _ _ _ _ _ _ advertised
    subst same
    refine ⟨named, allowed, primary, by simp [paths], ?_⟩
    exact (advertise_iff registry environment createdAt _ primary rest nonempty _ advertised).mp
      ⟨entry, rfl⟩
  · rintro ⟨named, allowed, primary, first, reachable⟩
    have permitted : name ∈ (listedAliases registry).filter (isPermitted access clientId) :=
      List.mem_filter.mpr ⟨named, allowed⟩
    obtain ⟨answer, advertised⟩ := (mapM_returns_iff _ _).mp ⟨answers, asked⟩ name permitted
    have registered := ((mem_listedAliases registry name).mp named).1
    obtain ⟨head, rest, nonempty, paths⟩ := listAliases_head registry name registered
    have shown := (answered answer).mpr ⟨name, permitted, advertised⟩
    simp only [paths, Option.getD_some] at advertised first
    cases first
    obtain ⟨entry, rfl⟩ := (advertise_iff registry environment createdAt _ primary rest nonempty _
      advertised).mpr reachable
    exact ⟨entry, (members entry).mpr shown, advertise_id _ _ _ _ _ _ advertised⟩

end Listing

/-- Every listed alias passes the gate and resolves exactly when each listed
alias has a name and a chain that is resolvable to its end. -/
theorem listing_agrees_iff (localeCompare : String → String → Bool) (registry : ProviderRegistry)
    (environment : Environment) (access : List (ClientId × String)) (createdAt : ℤ)
    (clientId : Option ClientId) (entries : List ModelListEntry)
    (returns : list localeCompare registry environment access createdAt clientId = .ok entries) :
    (∀ entry ∈ entries, isPermitted access clientId entry.id = true ∧
      ∃ chain, registry.resolveChain environment entry.id = .ok chain ∧ chain ≠ []) ↔
    ∀ name, registry.AliasRegistered name → name ≠ "__proto__" →
      isPermitted access clientId name = true →
      (∃ primary, ((registry.listAliases name).getD []).head? = some primary ∧
        Reachable registry environment primary) →
      name ≠ "" ∧
        ∀ path ∈ (registry.listAliases name).getD [], Resolvable registry environment path := by
  have listed := listed_iff localeCompare registry environment access createdAt clientId entries
    returns
  constructor
  · intro agrees name registered plain permitted available
    obtain ⟨entry, member, rfl⟩ := (listed name).mpr
      ⟨(mem_listedAliases registry name).mpr ⟨registered, plain⟩, permitted, available⟩
    obtain ⟨primary, rest, _, paths⟩ := listAliases_head registry entry.id registered
    have resolves := (agrees entry member).2
    rw [resolveChain_returns_iff registry environment entry.id _ (by simp) paths] at resolves
    rw [paths]
    exact resolves
  · intro resolvable entry member
    obtain ⟨named, permitted, available⟩ := (listed entry.id).mp ⟨entry, member, rfl⟩
    obtain ⟨registered, plain⟩ := (mem_listedAliases registry entry.id).mp named
    obtain ⟨primary, rest, _, paths⟩ := listAliases_head registry entry.id registered
    have chain := resolvable entry.id registered plain permitted available
    rw [paths] at chain
    exact ⟨permitted, (resolveChain_returns_iff registry environment entry.id _ (by simp)
      paths).mpr chain⟩

def mixedRegistry : ProviderRegistry where
  providers := AList.insert "nan" ⟨"NAN_API_KEY", none, none⟩
    (AList.insert "openai" ⟨"OPENAI_API_KEY", none, none⟩ ∅)
  models := AList.insert ("nan", "qwen") ⟨"qwen", none, true, false⟩
    (AList.insert ("openai", "gpt") ⟨"gpt", none, true, false⟩ ∅)
  aliasEntries := [⟨"mixed", 0, "nan", "qwen", 0⟩, ⟨"mixed", 1, "openai", "gpt", 0⟩]
  requestTimeoutMs := 120000

def partialKeys : Environment where
  env := fun name => if name = "NAN_API_KEY" then some "sk-nan" else none
  providerBaseUrl := none

def mixedListing : List ModelListEntry := [⟨"mixed", "model", 0, "nan"⟩]

theorem mixed_listed :
    list (fun _ _ => true) mixedRegistry partialKeys [] 0 none = .ok mixedListing := by
  rfl

theorem listing_agrees_mixed :
    (∀ entry ∈ mixedListing, isPermitted [] none entry.id = true ∧
      ∃ chain, mixedRegistry.resolveChain partialKeys entry.id = .ok chain ∧ chain ≠ []) ↔
    ∀ name, mixedRegistry.AliasRegistered name → name ≠ "__proto__" →
      isPermitted [] none name = true →
      (∃ primary, ((mixedRegistry.listAliases name).getD []).head? = some primary ∧
        Reachable mixedRegistry partialKeys primary) →
      name ≠ "" ∧ ∀ path ∈ (mixedRegistry.listAliases name).getD [],
        Resolvable mixedRegistry partialKeys path :=
  listing_agrees_iff (fun _ _ => true) mixedRegistry partialKeys [] 0 none mixedListing mixed_listed

theorem mixed_listed_unresolved :
    ¬ ∀ (localeCompare : String → String → Bool) (registry : ProviderRegistry)
      (environment : Environment) (access : List (ClientId × String)) (createdAt : ℤ)
      (clientId : Option ClientId) (entries : List ModelListEntry),
      list localeCompare registry environment access createdAt clientId = .ok entries →
      ∀ entry ∈ entries, isPermitted access clientId entry.id = true ∧
        ∃ chain, registry.resolveChain environment entry.id = .ok chain ∧ chain ≠ [] := by
  intro claimed
  obtain ⟨_, chain, resolved, _⟩ := claimed (fun _ _ => true) mixedRegistry partialKeys [] 0 none
    mixedListing mixed_listed ⟨"mixed", "model", 0, "nan"⟩ (by simp [mixedListing])
  -- The second entry of the chain has no key, and the resolver builds them all.
  have throws : mixedRegistry.resolveChain partialKeys "mixed" =
      .error (.keyNotSet "openai" "OPENAI_API_KEY") := by rfl
  rw [throws] at resolved
  cases resolved

end LlmGateway.Chat
