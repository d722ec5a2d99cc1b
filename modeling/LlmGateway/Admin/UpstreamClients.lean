import LlmGateway.Admin.AliasInvariant
import LlmGateway.Providers.Paths

/-!
`ProviderService.clientFor` keeps one upstream client for each provider id,
while the admin API edits the row it was built from and the environment changes
under it. A run interleaves edits, resolutions and the attempts that use them.
-/

namespace LlmGateway.Admin

open Effects Providers Runs

/-- `PatchProviderSchema`. -/
structure ProviderPatch where
  apiKeyEnv : Option String
  baseUrl : Option String
  timeoutMs : Option ℕ
  deriving DecidableEq, Repr

namespace RegistryStore

/-- `updateProvider` merges the fields that are given into the row. -/
def mergeProvider (current : ProviderRow) (patch : ProviderPatch) : ProviderRow where
  apiKeyEnv := patch.apiKeyEnv.getD current.apiKeyEnv
  baseUrl := patch.baseUrl.or current.baseUrl
  timeoutMs := patch.timeoutMs.or current.timeoutMs

def patchProvider (store : RegistryStore) (id : String) (patch : ProviderPatch) :
    Except OperationError RegistryStore := do
  ensureProvider store id
  match store.registry.providers.lookup id with
  -- An inherited name passes the check and has no row to update.
  | none => return store
  | some current => return { store with
      registry := { store.registry with
        providers := store.registry.providers.insert id (mergeProvider current patch) } }

end RegistryStore

structure UpstreamClient where
  apiKey : String
  baseURL : String
  deriving DecidableEq, Repr

def clientOf (resolved : ResolvedModel) : UpstreamClient where
  apiKey := resolved.apiKey
  baseURL := resolved.baseURL

abbrev ClientMemo := String → Option UpstreamClient

/-- `ProviderService.clientFor`: the client and the memo after the call. -/
def clientFor (clients : ClientMemo) (resolved : ResolvedModel) : UpstreamClient × ClientMemo :=
  match clients resolved.providerId with
  | some existing => (existing, clients)
  | none => (clientOf resolved,
      Function.update clients resolved.providerId (some (clientOf resolved)))

structure Service where
  store : RegistryStore
  environment : Environment
  clients : ClientMemo
  /-- What the requests in flight have resolved. -/
  resolutions : List ResolvedModel
  /-- The attempts so far, each with the client it was given. -/
  attempts : List (ResolvedModel × UpstreamClient)

def Service.boot (store : RegistryStore) (environment : Environment) : Service where
  store := store
  environment := environment
  clients := fun _ => none
  resolutions := []
  attempts := []

inductive ServiceEvent where
  | administer (operation : Operation)
  | patchProvider (id : String) (patch : ProviderPatch)
  | setEnvironment (env : String → Option String)
  | resolve (model : String)
  /-- An upstream call for one of the resolutions. -/
  | attempt (index : ℕ)

namespace Service

def patched (service : Service) : Except OperationError RegistryStore → Service
  | .ok store => { service with store := store }
  | .error _ => service

def resolve (service : Service) (model : String) : Service :=
  match service.store.registry.resolveChain service.environment model with
  | .ok chain => { service with resolutions := service.resolutions ++ chain }
  | .error _ => service

def attempt (service : Service) (resolved : ResolvedModel) : Service :=
  { service with
    clients := (clientFor service.clients resolved).2
    attempts := service.attempts ++ [(resolved, (clientFor service.clients resolved).1)] }

def step (service : Service) : ServiceEvent → Service
  | .administer operation => { service with store := service.store.step operation }
  | .patchProvider id patch => service.patched (service.store.patchProvider id patch)
  | .setEnvironment env => { service with environment := { service.environment with env := env } }
  | .resolve model => service.resolve model
  | .attempt index =>
      match service.resolutions[index]? with
      | some resolved => service.attempt resolved
      | none => service

/-- Every attempt got a client built with exactly its own key and base URL. -/
def NoStaleClient (service : Service) : Prop :=
  ∀ resolved client, (resolved, client) ∈ service.attempts → client = clientOf resolved

/-- The attempt has the credentials of the earlier attempts of its provider. -/
def SameCredentials (service : Service) : ServiceEvent → Prop
  | .attempt index => ∀ resolved, service.resolutions[index]? = some resolved →
      ∀ earlier client, (earlier, client) ∈ service.attempts →
        earlier.providerId = resolved.providerId →
        earlier.apiKey = resolved.apiKey ∧ earlier.baseURL = resolved.baseURL
  | _ => True

/-- The memo holds the client of each attempt, and nothing without an attempt. -/
structure Memoised (service : Service) : Prop where
  held : ∀ resolved client, (resolved, client) ∈ service.attempts →
    service.clients resolved.providerId = some client
  used : ∀ providerId client, service.clients providerId = some client →
    ∃ resolved, (resolved, client) ∈ service.attempts ∧ resolved.providerId = providerId

section Steps

variable (service : Service)

theorem clientOf_eq_iff (left right : ResolvedModel) :
    clientOf left = clientOf right ↔ left.apiKey = right.apiKey ∧ left.baseURL = right.baseURL := by
  simp [clientOf]

theorem step_frame (event : ServiceEvent) (other : ∀ index, event ≠ .attempt index) :
    (step service event).clients = service.clients ∧
      (step service event).attempts = service.attempts := by
  cases event with
  | administer operation => exact ⟨rfl, rfl⟩
  | patchProvider id patch =>
      simp only [step]
      cases service.store.patchProvider id patch <;> exact ⟨rfl, rfl⟩
  | setEnvironment env => exact ⟨rfl, rfl⟩
  | resolve model =>
      simp only [step, resolve]
      cases service.store.registry.resolveChain service.environment model <;> exact ⟨rfl, rfl⟩
  | attempt index => exact absurd rfl (other index)

theorem memoised_attempt (resolved : ResolvedModel) (memoised : Memoised service) :
    Memoised (service.attempt resolved) := by
  cases memo : service.clients resolved.providerId with
  | some existing =>
      have same : service.attempt resolved =
          { service with attempts := service.attempts ++ [(resolved, existing)] } := by
        simp [attempt, clientFor, memo]
      rw [same]
      constructor
      · intro earlier client member
        rcases List.mem_append.mp member with before | last
        · exact memoised.held earlier client before
        · cases List.mem_singleton.mp last
          exact memo
      · intro providerId client held
        obtain ⟨earlier, member, named⟩ := memoised.used providerId client held
        exact ⟨earlier, List.mem_append_left _ member, named⟩
  | none =>
      have same : service.attempt resolved = { service with
          clients := Function.update service.clients resolved.providerId (some (clientOf resolved))
          attempts := service.attempts ++ [(resolved, clientOf resolved)] } := by
        simp [attempt, clientFor, memo]
      rw [same]
      constructor
      · intro earlier client member
        rcases List.mem_append.mp member with before | last
        · have held := memoised.held earlier client before
          -- An earlier attempt of the same provider would have left a client.
          have different : earlier.providerId ≠ resolved.providerId := by
            intro shared
            rw [shared, memo] at held
            cases held
          simpa [different] using held
        · cases List.mem_singleton.mp last
          simp
      · intro providerId client held
        by_cases own : providerId = resolved.providerId
        · subst own
          have made : clientOf resolved = client := by simpa using held
          exact ⟨resolved, by simp [made], rfl⟩
        · obtain ⟨earlier, member, named⟩ :=
            memoised.used providerId client (by simpa [own] using held)
          exact ⟨earlier, List.mem_append_left _ member, named⟩

theorem memoised_step (event : ServiceEvent) (memoised : Memoised service) :
    Memoised (step service event) := by
  by_cases attempted : ∃ index, event = .attempt index
  · obtain ⟨index, rfl⟩ := attempted
    simp only [step]
    cases service.resolutions[index]? with
    | none => exact memoised
    | some resolved => exact memoised_attempt service resolved memoised
  · obtain ⟨clients, attempts⟩ := step_frame service event (not_exists.mp attempted)
    constructor
    · rw [clients, attempts]
      exact memoised.held
    · rw [clients, attempts]
      exact memoised.used

theorem attempt_fresh_iff (resolved : ResolvedModel) (memoised : Memoised service)
    (fresh : NoStaleClient service) :
    NoStaleClient (service.attempt resolved) ↔
      ∀ earlier client, (earlier, client) ∈ service.attempts →
        earlier.providerId = resolved.providerId →
        earlier.apiKey = resolved.apiKey ∧ earlier.baseURL = resolved.baseURL := by
  have split : NoStaleClient (service.attempt resolved) ↔
      (clientFor service.clients resolved).1 = clientOf resolved := by
    unfold NoStaleClient attempt
    constructor
    · intro all
      exact all resolved _ (List.mem_append_right _ (List.mem_singleton_self _))
    · intro made earlier client member
      rcases List.mem_append.mp member with before | last
      · exact fresh earlier client before
      · cases List.mem_singleton.mp last
        exact made
  rw [split]
  constructor
  · intro made earlier client member shared
    have held := memoised.held earlier client member
    rw [shared] at held
    rw [fresh earlier client member] at held
    simp only [clientFor, held] at made
    exact (clientOf_eq_iff earlier resolved).mp made
  · intro same
    cases memo : service.clients resolved.providerId with
    | none => simp [clientFor, memo]
    | some existing =>
        obtain ⟨earlier, member, shared⟩ := memoised.used resolved.providerId existing memo
        simp only [clientFor, memo]
        rw [fresh earlier existing member]
        exact (clientOf_eq_iff earlier resolved).mpr (same earlier existing member shared)

theorem step_fresh_iff (event : ServiceEvent) (memoised : Memoised service)
    (fresh : NoStaleClient service) :
    NoStaleClient (step service event) ↔ SameCredentials service event := by
  by_cases attempted : ∃ index, event = .attempt index
  · obtain ⟨index, rfl⟩ := attempted
    simp only [step, SameCredentials]
    cases service.resolutions[index]? with
    | none => simpa using fresh
    | some resolved => simpa using attempt_fresh_iff service resolved memoised fresh
  · obtain ⟨_, attempts⟩ := step_frame service event (not_exists.mp attempted)
    have kept : NoStaleClient (step service event) := by
      unfold NoStaleClient
      rw [attempts]
      exact fresh
    have allowed : SameCredentials service event := by
      cases event with
      | attempt index => exact absurd ⟨index, rfl⟩ attempted
      | _ => trivial
    exact iff_of_true kept allowed

theorem boot_memoised (store : RegistryStore) (environment : Environment) :
    Memoised (boot store environment) where
  held := by
    intro resolved client member
    cases member
  used := by
    intro providerId client held
    cases held

theorem boot_fresh (store : RegistryStore) (environment : Environment) :
    NoStaleClient (boot store environment) := by
  intro resolved client member
  cases member

/-- From a state whose memo is in order, the equivalence of one step carries
through the run. -/
theorem run_fresh_iff (events : List ServiceEvent) (memoised : Memoised service)
    (fresh : NoStaleClient service) :
    Always step NoStaleClient service events ↔ Guarded step SameCredentials service events :=
  always_iff_guarded step Memoised NoStaleClient SameCredentials memoised_step step_fresh_iff
    service events memoised fresh

end Steps

end Service

/-- A run never hands out a stale client exactly when every attempt has the
credentials of the earlier attempts of its provider. -/
theorem noStaleClient_iff (store : RegistryStore) (environment : Environment)
    (events : List ServiceEvent) :
    Always Service.step Service.NoStaleClient (.boot store environment) events ↔
      Guarded Service.step Service.SameCredentials (.boot store environment) events :=
  Service.run_fresh_iff _ events (Service.boot_memoised store environment)
    (Service.boot_fresh store environment)

def keyedStore : RegistryStore where
  registry :=
    { providers := AList.insert "nan" ⟨"NAN_API_KEY", some "https://old.example", none⟩ ∅
      models := AList.insert ("nan", "qwen") ⟨"qwen3.6", none, true, false⟩ ∅
      aliasEntries := []
      requestTimeoutMs := 120000 }
  weights := []

def movedProvider : List ServiceEvent :=
  [.resolve "nan/qwen", .attempt 0,
    .patchProvider "nan" ⟨none, some "https://new.example", none⟩,
    .resolve "nan/qwen", .attempt 1]

/-- The second call is sent to the base URL of the first. -/
theorem movedProvider_stale :
    ((run Service.step (.boot keyedStore everyKeySet) movedProvider).attempts.map fun attempt =>
        (attempt.1.baseURL, attempt.2.baseURL)) =
      [("https://old.example", "https://old.example"),
        ("https://new.example", "https://old.example")] ∧
    ¬Always Service.step Service.NoStaleClient (.boot keyedStore everyKeySet) movedProvider := by
  have attempts : ((run Service.step (.boot keyedStore everyKeySet) movedProvider).attempts.map
      fun attempt => (attempt.1.baseURL, attempt.2.baseURL)) =
      [("https://old.example", "https://old.example"),
        ("https://new.example", "https://old.example")] := rfl
  refine ⟨attempts, ?_⟩
  intro fresh
  have last := always_last _ _ _ _ fresh
  have member : ("https://new.example", "https://old.example") ∈
      (run Service.step (.boot keyedStore everyKeySet) movedProvider).attempts.map
        fun attempt => (attempt.1.baseURL, attempt.2.baseURL) := by
    rw [attempts]
    simp
  obtain ⟨⟨resolved, client⟩, made, same⟩ := List.mem_map.mp member
  rw [last resolved client made] at same
  have moved := (Prod.mk.inj same).1.symm.trans (Prod.mk.inj same).2
  exact absurd moved (by decide)

def credentials (registry : ProviderRegistry) (environment : Environment) (providerId : String) :
    Option UpstreamClient :=
  (registry.providers.lookup providerId).bind fun provider =>
    ((environment.env provider.apiKeyEnv).filter (· ≠ "")).map fun apiKey =>
      { apiKey
        baseURL := (provider.baseUrl.filter (· ≠ "")).getD
          (environment.providerBaseUrl.getD "https://api.openai.com/v1") }

section Credentials

variable (registry : ProviderRegistry) (environment : Environment)

theorem buildResolved_credentials (requestedAs modelKey providerId : String)
    (provider : ProviderRow) (config : Option ModelConfig) (priority : ℤ)
    (owner : registry.providers.lookup providerId = some provider) (resolved : ResolvedModel)
    (returns : registry.buildResolved environment requestedAs modelKey providerId provider config
      priority = .ok resolved) :
    credentials registry environment resolved.providerId = some (clientOf resolved) := by
  unfold ProviderRegistry.buildResolved at returns
  split at returns
  · cases returns
  · rename_i apiKey set
    cases returns
    simp only [credentials, owner, Option.bind_some, set, Option.map_some, clientOf]

theorem resolvePath_credentials (path requestedAs : String) (priority : ℤ)
    (resolved : ResolvedModel)
    (returns : registry.resolvePath environment path requestedAs priority = .ok resolved) :
    credentials registry environment resolved.providerId = some (clientOf resolved) := by
  obtain ⟨_, _, provider, config, _, _, _, _, owner, _, built⟩ :=
    (resolvePath_ok_iff registry environment requestedAs priority path resolved).mp returns
  exact buildResolved_credentials registry environment _ _ _ provider config _ owner resolved built

theorem chainFor_credentials (model : String) (paths : List String) (chain : List ResolvedModel)
    (returns : registry.chainFor environment model paths = .ok chain) (resolved : ResolvedModel)
    (member : resolved ∈ chain) :
    credentials registry environment resolved.providerId = some (clientOf resolved) := by
  obtain ⟨item, _, visited⟩ := (mem_mapM_iff _ _ _ returns resolved).mp member
  exact resolvePath_credentials registry environment _ _ _ resolved visited

theorem resolveChain_credentials (model : String) (chain : List ResolvedModel)
    (returns : registry.resolveChain environment model = .ok chain) (resolved : ResolvedModel)
    (member : resolved ∈ chain) :
    credentials registry environment resolved.providerId = some (clientOf resolved) := by
  have single : ∀ result : Except ResolveError ResolvedModel,
      (result.map fun resolved => [resolved]) = .ok chain → result = .ok resolved := by
    intro result same
    cases result with
    | error error => cases same
    | ok value =>
        cases same
        rw [List.mem_singleton.mp member]
  unfold ProviderRegistry.resolveChain at returns
  split at returns
  · cases returns
  split at returns
  · rename_i aliased read
    unfold ProviderRegistry.aliasChain at read
    split at read
    · cases read
      exact chainFor_credentials registry environment _ _ chain returns resolved member
    · cases read
      cases returns
    · cases read
  split at returns
  · exact resolvePath_credentials registry environment _ _ _ resolved (single _ returns)
  split at returns
  · rename_i providerId provider found
    have owner : registry.providers.lookup providerId = some provider := by
      unfold ProviderRegistry.findModel at found
      dsimp only at found
      split at found
      · cases found
      · obtain ⟨row, owner, same⟩ := Option.map_eq_some_iff.mp found
        cases same
        exact owner
    exact buildResolved_credentials registry environment _ _ _ provider _ _ owner resolved
      (single _ returns)
  split at returns
  · exact chainFor_credentials registry environment _ _ chain returns resolved member
  · cases returns

end Credentials

section Edits

open RegistryStore

def ServiceEvent.editsProvider : ServiceEvent → Bool
  | .patchProvider _ _ | .setEnvironment _ | .administer (.removeProvider _) => true
  | _ => false

variable (service : Service)

theorem step_provider (operation : Operation) (kept : ∀ id, operation ≠ .removeProvider id)
    (store : RegistryStore) (providerId : String) (provider : ProviderRow)
    (owner : store.registry.providers.lookup providerId = some provider) :
    (RegistryStore.step store operation).registry.providers.lookup providerId = some provider := by
  rcases step_eq store operation with ⟨next, accepted, same⟩ | ⟨_, same⟩
  · rw [same]
    cases operation with
    | malformed => cases accepted
    | createAlias body =>
        obtain ⟨_, _, _, _, rfl⟩ := createAlias_ok store next body accepted
        exact owner
    | removeAlias id =>
        cases removeAlias_ok store next id accepted
        exact owner
    | appendEntry id entry =>
        obtain ⟨_, written⟩ := appendEntry_ok store next id entry accepted
        obtain ⟨registry, _⟩ := appendAliasEntry_ok store next id entry written
        rw [registry]
        exact owner
    | removeEntry id position index =>
        obtain ⟨_, _, _, _, rfl⟩ := removeEntry_ok store next id position index accepted
        exact owner
    | setWeights id weights =>
        obtain ⟨_, _, rfl⟩ := setWeights_ok store next id weights accepted
        exact owner
    | setPriorities id priorities =>
        obtain ⟨_, _, rfl⟩ := setPriorities_ok store next id priorities accepted
        exact owner
    | createProvider id row =>
        obtain ⟨fresh, rfl⟩ := createProvider_ok store next id row accepted
        have different : providerId ≠ id := by
          rintro rfl
          rw [owner] at fresh
          cases fresh
        rw [← owner]
        exact AList.lookup_insert_ne different
    | removeProvider id => exact absurd rfl (kept id)
    | createModel id body =>
        obtain ⟨_, rfl⟩ := createModel_ok store next id body accepted
        exact owner
    | removeModel id modelKey =>
        obtain ⟨_, rfl⟩ := removeModel_ok store next id modelKey accepted
        exact owner
  · rw [same]
    exact owner

/-- Everything resolved so far still has the credentials of its provider. -/
structure Current (service : Service) : Prop where
  resolutions : ∀ resolved ∈ service.resolutions,
    credentials service.store.registry service.environment resolved.providerId =
      some (clientOf resolved)
  attempts : ∀ resolved client, (resolved, client) ∈ service.attempts →
    credentials service.store.registry service.environment resolved.providerId =
      some (clientOf resolved)

theorem current_step (event : ServiceEvent) (keeps : event.editsProvider = false)
    (current : Current service) : Current (service.step event) := by
  cases event with
  | administer operation =>
      have kept : ∀ id, operation ≠ .removeProvider id := by
        rintro id rfl
        cases keeps
      have stays : ∀ providerId client,
          credentials service.store.registry service.environment providerId = some client →
          credentials (RegistryStore.step service.store operation).registry service.environment
            providerId = some client := by
        intro providerId client before
        obtain ⟨provider, owner, set⟩ := Option.bind_eq_some_iff.mp before
        exact Option.bind_eq_some_iff.mpr
          ⟨provider, step_provider operation kept service.store providerId provider owner, set⟩
      exact ⟨fun resolved member => stays _ _ (current.resolutions resolved member),
        fun resolved client member => stays _ _ (current.attempts resolved client member)⟩
  | patchProvider id patch => cases keeps
  | setEnvironment env => cases keeps
  | resolve model =>
      simp only [Service.step, Service.resolve]
      cases outcome : service.store.registry.resolveChain service.environment model with
      | error error => exact current
      | ok chain =>
          refine ⟨?_, current.attempts⟩
          intro resolved member
          rcases List.mem_append.mp member with before | now
          · exact current.resolutions resolved before
          · exact resolveChain_credentials _ _ model chain outcome resolved now
  | attempt index =>
      simp only [Service.step]
      cases found : service.resolutions[index]? with
      | none => exact current
      | some resolved =>
          refine ⟨current.resolutions, ?_⟩
          intro earlier client member
          rcases List.mem_append.mp member with before | last
          · exact current.attempts earlier client before
          · cases List.mem_singleton.mp last
            exact current.resolutions _ (List.mem_of_getElem? found)

theorem current_same (event : ServiceEvent) (current : Current service) :
    service.SameCredentials event := by
  cases event with
  | attempt index =>
      intro resolved found earlier client member shared
      have now := current.resolutions resolved (List.mem_of_getElem? found)
      rw [← shared, current.attempts earlier client member] at now
      exact (Service.clientOf_eq_iff earlier resolved).mp (Option.some.inj now)
  | _ => trivial

theorem guarded_without_edits (events : List ServiceEvent) (service : Service)
    (current : Current service) (keeps : ∀ event ∈ events, event.editsProvider = false) :
    Guarded Service.step Service.SameCredentials service events := by
  induction events generalizing service with
  | nil => trivial
  | cons event rest ih =>
      rw [List.forall_mem_cons] at keeps
      exact ⟨current_same service event current,
        ih (service.step event) (current_step service event keeps.1 current) keeps.2⟩

theorem noStaleClient_without_edits (store : RegistryStore) (environment : Environment)
    (events : List ServiceEvent) (keeps : ∀ event ∈ events, event.editsProvider = false) :
    Always Service.step Service.NoStaleClient (.boot store environment) events := by
  apply (Service.run_fresh_iff _ events (Service.boot_memoised store environment)
    (Service.boot_fresh store environment)).mpr
  apply guarded_without_edits events _ _ keeps
  constructor
  · intro resolved member
    cases member
  · intro resolved client member
    cases member

end Edits

end LlmGateway.Admin
