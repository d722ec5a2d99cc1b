import LlmGateway.Access.AliasAccess
import LlmGateway.Admin.Aliases
import LlmGateway.Auth.Clients
import LlmGateway.Chat.Permissions
import LlmGateway.Lib.Runs

/-!
`AdminAliasAccessController`, beside the requests that read what it writes and
the other admin operations, which may change the clients and the registry in
any way. Against all of these stands the set each client was last given.
-/

namespace LlmGateway.Admin.Allowlist

open Access Auth Chat Effects Providers Quota Runs

inductive AllowlistError where
  | admin (error : AdminError)
  | access (error : AccessError)

structure AccessSystem where
  gateway : Gateway
  clients : ClientTable

def AccessSystem.access (system : AccessSystem) : AccessRows := system.gateway.world.access

def AccessSystem.registry (system : AccessSystem) : ProviderRegistry :=
  system.gateway.world.registry

inductive AccessEvent where
  /-- A body of another shape than the schema's is `none`; `fails` says which
  insert of the transaction fails. -/
  | put (clientId : ClientId) (body : Option (List String)) (fails : ℕ → Bool)
  | clear (clientId : ClientId) (fails : Bool)
  | chat (event : Event)
  | setClients (clients : ClientTable)
  | setRegistry (registry : ProviderRegistry)

section Controller

variable (localeCompare : String → String → Bool) (system : AccessSystem)

def mustFindClient (clients : ClientTable) (id : ClientId) : Except AdminError Client :=
  match clients.findById id with
  | some client => .ok client
  | none => .error (.notFound ("Client \"" ++ id.text ++ "\" not found"))

/-- `PutAliasesSchema`. -/
def parseBody (body : Option (List String)) : Except AdminError (List String) :=
  match body with
  | none => .error .invalidBody
  | some aliases => if "" ∈ aliases then .error .invalidBody else .ok aliases

def assertAliasesExist (registry : ProviderRegistry) :
    ℕ → List String → List String → Except AdminError Unit
  | _, _, [] => .ok ()
  | index, seen, aliasKey :: rest =>
      let field := "aliases[" ++ toString index ++ "]: alias \"" ++ aliasKey ++ "\" "
      -- Only an own property counts, so no inherited name does.
      if aliasKey ∉ listedAliases registry then
        .error (.badRequest (field ++ "is not in the alias registry"))
      else if aliasKey ∈ seen then .error (.badRequest (field ++ "appears more than once"))
      else assertAliasesExist registry (index + 1) (aliasKey :: seen) rest

def parseAliases (registry : ProviderRegistry) (aliases : List String) :
    Except AdminError Unit :=
  if aliases = [] then .error (.badRequest
    ("aliases: must not be empty — with no rows a client is UNRESTRICTED. " ++
      "Use DELETE /admin/clients/:id/aliases to clear the allowlist."))
  else assertAliasesExist registry 0 [] aliases

def respond (clientId : ClientId) (written : Except AccessError Unit × AccessRows) :
    Except AllowlistError AliasAccessDescription × AccessRows :=
  match written.1 with
  | .error error => (.error (.access error), written.2)
  | .ok _ => (.ok (describe written.2 clientId localeCompare), written.2)

def checked (clientId : ClientId) (body : Option (List String)) :
    Except AdminError (List String) := do
  let aliases ← parseBody body
  let _ ← mustFindClient system.clients clientId
  parseAliases system.registry aliases
  return aliases

def replace (clientId : ClientId) (body : Option (List String)) (fails : ℕ → Bool) :
    Except AllowlistError AliasAccessDescription × AccessRows :=
  match checked system clientId body with
  | .error error => (.error (.admin error), system.access)
  | .ok aliases =>
      respond localeCompare clientId (replaceForClient system.access clientId fails aliases)

def clear (clientId : ClientId) (fails : Bool) :
    Except AllowlistError AliasAccessDescription × AccessRows :=
  match mustFindClient system.clients clientId with
  | .error error => (.error (.admin error), system.access)
  | .ok _ => respond localeCompare clientId (deleteForClient system.access clientId fails)

def setAccess (rows : AccessRows) : AccessSystem :=
  { system with gateway := { system.gateway with
      world := { system.gateway.world with access := rows } } }

def step (system : AccessSystem) : AccessEvent → AccessSystem
  | .put clientId body fails =>
      setAccess system (replace localeCompare system clientId body fails).2
  | .clear clientId fails => setAccess system (clear localeCompare system clientId fails).2
  | .chat event => { system with gateway := system.gateway.step event }
  | .setClients clients => { system with clients := clients }
  | .setRegistry registry => { system with gateway := { system.gateway with
      world := { system.gateway.world with registry := registry } } }

def accepted (system : AccessSystem) : AccessEvent → Bool
  | .put clientId body fails => (replace localeCompare system clientId body fails).1.isOk
  | .clear clientId fails => (clear localeCompare system clientId fails).1.isOk
  | .chat _ | .setClients _ | .setRegistry _ => false

end Controller

section Purpose

/-- What each client may use, by the last answer an operator was given. -/
abbrev Allowances := ClientId → AliasAccess

def Allowances.follow (allowances : Allowances) (event : AccessEvent) (accepted : Bool) :
    Allowances :=
  match event with
  | .put clientId (some aliases) _ =>
      if accepted then Function.update allowances clientId (.restricted aliases.toFinset)
      else allowances
  | .clear clientId _ =>
      if accepted then Function.update allowances clientId .unrestricted else allowances
  | _ => allowances

def Allowances.of (allowances : Allowances) : Option ClientId → AliasAccess
  | none => .unrestricted
  | some clientId => allowances clientId

structure Observed where
  system : AccessSystem
  last : Allowances

variable (localeCompare : String → String → Bool)

def observe (observed : Observed) (event : AccessEvent) : Observed where
  system := step localeCompare observed.system event
  last := observed.last.follow event (accepted localeCompare observed.system event)

def boot (gateway : Gateway) (clients : ClientTable) : Observed where
  system := setAccess { gateway, clients } []
  last := fun _ => .unrestricted

/-- The stored rows, the gate and the listing all say what was last answered. -/
structure Follows (observed : Observed) : Prop where
  effective : ∀ clientId, getAccess observed.system.access (some clientId) = observed.last clientId
  gate : ∀ request : Request, PassesGate observed.system.gateway.world.opened request ↔
    (observed.last.of request.clientId).permits request.body.model = true
  listing : ∀ createdAt clientId entries,
    list localeCompare observed.system.registry observed.system.gateway.world.environment
      observed.system.access createdAt clientId = .ok entries →
    ∀ name, (∃ entry ∈ entries, entry.id = name) ↔
      (observed.last.of clientId).permits name = true ∧
        Advertised observed.system.registry observed.system.gateway.world.environment name

/-- A PUT that is not accepted changes nothing, and none frees a restricted client. -/
def PutsSafely (observed : Observed) (event : AccessEvent) : Prop :=
  ∀ clientId body fails, event = .put clientId body fails →
    (accepted localeCompare observed.system event = false →
      (observe localeCompare observed event).system.access = observed.system.access) ∧
    ∀ other aliases, getAccess observed.system.access (some other) = .restricted aliases →
      ∃ aliases', getAccess (observe localeCompare observed event).system.access (some other) =
        .restricted aliases'

end Purpose

section Writes

variable (localeCompare : String → String → Bool) (system : AccessSystem) (clientId : ClientId)

theorem checked_ok (body : Option (List String)) (aliases : List String)
    (passed : checked system clientId body = .ok aliases) : body = some aliases ∧ aliases ≠ [] := by
  obtain ⟨parsed, wellFormed, rest⟩ := except_bind_ok.mp passed
  obtain ⟨client, _, rest⟩ := except_bind_ok.mp rest
  obtain ⟨_, exist, same⟩ := except_bind_ok.mp rest
  cases same
  constructor
  · unfold parseBody at wellFormed
    split at wellFormed
    · cases wellFormed
    · split at wellFormed <;> cases wellFormed
      rfl
  · rintro rfl
    cases exist

theorem replace_cases (body : Option (List String)) (fails : ℕ → Bool) :
    (∃ error, replace localeCompare system clientId body fails = (.error error, system.access)) ∨
      ∃ aliases description, body = some aliases ∧ aliases ≠ [] ∧
        replace localeCompare system clientId body fails = (.ok description,
          deleteByClient system.access clientId ++
            aliases.map fun aliasKey => (clientId, aliasKey)) := by
  unfold replace
  cases passed : checked system clientId body with
  | error error => exact Or.inl ⟨_, rfl⟩
  | ok aliases =>
      obtain ⟨same, nonempty⟩ := checked_ok system clientId body aliases passed
      simp only
      rcases replaceForClient_cases system.access clientId fails aliases with
        ⟨error, refused⟩ | written
      · rw [refused]
        exact Or.inl ⟨_, rfl⟩
      · rw [written]
        exact Or.inr ⟨aliases, _, same, nonempty, rfl⟩

theorem clear_cases (fails : Bool) :
    (∃ error, clear localeCompare system clientId fails = (.error error, system.access)) ∨
      ∃ description, clear localeCompare system clientId fails =
        (.ok description, deleteByClient system.access clientId) := by
  unfold clear
  cases mustFindClient system.clients clientId with
  | error error => exact Or.inl ⟨_, rfl⟩
  | ok client =>
      cases fails with
      | true => exact Or.inl ⟨_, rfl⟩
      | false => exact Or.inr ⟨_, rfl⟩

end Writes

section Steps

variable (localeCompare : String → String → Bool) (observed : Observed)

theorem follows_iff :
    Follows localeCompare observed ↔
      ∀ clientId, getAccess observed.system.access (some clientId) = observed.last clientId := by
  constructor
  · exact fun follows => follows.effective
  · intro effective
    have asked : ∀ clientId aliasKey,
        isPermitted observed.system.access clientId aliasKey =
          (observed.last.of clientId).permits aliasKey := by
      intro clientId aliasKey
      rw [← permits_getAccess]
      cases clientId with
      | none => rfl
      | some clientId => rw [effective, Allowances.of]
    refine ⟨effective, ?_, ?_⟩
    · intro request
      rw [passesGate_iff, ← asked]
      rfl
    · intro createdAt clientId entries returns name
      rw [listed_iff localeCompare _ _ _ createdAt clientId entries returns name, asked]
      unfold Advertised
      exact and_left_comm

theorem getAccess_other (clientId other : ClientId) (rows more : AccessRows)
    (different : other ≠ clientId) (foreign : listByClient more other = []) :
    getAccess (deleteByClient rows clientId ++ more) (some other) = getAccess rows (some other) := by
  apply getAccess_same
  rw [listByClient_append, listByClient_deleteByClient rows clientId other different, foreign,
    List.append_nil]

theorem effective_replaced (clientId : ClientId) (aliases : List String) (nonempty : aliases ≠ [])
    (follows : Follows localeCompare observed) (other : ClientId) :
    getAccess (deleteByClient observed.system.access clientId ++
        aliases.map fun aliasKey => (clientId, aliasKey)) (some other) =
      Function.update observed.last clientId (.restricted aliases.toFinset) other := by
  by_cases same : other = clientId
  · subst same
    rw [Function.update_self, getAccess_replaced _ _ _ nonempty]
  · rw [Function.update_of_ne same, ← follows.effective other]
    exact getAccess_other clientId other _ _ same (listByClient_foreign clientId other aliases same)

theorem effective_cleared (clientId : ClientId) (follows : Follows localeCompare observed)
    (other : ClientId) :
    getAccess (deleteByClient observed.system.access clientId) (some other) =
      Function.update observed.last clientId .unrestricted other := by
  by_cases same : other = clientId
  · subst same
    rw [Function.update_self, getAccess_cleared]
  · rw [Function.update_of_ne same, ← follows.effective other]
    have kept := getAccess_other clientId other observed.system.access [] same rfl
    rwa [List.append_nil] at kept

theorem follows_observe (event : AccessEvent) (follows : Follows localeCompare observed) :
    Follows localeCompare (observe localeCompare observed event) := by
  rw [follows_iff]
  intro other
  cases event with
  | put clientId body fails =>
      change getAccess (replace localeCompare observed.system clientId body fails).2 (some other) =
        observed.last.follow (.put clientId body fails)
          (replace localeCompare observed.system clientId body fails).1.isOk other
      rcases replace_cases localeCompare observed.system clientId body fails with
        ⟨error, refused⟩ | ⟨aliases, description, rfl, nonempty, written⟩
      · rw [refused]
        cases body <;> exact follows.effective other
      · rw [written]
        exact effective_replaced localeCompare observed clientId aliases nonempty follows other
  | clear clientId fails =>
      change getAccess (clear localeCompare observed.system clientId fails).2 (some other) =
        observed.last.follow (.clear clientId fails)
          (clear localeCompare observed.system clientId fails).1.isOk other
      rcases clear_cases localeCompare observed.system clientId fails with
        ⟨error, refused⟩ | ⟨description, written⟩
      · rw [refused]
        exact follows.effective other
      · rw [written]
        exact effective_cleared localeCompare observed clientId follows other
  | chat event =>
      change getAccess (observed.system.gateway.step event).world.access (some other) = _
      rw [Gateway.step_access]
      exact follows.effective other
  | setClients clients => exact follows.effective other
  | setRegistry registry => exact follows.effective other

theorem putsSafely (event : AccessEvent) : PutsSafely localeCompare observed event := by
  rintro clientId body fails rfl
  change ((replace localeCompare observed.system clientId body fails).1.isOk = false →
      (replace localeCompare observed.system clientId body fails).2 = observed.system.access) ∧
    ∀ other aliases, getAccess observed.system.access (some other) = .restricted aliases →
      ∃ aliases', getAccess (replace localeCompare observed.system clientId body fails).2
        (some other) = .restricted aliases'
  rcases replace_cases localeCompare observed.system clientId body fails with
    ⟨error, refused⟩ | ⟨aliases, description, rfl, nonempty, written⟩
  · rw [refused]
    exact ⟨fun _ => rfl, fun other aliases restricted => ⟨aliases, restricted⟩⟩
  · rw [written]
    refine ⟨(fun refused => by cases refused), ?_⟩
    intro other before restricted
    by_cases same : other = clientId
    · subst same
      exact ⟨_, getAccess_replaced _ _ _ nonempty⟩
    · refine ⟨before, ?_⟩
      rw [← restricted]
      exact getAccess_other clientId other _ _ same
        (listByClient_foreign clientId other aliases same)

theorem boot_follows (gateway : Gateway) (clients : ClientTable) :
    Follows localeCompare (boot gateway clients) := by
  rw [follows_iff]
  intro clientId
  rfl

end Steps

/-- Along every run a client's access is the set of its last accepted PUT, or
free when there was none since the last accepted DELETE; the gate and the
listing go by it, and no PUT widens what it does not replace. -/
theorem allowlist_follows (localeCompare : String → String → Bool) (gateway : Gateway)
    (clients : ClientTable) (events : List AccessEvent) :
    Always (observe localeCompare) (Follows localeCompare) (boot gateway clients) events ∧
      Guarded (observe localeCompare) (PutsSafely localeCompare) (boot gateway clients) events := by
  constructor
  · exact always_of_invariant _ _
      (fun observed event follows => follows_observe localeCompare observed event follows) _ events
      (boot_follows localeCompare gateway clients)
  · exact guarded_of_invariant _ (fun _ => True) _ (fun _ _ _ => trivial)
      (fun observed event _ => putsSafely localeCompare observed event) _ events trivial

end LlmGateway.Admin.Allowlist
