import LlmGateway.Admin.Quotas
import LlmGateway.Chat.Bookkeeping
import LlmGateway.Lib.Runs

/-!
A divert key outlives the alias it names. It is checked when the quota row is
written, the alias can be deleted later, and the gate then still answers with
the key, which the name resolution sends wherever it sends an unknown name.
-/

namespace LlmGateway.Chat

open Admin Effects Observability Providers Quota Routing Runs

structure Deployment where
  clients : List ClientId
  world : World

inductive AdminOp where
  | createAlias (body : CreateAliasBody)
  | deleteAlias (id : String)
  | upsertQuotas (clientId : ClientId) (quotas : List QuotaEntry)
  | deleteQuota (clientId : ClientId) (aliasKey : String)

namespace Deployment

def withRegistry (deployment : Deployment) :
    Except AdminError ProviderRegistry → Deployment
  | .ok registry => { deployment with world := { deployment.world with registry := registry } }
  | .error _ => deployment

def withQuotas (deployment : Deployment) : Except AdminError QuotaStore → Deployment
  | .ok quotas => { deployment with world := { deployment.world with quotas := quotas } }
  | .error _ => deployment

def administer (deployment : Deployment) : AdminOp → Deployment
  | .createAlias body => deployment.withRegistry (create deployment.world.registry body)
  | .deleteAlias id => deployment.withRegistry (remove deployment.world.registry id)
  | .upsertQuotas clientId quotas =>
      deployment.withQuotas (upsertQuotas deployment.clients deployment.world.registry
        deployment.world.quotas clientId quotas)
  | .deleteQuota clientId aliasKey =>
      deployment.withQuotas (deleteQuota deployment.clients deployment.world.quotas clientId
        aliasKey)

end Deployment

def World.healthy (world : World) : World := { world with faults := .none }

/-- The quota the gate reads is exhausted, and no registered alias is named by
its divert key. -/
def DivertVanished (world : World) (clientId : ClientId) (requested : String) : Prop :=
  ¬ world.quotas.BelowLimit (world.clock (world.readings + 1)) clientId requested ∧
    ∀ key, world.quotas.divertOf clientId requested = some key →
      ¬ world.registry.AliasRegistered key

/-- The request ends in `QuotaExhaustedError` and no provider is called. -/
def Refused (world : World) (request : Request) (walk : Walk CompletionResult) : Prop :=
  ∃ detail after, completions request walk world = .error (.quotaExhausted detail) after ∧
    after.upstreamCalls = world.upstreamCalls

def RefusesVanished (world : World) (request : Request) (walk : Walk CompletionResult) : Prop :=
  ∀ clientId, request.clientId = some clientId → world.permits request = true →
    DivertVanished world clientId request.body.model → Refused world request walk

def NoKeyVanished (world : World) (request : Request) : Prop :=
  ∀ clientId, request.clientId = some clientId → world.permits request = true →
    DivertVanished world clientId request.body.model →
      world.quotas.divertOf clientId request.body.model = none

section Refusal

variable (world : World) (request : Request) (walk : Walk CompletionResult)

theorem answer_not_exhausted (call : Call) (detail : QuotaExhaustedDetail) (after : World)
    (row : world.faults.recordSuccess = none) (event : world.faults.logRequest = none) :
    answer call walk world ≠ .error (.quotaExhausted detail) after := by
  intro refused
  cases routed : routedBy call walk with
  | error error =>
      obtain ⟨thrown, events, throws, same⟩ := answer_failed call walk world error routed
      rw [throws, (same event).1] at refused
      cases refused
  | ok r =>
      cases result : r.result with
      | stream source =>
          rw [answer_stream call walk r world source routed result] at refused
          cases refused
      | completion upstream =>
          obtain ⟨readings, events, answers⟩ :=
            answer_buffered call walk r world upstream routed result row event
          rw [answers] at refused
          cases refused

theorem refused_of_gate (detail : QuotaExhaustedDetail) (permitted : world.permits request = true)
    (refuses : world.gate request = .error detail) (event : world.faults.logRequest = none) :
    Refused world request walk := by
  obtain ⟨thrown, events, throws, same⟩ :=
    openCall_refused request world detail permitted refuses
  obtain ⟨readings, consulted, consult⟩ :=
    consult_frame world.opened request.clientId request.body.model
  rw [(same event).1, consult] at throws
  exact ⟨detail, _, bind_error _ _ _ _ _ throws, rfl⟩

theorem gate_serves_of_refused (target : String) (permitted : world.permits request = true)
    (serves : world.gate request = .ok target) (row : world.faults.recordSuccess = none)
    (event : world.faults.logRequest = none) : ¬ Refused world request walk := by
  rintro ⟨detail, after, refused, _⟩
  obtain ⟨readings, consulted, consult⟩ :=
    consult_frame world.opened request.clientId request.body.model
  rw [completions, bind_ok _ _ _ _ _ (openCall_served request world target permitted serves),
    consult] at refused
  exact answer_not_exhausted { world.opened with readings := readings, consulted := consulted } walk
    _ detail after row event refused

theorem refuses_vanished_iff :
    RefusesVanished world.healthy request walk ↔ NoKeyVanished world.healthy request := by
  refine forall_congr' fun clientId => forall_congr' fun client => forall_congr' fun permitted =>
    forall_congr' fun vanished => ?_
  constructor
  · intro refused
    -- The gate does not look at the registry, so any key it finds is served.
    cases names : world.healthy.quotas.divertOf clientId request.body.model with
    | none => rfl
    | some key =>
        have serves : world.healthy.gate request = .ok key := by
          rw [World.gate, client]
          exact QuotaStore.resolveTarget_divert _ _ clientId request.body.model key vanished.1 names
        exact absurd refused
          (gate_serves_of_refused world.healthy request walk key permitted serves rfl rfl)
  · intro alone
    obtain ⟨detail, refuses, _⟩ :=
      QuotaStore.resolveTarget_refuse world.healthy.quotas
        (world.healthy.clock (world.healthy.readings + 1)) clientId request.body.model
        vanished.1 alone
    exact refused_of_gate world.healthy request walk detail permitted
      (by rw [World.gate, client, refuses]) rfl

end Refusal

section Sequences

variable (deployment : Deployment) (op : AdminOp)

def DivertsRegistered (deployment : Deployment) : Prop :=
  ∀ clientId aliasKey key, deployment.world.quotas.divertOf clientId aliasKey = some key →
    deployment.world.registry.AliasRegistered key

def SparesDiverts (deployment : Deployment) : AdminOp → Prop
  | .deleteAlias id => ∀ clientId aliasKey,
      deployment.world.quotas.divertOf clientId aliasKey ≠ some id
  | _ => True

theorem divertsRegistered_withRegistry (answer : Except AdminError ProviderRegistry)
    (registered : DivertsRegistered deployment)
    (keeps : ∀ written, answer = .ok written → ∀ clientId aliasKey key,
      deployment.world.quotas.divertOf clientId aliasKey = some key →
        written.AliasRegistered key) : DivertsRegistered (deployment.withRegistry answer) := by
  cases answer with
  | error error => exact registered
  | ok written => exact keeps written rfl

theorem divertsRegistered_withQuotas (answer : Except AdminError QuotaStore)
    (registered : DivertsRegistered deployment)
    (keeps : ∀ written, answer = .ok written → ∀ clientId aliasKey key,
      written.divertOf clientId aliasKey = some key →
        deployment.world.registry.AliasRegistered key) :
    DivertsRegistered (deployment.withQuotas answer) := by
  cases answer with
  | error error => exact registered
  | ok written => exact keeps written rfl

theorem divertsRegistered_step (registered : DivertsRegistered deployment)
    (spares : SparesDiverts deployment op) : DivertsRegistered (deployment.administer op) := by
  cases op with
  | createAlias body =>
      refine divertsRegistered_withRegistry deployment _ registered ?_
      intro written created clientId aliasKey key names
      exact (create_registers _ written key body created).mpr
        (Or.inl (registered clientId aliasKey key names))
  | deleteAlias id =>
      refine divertsRegistered_withRegistry deployment _ registered ?_
      intro written removed clientId aliasKey key names
      -- The one operation that unregisters a name; the guard keeps it off the divert keys.
      refine (remove_registers _ written key id removed).mpr
        ⟨registered clientId aliasKey key names, ?_⟩
      rintro rfl
      exact spares clientId aliasKey names
  | upsertQuotas clientId quotas =>
      refine divertsRegistered_withQuotas deployment _ registered ?_
      intro written accepted other aliasKey key names
      rcases divertOf_upsertQuotas _ _ _ written clientId other aliasKey key quotas accepted
        names with before | named
      · exact registered other aliasKey key before
      · exact named
  | deleteQuota clientId deleted =>
      refine divertsRegistered_withQuotas deployment _ registered ?_
      intro written accepted other aliasKey key names
      exact registered other aliasKey key
        (divertOf_deleteQuota_ok _ _ written clientId other aliasKey key deleted accepted names)

theorem divertsRegistered_run (ops : List AdminOp) (registered : DivertsRegistered deployment)
    (spares : Guarded Deployment.administer SparesDiverts deployment ops) :
    DivertsRegistered (run Deployment.administer deployment ops) :=
  always_last Deployment.administer DivertsRegistered deployment ops
    (always_of_guarded Deployment.administer DivertsRegistered SparesDiverts
      divertsRegistered_step deployment ops registered spares)

/-- Such a run therefore refuses, as the row can only lack a key. -/
theorem spared_run_refuses (ops : List AdminOp) (registered : DivertsRegistered deployment)
    (spares : Guarded Deployment.administer SparesDiverts deployment ops) (request : Request)
    (walk : Walk CompletionResult) :
    RefusesVanished (run Deployment.administer deployment ops).world.healthy request walk := by
  refine (refuses_vanished_iff _ request walk).mpr fun clientId _ _ vanished => ?_
  cases names : (run Deployment.administer deployment ops).world.healthy.quotas.divertOf clientId
      request.body.model with
  | none => rfl
  | some key =>
      exact absurd (divertsRegistered_run deployment ops registered spares clientId _ key names)
        (vanished.2 key names)

end Sequences

/-- After any admin operations, the request with a vanished divert is refused
exactly when the row of its quota names no divert key at all. -/
theorem vanished_divert_refused_iff (deployment : Deployment) (ops : List AdminOp)
    (request : Request) (walk : Walk CompletionResult) :
    RefusesVanished (run Deployment.administer deployment ops).world.healthy request walk ↔
      NoKeyVanished (run Deployment.administer deployment ops).world.healthy request :=
  refuses_vanished_iff _ request walk

section Example

/-- `acme` has spent ten tokens on `codex` in January 1970. -/
def exampleDeployment : Deployment where
  clients := [QuotaStore.exampleClient]
  world := { exampleWorld with quotas := QuotaStore.unmeteredStore }

def divertThenDelete : List AdminOp :=
  [.upsertQuotas QuotaStore.exampleClient
    [{ aliasKey := "codex", monthlyTokenLimit := .finite 10, divertAliasKey := some "slave" }],
   .deleteAlias "slave"]

/-- The request for `codex` goes to the deleted `slave`, which the registry
resolves as `default`. -/
theorem deleted_divert_is_served :
    ¬ ∀ (deployment : Deployment) (ops : List AdminOp) (request : Request)
      (walk : Walk CompletionResult),
      RefusesVanished (run Deployment.administer deployment ops).world.healthy request walk := by
  intro claimed
  have alone := (refuses_vanished_iff _ exampleRequest
    (answering (.completion exampleCompletion))).mp
    (claimed exampleDeployment divertThenDelete exampleRequest
      (answering (.completion exampleCompletion)))
    QuotaStore.exampleClient rfl (by decide +kernel)
  have stored : (run Deployment.administer exampleDeployment
      divertThenDelete).world.healthy.quotas.divertOf QuotaStore.exampleClient "codex" =
        some "slave" := by decide +kernel
  have vanished := alone ⟨by decide +kernel, fun key names => by
    cases stored.symm.trans names
    decide +kernel⟩
  exact absurd (stored.symm.trans vanished) (by decide)

end Example

end LlmGateway.Chat
