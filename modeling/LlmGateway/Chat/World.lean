import LlmGateway.Chat.TeeStream
import LlmGateway.Lib.Effects
import LlmGateway.Observability.RequestLog
import LlmGateway.Quota.Service
import LlmGateway.Routing.Route

/-!
What a chat request can read and write: the clock, the allowlist, the registry,
the quota tables and the two logs. Beside these the world keeps what an
observer sees of a request: the counters the gate consulted, the calls of the
accounting, and the models whose provider was called.
-/

namespace LlmGateway.Chat

open Observability Providers Quota Routing

/-- What one of the three bookkeeping services throws, if it throws. -/
structure Faults where
  recordSuccess : Option Js.Thrown
  logRequest : Option Js.Thrown
  recordUsage : Option Js.Thrown

def Faults.none : Faults where
  recordSuccess := .none
  logRequest := .none
  recordUsage := .none

/-- The structured event `chat.request`; an omitted field is `none`. -/
structure RequestLogEvent where
  ts : ℤ
  model : String
  servedAlias : Option String
  quotaDivertedFrom : Option String
  resolvedProvider : Option String
  resolvedModel : Option String
  latencyMs : ℤ
  attempts : ℕ
  status : RequestLogStatus
  tokens : Option CompletionUsage
  error : Option String
  clientKey : Option ClientId
  deriving DecidableEq

/-- One call of `QuotaService.recordUsage`, whether or not it threw. -/
structure UsageCall where
  clientId : Option ClientId
  servedAlias : String
  tokens : Js.Number
  atMs : ℤ
  deriving DecidableEq

structure World where
  /-- The readings of `Date.now`, in the order they are taken. -/
  clock : ℕ → ℤ
  readings : ℕ
  /-- The rows of `client_alias_access`. -/
  access : List (ClientId × String)
  registry : ProviderRegistry
  environment : Environment
  quotas : QuotaStore
  requestLogs : List RequestLogRow
  events : List RequestLogEvent
  faults : Faults
  consulted : List UsageKey
  usageCalls : List UsageCall
  upstreamCalls : List ResolvedModel

inductive ChatError where
  | aliasNotPermitted (aliasKey : String)
  | quotaExhausted (detail : QuotaExhaustedDetail)
  | route (error : RouteError)
  /-- What a bookkeeping service threw. -/
  | fault (error : Js.Thrown)
  deriving DecidableEq

/-- The text of a token count; the decimals of a fraction are outside the model. -/
def countText (value : ℚ) : String :=
  if value.den = 1 then toString value.num else toString value.num ++ "/" ++ toString value.den

def routingFailedMessage (requestedModel : String) (attempts : List RouteAttempt) : String :=
  "All " ++ toString attempts.length ++ " provider(s) failed for model \"" ++ requestedModel ++ "\""

/-- The thrown value; every error of the gateway is an `Error`. -/
def ChatError.thrown : ChatError → Js.Thrown
  | .aliasNotPermitted aliasKey => .error "AliasNotPermittedError"
      ("Alias \"" ++ aliasKey ++ "\" is not permitted for this client")
  | .quotaExhausted detail => .error "QuotaExhaustedError"
      ("Quota exhausted for client " ++ detail.clientId.text ++ " on alias " ++ detail.aliasKey ++
        ": used " ++ countText detail.used ++ " of " ++ toString detail.limit ++ " tokens in " ++
        detail.periodKey)
  | .route (.resolve error) => .error error.name error.message
  | .route (.routingFailed requestedModel attempts) => .error "RoutingFailedError"
      (routingFailedMessage requestedModel attempts)
  | .fault error => error

abbrev Act := EStateM ChatError World

/-- `AliasAccessService.isPermitted(getAccess(clientId), aliasKey)`: a client
without rows is unrestricted, and its rows are exhaustive otherwise. -/
def isPermitted (access : List (ClientId × String)) (clientId : Option ClientId)
    (aliasKey : String) : Bool :=
  match clientId with
  | none => true
  | some clientId =>
      let rows := access.filter (·.1 = clientId)
      rows.isEmpty || rows.any (·.2 == aliasKey)

namespace World

def throwIf (fault : Option Js.Thrown) : Act Unit :=
  match fault with
  | some error => throw (.fault error)
  | none => pure ()

/-- `Date.now()`. -/
def now : Act ℤ := fun world =>
  .ok (world.clock world.readings) { world with readings := world.readings + 1 }

def nowSeconds : Act ℤ := do
  return (← now) / 1000

/-- `QuotaService.resolveTarget`, which reads its clock and the usage table only
for a pair that has a quota row. -/
def resolveTarget (clientId : Option ClientId) (requestedAlias : String) : Act String := do
  match clientId with
  | none => return requestedAlias
  | some client =>
      if ((← get).quotas.getQuota client requestedAlias).isNone then return requestedAlias
      else
        -- A reading of its own, after the one that dates the request.
        let nowMs ← now
        modify fun world =>
          { world with consulted := world.consulted ++ [(client, requestedAlias, periodKey nowMs)] }
        match (← get).quotas.resolveTarget nowMs clientId requestedAlias with
        | .ok target => return target
        | .error detail => throw (.quotaExhausted detail)

def recordUsage (call : UsageCall) : Act Unit := do
  modify fun world => { world with usageCalls := world.usageCalls ++ [call] }
  throwIf (← get).faults.recordUsage
  modify fun world =>
    { world with quotas :=
        world.quotas.recordUsage call.clientId call.servedAlias call.tokens call.atMs }

def append (row : RequestLogRow) : Act Unit :=
  modify fun world => { world with requestLogs := world.requestLogs ++ [row] }

def recordSuccess (args : RecordSuccessArgs) : Act Unit := do
  throwIf (← get).faults.recordSuccess
  append (successRow args)

def recordFailure (args : RecordFailureArgs) : Act Unit := append (failureRow args)

def recordAttemptFailure (args : RecordAttemptFailureArgs) : Act Unit :=
  append (attemptFailureRow args)

/-- `LlmLoggingService.logRequest`. It swallows what its logger throws; the
`JSON.stringify` of the event stands before that. -/
def logRequest (event : RequestLogEvent) : Act Unit := do
  throwIf (← get).faults.logRequest
  modify fun world => { world with events := world.events ++ [event] }

end World

end LlmGateway.Chat
