import LlmGateway.Chat.TeeStream
import LlmGateway.Chat.World

/-!
`ChatService.completions`. A request is one `try` block with an await inside,
so it is split there: `openCall` runs up to the await of `route`, `answer`
from the settled route to the return, and both end in the same handler. What
is chained on the promise of a stream runs later still, in `settleStream`.
-/

namespace LlmGateway.Chat

open Effects Observability Providers Quota Routing

structure ChatBody where
  model : String
  messages : Option (List Js.Json)

structure Request where
  body : ChatBody
  clientId : Option ClientId

inductive CompletionResult where
  | completion (value : ChatCompletion)
  | stream (source : StreamSource)
  deriving DecidableEq

structure QuotaOutcome where
  servedAlias : String
  divertedFrom : Option String
  deriving DecidableEq, Repr

/-- What a call keeps across the await of `route`. -/
structure Call where
  request : Request
  requestedAt : ℤ
  quotaOutcome : QuotaOutcome
  chain : Except ResolveError (List ResolvedModel)

def Call.target (call : Call) : String := call.quotaOutcome.servedAlias

def Call.messages (call : Call) : List Js.Json := call.request.body.messages.getD []

/-- What the handlers of `logged` keep until the stream has ended. -/
structure Streamed where
  call : Call
  providerId : String
  resolvedModel : String
  attempts : ℕ
  source : StreamSource

inductive Response where
  | buffered (result : ChatCompletion)
  | streaming (streamed : Streamed)

def divertedFrom (target requested : String) : Option String :=
  if target = requested then none else some requested

section Bookkeeping

def successArgs (call : Call) (providerId resolvedModel : String) (attempts : ℕ)
    (tokens : Option CompletionUsage) (latencyMs : ℤ) : RecordSuccessArgs where
  requestedAt := call.requestedAt
  requestedModel := call.request.body.model
  servedAlias := some call.quotaOutcome.servedAlias
  resolvedProvider := providerId
  resolvedModel := some resolvedModel
  attempts := attempts
  latencyMs := latencyMs
  clientKey := call.request.clientId
  promptTokens := tokens.bind CompletionUsage.promptTokens
  completionTokens := tokens.bind CompletionUsage.completionTokens
  totalTokens := tokens.bind CompletionUsage.totalTokens

def successEvent (call : Call) (providerId resolvedModel : String) (attempts : ℕ)
    (tokens : Option CompletionUsage) (latencyMs : ℤ) : RequestLogEvent where
  ts := call.requestedAt
  model := call.request.body.model
  servedAlias := truthy (some call.quotaOutcome.servedAlias)
  quotaDivertedFrom := truthy call.quotaOutcome.divertedFrom
  resolvedProvider := some providerId
  resolvedModel := some resolvedModel
  latencyMs := latencyMs
  attempts := attempts
  status := .ok
  tokens := tokens
  error := none
  clientKey := call.request.clientId

def recordSuccess (call : Call) (providerId resolvedModel : String) (attempts : ℕ)
    (tokens : Option CompletionUsage) : Act Unit := do
  let latencyMs := (← World.nowSeconds) - call.requestedAt
  World.recordSuccess (successArgs call providerId resolvedModel attempts tokens latencyMs)
  World.logRequest (successEvent call providerId resolvedModel attempts tokens latencyMs)

def hitWire (attempts : List RouteAttempt) : Option RouteAttempt :=
  (attempts.find? fun attempt => attempt.failure.any fun failure => !failure.circuitOpen).or
    attempts.getLast?

def hitWireMessage (message : String) (attempt : Option RouteAttempt) : String :=
  match (attempt.bind RouteAttempt.failure).bind AttemptFailure.error with
  | some (.error name text) => name ++ ": " ++ text
  | some (.text text) => text
  | some (.other _) => message
  | none => message

def chooseStatusForFailure (attempts : List RouteAttempt) : RequestLogStatus :=
  if attempts.all fun attempt => attempt.failure.any AttemptFailure.circuitOpen then .circuitOpen
  else .error

/-- `err instanceof Error ? err.message : String(err)`. -/
def plainMessage : Js.Thrown → String
  | .error _ message => message
  | .text value => value
  | .other printed => printed

/-- A `RoutingFailedError` brings the model name and the attempts of its row;
any other error is logged under the name the client asked for. -/
def failureArgs (err : ChatError) (request : Request) (requestedAt : ℤ)
    (quota : Option QuotaOutcome) (latencyMs : ℤ) : RecordFailureArgs :=
  match err with
  | .route (.routingFailed requestedModel attempts) =>
      { requestedAt, requestedModel, latencyMs
        servedAlias := quota.map QuotaOutcome.servedAlias
        attempts := attempts.length
        error := err.thrown
        clientKey := request.clientId }
  | _ =>
      { requestedAt, latencyMs
        requestedModel := request.body.model
        servedAlias := quota.map QuotaOutcome.servedAlias
        attempts := 0
        error := err.thrown
        clientKey := request.clientId }

def failureEvent (err : ChatError) (request : Request) (requestedAt : ℤ)
    (quota : Option QuotaOutcome) (latencyMs : ℤ) : RequestLogEvent :=
  let attributed : RequestLogEvent :=
    { ts := requestedAt
      model := request.body.model
      servedAlias := truthy (quota.map QuotaOutcome.servedAlias)
      quotaDivertedFrom := truthy (quota.bind QuotaOutcome.divertedFrom)
      resolvedProvider := none
      resolvedModel := none
      latencyMs
      attempts := 0
      status := .error
      tokens := none
      error := truthy (some (plainMessage err.thrown))
      clientKey := request.clientId }
  match err with
  | .route (.routingFailed requestedModel attempts) =>
      { attributed with
        model := requestedModel
        resolvedProvider := (hitWire attempts).map RouteAttempt.providerId
        resolvedModel := (hitWire attempts).bind RouteAttempt.upstreamModel
        attempts := attempts.length
        status := chooseStatusForFailure attempts
        error := truthy (some (hitWireMessage (plainMessage err.thrown) (hitWire attempts))) }
  | _ => attributed

def recordFailure (err : ChatError) (request : Request) (requestedAt : ℤ)
    (quota : Option QuotaOutcome) : Act Unit := do
  let latencyMs := (← World.nowSeconds) - requestedAt
  World.recordFailure (failureArgs err request requestedAt quota latencyMs)
  World.logRequest (failureEvent err request requestedAt quota latencyMs)

/-- The row of one failed attempt; it does not know the served alias. -/
def failedAttemptArgs (call : Call) (totalAttempts : ℕ) (attempt : RouteAttempt)
    (failure : AttemptFailure) : RecordAttemptFailureArgs where
  requestedAt := call.requestedAt
  requestedModel := call.request.body.model
  resolvedProvider := attempt.providerId
  resolvedModel := attempt.upstreamModel
  durationMs := attempt.durationMs
  error := (failure.error.filter Js.Thrown.truthy).map Js.Thrown.describe
  circuitOpen := failure.circuitOpen
  clientKey := call.request.clientId
  totalAttempts := totalAttempts

def recordFailedAttempts (call : Call) (totalAttempts : ℕ) : List RouteAttempt → Act Unit
  | [] => pure ()
  | attempt :: rest =>
      match attempt.failure with
      | none => recordFailedAttempts call totalAttempts rest
      | some failure => do
          World.recordAttemptFailure (failedAttemptArgs call totalAttempts attempt failure)
          recordFailedAttempts call totalAttempts rest

/-- A throw of the accounting is swallowed. -/
def accountUsage (call : Call) (tokens : Option ℚ) : Act Unit :=
  tryCatch
    (World.recordUsage
      { clientId := call.request.clientId
        servedAlias := call.target
        tokens := .finite (tokens.getD 0)
        atMs := call.requestedAt * 1000 })
    fun _ => pure ()

end Bookkeeping

/-- The `catch` of `completions`: record the failure, then rethrow. -/
def catching {Value : Type} (request : Request) (requestedAt : ℤ) (quota : Option QuotaOutcome)
    (body : Act Value) : Act Value :=
  tryCatch body fun err => do
    recordFailure err request requestedAt quota
    throw err

def assertAliasPermitted (clientId : Option ClientId) (requestedAlias : String) : Act Unit := do
  if isPermitted (← get).access clientId requestedAlias then pure ()
  else throw (.aliasNotPermitted requestedAlias)

/-- From the start of `completions` to the await: the allowlist, the quota gate
and the synchronous part of `route`, which resolves the chain. -/
def openCall (request : Request) : Act Call := do
  let requestedAt ← World.nowSeconds
  catching request requestedAt none do
    -- The allowlist is asked about the requested alias, never about the target.
    assertAliasPermitted request.clientId request.body.model
    let target ← World.resolveTarget request.clientId request.body.model
    let world ← get
    return { request, requestedAt
             quotaOutcome :=
               { servedAlias := target, divertedFrom := divertedFrom target request.body.model }
             chain := world.registry.resolveChain world.environment target }

/-- `r.attempts.at(-1)?.upstreamModel ?? 'unknown'`. -/
def resolvedModelOf (attempts : List RouteAttempt) : String :=
  (attempts.getLast?.bind RouteAttempt.upstreamModel).getD "unknown"

def finish (call : Call) (r : RouteResult CompletionResult) : Act Response := do
  recordFailedAttempts call r.attempts.length r.attempts
  match r.result with
  | .completion result =>
      let tokens := extractTokens result
      recordSuccess call r.providerId (resolvedModelOf r.attempts) r.attempts.length tokens
      accountUsage call (tokens.bind CompletionUsage.totalTokens)
      return .buffered result
  | .stream source =>
      return .streaming
        { call, source
          providerId := r.providerId
          resolvedModel := resolvedModelOf r.attempts
          attempts := r.attempts.length }

/-- From the await of `route` to the end of `completions`. -/
def answer (call : Call) (walk : Walk CompletionResult) : Act Response :=
  catching call.request call.requestedAt (some call.quotaOutcome) do
    let routed := route walk call.target call.chain
    modify fun world => { world with upstreamCalls := world.upstreamCalls ++ routed.2 }
    match routed.1 with
    | .error error => throw (.route error)
    | .ok r => finish call r

def promptEstimate (call : Call) : Option ℚ :=
  some ((estimateTokens [] call.messages).promptTokens : ℚ)

/-- The handlers of `logged` and the tail behind them. `accounted` is set by
the last statement of a handler, so whenever the tail runs it is still unset. -/
def settleStream (streamed : Streamed)
    (logged : Except Js.Thrown (List ChatCompletionChunk)) : Act Unit :=
  tryCatch
    (match logged with
      | .ok chunks => do
          let tokens := extractStreamTokens chunks streamed.call.messages
          recordSuccess streamed.call streamed.providerId streamed.resolvedModel streamed.attempts
            (some tokens)
          accountUsage streamed.call tokens.totalTokens
      | .error _ => do
          recordSuccess streamed.call streamed.providerId streamed.resolvedModel streamed.attempts
            none
          accountUsage streamed.call (promptEstimate streamed.call))
    fun _ => accountUsage streamed.call (promptEstimate streamed.call)

/-- One call of `completions` with nothing else in between. -/
def completions (request : Request) (walk : Walk CompletionResult) : Act Response := do
  let call ← openCall request
  answer call walk

end LlmGateway.Chat
