import LlmGateway.Chat.Completions

/-!
What each part of a chat request does to the world, as one equation for each
way it can go. Everything later is proved from these equations, not by running
the programs again.
-/

namespace LlmGateway.Chat

open Effects Observability Providers Quota Routing

section Logging

variable (call : Call) (providerId resolvedModel : String) (attempts : ℕ)
  (tokens : Option CompletionUsage) (err : ChatError) (request : Request) (requestedAt : ℤ)
  (quota : Option QuotaOutcome) (world : World)

def World.latency (world : World) (requestedAt : ℤ) : ℤ :=
  world.clock world.readings / 1000 - requestedAt

theorem recordSuccess_ok (row : world.faults.recordSuccess = none)
    (event : world.faults.logRequest = none) :
    recordSuccess call providerId resolvedModel attempts tokens world = .ok () { world with
      readings := world.readings + 1
      requestLogs := world.requestLogs ++ [successRow (successArgs call providerId resolvedModel
        attempts tokens (world.latency call.requestedAt))]
      events := world.events ++ [successEvent call providerId resolvedModel attempts tokens
        (world.latency call.requestedAt)] } := by
  obtain ⟨_, _, _, _, _, _, _, _, ⟨_, _, _⟩, _, _, _⟩ := world
  cases row
  cases event
  rfl

theorem recordSuccess_row_throws (error : Js.Thrown)
    (row : world.faults.recordSuccess = some error) :
    recordSuccess call providerId resolvedModel attempts tokens world =
      .error (.fault error) { world with readings := world.readings + 1 } := by
  obtain ⟨_, _, _, _, _, _, _, _, ⟨_, _, _⟩, _, _, _⟩ := world
  cases row
  rfl

theorem recordSuccess_event_throws (error : Js.Thrown)
    (row : world.faults.recordSuccess = none) (event : world.faults.logRequest = some error) :
    recordSuccess call providerId resolvedModel attempts tokens world = .error (.fault error)
      { world with
        readings := world.readings + 1
        requestLogs := world.requestLogs ++ [successRow (successArgs call providerId resolvedModel
          attempts tokens (world.latency call.requestedAt))] } := by
  obtain ⟨_, _, _, _, _, _, _, _, ⟨_, _, _⟩, _, _, _⟩ := world
  cases row
  cases event
  rfl

theorem recordSuccess_faulty
    (faulty : world.faults.recordSuccess ≠ none ∨ world.faults.logRequest ≠ none) :
    ∃ error written,
      recordSuccess call providerId resolvedModel attempts tokens world = .error (.fault error)
        { world with
          readings := world.readings + 1
          requestLogs := world.requestLogs ++ written } ∧
      ∀ row ∈ written, row = successRow (successArgs call providerId resolvedModel attempts tokens
        (world.latency call.requestedAt)) := by
  cases row : world.faults.recordSuccess with
  | some error =>
      refine ⟨error, [], ?_, fun _ member => absurd member List.not_mem_nil⟩
      rw [recordSuccess_row_throws _ _ _ _ _ world error row, List.append_nil]
  | none =>
      cases event : world.faults.logRequest with
      | none => exact absurd event (faulty.resolve_left (fun some => some row))
      | some error =>
          exact ⟨error, _, recordSuccess_event_throws _ _ _ _ _ world error row event,
            fun _ member => List.mem_singleton.mp member⟩

def World.withFailure (world : World) (err : ChatError) (request : Request) (requestedAt : ℤ)
    (quota : Option QuotaOutcome) : World :=
  { world with
    readings := world.readings + 1
    requestLogs := world.requestLogs ++
      [failureRow (failureArgs err request requestedAt quota (world.latency requestedAt))] }

def World.failureEvents (world : World) (err : ChatError) (request : Request) (requestedAt : ℤ)
    (quota : Option QuotaOutcome) : List RequestLogEvent :=
  world.events ++ [failureEvent err request requestedAt quota (world.latency requestedAt)]

/-- The handler of `completions` always throws; only the event can be missing. -/
theorem handler_throws (Value : Type) :
    ∃ thrown events,
      (do
        recordFailure err request requestedAt quota
        throw err : Act Value) world =
        .error thrown { world.withFailure err request requestedAt quota with events := events } ∧
      (world.faults.logRequest = none →
        thrown = err ∧ events = world.failureEvents err request requestedAt quota) := by
  obtain ⟨_, _, _, _, _, _, _, _, ⟨_, event, _⟩, _, _, _⟩ := world
  cases event with
  | none => exact ⟨err, _, rfl, fun _ => ⟨rfl, rfl⟩⟩
  | some error => exact ⟨.fault error, _, rfl, fun absent => by cases absent⟩

theorem catching_ok {Value : Type} (body : Act Value) (value : Value) (after : World)
    (returns : body world = .ok value after) :
    catching request requestedAt quota body world = .ok value after :=
  tryCatch_ok body _ world after value returns

theorem catching_error {Value : Type} (body : Act Value) (after : World)
    (throws : body world = .error err after) :
    ∃ thrown events,
      catching request requestedAt quota body world = .error thrown
        { after.withFailure err request requestedAt quota with events := events } ∧
      (after.faults.logRequest = none →
        thrown = err ∧ events = after.failureEvents err request requestedAt quota) := by
  obtain ⟨thrown, events, handled, same⟩ :=
    handler_throws err request requestedAt quota after Value
  exact ⟨thrown, events, (tryCatch_error body _ world after err throws).trans handled, same⟩

def attemptRows (call : Call) (totalAttempts : ℕ) (attempts : List RouteAttempt) :
    List RequestLogRow :=
  attempts.filterMap fun attempt => attempt.failure.map fun failure =>
    attemptFailureRow (failedAttemptArgs call totalAttempts attempt failure)

theorem recordFailedAttempts_eq (totalAttempts : ℕ) (tried : List RouteAttempt) :
    recordFailedAttempts call totalAttempts tried world = .ok () { world with
      requestLogs := world.requestLogs ++ attemptRows call totalAttempts tried } := by
  induction tried generalizing world with
  | nil => simp [recordFailedAttempts, attemptRows, pure, EStateM.pure]
  | cons attempt rest ih =>
      unfold recordFailedAttempts
      cases failed : attempt.failure with
      | none =>
          simp only
          rw [ih]
          simp [attemptRows, failed]
      | some failure =>
          simp only [World.recordAttemptFailure, World.append]
          rw [modify_bind, ih]
          simp [attemptRows, failed]

/-- The call of `recordUsage` that `accountUsage` makes. -/
def usageCall (call : Call) (tokens : Option ℚ) : UsageCall where
  clientId := call.request.clientId
  servedAlias := call.target
  tokens := .finite (tokens.getD 0)
  atMs := call.requestedAt * 1000

/-- `accountUsage` always returns, and it makes its call whatever happens to it. -/
theorem accountUsage_eq (total : Option ℚ) :
    accountUsage call total world = .ok () { world with
      usageCalls := world.usageCalls ++ [usageCall call total]
      quotas := if world.faults.recordUsage.isSome then world.quotas
        else world.quotas.recordUsage call.request.clientId call.target (.finite (total.getD 0))
          (call.requestedAt * 1000) } := by
  obtain ⟨_, _, _, _, _, _, _, _, ⟨_, _, accounting⟩, _, _, _⟩ := world
  cases accounting <;> rfl

end Logging

section Opening

variable (request : Request) (world : World)

/-- The counter the gate reads, if the pair has a quota row, and the reading
of the clock it takes for it. -/
def World.consult (world : World) (clientId : Option ClientId) (requestedAlias : String) : World :=
  match clientId with
  | none => world
  | some client =>
      if (world.quotas.getQuota client requestedAlias).isNone then world
      else { world with
        readings := world.readings + 1
        consulted := world.consulted ++
          [(client, requestedAlias, periodKey (world.clock world.readings))] }

theorem resolveTarget_eq (clientId : Option ClientId) (requestedAlias : String) :
    World.resolveTarget clientId requestedAlias world =
      match world.quotas.resolveTarget (world.clock world.readings) clientId requestedAlias with
      | .ok target => .ok target (world.consult clientId requestedAlias)
      | .error detail => .error (.quotaExhausted detail) (world.consult clientId requestedAlias) := by
  cases clientId with
  | none => rfl
  | some client =>
      cases found : world.quotas.getQuota client requestedAlias with
      | none =>
          -- Without a quota row the gate returns before it reads the clock.
          unfold World.resolveTarget World.consult QuotaStore.resolveTarget
          simp only [get_bind, found, Option.isNone_none, ↓reduceIte]
          rfl
      | some quota =>
          unfold World.resolveTarget World.consult
          simp only [get_bind, found, Option.isNone_some, Bool.false_eq_true, ↓reduceIte]
          rw [bind_ok World.now _ world _ _ rfl, modify_bind, get_bind]
          split <;> rename_i answer <;> rw [answer] <;> rfl

/-- The world in which `openCall` takes its decisions. -/
def World.opened (world : World) : World := { world with readings := world.readings + 1 }

def World.requestedAt (world : World) : ℤ := world.clock world.readings / 1000

def World.callFor (world : World) (request : Request) (target : String) : Call where
  request := request
  requestedAt := world.requestedAt
  quotaOutcome :=
    { servedAlias := target, divertedFrom := divertedFrom target request.body.model }
  chain := world.registry.resolveChain world.environment target

/-- The gate's decision on a request that starts now: its clock reading is the
one after the reading of `requestedAt`. -/
def World.gate (world : World) (request : Request) : Except QuotaExhaustedDetail String :=
  world.quotas.resolveTarget (world.clock (world.readings + 1)) request.clientId
    request.body.model

def World.permits (world : World) (request : Request) : Bool :=
  isPermitted world.access request.clientId request.body.model

theorem assert_permitted (permitted : world.permits request = true) :
    assertAliasPermitted request.clientId request.body.model world.opened =
      .ok () world.opened := by
  unfold assertAliasPermitted
  rw [get_bind]
  change (if world.permits request = true then _ else _ : Act Unit) world.opened = _
  rw [if_pos permitted]
  rfl

theorem assert_forbidden (forbidden : world.permits request = false) :
    assertAliasPermitted request.clientId request.body.model world.opened =
      .error (.aliasNotPermitted request.body.model) world.opened := by
  unfold assertAliasPermitted
  rw [get_bind]
  change (if world.permits request = true then _ else _ : Act Unit) world.opened = _
  rw [if_neg (by rw [forbidden]; decide)]
  rfl

theorem consult_frame (clientId : Option ClientId) (requestedAlias : String) :
    ∃ readings consulted, world.consult clientId requestedAlias =
      { world with readings := readings, consulted := consulted } := by
  unfold World.consult
  split
  · exact ⟨world.readings, world.consulted, rfl⟩
  · split
    · exact ⟨world.readings, world.consulted, rfl⟩
    · exact ⟨_, _, rfl⟩

theorem openCall_served (target : String) (permitted : world.permits request = true)
    (served : world.gate request = .ok target) :
    openCall request world = .ok (world.callFor request target)
      (world.opened.consult request.clientId request.body.model) := by
  unfold openCall
  rw [bind_ok _ _ world world.opened world.requestedAt rfl]
  apply catching_ok
  have resolved : World.resolveTarget request.clientId request.body.model world.opened =
      .ok target (world.opened.consult request.clientId request.body.model) := by
    rw [resolveTarget_eq]
    change (match world.gate request with | .ok _ => _ | .error _ => _) = _
    rw [served]
  rw [bind_ok _ _ _ _ _ (assert_permitted request world permitted),
    bind_ok _ _ _ _ _ resolved, get_bind]
  obtain ⟨readings, consulted, same⟩ :=
    consult_frame world.opened request.clientId request.body.model
  rw [same]
  rfl

theorem openCall_forbidden (forbidden : world.permits request = false) :
    ∃ thrown events,
      openCall request world = .error thrown
        { world.opened.withFailure (.aliasNotPermitted request.body.model) request
            world.requestedAt none with events := events } ∧
      (world.faults.logRequest = none →
        thrown = .aliasNotPermitted request.body.model ∧
        events = world.opened.failureEvents (.aliasNotPermitted request.body.model) request
          world.requestedAt none) := by
  unfold openCall
  rw [bind_ok _ _ world world.opened world.requestedAt rfl]
  exact catching_error _ _ _ _ world.opened _ world.opened
    (bind_error _ _ _ _ _ (assert_forbidden request world forbidden))

theorem openCall_refused (detail : QuotaExhaustedDetail) (permitted : world.permits request = true)
    (refused : world.gate request = .error detail) :
    ∃ thrown events,
      openCall request world = .error thrown
        { (world.opened.consult request.clientId request.body.model).withFailure
            (.quotaExhausted detail) request world.requestedAt none with events := events } ∧
      (world.faults.logRequest = none →
        thrown = .quotaExhausted detail ∧
        events = (world.opened.consult request.clientId request.body.model).failureEvents
          (.quotaExhausted detail) request world.requestedAt none) := by
  have faults : (world.opened.consult request.clientId request.body.model).faults =
      world.faults := by
    obtain ⟨readings, consulted, same⟩ :=
      consult_frame world.opened request.clientId request.body.model
    rw [same]
    rfl
  have resolved : World.resolveTarget request.clientId request.body.model world.opened =
      .error (.quotaExhausted detail)
        (world.opened.consult request.clientId request.body.model) := by
    rw [resolveTarget_eq]
    change (match world.gate request with | .ok _ => _ | .error _ => _) = _
    rw [refused]
  unfold openCall
  rw [bind_ok _ _ world world.opened world.requestedAt rfl, ← faults]
  refine catching_error _ _ _ _ world.opened _ _ ?_
  rw [bind_ok _ _ _ _ _ (assert_permitted request world permitted)]
  exact bind_error _ _ _ _ _ resolved

theorem openCall_cases :
    (world.permits request = false ∧ ∃ thrown events,
      openCall request world = .error thrown
        { world.opened.withFailure (.aliasNotPermitted request.body.model) request
            world.requestedAt none with events := events }) ∨
    (∃ detail, world.permits request = true ∧ world.gate request = .error detail ∧
      ∃ thrown events, openCall request world = .error thrown
        { (world.opened.consult request.clientId request.body.model).withFailure
            (.quotaExhausted detail) request world.requestedAt none with events := events }) ∨
    (∃ target, world.permits request = true ∧ world.gate request = .ok target ∧
      openCall request world = .ok (world.callFor request target)
        (world.opened.consult request.clientId request.body.model)) := by
  cases permitted : world.permits request with
  | false =>
      obtain ⟨thrown, events, throws, _⟩ := openCall_forbidden request world permitted
      exact Or.inl ⟨rfl, thrown, events, throws⟩
  | true =>
      cases decided : world.gate request with
      | error detail =>
          obtain ⟨thrown, events, throws, _⟩ :=
            openCall_refused request world detail permitted decided
          exact Or.inr (Or.inl ⟨detail, rfl, rfl, thrown, events, throws⟩)
      | ok target =>
          exact Or.inr (Or.inr ⟨target, rfl, rfl,
            openCall_served request world target permitted decided⟩)

end Opening

section Answering

variable (call : Call) (walk : Walk CompletionResult) (r : RouteResult CompletionResult)
  (world : World)

def routedBy (call : Call) (walk : Walk CompletionResult) :
    Except RouteError (RouteResult CompletionResult) :=
  (route walk call.target call.chain).1

def World.afterRoute (world : World) (call : Call) (walk : Walk CompletionResult) : World :=
  { world with
    upstreamCalls := world.upstreamCalls ++ (route walk call.target call.chain).2 }

def World.withAttempts (world : World) (call : Call) (r : RouteResult CompletionResult) : World :=
  { world with
    requestLogs := world.requestLogs ++ attemptRows call r.attempts.length r.attempts }

theorem recordFailedAttempts_all :
    recordFailedAttempts call r.attempts.length r.attempts world =
      .ok () (world.withAttempts call r) :=
  recordFailedAttempts_eq call world r.attempts.length r.attempts

def World.successRow (world : World) (call : Call) (providerId resolvedModel : String)
    (attempts : ℕ) (tokens : Option CompletionUsage) : RequestLogRow :=
  Observability.successRow (successArgs call providerId resolvedModel attempts tokens
    (world.latency call.requestedAt))

def streamedOf (call : Call) (r : RouteResult CompletionResult) (source : StreamSource) :
    Streamed where
  call := call
  providerId := r.providerId
  resolvedModel := resolvedModelOf r.attempts
  attempts := r.attempts.length
  source := source

theorem answer_failed (error : RouteError) (fails : routedBy call walk = .error error) :
    ∃ thrown events,
      answer call walk world = .error thrown
        { (world.afterRoute call walk).withFailure (.route error) call.request call.requestedAt
            (some call.quotaOutcome) with events := events } ∧
      (world.faults.logRequest = none →
        thrown = .route error ∧
        events = (world.afterRoute call walk).failureEvents (.route error) call.request
          call.requestedAt (some call.quotaOutcome)) := by
  unfold answer
  refine catching_error _ _ _ _ world _ (world.afterRoute call walk) ?_
  rw [modify_bind]
  have settled : (route walk call.target call.chain).1 = .error error := fails
  simp only [settled]
  rfl

theorem answer_routed (routed : routedBy call walk = .ok r) :
    answer call walk world =
      catching call.request call.requestedAt (some call.quotaOutcome) (finish call r)
        (world.afterRoute call walk) := by
  unfold answer
  apply tryCatch_same
  rw [modify_bind]
  have settled : (route walk call.target call.chain).1 = .ok r := routed
  simp only [settled]
  rfl

theorem answer_stream (source : StreamSource) (routed : routedBy call walk = .ok r)
    (streams : r.result = .stream source) :
    answer call walk world = .ok (.streaming (streamedOf call r source))
      ((world.afterRoute call walk).withAttempts call r) := by
  rw [answer_routed call walk r world routed]
  apply catching_ok
  unfold finish
  rw [bind_ok _ _ _ _ _ (recordFailedAttempts_all call r _), streams]
  rfl

theorem answer_buffered (result : ChatCompletion) (routed : routedBy call walk = .ok r)
    (buffers : r.result = .completion result) (row : world.faults.recordSuccess = none)
    (event : world.faults.logRequest = none) :
    ∃ readings events,
      answer call walk world = .ok (.buffered result)
        { (world.afterRoute call walk).withAttempts call r with
          readings := readings
          events := events
          requestLogs := ((world.afterRoute call walk).withAttempts call r).requestLogs ++
            [world.successRow call r.providerId (resolvedModelOf r.attempts) r.attempts.length
              result.usage]
          usageCalls := world.usageCalls ++
            [usageCall call (result.usage.bind CompletionUsage.totalTokens)]
          quotas := if world.faults.recordUsage.isSome then world.quotas
            else world.quotas.recordUsage call.request.clientId call.target
              (.finite ((result.usage.bind CompletionUsage.totalTokens).getD 0))
              (call.requestedAt * 1000) } := by
  refine ⟨world.readings + 1, world.events ++ [successEvent call r.providerId
    (resolvedModelOf r.attempts) r.attempts.length result.usage
    (world.latency call.requestedAt)], ?_⟩
  rw [answer_routed call walk r world routed]
  apply catching_ok
  unfold finish
  rw [bind_ok _ _ _ _ _ (recordFailedAttempts_all call r _), buffers]
  simp only [extractTokens]
  rw [bind_ok _ _ _ _ _ (recordSuccess_ok call _ _ _ _
    ((world.afterRoute call walk).withAttempts call r) row event),
    bind_ok _ _ _ _ _ (accountUsage_eq call _ _)]
  rfl

/-- A buffered result whose bookkeeping throws is lost: the failure is
rethrown, and the accounting behind it never runs. -/
theorem answer_buffered_throws (result : ChatCompletion) (routed : routedBy call walk = .ok r)
    (buffers : r.result = .completion result)
    (faulty : world.faults.recordSuccess ≠ none ∨ world.faults.logRequest ≠ none) :
    ∃ thrown after written error,
      answer call walk world = .error thrown after ∧
      after.usageCalls = world.usageCalls ∧
      after.requestLogs = ((world.afterRoute call walk).withAttempts call r).requestLogs ++ written ∧
      ∀ row ∈ written,
        (∃ latencyMs, row = Observability.successRow (successArgs call r.providerId
          (resolvedModelOf r.attempts) r.attempts.length result.usage latencyMs)) ∨
        (∃ latencyMs, row = failureRow (failureArgs (.fault error) call.request call.requestedAt
          (some call.quotaOutcome) latencyMs)) := by
  have finished : ∀ error after,
      recordSuccess call r.providerId (resolvedModelOf r.attempts) r.attempts.length result.usage
        ((world.afterRoute call walk).withAttempts call r) = .error error after →
      finish call r (world.afterRoute call walk) = .error error after := by
    intro error after throws
    unfold finish
    rw [bind_ok _ _ _ _ _ (recordFailedAttempts_all call r _), buffers]
    exact bind_error _ _ _ _ _ throws
  -- The handler adds a row of its own to what the failed write left.
  obtain ⟨error, written, throws, left⟩ := recordSuccess_faulty call r.providerId
    (resolvedModelOf r.attempts) r.attempts.length result.usage
    ((world.afterRoute call walk).withAttempts call r) faulty
  obtain ⟨thrown, events, handled, _⟩ := catching_error _ call.request call.requestedAt
    (some call.quotaOutcome) (world.afterRoute call walk) _ _ (finished _ _ throws)
  rw [answer_routed call walk r world routed]
  refine ⟨thrown, _, _, error, handled, rfl, List.append_assoc _ _ _, ?_⟩
  intro row member
  rcases List.mem_append.mp member with first | second
  · exact Or.inl ⟨_, left row first⟩
  · exact Or.inr ⟨_, List.mem_singleton.mp second⟩

end Answering

section Settling

variable (streamed : Streamed) (logged : Except Js.Thrown (List ChatCompletionChunk))
  (world : World)

def loggedTokens (streamed : Streamed) :
    Except Js.Thrown (List ChatCompletionChunk) → Option CompletionUsage
  | .ok chunks => some (extractStreamTokens chunks streamed.call.messages)
  | .error _ => none

def chargedTokens (streamed : Streamed) :
    Except Js.Thrown (List ChatCompletionChunk) → Option ℚ
  | .ok chunks => (extractStreamTokens chunks streamed.call.messages).totalTokens
  | .error _ => promptEstimate streamed.call

theorem settleStream_ok (row : world.faults.recordSuccess = none)
    (event : world.faults.logRequest = none) :
    ∃ readings events,
      settleStream streamed logged world = .ok () { world with
        readings := readings
        events := events
        requestLogs := world.requestLogs ++
          [world.successRow streamed.call streamed.providerId streamed.resolvedModel
            streamed.attempts (loggedTokens streamed logged)]
        usageCalls := world.usageCalls ++ [usageCall streamed.call (chargedTokens streamed logged)]
        quotas := if world.faults.recordUsage.isSome then world.quotas
          else world.quotas.recordUsage streamed.call.request.clientId streamed.call.target
            (.finite ((chargedTokens streamed logged).getD 0))
            (streamed.call.requestedAt * 1000) } := by
  refine ⟨world.readings + 1, world.events ++ [successEvent streamed.call streamed.providerId
    streamed.resolvedModel streamed.attempts (loggedTokens streamed logged)
    (world.latency streamed.call.requestedAt)], ?_⟩
  unfold settleStream
  apply tryCatch_ok
  cases logged with
  | ok chunks =>
      simp only
      rw [bind_ok _ _ _ _ _ (recordSuccess_ok _ _ _ _ _ world row event), accountUsage_eq]
      rfl
  | error error =>
      simp only
      rw [bind_ok _ _ _ _ _ (recordSuccess_ok _ _ _ _ _ world row event), accountUsage_eq]
      rfl

/-- When a handler throws, the tail charges the prompt estimate instead. -/
theorem settleStream_tail
    (faulty : world.faults.recordSuccess ≠ none ∨ world.faults.logRequest ≠ none) :
    ∃ after written,
      settleStream streamed logged world = .ok () after ∧
      after.usageCalls = world.usageCalls ++
        [usageCall streamed.call (promptEstimate streamed.call)] ∧
      after.requestLogs = world.requestLogs ++ written ∧
      ∀ row ∈ written, ∃ latencyMs, row = Observability.successRow (successArgs streamed.call
        streamed.providerId streamed.resolvedModel streamed.attempts
        (loggedTokens streamed logged) latencyMs) := by
  have tailed : ∀ error between,
      recordSuccess streamed.call streamed.providerId streamed.resolvedModel streamed.attempts
        (loggedTokens streamed logged) world = .error error between →
      settleStream streamed logged world =
        accountUsage streamed.call (promptEstimate streamed.call) between := by
    intro error between throws
    unfold settleStream
    cases logged with
    | ok chunks => exact tryCatch_error _ _ _ _ error (bind_error _ _ _ _ _ throws)
    | error rejected => exact tryCatch_error _ _ _ _ error (bind_error _ _ _ _ _ throws)
  -- The handler throws before its own accounting, so the tail's call is the only one.
  obtain ⟨error, written, throws, left⟩ := recordSuccess_faulty streamed.call streamed.providerId
    streamed.resolvedModel streamed.attempts (loggedTokens streamed logged) world faulty
  rw [tailed _ _ throws, accountUsage_eq]
  exact ⟨_, written, rfl, rfl, rfl, fun row member => ⟨_, left row member⟩⟩

/-- Whatever throws, the end of a stream returns, it charges its call once, and
it writes no row but that of the success. -/
theorem settleStream_spec :
    ∃ settled charged written,
      settleStream streamed logged world = .ok () settled ∧
      settled.usageCalls = world.usageCalls ++ [usageCall streamed.call charged] ∧
      settled.requestLogs = world.requestLogs ++ written ∧
      ∀ row ∈ written, ∃ latencyMs, row = Observability.successRow (successArgs streamed.call
        streamed.providerId streamed.resolvedModel streamed.attempts
        (loggedTokens streamed logged) latencyMs) := by
  by_cases clean : world.faults.recordSuccess = none ∧ world.faults.logRequest = none
  · obtain ⟨readings, events, settles⟩ := settleStream_ok streamed logged world clean.1 clean.2
    exact ⟨_, _, _, settles, rfl, rfl, fun row member => ⟨_, List.mem_singleton.mp member⟩⟩
  · obtain ⟨settled, written, settles, charged, logs, each⟩ :=
      settleStream_tail streamed logged world (not_and_or.mp clean)
    exact ⟨settled, _, written, settles, charged, logs, each⟩

end Settling

end LlmGateway.Chat
