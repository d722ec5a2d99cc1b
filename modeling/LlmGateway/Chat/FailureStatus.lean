import LlmGateway.Chat.Bookkeeping
import LlmGateway.Chat.Gateway

/-!
The status of a failed call, in its log row and in its structured event. The
row is an error as soon as the thrown value has a text; the event looks at the
attempts of a `RoutingFailedError`. The two part where the breaker skipped all.
-/

namespace LlmGateway.Chat

open Effects Observability Providers Routing

section Walks

variable {Result : Type} (walk : Walk Result)

def AllSkipped (walk : Walk Result) (chain : List ResolvedModel) : Prop :=
  ∀ (tried : ℕ) (resolved : ResolvedModel), (walk.path chain)[tried]? = some resolved →
    (walk.trial tried resolved).calls = false

def Serves (walk : Walk Result) (chain : List ResolvedModel) (result : Result) : Prop :=
  ∃ (tried : ℕ) (resolved : ResolvedModel), (walk.path chain)[tried]? = some resolved ∧
    walk.trial tried resolved = .succeeded result ∧
    ∀ earlier < tried, ∀ other, (walk.path chain)[earlier]? = some other →
      (walk.trial earlier other).failure ≠ none

def SkippedAttempt (attempt : RouteAttempt) : Prop :=
  ∃ failure, attempt.failure = some failure ∧ failure.circuitOpen = true

theorem skippedAttempt_iff (resolved : ResolvedModel) (tried : ℕ) :
    SkippedAttempt (attemptOf walk resolved tried) ↔ (walk.trial tried resolved).calls = false := by
  unfold SkippedAttempt attemptOf
  cases walk.trial tried resolved <;> simp [Trial.failure, Trial.calls]

theorem walkChain_skipped_iff (model name : String) (path : List ResolvedModel)
    (attempts tried : List RouteAttempt)
    (fails : (walkChain walk model path attempts).1 = .error (.routingFailed name tried)) :
    (∀ attempt ∈ tried, SkippedAttempt attempt) ↔
      (∀ attempt ∈ attempts, SkippedAttempt attempt) ∧
        ∀ index resolved, path[index]? = some resolved →
          (walk.trial (attempts.length + index) resolved).calls = false := by
  induction path generalizing attempts with
  | nil =>
      cases fails
      simp
  | cons first rest ih =>
      rcases walkChain_cons walk model first rest attempts with
        ⟨result, _, ends⟩ | ⟨_, continues⟩
      · cases ends.symm.trans fails
      · rw [ih _ (continues.symm.trans fails), List.forall_mem_append,
          List.forall_mem_singleton, skippedAttempt_iff]
        constructor
        · rintro ⟨⟨before, now⟩, later⟩
          refine ⟨before, fun index resolved found => ?_⟩
          cases index with
          | zero =>
              cases found
              exact now
          | succ later' =>
              have tail := later later' resolved found
              rwa [length_added] at tail
        · rintro ⟨before, each⟩
          refine ⟨⟨before, each 0 first rfl⟩, fun index resolved found => ?_⟩
          rw [length_added]
          exact each (index + 1) resolved found

theorem allSkipped_iff (model name : String) (chain : List ResolvedModel)
    (tried : List RouteAttempt)
    (fails : (route walk model (.ok chain)).1 = .error (.routingFailed name tried)) :
    (∀ attempt ∈ tried, SkippedAttempt attempt) ↔ AllSkipped walk chain := by
  rw [walkChain_skipped_iff walk model name (walk.path chain) [] tried fails]
  unfold AllSkipped
  simp only [List.not_mem_nil, false_implies, implies_true, true_and, List.length_nil,
    Nat.zero_add]

theorem allFail_of_allSkipped (chain : List ResolvedModel) (skipped : AllSkipped walk chain) :
    walk.AllFail chain := by
  intro tried resolved found succeeded
  obtain ⟨result, answer⟩ := Trial.failure_eq_none _ succeeded
  have refused := skipped tried resolved found
  rw [answer] at refused
  cases refused

theorem serves_unique (chain : List ResolvedModel) (left right : Result)
    (leftServes : Serves walk chain left) (rightServes : Serves walk chain right) :
    left = right := by
  obtain ⟨tried, resolved, found, answer, failing⟩ := leftServes
  obtain ⟨tried', resolved', found', answer', failing'⟩ := rightServes
  rcases Nat.lt_trichotomy tried tried' with before | same | after
  · exact absurd (by rw [answer]; rfl) (failing' tried before resolved found)
  · subst same
    rw [found] at found'
    cases found'
    rw [answer] at answer'
    cases answer'
    rfl
  · exact absurd (by rw [answer']; rfl) (failing tried' after resolved' found')

theorem serves_iff (model : String) (chain : List ResolvedModel) (r : RouteResult Result)
    (succeeds : (route walk model (.ok chain)).1 = .ok r) (result : Result) :
    Serves walk chain result ↔ r.result = result := by
  have served : Serves walk chain r.result := by
    obtain ⟨_, tried, resolved, found, answer, failing⟩ :=
      walkChain_ok walk model (walk.path chain) [] r succeeds
    rw [List.length_nil, Nat.zero_add] at answer
    simp only [List.length_nil, Nat.zero_add] at failing
    exact ⟨tried, resolved, found, answer, failing⟩
  constructor
  · exact serves_unique walk chain _ _ served
  · rintro rfl
    exact served

end Walks

section Statuses

/-- The failure is a `RoutingFailedError` all of whose attempts the breaker skipped. -/
def ChatError.Skipped : ChatError → Prop
  | .route (.routingFailed _ attempts) => ∀ attempt ∈ attempts, SkippedAttempt attempt
  | _ => False

/-- A failed call leaves a row and an event at the end of the two logs, with
one status, and that status singles out the failures the breaker alone made. -/
def StatusesAgree (before : World) (err : ChatError) (after : World) : Prop :=
  ∃ rows row events event,
    after.requestLogs = before.requestLogs ++ rows ++ [row] ∧
    after.events = before.events ++ events ++ [event] ∧
    row.status = event.status ∧ (row.status = .circuitOpen ↔ err.Skipped)

variable (err : ChatError) (request : Request) (requestedAt : ℤ) (quota : Option QuotaOutcome)
  (latencyMs : ℤ)

theorem chooseStatusForFailure_eq (attempts : List RouteAttempt) :
    (chooseStatusForFailure attempts = .circuitOpen ∧
        ∀ attempt ∈ attempts, SkippedAttempt attempt) ∨
      (chooseStatusForFailure attempts = .error ∧
        ¬ ∀ attempt ∈ attempts, SkippedAttempt attempt) := by
  have skipped : (attempts.all fun attempt =>
      attempt.failure.any AttemptFailure.circuitOpen) = true ↔
      ∀ attempt ∈ attempts, SkippedAttempt attempt := by
    simp [SkippedAttempt, Option.any_eq_true]
  unfold chooseStatusForFailure
  split
  · rename_i all
    exact Or.inl ⟨rfl, skipped.mp all⟩
  · rename_i all
    exact Or.inr ⟨rfl, fun each => all (skipped.mpr each)⟩

theorem failureRow_status :
    (failureRow (failureArgs err request requestedAt quota latencyMs)).status =
      if (errorText err.thrown).isSome then .error else .circuitOpen := by
  cases err with
  | aliasNotPermitted aliasKey => rfl
  | quotaExhausted detail => rfl
  | fault error => rfl
  | route error => cases error <;> rfl

/-- Off the breaker the event always reports an error, so the row has to. -/
theorem statuses_unskipped (unskipped : ¬ err.Skipped)
    (event : (failureEvent err request requestedAt quota latencyMs).status = .error) :
    ((failureRow (failureArgs err request requestedAt quota latencyMs)).status =
        (failureEvent err request requestedAt quota latencyMs).status ∧
      ((failureRow (failureArgs err request requestedAt quota latencyMs)).status = .circuitOpen ↔
        err.Skipped)) ↔
      ¬ err.Skipped ∧ (errorText err.thrown).isSome = true := by
  rw [failureRow_status, event]
  cases (errorText err.thrown).isSome with
  | true => simp [unskipped]
  | false => simp

theorem statuses_iff :
    ((failureRow (failureArgs err request requestedAt quota latencyMs)).status =
        (failureEvent err request requestedAt quota latencyMs).status ∧
      ((failureRow (failureArgs err request requestedAt quota latencyMs)).status = .circuitOpen ↔
        err.Skipped)) ↔
      ¬ err.Skipped ∧ (errorText err.thrown).isSome = true := by
  cases err with
  | aliasNotPermitted aliasKey => exact statuses_unskipped _ request requestedAt quota _ id rfl
  | quotaExhausted detail => exact statuses_unskipped _ request requestedAt quota _ id rfl
  | fault error => exact statuses_unskipped _ request requestedAt quota _ id rfl
  | route error =>
      cases error with
      | resolve error => exact statuses_unskipped _ request requestedAt quota _ id rfl
      | routingFailed model attempts =>
          rcases chooseStatusForFailure_eq attempts with ⟨status, skipped⟩ | ⟨status, through⟩
          · -- The error object has a text, so the row never says that the breaker was open.
            rw [failureRow_status]
            simpa [failureEvent, ChatError.Skipped, ChatError.thrown, errorText, status]
              using skipped
          · exact statuses_unskipped _ request requestedAt quota _ through status

theorem statusesAgree_iff (before after : World) (rows : List RequestLogRow)
    (logged : after.requestLogs = before.requestLogs ++ rows)
    (emitted : after.events = before.events) :
    StatusesAgree before err { after.withFailure err request requestedAt quota with
        events := after.failureEvents err request requestedAt quota } ↔
      ¬ err.Skipped ∧ (errorText err.thrown).isSome = true := by
  rw [← statuses_iff err request requestedAt quota (after.latency requestedAt)]
  unfold StatusesAgree World.withFailure World.failureEvents
  simp only [logged, emitted]
  constructor
  · rintro ⟨rows', row, events', event, sameRows, sameEvents, agree⟩
    obtain ⟨_, sameRow⟩ := List.append_inj' sameRows rfl
    obtain ⟨_, sameEvent⟩ := List.append_inj' sameEvents rfl
    cases sameRow
    cases sameEvent
    exact agree
  · intro agree
    exact ⟨rows, _, [], _, rfl, by rw [List.append_nil], agree⟩

end Statuses

section Answers

variable (call : Call) (walk : Walk CompletionResult) (world : World)

/-- The row of a success throws, so the reply is lost and the handler logs that. -/
theorem answer_row_throws (r : RouteResult CompletionResult) (result : ChatCompletion)
    (error : Js.Thrown) (routed : routedBy call walk = .ok r)
    (buffers : r.result = .completion result) (row : world.faults.recordSuccess = some error)
    (event : world.faults.logRequest = none) :
    ∃ (after : World) (rows : List RequestLogRow),
      answer call walk world = .error (.fault error)
        { after.withFailure (.fault error) call.request call.requestedAt
            (some call.quotaOutcome) with
          events := after.failureEvents (.fault error) call.request call.requestedAt
            (some call.quotaOutcome) } ∧
      after.requestLogs = world.requestLogs ++ rows ∧ after.events = world.events := by
  have throws : finish call r (world.afterRoute call walk) = .error (.fault error)
      { (world.afterRoute call walk).withAttempts call r with
        readings := world.readings + 1 } := by
    unfold finish
    rw [bind_ok _ _ _ _ _ (recordFailedAttempts_all call r _), buffers]
    exact bind_error _ _ _ _ _ (recordSuccess_row_throws call _ _ _ _
      ((world.afterRoute call walk).withAttempts call r) error row)
  rw [answer_routed call walk r world routed]
  obtain ⟨thrown, events, handled, logged⟩ := catching_error _ call.request call.requestedAt
    (some call.quotaOutcome) (world.afterRoute call walk) _ _ throws
  obtain ⟨rfl, rfl⟩ := logged event
  exact ⟨_, attemptRows call r.attempts.length r.attempts, handled, rfl, rfl⟩

/-- The route was not stopped by the breaker alone, and what the log of a
success throws is an `Error` or a string. -/
def FailsVisibly (call : Call) (walk : Walk CompletionResult) (world : World) : Prop :=
  ∀ chain, call.chain = .ok chain →
    ¬ AllSkipped walk chain ∧
      ∀ result printed, Serves walk chain (.completion result) →
        world.faults.recordSuccess ≠ some (.other printed)

def AnswerAgrees (call : Call) (walk : Walk CompletionResult) (world : World) : Prop :=
  ∀ err after, answer call walk world = .error err after → StatusesAgree world err after

theorem answerAgrees_error (err : ChatError) (after : World)
    (throws : answer call walk world = .error err after) :
    AnswerAgrees call walk world ↔ StatusesAgree world err after := by
  unfold AnswerAgrees
  rw [throws]
  constructor
  · intro agrees
    exact agrees err after rfl
  · intro agrees err' after' same
    cases same
    exact agrees

theorem answerAgrees_ok (response : Response) (after : World)
    (returns : answer call walk world = .ok response after) : AnswerAgrees call walk world := by
  intro err after' throws
  rw [returns] at throws
  cases throws

theorem answerAgrees_failed (error : RouteError) (fails : routedBy call walk = .error error)
    (event : world.faults.logRequest = none) :
    AnswerAgrees call walk world ↔ ¬ (ChatError.route error).Skipped := by
  obtain ⟨thrown, events, throws, logged⟩ := answer_failed call walk world error fails
  obtain ⟨rfl, rfl⟩ := logged event
  rw [answerAgrees_error call walk world _ _ throws,
    statusesAgree_iff _ _ _ _ world (world.afterRoute call walk) [] (List.append_nil _).symm rfl]
  apply and_iff_left
  cases error <;> rfl

theorem answerAgrees_served (r : RouteResult CompletionResult)
    (routed : routedBy call walk = .ok r) (event : world.faults.logRequest = none) :
    AnswerAgrees call walk world ↔ ∀ result printed, r.result = .completion result →
      world.faults.recordSuccess ≠ some (.other printed) := by
  cases result : r.result with
  | stream source =>
      apply iff_of_true
      · exact answerAgrees_ok call walk world _ _
          (answer_stream call walk r world source routed result)
      · intro other printed same
        cases same
  | completion upstream =>
      cases row : world.faults.recordSuccess with
      | none =>
          obtain ⟨readings, events, returns⟩ :=
            answer_buffered call walk r world upstream routed result row event
          apply iff_of_true (answerAgrees_ok call walk world _ _ returns)
          intro other printed same unprintable
          cases unprintable
      | some error =>
          obtain ⟨after, rows, throws, logged, emitted⟩ :=
            answer_row_throws call walk world r upstream error routed result row event
          rw [answerAgrees_error call walk world _ _ throws,
            statusesAgree_iff _ _ _ _ world after rows logged emitted]
          cases error <;> simp [ChatError.Skipped, ChatError.thrown, errorText]

theorem answerAgrees_iff (event : world.faults.logRequest = none) :
    AnswerAgrees call walk world ↔ FailsVisibly call walk world := by
  unfold FailsVisibly
  cases resolved : call.chain with
  | error unresolved =>
      have fails : routedBy call walk = .error (.resolve unresolved) := by
        rw [routedBy, resolved]
        rfl
      rw [answerAgrees_failed call walk world _ fails event]
      exact iff_of_true id fun chain none => by cases none
  | ok chain =>
      simp only [Except.ok.injEq, forall_eq']
      cases routed : routedBy call walk with
      | error error =>
          have fails := routed
          rw [routedBy, resolved] at fails
          obtain ⟨tried, rfl⟩ :=
            (walkChain_failed walk call.target (walk.path chain) [] error fails).1
          have skipped := allSkipped_iff walk call.target call.target chain tried fails
          rw [answerAgrees_failed call walk world _ routed event, ← skipped]
          apply (and_iff_left _).symm
          -- No try of a failed walk returned anything.
          rintro result printed ⟨index, served, found, answer, _⟩
          have failing := allFail_of_error walk call.target chain _ fails index served found
          rw [answer] at failing
          exact absurd rfl failing
      | ok r =>
          have succeeds := routed
          rw [routedBy, resolved] at succeeds
          have through : ¬ AllSkipped walk chain := fun skipped =>
            not_allFail_of_ok walk call.target chain r succeeds
              (allFail_of_allSkipped walk chain skipped)
          rw [and_iff_right through]
          simp only [serves_iff walk call.target chain r succeeds]
          exact answerAgrees_served call walk world r routed event

end Answers

namespace Gateway

def FailuresAgree (gateway : Gateway) : Event → Prop
  | .arrive request => ∀ err after, openCall request gateway.world = .error err after →
      StatusesAgree gateway.world err after
  | .routed index walk => ∀ call, gateway.routing[index]? = some call →
      AnswerAgrees call walk gateway.world
  | .consumed _ _ => True

def FailsVisibly (gateway : Gateway) : Event → Prop
  | .arrive _ => True
  | .routed index walk => ∀ call, gateway.routing[index]? = some call →
      Chat.FailsVisibly call walk gateway.world
  | .consumed _ _ => True

variable (gateway : Gateway)

/-- Before the route only the allowlist and the quota gate refuse. -/
theorem arrive_agrees (request : Request) (event : gateway.world.faults.logRequest = none) :
    gateway.FailuresAgree (.arrive request) := by
  intro err after throws
  obtain ⟨readings, consulted, same⟩ :=
    consult_frame gateway.world.opened request.clientId request.body.model
  cases permitted : gateway.world.permits request with
  | false =>
      obtain ⟨thrown, events, refused, logged⟩ :=
        openCall_forbidden request gateway.world permitted
      obtain ⟨rfl, rfl⟩ := logged event
      rw [refused] at throws
      cases throws
      exact (statusesAgree_iff _ _ _ _ gateway.world gateway.world.opened []
        (List.append_nil _).symm rfl).mpr ⟨id, rfl⟩
  | true =>
      cases decided : gateway.world.gate request with
      | error detail =>
          obtain ⟨thrown, events, refused, logged⟩ :=
            openCall_refused request gateway.world detail permitted decided
          obtain ⟨rfl, rfl⟩ := logged event
          rw [refused] at throws
          cases throws
          refine (statusesAgree_iff _ _ _ _ gateway.world _ [] ?_ ?_).mpr ⟨id, rfl⟩
          · rw [same, List.append_nil]
            rfl
          · rw [same]
            rfl
      | ok target =>
          rw [openCall_served request gateway.world target permitted decided] at throws
          cases throws

/-- The two statuses of a failed call agree, and say whether the breaker alone
stopped it, exactly when the breaker did not and the thrown value has a text. -/
theorem failuresAgree_iff (event : Event) (logs : gateway.world.faults.logRequest = none) :
    gateway.FailuresAgree event ↔ gateway.FailsVisibly event := by
  cases event with
  | arrive request => exact iff_of_true (arrive_agrees gateway request logs) trivial
  | routed index walk =>
      exact forall_congr' fun call => forall_congr' fun _ =>
        answerAgrees_iff call walk gateway.world logs
  | consumed index calls => exact Iff.rfl

section Example

def awaiting : Gateway := { world := exampleWorld, routing := [exampleCall], streaming := [] }

def rejecting : Walk CompletionResult where
  order := [0]
  trial := fun _ _ => .failed (.error "Error" "502 Bad Gateway")
  durationMs := fun _ => 0

def skipping : Walk CompletionResult where
  order := [0]
  trial := fun _ _ => .skipped
  durationMs := fun _ => 0

theorem failuresAgree_rejected : awaiting.FailuresAgree (.routed 0 rejecting) := by
  refine (failuresAgree_iff awaiting (.routed 0 rejecting) rfl).mpr ?_
  intro call found chain resolved
  cases found
  cases resolved
  constructor
  · intro skipped
    cases skipped 0 exampleModel rfl
  · intro result printed _ unprintable
    cases unprintable

/-- The only provider's breaker is open: the event says so, the row does not. -/
theorem skipped_statuses_differ :
    ¬ ∀ (gateway : Gateway) (event : Event), gateway.world.faults.logRequest = none →
      gateway.FailuresAgree event := by
  intro claimed
  have agrees := claimed awaiting (.routed 0 skipping) rfl exampleCall rfl
  have visible := (answerAgrees_iff exampleCall skipping exampleWorld rfl).mp agrees
  exact (visible [exampleModel] rfl).1 fun _ _ _ => rfl

end Example

end Gateway

end LlmGateway.Chat
