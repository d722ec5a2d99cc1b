import LlmGateway.Chat.Bookkeeping
import LlmGateway.Chat.Gateway

/-!
Which alias the rows of a request name. A row ought to say what the client
asked for and, beside it, what was served; a failed route and a failed attempt
each leave rows that do not.
-/

namespace LlmGateway.Chat

open Observability Providers Quota Routing Runs

/-- The row names both the alias the client asked for and the alias that was
routed, and so tells a diverted request from the others. -/
def Attributed (call : Call) (row : RequestLogRow) : Prop :=
  row.modelRequested = call.request.body.model ∧ row.servedAlias = some call.target ∧
    ((∃ served, row.servedAlias = some served ∧ served ≠ row.modelRequested) ↔
      call.target ≠ call.request.body.model)

theorem attributed_iff (call : Call) (row : RequestLogRow) :
    Attributed call row ↔
      row.modelRequested = call.request.body.model ∧ row.servedAlias = some call.target := by
  constructor
  · rintro ⟨requested, served, _⟩
    exact ⟨requested, served⟩
  · rintro ⟨requested, served⟩
    exact ⟨requested, served, by rw [requested, served]; simp⟩

namespace Gateway

/-- The claimed labels of the rows one step writes. A request refused at the
gate has no served alias yet. -/
def RowsAttributed (gateway : Gateway) (event : Event) : Prop :=
  ∀ row ∈ newRows gateway (gateway.step event),
    match event with
    | .arrive request => row.modelRequested = request.body.model ∧ row.servedAlias = none
    | .routed index _ => ∀ call, gateway.routing[index]? = some call → Attributed call row
    | .consumed index _ => ∀ streamed, gateway.streaming[index]? = some streamed →
        Attributed streamed.call row

/-- When the chain resolves, its first try succeeds, or every try fails and
the request is not diverted. -/
def CleanRoute (call : Call) (walk : Walk CompletionResult) : Prop :=
  ∀ chain, call.chain = .ok chain →
    walk.FirstSucceeds chain ∨ (walk.AllFail chain ∧ call.target = call.request.body.model)

theorem cleanRoute_unresolved (call : Call) (walk : Walk CompletionResult) (error : ResolveError)
    (unresolved : call.chain = .error error) : CleanRoute call walk := by
  intro chain resolved
  rw [unresolved] at resolved
  cases resolved

theorem cleanRoute_of_failed (call : Call) (walk : Walk CompletionResult) (error : RouteError)
    (chain : List ResolvedModel) (resolved : call.chain = .ok chain)
    (fails : routedBy call walk = .error error) :
    CleanRoute call walk ↔ call.target = call.request.body.model := by
  rw [routedBy, resolved] at fails
  have failing := allFail_of_error walk call.target chain error fails
  unfold CleanRoute
  rw [resolved]
  simp only [Except.ok.injEq, forall_eq']
  constructor
  · intro clean
    rcases clean with first | ⟨_, same⟩
    · exact absurd first (not_firstSucceeds_of_allFail walk chain failing)
    · exact same
  · intro same
    exact Or.inr ⟨failing, same⟩

theorem cleanRoute_of_succeeded (call : Call) (walk : Walk CompletionResult)
    (r : RouteResult CompletionResult) (routed : routedBy call walk = .ok r) :
    CleanRoute call walk ↔ ∀ attempt ∈ r.attempts, attempt.failure = none := by
  cases resolved : call.chain with
  | error error =>
      rw [routedBy, resolved] at routed
      cases routed
  | ok chain =>
      rw [routedBy, resolved] at routed
      rw [attempts_clean_iff walk call.target chain r routed]
      unfold CleanRoute
      rw [resolved]
      simp only [Except.ok.injEq, forall_eq']
      exact or_iff_left fun both => not_allFail_of_ok walk call.target chain r routed both.1

def RoutesCleanly (gateway : Gateway) : Event → Prop
  | .arrive _ => True
  | .routed index walk => ∀ call, gateway.routing[index]? = some call → CleanRoute call walk
  | .consumed _ _ => True

section Rows

variable (call : Call) (walk : Walk CompletionResult)

theorem successRow_attributed (providerId resolvedModel : String) (attempts : ℕ)
    (tokens : Option CompletionUsage) (latencyMs : ℤ) :
    Attributed call (successRow (successArgs call providerId resolvedModel attempts tokens
      latencyMs)) :=
  (attributed_iff _ _).mpr ⟨rfl, rfl⟩

theorem faultRow_attributed (error : Js.Thrown) (latencyMs : ℤ) :
    Attributed call (failureRow (failureArgs (.fault error) call.request call.requestedAt
      (some call.quotaOutcome) latencyMs)) :=
  (attributed_iff _ _).mpr ⟨rfl, rfl⟩

theorem failureRow_attributed_iff (error : RouteError) (latencyMs : ℤ)
    (fails : routedBy call walk = .error error) :
    Attributed call (failureRow (failureArgs (.route error) call.request call.requestedAt
      (some call.quotaOutcome) latencyMs)) ↔ CleanRoute call walk := by
  rw [attributed_iff]
  cases resolved : call.chain with
  | error unresolved =>
      -- A chain that does not resolve throws its own error, logged under the asked name.
      have same : error = .resolve unresolved := by
        rw [routedBy, resolved] at fails
        cases fails
        rfl
      rw [same]
      exact iff_of_true ⟨rfl, rfl⟩ (cleanRoute_unresolved call walk unresolved resolved)
  | ok chain =>
      rw [cleanRoute_of_failed call walk error chain resolved fails]
      obtain ⟨tried, same⟩ : ∃ tried, error = .routingFailed call.target tried := by
        rw [routedBy, resolved] at fails
        exact (walkChain_failed walk call.target (walk.path chain) [] error fails).1
      rw [same]
      exact ⟨fun both => both.1, fun same => ⟨same, rfl⟩⟩

theorem attemptRows_attributed_iff (totalAttempts : ℕ) (attempts : List RouteAttempt) :
    (∀ row ∈ attemptRows call totalAttempts attempts, Attributed call row) ↔
      ∀ attempt ∈ attempts, attempt.failure = none := by
  constructor
  · intro attributed attempt member
    cases failed : attempt.failure with
    | none => rfl
    | some failure =>
        have row := attributed (attemptFailureRow (failedAttemptArgs call totalAttempts attempt
          failure)) (List.mem_filterMap.mpr ⟨attempt, member, by rw [failed]; rfl⟩)
        -- The writer of these rows has no served alias to give.
        cases row.2.1
  · intro clean row member
    obtain ⟨attempt, tried, logged⟩ := List.mem_filterMap.mp member
    rw [clean attempt tried] at logged
    cases logged

end Rows

section Steps

variable (gateway : Gateway)

theorem arrive_attributed (request : Request) :
    gateway.RowsAttributed (.arrive request) := by
  unfold RowsAttributed step
  obtain ⟨readings, consulted, same⟩ :=
    consult_frame gateway.world.opened request.clientId request.body.model
  rcases openCall_cases request gateway.world with
    ⟨_, thrown, events, throws⟩ | ⟨detail, _, _, thrown, events, throws⟩ | ⟨target, _, _, opens⟩
  · rw [newRows_append gateway (gateway.arrive request) _
      (by rw [arrive_world_error gateway request _ thrown throws]; rfl)]
    intro row member
    cases List.mem_singleton.mp member
    exact ⟨rfl, rfl⟩
  · rw [same] at throws
    rw [newRows_append gateway (gateway.arrive request) _
      (by rw [arrive_world_error gateway request _ thrown throws]; rfl)]
    intro row member
    cases List.mem_singleton.mp member
    exact ⟨rfl, rfl⟩
  · rw [same] at opens
    rw [newRows_append gateway (gateway.arrive request) []
      (by rw [arrive_world gateway request _ _ opens]; exact (List.append_nil _).symm)]
    exact fun _ member => absurd member List.not_mem_nil

theorem settleRoute_completion_rows (index : ℕ) (call : Call) (walk : Walk CompletionResult)
    (r : RouteResult CompletionResult) (upstream : ChatCompletion)
    (routed : routedBy call walk = .ok r) (result : r.result = .completion upstream) :
    ∃ written, newRows gateway (gateway.settleRoute index call walk) =
        attemptRows call r.attempts.length r.attempts ++ written ∧
      ∀ row ∈ written, Attributed call row := by
  by_cases clean : gateway.world.faults.recordSuccess = none ∧
      gateway.world.faults.logRequest = none
  · obtain ⟨readings, events, answers⟩ := answer_buffered call walk r gateway.world
      upstream routed result clean.1 clean.2
    refine ⟨[gateway.world.successRow call r.providerId (resolvedModelOf r.attempts)
      r.attempts.length upstream.usage], newRows_append _ _ _ ?_, ?_⟩
    · rw [settleRoute_world gateway index call walk _ _ answers]
      exact List.append_assoc _ _ _
    · intro row member
      cases List.mem_singleton.mp member
      exact successRow_attributed call _ _ _ _ _
  · obtain ⟨thrown, after, written, error, throws, _, rows, each⟩ :=
      answer_buffered_throws call walk r gateway.world upstream routed result
        (not_and_or.mp clean)
    refine ⟨written, newRows_append _ _ _ ?_, ?_⟩
    · rw [settleRoute_world_error gateway index call walk _ thrown throws, rows]
      exact List.append_assoc _ _ _
    · intro row member
      rcases each row member with ⟨latencyMs, rfl⟩ | ⟨latencyMs, rfl⟩
      · exact successRow_attributed call _ _ _ _ _
      · exact faultRow_attributed call error latencyMs

theorem settleRoute_attributed_iff (index : ℕ) (call : Call) (walk : Walk CompletionResult) :
    (∀ row ∈ newRows gateway (gateway.settleRoute index call walk), Attributed call row) ↔
      CleanRoute call walk := by
  cases routed : routedBy call walk with
  | error error =>
      obtain ⟨thrown, events, throws, _⟩ := answer_failed call walk gateway.world error routed
      rw [newRows_append gateway (gateway.settleRoute index call walk) _
        (by rw [settleRoute_world_error gateway index call walk _ thrown throws]; rfl)]
      simp only [List.mem_singleton, forall_eq]
      exact failureRow_attributed_iff call walk error _ routed
  | ok r =>
      rw [cleanRoute_of_succeeded call walk r routed,
        ← attemptRows_attributed_iff call r.attempts.length r.attempts]
      cases result : r.result with
      | stream source =>
          have answers := answer_stream call walk r gateway.world source routed result
          rw [newRows_append gateway (gateway.settleRoute index call walk) _
            (by rw [settleRoute_world gateway index call walk _ _ answers]; rfl)]
      | completion upstream =>
          obtain ⟨written, rows, attributed⟩ :=
            settleRoute_completion_rows gateway index call walk r upstream routed result
          rw [rows]
          constructor
          · intro all row member
            exact all row (List.mem_append_left _ member)
          · intro first row member
            rcases List.mem_append.mp member with member | member
            · exact first row member
            · exact attributed row member

theorem endStream_attributed (index : ℕ) (streamed : Streamed)
    (logged : Except Js.Thrown (List ChatCompletionChunk)) :
    ∀ row ∈ newRows gateway (gateway.endStream index streamed logged),
      Attributed streamed.call row := by
  obtain ⟨after, charged, written, settles, _, rows, each⟩ :=
    settleStream_spec streamed logged gateway.world
  rw [newRows_append gateway (gateway.endStream index streamed logged) written
    (by rw [endStream_world gateway index streamed logged _ settles, rows])]
  intro row member
  obtain ⟨latencyMs, rfl⟩ := each row member
  exact successRow_attributed streamed.call _ _ _ _ _

theorem newRows_same : newRows gateway gateway = [] :=
  newRows_append gateway gateway [] (List.append_nil _).symm

theorem step_attributed_iff (event : Event) :
    gateway.RowsAttributed event ↔ gateway.RoutesCleanly event := by
  cases event with
  | arrive request => exact iff_of_true (arrive_attributed gateway request) trivial
  | routed index walk =>
      unfold RowsAttributed RoutesCleanly step
      cases found : gateway.routing[index]? with
      | none => simp only [found, newRows_same]; simp
      | some call =>
          simp only [found, Option.some.injEq, forall_eq']
          exact settleRoute_attributed_iff gateway index call walk
  | consumed index calls =>
      refine iff_of_true ?_ trivial
      unfold RowsAttributed step
      cases found : gateway.streaming[index]? with
      | none => simp only [found, newRows_same]; simp
      | some streamed =>
          simp only [found, Option.some.injEq, forall_eq']
          cases reached : TeeStream.loggedAfter streamed.source calls with
          | none => simp only [newRows_same]; simp
          | some logged =>
              simp only
              exact endStream_attributed gateway index streamed logged

end Steps

section Example

/-- The quota of `codex` is spent, and a request for it goes to `slave`. -/
def divertingWorld : World := { exampleWorld with quotas := QuotaStore.spentDivert }

def failing : Walk CompletionResult where
  order := [0]
  trial := fun _ _ => .failed (.error "Error" "503 Service Unavailable")
  durationMs := fun _ => 0

end Example

end Gateway

end LlmGateway.Chat
