import LlmGateway.Chat.Gateway
import LlmGateway.Quota.Reconcile

/-!
What one step of the gateway adds to the request log and to the counters while
no bookkeeping write fails. The step is summed up by two things, the labels of
the rows it writes for what was not served and the call it served, and the
ledgers are compared on these alone.
-/

namespace LlmGateway.Chat

open Observability Providers Quota Routing

structure Label where
  requestedAt : ℤ
  clientKey : Option ClientId
  aliasKey : String
  deriving DecidableEq

def rowLabel (row : RequestLogRow) : Label where
  requestedAt := row.requestedAt
  clientKey := row.clientKey
  aliasKey := row.aliasKey

def Label.CountsFor (label : Label) (pair : QuotaKey) (month : ℤ) : Prop :=
  utcMonth (label.requestedAt * 1000) = month ∧ label.clientKey = some pair.1 ∧
    label.aliasKey = pair.2

instance (label : Label) (pair : QuotaKey) (month : ℤ) : Decidable (label.CountsFor pair month) :=
  inferInstanceAs (Decidable (_ ∧ _ ∧ _))

theorem inGroup_iff (row : RequestLogRow) (pair : QuotaKey) (month : ℤ) :
    row.InGroup (monthWindow month) pair ↔ (rowLabel row).CountsFor pair month := by
  rw [RequestLogRow.InGroup, monthWindow_contains_iff, Label.CountsFor, RequestLogRow.group]
  refine and_congr_right fun _ => ?_
  cases client : row.clientKey with
  | none => simp [rowLabel, client]
  | some clientId => simp [rowLabel, client, Prod.ext_iff]

structure Served where
  call : Call
  logged : Option ℚ
  charged : Option ℚ

def Served.label (served : Served) : Label where
  requestedAt := served.call.requestedAt
  clientKey := served.call.request.clientId
  aliasKey := served.call.target

namespace Gateway

def served (gateway : Gateway) : Event → Option Served
  | .arrive _ => none
  | .routed index walk =>
      gateway.routing[index]?.bind fun call =>
        match routedBy call walk with
        | .error _ => none
        | .ok r =>
            match r.result with
            | .stream _ => none
            | .completion upstream =>
                let total := upstream.usage.bind CompletionUsage.totalTokens
                some { call, logged := total, charged := total }
  | .consumed index calls =>
      gateway.streaming[index]?.bind fun streamed =>
        (TeeStream.loggedAfter streamed.source calls).map fun logged =>
          { call := streamed.call
            logged := (loggedTokens streamed logged).bind CompletionUsage.totalTokens
            charged := chargedTokens streamed logged }

def unserved (gateway : Gateway) : Event → List Label
  | .arrive request =>
      let label : Label :=
        { requestedAt := gateway.world.requestedAt
          clientKey := request.clientId
          aliasKey := request.body.model }
      if gateway.world.permits request then
        match gateway.world.gate request with
        | .ok _ => []
        | .error _ => [label]
      else [label]
  | .routed index walk =>
      gateway.routing[index]?.elim [] fun call =>
        let label (aliasKey : String) : Label :=
          { requestedAt := call.requestedAt, clientKey := call.request.clientId, aliasKey }
        match routedBy call walk with
        | .error _ => [label call.target]
        | .ok r => (r.attempts.filter fun attempt => attempt.failure.isSome).map fun _ =>
            label call.request.body.model
  | .consumed _ _ => []

end Gateway

/-- A fault-free transition that wrote the rows of what was not served, then
the row of what was, and charged it. -/
structure Wrote (before after : World) (unserved : List Label) (served : Option Served) : Prop where
  rows : ∃ failed delivered,
    after.requestLogs = before.requestLogs ++ (failed ++ delivered) ∧
    (∀ row ∈ failed, row.totalTokens = none) ∧ failed.map rowLabel = unserved ∧
    delivered.map rowLabel = served.toList.map Served.label ∧
    delivered.map RequestLogRow.totalTokens = served.toList.map Served.logged
  quotas : after.quotas = served.elim before.quotas fun served =>
    before.quotas.recordUsage served.call.request.clientId served.call.target
      (.finite (served.charged.getD 0)) (served.call.requestedAt * 1000)
  faults : after.faults = before.faults

namespace Gateway

variable (gateway : Gateway)

theorem wrote_nothing (before after : World) (rows : after.requestLogs = before.requestLogs)
    (quotas : after.quotas = before.quotas) (faults : after.faults = before.faults) :
    Wrote before after [] none where
  rows := ⟨[], [], by simpa using rows, fun _ member => absurd member List.not_mem_nil, rfl, rfl,
    rfl⟩
  quotas := quotas
  faults := faults

theorem wrote_failure (before after : World) (args : RecordFailureArgs)
    (rows : after.requestLogs = before.requestLogs ++ [failureRow args])
    (quotas : after.quotas = before.quotas) (faults : after.faults = before.faults) :
    Wrote before after [rowLabel (failureRow args)] none where
  rows := ⟨[failureRow args], [], by simpa using rows, by simp [failureRow], rfl, rfl, rfl⟩
  quotas := quotas
  faults := faults

theorem wrote_served (before after : World) (failed : List RequestLogRow) (row : RequestLogRow)
    (served : Served) (rows : after.requestLogs = before.requestLogs ++ failed ++ [row])
    (tokenless : ∀ row ∈ failed, row.totalTokens = none) (labelled : rowLabel row = served.label)
    (total : row.totalTokens = served.logged)
    (quotas : after.quotas = before.quotas.recordUsage served.call.request.clientId
      served.call.target (.finite (served.charged.getD 0)) (served.call.requestedAt * 1000))
    (faults : after.faults = before.faults) :
    Wrote before after (failed.map rowLabel) (some served) where
  rows := ⟨failed, [row], by simpa using rows, tokenless, rfl, by simpa using labelled,
    by simpa using total⟩
  quotas := quotas
  faults := faults

theorem arrive_wrote (request : Request) :
    Wrote gateway.world (gateway.arrive request).world (gateway.unserved (.arrive request))
      none := by
  obtain ⟨readings, consulted, same⟩ :=
    consult_frame gateway.world.opened request.clientId request.body.model
  unfold unserved
  dsimp only
  rcases openCall_cases request gateway.world with
    ⟨permitted, thrown, events, throws⟩ | ⟨detail, permitted, decided, thrown, events, throws⟩ |
    ⟨target, permitted, decided, opens⟩
  · simp only [permitted, Bool.false_eq_true, ↓reduceIte]
    rw [arrive_world_error gateway request _ thrown throws]
    exact wrote_failure gateway.world _ (failureArgs (.aliasNotPermitted request.body.model)
      request gateway.world.requestedAt none
      (gateway.world.opened.latency gateway.world.requestedAt)) rfl rfl rfl
  · simp only [permitted, decided, ↓reduceIte]
    rw [same] at throws
    rw [arrive_world_error gateway request _ thrown throws]
    exact wrote_failure gateway.world _ (failureArgs (.quotaExhausted detail) request
      gateway.world.requestedAt none
      (World.latency { gateway.world with readings := readings }
        gateway.world.requestedAt)) rfl rfl rfl
  · simp only [permitted, decided, ↓reduceIte]
    rw [same] at opens
    rw [arrive_world gateway request _ _ opens]
    exact wrote_nothing gateway.world _ rfl rfl rfl

theorem attemptRows_tokenless (call : Call) (totalAttempts : ℕ) (attempts : List RouteAttempt) :
    ∀ row ∈ attemptRows call totalAttempts attempts, row.totalTokens = none := by
  intro row member
  obtain ⟨attempt, _, logged⟩ := List.mem_filterMap.mp member
  obtain ⟨failure, _, rfl⟩ := Option.map_eq_some_iff.mp logged
  rfl

theorem attemptRows_labels (call : Call) (totalAttempts : ℕ) (attempts : List RouteAttempt) :
    (attemptRows call totalAttempts attempts).map rowLabel =
      (attempts.filter fun attempt => attempt.failure.isSome).map fun _ =>
        { requestedAt := call.requestedAt
          clientKey := call.request.clientId
          aliasKey := call.request.body.model } := by
  induction attempts with
  | nil => rfl
  | cons attempt rest ih =>
      cases failed : attempt.failure with
      | none => simpa [attemptRows, failed] using ih
      | some failure =>
          simp only [attemptRows, List.filterMap_cons, failed, Option.map_some, List.map_cons,
            List.filter_cons, Option.isSome_some, ↓reduceIte] at ih ⊢
          rw [ih]
          rfl

theorem settleRoute_wrote (index : ℕ) (call : Call) (walk : Walk CompletionResult)
    (found : gateway.routing[index]? = some call) (sound : gateway.world.faults = .none) :
    Wrote gateway.world (gateway.settleRoute index call walk).world
      (gateway.unserved (.routed index walk)) (gateway.served (.routed index walk)) := by
  unfold unserved served
  simp only [found, Option.elim_some, Option.bind_some]
  cases routed : routedBy call walk with
  | error error =>
      obtain ⟨thrown, events, throws, _⟩ := answer_failed call walk gateway.world error routed
      rw [settleRoute_world_error gateway index call walk _ thrown throws]
      -- The row of a failed route has the target as its served alias.
      have labelled : rowLabel (failureRow (failureArgs (.route error) call.request
          call.requestedAt (some call.quotaOutcome)
          ((gateway.world.afterRoute call walk).latency call.requestedAt))) =
          { requestedAt := call.requestedAt
            clientKey := call.request.clientId
            aliasKey := call.target } := by
        cases error <;> rfl
      rw [← labelled]
      exact wrote_failure gateway.world _ _ rfl rfl rfl
  | ok r =>
      simp only
      rw [← attemptRows_labels call r.attempts.length r.attempts]
      have tokenless := attemptRows_tokenless call r.attempts.length r.attempts
      cases result : r.result with
      | stream source =>
          have answers := answer_stream call walk r gateway.world source routed result
          rw [settleRoute_world gateway index call walk _ _ answers]
          exact ⟨⟨_, [], by simp [World.withAttempts, World.afterRoute], tokenless, rfl, rfl, rfl⟩,
            rfl, rfl⟩
      | completion upstream =>
          obtain ⟨readings, events, answers⟩ := answer_buffered call walk r gateway.world upstream
            routed result (by rw [sound]; rfl) (by rw [sound]; rfl)
          rw [settleRoute_world gateway index call walk _ _ answers]
          exact wrote_served gateway.world _ _ _
            { call := call
              logged := upstream.usage.bind CompletionUsage.totalTokens
              charged := upstream.usage.bind CompletionUsage.totalTokens } rfl tokenless rfl rfl
            (if_neg (by rw [sound]; decide)) rfl

theorem endStream_wrote (index : ℕ) (streamed : Streamed)
    (logged : Except Js.Thrown (List ChatCompletionChunk)) (sound : gateway.world.faults = .none) :
    Wrote gateway.world (gateway.endStream index streamed logged).world []
      (some { call := streamed.call
              logged := (loggedTokens streamed logged).bind CompletionUsage.totalTokens
              charged := chargedTokens streamed logged }) := by
  obtain ⟨readings, events, settles⟩ := settleStream_ok streamed logged gateway.world
    (by rw [sound]; rfl) (by rw [sound]; rfl)
  rw [endStream_world gateway index streamed logged _ settles]
  exact wrote_served gateway.world _ [] (gateway.world.successRow streamed.call
    streamed.providerId streamed.resolvedModel streamed.attempts (loggedTokens streamed logged)) _
    (by simp) (by simp) rfl rfl (if_neg (by rw [sound]; decide)) rfl

theorem step_wrote (event : Event) (sound : gateway.world.faults = .none) :
    Wrote gateway.world (gateway.step event).world (gateway.unserved event)
      (gateway.served event) := by
  cases event with
  | arrive request => exact arrive_wrote gateway request
  | routed index walk =>
      cases found : gateway.routing[index]? with
      | none =>
          simp only [step, unserved, served, found]
          exact wrote_nothing gateway.world _ rfl rfl rfl
      | some call =>
          simp only [step, found]
          exact settleRoute_wrote gateway index call walk found sound
  | consumed index calls =>
      unfold step served unserved
      cases found : gateway.streaming[index]? with
      | none =>
          simp only [found]
          exact wrote_nothing gateway.world _ rfl rfl rfl
      | some streamed =>
          simp only [found, Option.bind_some]
          cases reached : TeeStream.loggedAfter streamed.source calls with
          | none => exact wrote_nothing gateway.world _ rfl rfl rfl
          | some logged => exact endStream_wrote gateway index streamed logged sound

end Gateway

end LlmGateway.Chat
