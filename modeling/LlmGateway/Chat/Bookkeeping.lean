import LlmGateway.Chat.Outcomes

/-!
Bookkeeping after an upstream success. On a stream a handler that throws is
followed by a tail that accounts in its place; on a buffered result it lands in
the `catch` of the request, which answers with an error and accounts nothing.
-/

namespace LlmGateway.Chat

open Effects Observability Providers Quota Routing

/-- Between the two worlds `recordUsage` was called once, for the served alias. -/
def AccountedOnce (call : Call) (before after : World) : Prop :=
  ∃ accounted, after.usageCalls = before.usageCalls ++ [accounted] ∧
    accounted.servedAlias = call.target ∧ accounted.clientId = call.request.clientId

def BufferedKept (call : Call) (world : World) (upstream : ChatCompletion) :
    EStateM.Result ChatError World Response → Prop
  | .ok (.buffered result) after => result = upstream ∧ AccountedOnce call world after
  | _ => False

/-- A stream is returned untouched, and however the consumer drives it to an
end, it sees what the source gives, `logged` settles and the handlers account. -/
def StreamKept (call : Call) (world : World) (source : StreamSource) :
    EStateM.Result ChatError World Response → Prop
  | .ok (.streaming streamed) after =>
      streamed.source = source ∧ after.usageCalls = world.usageCalls ∧
      ∀ calls, TeeStream.DrivenToEnd source calls →
        (TeeStream.drive source (TeeStream.start source) calls).1 =
          TeeStream.plain source (TeeStream.start source).inner calls ∧
        ∃ logged, TeeStream.loggedAfter source calls = some logged ∧
          ∀ later, ∃ settled, settleStream streamed logged later = .ok () settled ∧
            AccountedOnce call later settled
  | _ => False

/-- What the claimed bookkeeping rule asks of a call whose upstream succeeded. -/
def SuccessKept (call : Call) (walk : Walk CompletionResult) (world : World)
    (r : RouteResult CompletionResult) : Prop :=
  match r.result with
  | .completion upstream => BufferedKept call world upstream (answer call walk world)
  | .stream source => StreamKept call world source (answer call walk world)

def BookkeepingSafe (faults : Faults) (r : RouteResult CompletionResult) : Prop :=
  (∃ source, r.result = .stream source) ∨ (faults.recordSuccess = none ∧ faults.logRequest = none)

section Accounting

variable (call : Call) (walk : Walk CompletionResult) (world : World)
  (r : RouteResult CompletionResult)

theorem settleStream_accounts (streamed : Streamed)
    (logged : Except Js.Thrown (List ChatCompletionChunk)) :
    ∃ settled, settleStream streamed logged world = .ok () settled ∧
      AccountedOnce streamed.call world settled := by
  obtain ⟨settled, charged, written, settles, accounted, _⟩ :=
    settleStream_spec streamed logged world
  exact ⟨settled, settles, _, accounted, rfl, rfl⟩

theorem stream_kept (source : StreamSource) (routed : routedBy call walk = .ok r)
    (streams : r.result = .stream source) :
    StreamKept call world source (answer call walk world) := by
  rw [answer_stream call walk r world source routed streams]
  refine ⟨rfl, rfl, fun calls driven => ⟨TeeStream.drive_transparent _ _ calls, ?_⟩⟩
  obtain ⟨logged, settled⟩ :=
    Option.isSome_iff_exists.mp ((TeeStream.logged_settles_iff source calls).mpr driven)
  exact ⟨logged, settled, fun later => settleStream_accounts later _ logged⟩

theorem buffered_kept_iff (upstream : ChatCompletion) (routed : routedBy call walk = .ok r)
    (buffers : r.result = .completion upstream) :
    BufferedKept call world upstream (answer call walk world) ↔
      world.faults.recordSuccess = none ∧ world.faults.logRequest = none := by
  constructor
  · intro kept
    -- A throw on this path reaches the `catch` of the request, which answers an error.
    by_contra faulty
    obtain ⟨thrown, after, written, error, fails, _⟩ :=
      answer_buffered_throws call walk r world upstream routed buffers (not_and_or.mp faulty)
    rw [fails] at kept
    exact kept
  · rintro ⟨row, event⟩
    obtain ⟨readings, events, returns⟩ :=
      answer_buffered call walk r world upstream routed buffers row event
    rw [returns]
    exact ⟨rfl, _, rfl, rfl, rfl⟩

end Accounting

/-- A call whose upstream succeeds is answered with the upstream result and
accounted exactly once, whatever throws, exactly when the bookkeeping is safe. -/
theorem success_kept_iff (call : Call) (walk : Walk CompletionResult) (world : World) :
    (∀ r, routedBy call walk = .ok r → SuccessKept call walk world r) ↔
      ∀ r, routedBy call walk = .ok r → BookkeepingSafe world.faults r := by
  refine forall_congr' fun r => forall_congr' fun routed => ?_
  unfold SuccessKept BookkeepingSafe
  cases result : r.result with
  | completion upstream => simp [buffered_kept_iff call walk world r upstream routed result]
  | stream source => simp [stream_kept call walk world r source routed result]

section Example

def exampleRequest : Request where
  body := { model := "codex", messages := some [.string "hi"] }
  clientId := some QuotaStore.exampleClient

def exampleModel : ResolvedModel where
  requestedAs := "codex"
  providerId := "nan"
  modelKey := "qwen"
  upstreamModel := some "qwen3"
  apiKey := "key"
  baseURL := "https://api.openai.com/v1"
  maxTokens := none
  disableThinking := false
  supportsStream := true
  timeoutMs := 1000
  priority := 0

def exampleCall : Call where
  request := exampleRequest
  requestedAt := 0
  quotaOutcome := { servedAlias := "codex", divertedFrom := none }
  chain := .ok [exampleModel]

def exampleCompletion : ChatCompletion where
  id := "c1"
  usage := some { promptTokens := some 3, completionTokens := some 4, totalTokens := some 7 }

def answering (result : CompletionResult) : Walk CompletionResult where
  order := [0]
  trial := fun _ _ => .succeeded result
  durationMs := fun _ => 0

/-- One provider behind the aliases `codex`, `slave` and `default`. -/
def exampleRegistry : ProviderRegistry where
  providers := (∅ : AList fun _ : String => ProviderRow).insert "nan"
    { apiKeyEnv := "NAN_KEY", baseUrl := none, timeoutMs := none }
  models := (∅ : AList fun _ : String × String => ModelConfig).insert ("nan", "qwen")
    { real := "qwen3", maxTokens := none, supportsStream := true, disableThinking := false }
  aliasEntries := ["codex", "slave", "default"].map fun aliasName =>
    { aliasName, position := 0, providerId := "nan", modelKey := "qwen", priority := 0 }
  requestTimeoutMs := 1000

def exampleEnvironment : Environment where
  env := fun name => if name = "NAN_KEY" then some "key" else none
  providerBaseUrl := none

def exampleWorld : World where
  clock := fun _ => 0
  readings := 0
  access := []
  registry := exampleRegistry
  environment := exampleEnvironment
  quotas := .empty
  requestLogs := []
  events := []
  faults := .none
  consulted := []
  usageCalls := []
  upstreamCalls := []

def brokenLog : World :=
  { exampleWorld with
    faults :=
      { Faults.none with
        logRequest := some (.error "TypeError" "Converting circular structure to JSON") } }

end Example

theorem broken_log_loses_result :
    ¬ ∀ (call : Call) (walk : Walk CompletionResult) (world : World)
      (r : RouteResult CompletionResult), routedBy call walk = .ok r →
        SuccessKept call walk world r := by
  intro claimed
  have kept := claimed exampleCall (answering (.completion exampleCompletion)) brokenLog
    { result := .completion exampleCompletion, providerId := "nan"
      attempts := [{ providerId := "nan", upstreamModel := some "qwen3", durationMs := 0
                     failure := none }] } rfl
  exact kept

end LlmGateway.Chat
