import LlmGateway.Anthropic.Controller
import LlmGateway.Chat.Controller

/-!
One error, four surfaces: the two protocols, each streamed and buffered. What
a client is told does not depend on the surface, but a stream that fails for
another reason than a refusal keeps the status of what is served.
-/

namespace LlmGateway.Surfaces

open AnthropicController ChatController EventReply EventStream HttpReply Js Js.Literal Refusals

structure Replies where
  completionsStream : Reply
  completionsBuffered : Reply
  messagesStream : Reply
  messagesBuffered : Reply

def repliesTo (served : ℕ) (nowMs : ℤ) (caught : Caught) : Replies where
  completionsStream := streamCompletions served nowMs [] (some caught)
  completionsBuffered := bufferedCompletions served nowMs (.error caught)
  messagesStream := AnthropicController.streamMessages served nowMs [] (some caught)
  messagesBuffered := bufferedMessages served nowMs (.error caught)

/-- The status and the `Retry-After` of a head that went out. -/
def answered (head : Head) : ℕ × Option String :=
  (head.statusCode, head.headers.lookup "Retry-After")

def streamedStatus (served : ℕ) : Caught → ℕ
  | .quotaExhausted _ => 429
  | .aliasNotPermitted _ => 403
  | .other _ _ => served

def bufferedStatus : Caught → ℕ
  | .quotaExhausted _ => 429
  | .aliasNotPermitted _ => 403
  | .other _ _ => 500

def retryAfterOf (nowMs : ℤ) : Caught → Option String
  | .quotaExhausted detail => some (toString (detail.retryAfterSeconds nowMs))
  | .aliasNotPermitted _ => none
  | .other _ _ => none

/-- `body.error.message`. -/
def messageOf (body : Value) : Value := (body.member (units "error")).member (units "message")

theorem messages_agree (caught : Caught) :
    messageOf caught.openAiBody = messageOf caught.anthropicBody := by
  have type : (units "error" == units "type") = false := by decide +kernel
  have message : (units "message" == units "type") = false := by decide +kernel
  cases caught <;>
    simp only [messageOf, Caught.openAiBody, Caught.anthropicBody, openAiQuotaErrorBody,
      openAiAliasForbiddenBody, anthropicQuotaErrorBody, anthropicAliasForbiddenBody,
      anthropicErrorBody, object, List.map_cons, List.map_nil, Value.member, List.lookup_cons, type,
      message, beq_self_eq_true, Option.getD_some]

theorem answered_opening (served : ℕ) (nowMs : ℤ) (caught : Caught) :
    answered (openingHead served nowMs (some caught)) =
      (streamedStatus served caught, retryAfterOf nowMs caught) := by
  have quiet : (openEventStream served).header "Retry-After" = none := rfl
  cases caught with
  | quotaExhausted detail =>
      exact Prod.ext rfl (Reply.header_setHeader_self ((openEventStream served).setStatusCode 429) _ _)
  | aliasNotPermitted aliasKey => exact Prod.ext rfl quiet
  | other message plain => exact Prod.ext rfl quiet

theorem answered_send (served statusCode : ℕ) (nowMs : ℤ) (caught : Caught) (value : Value) :
    (send (retryAfter nowMs caught) value
      ((Reply.fresh served).setStatusCode statusCode)).sent.map answered =
        some (statusCode, retryAfterOf nowMs caught) := by
  have apart : "Retry-After" ≠ "content-type" := by decide
  cases caught with
  | quotaExhausted detail =>
      have kept := Reply.header_setHeader_ne
        (setHeaders (retryAfter nowMs (.quotaExhausted detail))
          ((Reply.fresh served).setStatusCode statusCode)) "content-type"
        "application/json; charset=utf-8" "Retry-After" apart
      exact congrArg some (Prod.ext rfl (kept.trans (Reply.header_setHeader_self _ _ _)))
  | aliasNotPermitted aliasKey => rfl
  | other message plain => rfl

theorem buffered_bodies (served : ℕ) (nowMs : ℤ) (caught : Caught) :
    (repliesTo served nowMs caught).completionsBuffered.written = [stringify caught.openAiBody] ∧
      (repliesTo served nowMs caught).messagesBuffered.written = [stringify caught.anthropicBody] := by
  cases caught <;> exact ⟨rfl, rfl⟩

theorem buffered_answered (served : ℕ) (nowMs : ℤ) (caught : Caught) :
    (repliesTo served nowMs caught).completionsBuffered.sent.map answered =
        some (bufferedStatus caught, retryAfterOf nowMs caught) ∧
      (repliesTo served nowMs caught).messagesBuffered.sent.map answered =
        some (bufferedStatus caught, retryAfterOf nowMs caught) := by
  cases caught with
  | quotaExhausted detail =>
      exact ⟨answered_send served 429 nowMs (.quotaExhausted detail) _,
        answered_send served 429 nowMs (.quotaExhausted detail) _⟩
  | aliasNotPermitted aliasKey =>
      exact ⟨answered_send served 403 nowMs (.aliasNotPermitted aliasKey) _,
        answered_send served 403 nowMs (.aliasNotPermitted aliasKey) _⟩
  | other message plain =>
      exact ⟨answered_send served 500 nowMs (.other message plain) _,
        answered_send served 500 nowMs (.other message plain) _⟩

/-- The stream of either protocol delivers as its only event what the buffered
answer has as its body, both protocols give the same message, and all four
answers carry the same `Retry-After`. A refusal has the same status on all of
them, while any other failure is a 500 that a stream cannot tell. -/
theorem surfaces_agree (served : ℕ) (nowMs : ℤ) (caught : Caught) :
    (repliesTo served nowMs caught).completionsStream.sent.map answered =
        some (streamedStatus served caught, retryAfterOf nowMs caught) ∧
      (repliesTo served nowMs caught).messagesStream.sent.map answered =
        some (streamedStatus served caught, retryAfterOf nowMs caught) ∧
      (repliesTo served nowMs caught).completionsBuffered.sent.map answered =
        some (bufferedStatus caught, retryAfterOf nowMs caught) ∧
      (repliesTo served nowMs caught).messagesBuffered.sent.map answered =
        some (bufferedStatus caught, retryAfterOf nowMs caught) ∧
      Delivers (repliesTo served nowMs caught).completionsStream
        ((repliesTo served nowMs caught).completionsBuffered.written.map dataMessage) ∧
      Delivers (repliesTo served nowMs caught).messagesStream
        ((repliesTo served nowMs caught).messagesBuffered.written.map fun body =>
          { type := units "error", data := body }) ∧
      messageOf caught.openAiBody = messageOf caught.anthropicBody := by
  have opening := congrArg some (answered_opening served nowMs caught)
  obtain ⟨completions, messages⟩ := buffered_bodies served nowMs caught
  obtain ⟨first, second⟩ := buffered_answered served nowMs caught
  refine ⟨?_, ?_, first, second, ?_, ?_, messages_agree caught⟩
  · exact (congrArg (Option.map answered)
      (ChatController.stream_sent served nowMs [] (some caught))).trans opening
  · exact (congrArg (Option.map answered)
      (AnthropicController.stream_sent served nowMs [] (some caught))).trans opening
  · rw [completions]
    exact ChatController.stream_delivers served nowMs [] (some caught) fun _ member =>
      absurd member List.not_mem_nil
  · rw [messages]
    exact AnthropicController.stream_delivers served nowMs [] (some caught) fun _ member =>
      absurd member List.not_mem_nil

end LlmGateway.Surfaces
