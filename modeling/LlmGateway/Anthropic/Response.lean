import LlmGateway.Anthropic.StreamAdapter

/-!
The translation of a whole chat completion. `JSON.parse` is a parameter; it is
`none` where it throws.
-/

namespace LlmGateway.Anthropic

/-- A tool call of a message; `custom` stands for one without `function`. -/
inductive MessageToolCall where
  | function (id name arguments : String)
  | custom (id : String)
  deriving DecidableEq, Repr

/-- A missing `tool_calls` has no elements; a `reasoning_content` that is no string is `none`. -/
structure ReasoningChatMessage where
  reasoningContent : Option String
  content : Option String
  toolCalls : List MessageToolCall
  deriving DecidableEq, Repr

structure CompletionChoice where
  message : ReasoningChatMessage
  finishReason : Option String
  deriving DecidableEq, Repr

structure ChatCompletion where
  choices : List CompletionChoice
  usage : Option Chat.CompletionUsage
  deriving DecidableEq, Repr

structure AnthropicMessageResponse where
  id : String
  content : List ResponseBlock
  model : String
  stopReason : Option StopReason
  inputTokens : ℚ
  outputTokens : ℚ

section Translation

variable (parse : String → Option Js.Json)

def toolInput (arguments : String) : Js.Json := (parse arguments).getD (.object [])

def translateToolCall : MessageToolCall → Option ResponseBlock
  | .custom _ => none
  | .function id name arguments => some (.toolUse id name (toolInput parse arguments))

def translateContent (message : ReasoningChatMessage) : List ResponseBlock :=
  (said message.reasoningContent).toList.map (.thinking · "") ++
    ((said message.content).toList.map .text ++
      message.toolCalls.filterMap (translateToolCall parse))

def mapStopReason (reason : Option String) : Option StopReason :=
  if reason = some "stop" then some .endTurn
  else if reason = some "length" then some .maxTokens
  else if reason = some "tool_calls" then some .toolUse
  else if reason = some "content_filter" then some .endTurn
  else if (said reason).isSome then some .endTurn else none

/-- `messageId` is the random id of `generateMessageId`. -/
def translateResponse (messageId : String) (response : ChatCompletion) (requestedModel : String) :
    AnthropicMessageResponse where
  id := messageId
  content := response.choices.head?.elim [] fun choice => translateContent parse choice.message
  model := requestedModel
  stopReason := mapStopReason (response.choices.head?.bind CompletionChoice.finishReason)
  inputTokens := (response.usage.bind Chat.CompletionUsage.promptTokens).getD 0
  outputTokens := (response.usage.bind Chat.CompletionUsage.completionTokens).getD 0

end Translation

theorem mapStopReason_finish (reason : String) (nonempty : reason ≠ "") :
    mapStopReason (some reason) = some (mapFinishReason reason) := by
  unfold mapStopReason mapFinishReason
  have spoken : said (some reason) = some reason :=
    Option.filter_eq_some_iff.mpr ⟨rfl, decide_eq_true nonempty⟩
  rw [spoken]
  simp only [Option.some.injEq, Option.isSome_some, if_true]
  split
  · rfl
  · split
    · rfl
    · split
      · rfl
      · split <;> rfl

end LlmGateway.Anthropic
