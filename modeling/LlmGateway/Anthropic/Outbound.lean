import LlmGateway.Anthropic.Controller
import LlmGateway.Anthropic.Request
import LlmGateway.Chat.Outbound

/-!
`translateRequest` with all its settings, followed by what `callUpstream` makes
of the result: the body that reaches the upstream for a messages request.
-/

namespace LlmGateway.Anthropic

open AnthropicController Chat Js Js.Literal Providers

structure AnthropicTool where
  name : String
  description : Option String
  inputSchema : Json

inductive AnthropicToolChoice where
  | auto
  | any
  | tool (name : String)

structure AnthropicThinking where
  type : String
  budgetTokens : Option ℕ

/-- The fields of the body beside the conversation. A number between 0 and 1 is
kept as the text that prints it. -/
structure AnthropicSettings where
  model : String
  maxTokens : ℕ
  tools : Option (List AnthropicTool)
  toolChoice : Option AnthropicToolChoice
  stream : Option Bool
  temperature : Option Utf16
  topP : Option Utf16
  topK : Option ℕ
  stopSequences : Option (List String)
  /-- `metadata?.user_id`. -/
  userId : Option String
  thinking : Option AnthropicThinking

section Messages

def contentBlockValue : AnthropicContentBlock → Value
  | .text words => object [("type", text "text"), ("text", text words)]
  | .thinking thinking signature => .object (fieldsOf
      [("type", text "thinking"), ("thinking", text thinking), ("signature", signature.map text)])
  | .toolUse id name input =>
      object [("type", text "tool_use"), ("id", text id), ("name", text name),
        ("input", jsonValue (.object input))]
  | .toolResult toolUseId content isError => .object (fieldsOf
      [("type", text "tool_result"), ("tool_use_id", text toolUseId),
        ("content", content.map fun
          | .text words => text words
          | .parts texts =>
              .array (texts.map fun words => object [("type", text "text"), ("text", text words)])),
        ("is_error", isError.map Value.boolean)])
  | .image mediaType data =>
      object [("type", text "image"), ("source", object
        [("type", text "base64"), ("media_type", text mediaType), ("data", text data)])]

def contentPartValue : ContentPart → Value
  | .text words => object [("type", text "text"), ("text", text words)]
  | .imageUrl url =>
      object [("type", text "image_url"), ("image_url", object [("url", text url)])]

def functionCallValue (call : FunctionCall) : Value :=
  object [("id", text call.id), ("type", text "function"),
    ("function", object [("name", text call.name), ("arguments", text call.arguments)])]

/-- A text, or `null`. -/
def orNull (content : Option String) : Value := (content.map text).getD .null

def messageValue : UpstreamMessage → Value
  | .plain role content => object [("role", text role), ("content", orNull content)]
  | .user content =>
      object [("role", text "user"), ("content", .array (content.map contentPartValue))]
  | .tool toolCallId content =>
      object [("role", text "tool"), ("tool_call_id", text toolCallId), ("content", text content)]
  | .assistant message => .object (fieldsOf
      [("role", text "assistant"), ("content", orNull message.content),
        ("reasoning_content", message.reasoningContent.map text),
        ("tool_calls", if message.toolCalls.isEmpty then none
          else some (.array (message.toolCalls.map functionCallValue)))])
  | .passedThrough role content =>
      object [("role", text role), ("content", .array (content.map contentBlockValue))]

end Messages

section Settings

def toolValue (tool : AnthropicTool) : Value :=
  object [("type", text "function"), ("function", .object (fieldsOf
    [("name", text tool.name), ("description", (said tool.description).map text),
      ("parameters", jsonValue tool.inputSchema)]))]

def translateTools (tools : Option (List AnthropicTool)) : Option Value :=
  (tools.filter fun tools => !tools.isEmpty).map fun tools =>
    .array (tools.map toolValue)

def translateToolChoice (choice : Option AnthropicToolChoice) : Option Value :=
  choice.map fun
    | .auto => text "auto"
    | .any => text "required"
    | .tool name =>
        object [("type", text "function"), ("function", object [("name", text name)])]

/-- `adaptive` is written as `enabled`, and a type that is not known is dropped. -/
def translateThinking (thinking : AnthropicThinking) : Option Value :=
  if thinking.type = "enabled" ∨ thinking.type = "adaptive" then
    some (.object (fieldsOf [("type", text "enabled"),
      ("budget_tokens", thinking.budgetTokens.map natural)]))
  else if thinking.type = "disabled" then some thinkingDisabled
  else none

def settingsEntries (settings : AnthropicSettings) : List (String × Option Value) :=
  [("max_tokens", some (natural settings.maxTokens)), ("tools", translateTools settings.tools),
    ("tool_choice", translateToolChoice settings.toolChoice),
    ("temperature", settings.temperature.map Value.number),
    ("top_p", settings.topP.map Value.number),
    ("stop", settings.stopSequences.map fun stops => .array (stops.map text)),
    ("thinking", settings.thinking.bind translateThinking),
    ("stream", if settings.stream = some true then some (.boolean true) else none),
    ("user", (said settings.userId).map text)]

def translateRequest (settings : AnthropicSettings) (body : AnthropicMessagesBody) : Fields :=
  fieldsOf (("model", text settings.model) ::
    ("messages", some (.array ((translateMessages body.messages body.system).map
      messageValue))) ::
    settingsEntries settings)

end Settings

section Contents

theorem schemaPart_fieldsOf (entries : List (String × Option Value)) (names : List String)
    (named : entries.map Prod.fst = names) (distinct : Distinct "text" names)
    (string : ∀ value, (entries.lookup "text").join = some value → ∃ words, value = .string words) :
    SchemaPart (.object (fieldsOf entries)) := by
  refine ⟨_, rfl, fun value found => string value ?_⟩
  rw [← lookup_fieldsOf entries "text" names named distinct]
  exact found

theorem schemaPart_block (block : AnthropicContentBlock) : SchemaPart (contentBlockValue block) := by
  cases block with
  | text words =>
      rw [contentBlockValue, object_eq]
      refine schemaPart_fieldsOf _ ["type", "text"] rfl (by decide +kernel) fun value found => ?_
      cases found
      exact ⟨_, rfl⟩
  | thinking words signature =>
      refine schemaPart_fieldsOf _ ["type", "thinking", "signature"] rfl (by decide +kernel)
        fun value found => ?_
      cases found
  | toolUse id name input =>
      rw [contentBlockValue, object_eq]
      refine schemaPart_fieldsOf _ ["type", "id", "name", "input"] rfl (by decide +kernel)
        fun value found => ?_
      cases found
  | toolResult toolUseId content isError =>
      refine schemaPart_fieldsOf _ ["type", "tool_use_id", "content", "is_error"] rfl
        (by decide +kernel) fun value found => ?_
      cases found
  | image mediaType data =>
      rw [contentBlockValue, object_eq]
      refine schemaPart_fieldsOf _ ["type", "source"] rfl (by decide +kernel) fun value found => ?_
      cases found

theorem schemaPart_part (part : ContentPart) : SchemaPart (contentPartValue part) := by
  cases part with
  | text words =>
      rw [contentPartValue, object_eq]
      refine schemaPart_fieldsOf _ ["type", "text"] rfl (by decide +kernel) fun value found => ?_
      cases found
      exact ⟨_, rfl⟩
  | imageUrl url =>
      rw [contentPartValue, object_eq]
      refine schemaPart_fieldsOf _ ["type", "image_url"] rfl (by decide +kernel)
        fun value found => ?_
      cases found

theorem schemaContent_orNull (content : Option String) : SchemaContent (orNull content) := by
  cases content with
  | none => exact .null
  | some words => exact .text _

theorem schemaContent_parts {Item : Type} (print : Item → Value)
    (valid : ∀ item, SchemaPart (print item)) (items : List Item) :
    SchemaContent (.array (items.map print)) := by
  refine .parts _ fun part member => ?_
  obtain ⟨item, _, rfl⟩ := List.mem_map.mp member
  exact valid item

theorem schemaContent_message (message : UpstreamMessage) :
    SchemaContent (content (messageValue message)) := by
  have read : ∀ entries names, entries.map Prod.fst = names → Distinct "content" names →
      content (.object (fieldsOf entries)) = ((entries.lookup "content").join).getD .undefined := by
    intro entries names named distinct
    exact member_fieldsOf entries "content" names named distinct
  cases message with
  | plain role content =>
      rw [messageValue, object_eq, read _ ["role", "content"] rfl (by decide +kernel)]
      exact schemaContent_orNull content
  | user parts =>
      rw [messageValue, object_eq, read _ ["role", "content"] rfl (by decide +kernel)]
      exact schemaContent_parts contentPartValue schemaPart_part parts
  | tool toolCallId words =>
      rw [messageValue, object_eq, read _ ["role", "tool_call_id", "content"] rfl
        (by decide +kernel)]
      exact .text _
  | assistant message =>
      rw [messageValue, read _ ["role", "content", "reasoning_content", "tool_calls"] rfl
        (by decide +kernel)]
      exact schemaContent_orNull message.content
  | passedThrough role blocks =>
      rw [messageValue, object_eq, read _ ["role", "content"] rfl (by decide +kernel)]
      exact schemaContent_parts contentBlockValue schemaPart_block blocks

end Contents

section Sending

variable (settings : AnthropicSettings) (body : AnthropicMessagesBody) (resolved : ResolvedModel)

def requestNames : List String :=
  ["model", "messages", "max_tokens", "tools", "tool_choice", "temperature", "top_p", "stop",
    "thinking", "stream", "user"]

/-- The conversation as `translateRequest` writes it. -/
def upstreamMessages (body : AnthropicMessagesBody) : List Value :=
  (translateMessages body.messages body.system).map messageValue

structure Forwarded (sent : Fields) : Prop where
  model : sent.lookup (units "model") = some (upstreamModel resolved)
  maxTokens : sent.lookup (units "max_tokens") =
    some (natural (min settings.maxTokens maxTokensCeiling))
  thinking : sent.lookup (units "thinking") = (settings.thinking.bind translateThinking).or
    (if resolved.disableThinking then some thinkingDisabled else none)
  streamOptions : sent.lookup (units "stream_options") =
    if settings.stream = some true then some includeUsage else none
  others : ∀ name ∈ ["tools", "tool_choice", "temperature", "top_p", "stop", "stream", "user"],
    sent.lookup (units name) = ((settingsEntries settings).lookup name).join
  nothingElse : ∀ name, units name ∉ ("stream_options" :: requestNames).map units →
    sent.lookup (units name) = none

theorem lookup_translateRequest (name : String) (distinct : Distinct name requestNames) :
    (translateRequest settings body).lookup (units name) =
      ((("model", some (text settings.model)) ::
        ("messages", some (.array (upstreamMessages body))) ::
        settingsEntries settings).lookup name).join :=
  lookup_fieldsOf _ name requestNames rfl distinct

theorem sendable_translateRequest : Sendable (translateRequest settings body) := by
  intro messages present message member _
  rw [lookup_translateRequest settings body "messages" (by decide +kernel)] at present
  cases present
  obtain ⟨sent, _, rfl⟩ := List.mem_map.mp member
  exact readable_schema _ (schemaContent_message sent)

theorem forwarded (sent : Fields)
    (ready : Prepared resolved (translateRequest settings body) sent) :
    Forwarded settings resolved sent := by
  have read := lookup_translateRequest settings body
  constructor
  · exact ready.model
  · rw [ready.maxTokens, read "max_tokens" (by decide +kernel)]
    exact congrArg some (clamped_natural settings.maxTokens)
  · rw [ready.thinking, read "thinking" (by decide +kernel)]
    rfl
  · rw [ready.streamOptions, read "stream_options" (by decide +kernel), Value.member,
      read "stream" (by decide +kernel)]
    have stream : ((("model", some (text settings.model)) ::
        ("messages", some (.array (upstreamMessages body))) ::
        settingsEntries settings).lookup "stream").join =
          if settings.stream = some true then some (.boolean true) else none := rfl
    rw [stream]
    by_cases streams : settings.stream = some true
    · rw [if_pos streams, if_pos streams]
      rfl
    · rw [if_neg streams, if_neg streams]
      rfl
  · intro name among
    have listed : name ∉ ["model", "messages"] ∧ Distinct name requestNames ∧
        (units name ∉ writtenKeys) := by
      revert name
      decide +kernel
    rw [ready.others _ listed.2.2, read name listed.2.1]
    have model : (name == "model") = false := by simpa using fun same => listed.1 (by simp [same])
    have messages : (name == "messages") = false := by
      simpa using fun same => listed.1 (by simp [same])
    rw [List.lookup_cons, model, List.lookup_cons, messages]
  · intro name unknown
    rw [ready.others]
    · refine lookup_fieldsOf_none _ _ fun other member same => unknown ?_
      rw [same]
      exact List.mem_cons_of_mem _ (List.mem_map_of_mem member)
    · refine fun written => unknown ?_
      have listed : ∀ key ∈ writtenKeys, key ∈ ("stream_options" :: requestNames).map units := by
        decide +kernel
      exact listed _ written

end Sending

/-- A messages request always becomes a body for the upstream: its settings are
there under their upstream names, but for `top_k` and an unknown kind of
thinking, its own bound on the tokens is clamped whatever the registry pins,
thinking is pinned only when the request did not settle it, the usage is asked
for whenever it streams, and one system message at most heads the conversation. -/
theorem messages_sent (settings : AnthropicSettings) (body : AnthropicMessagesBody)
    (resolved : ResolvedModel) :
    ∃ sent merged, outbound resolved (translateRequest settings body) = .ok sent ∧
      Forwarded settings resolved sent ∧
      sent.lookup (units "messages") = some (.array merged) ∧
      Merged (upstreamMessages body) merged := by
  obtain ⟨normalized, returns⟩ := (normalizeBody_returns_iff _).mpr
    (sendable_translateRequest settings body)
  have ready := prepared resolved _ normalized returns
  obtain ⟨merged, sends, merges⟩ := ready.conversation (upstreamMessages body)
    (lookup_translateRequest settings body "messages" (by decide +kernel))
  refine ⟨_, merged, ?_, forwarded settings body resolved _ ready, sends, merges⟩
  rw [outbound, returns]
  rfl

end LlmGateway.Anthropic
