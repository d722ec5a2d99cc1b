import LlmGateway.Lib.Schema

/-!
`AnthropicMessagesSchema`: what a messages request has to look like. Of the
parsed body the model keeps the fields from which the upstream messages are made.
-/

namespace LlmGateway.Anthropic

open Schema

inductive ToolResultContent where
  | text (text : String)
  /-- The texts of an array of text blocks. -/
  | parts (texts : List String)
  deriving DecidableEq, Repr

inductive AnthropicContentBlock where
  | text (text : String)
  | thinking (thinking : String) (signature : Option String)
  | toolUse (id name : String) (input : List (String × Js.Json))
  | toolResult (toolUseId : String) (content : Option ToolResultContent) (isError : Option Bool)
  | image (mediaType data : String)

inductive MessageContent where
  | text (text : String)
  | blocks (blocks : List AnthropicContentBlock)

/-- A `null` content is read as a missing one. -/
structure AnthropicMessage where
  role : String
  content : Option MessageContent

structure AnthropicMessagesBody where
  system : Option MessageContent
  messages : List AnthropicMessage

section Blocks

variable (copied : String → Bool)

def textBlock : Schema String := fun value => do
  let fields ← object value
  let _ ← required (literal "text") fields "type"
  required string fields "text"

def thinkingBlock : Schema AnthropicContentBlock := fun value => do
  let fields ← object value
  let _ ← required (literal "thinking") fields "type"
  let thinking ← required string fields "thinking"
  let signature ← optional string fields "signature"
  some (.thinking thinking signature)

def toolUseBlock : Schema AnthropicContentBlock := fun value => do
  let fields ← object value
  let _ ← required (literal "tool_use") fields "type"
  let id ← required string fields "id"
  let name ← required string fields "name"
  let input ← required (record copied) fields "input"
  some (.toolUse id name input)

def toolResultContent : Schema ToolResultContent :=
  union (fun value => (string value).map .text) fun value => (array textBlock value).map .parts

def toolResultBlock : Schema AnthropicContentBlock := fun value => do
  let fields ← object value
  let _ ← required (literal "tool_result") fields "type"
  let toolUseId ← required string fields "tool_use_id"
  let content ← optional toolResultContent fields "content"
  let isError ← optional boolean fields "is_error"
  some (.toolResult toolUseId content isError)

def imageBlock : Schema AnthropicContentBlock := fun value => do
  let fields ← object value
  let _ ← required (literal "image") fields "type"
  let source ← required object fields "source"
  let _ ← required (literal "base64") source "type"
  let mediaType ← required string source "media_type"
  let data ← required string source "data"
  some (.image mediaType data)

def contentBlock : Schema AnthropicContentBlock :=
  union (fun value => (textBlock value).map .text)
    (union thinkingBlock (union (toolUseBlock copied) (union toolResultBlock imageBlock)))

def messageContent : Schema MessageContent :=
  union (fun value => (string value).map .text)
    fun value => (array (contentBlock copied) value).map .blocks

def messageSchema : Schema AnthropicMessage := fun value => do
  let fields ← object value
  let role ← required string fields "role"
  let content ← optional (nullable (messageContent copied)) fields "content"
  some ⟨role, content.join⟩

end Blocks

section Settings

variable (copied : String → Bool)

/-- `.int().positive()`; an integer of the schema is a safe one. -/
def positiveInt : Schema ℚ :=
  refine number fun value => value.den = 1 ∧ 0 < value.num ∧ value.num ≤ 9007199254740991

def unitInterval : Schema ℚ := refine number fun value => 0 ≤ value ∧ value ≤ 1

def tool : Schema Unit := fun value => do
  let fields ← object value
  let _ ← required string fields "name"
  let _ ← optional string fields "description"
  let _ ← required (record copied) fields "input_schema"
  some ()

def toolChoice : Schema Unit := fun value => do
  let fields ← object value
  (required (literal "auto") fields "type").or ((required (literal "any") fields "type").or do
    let _ ← required (literal "tool") fields "type"
    let _ ← required string fields "name"
    some ())

def metadata : Schema Unit := fun value => do
  let fields ← object value
  let _ ← optional string fields "user_id"
  some ()

def thinking : Schema Unit := fun value => do
  let fields ← object value
  let _ ← required string fields "type"
  let _ ← optional positiveInt fields "budget_tokens"
  some ()

/-- All fields of the schema but `messages`; the value is `system`. -/
def settingsSchema (fields : List (String × Js.Json)) : Option (Option MessageContent) := do
  let _ ← required (refine string (· ≠ "")) fields "model"
  let _ ← required positiveInt fields "max_tokens"
  let system ← optional (messageContent copied) fields "system"
  let _ ← optional (array (tool copied)) fields "tools"
  let _ ← optional toolChoice fields "tool_choice"
  let _ ← optional boolean fields "stream"
  let _ ← optional unitInterval fields "temperature"
  let _ ← optional unitInterval fields "top_p"
  let _ ← optional positiveInt fields "top_k"
  let _ ← optional (array string) fields "stop_sequences"
  let _ ← optional metadata fields "metadata"
  let _ ← optional thinking fields "thinking"
  some system

def anthropicMessagesSchema : Schema AnthropicMessagesBody := fun value => do
  let fields ← object value
  let system ← settingsSchema copied fields
  let messages ← required (refine (array (messageSchema copied)) fun messages => !messages.isEmpty)
    fields "messages"
  some ⟨system, messages⟩

end Settings

end LlmGateway.Anthropic
