import LlmGateway.Anthropic.MessagesSchema
import LlmGateway.Anthropic.StreamAdapter

/-!
`translateMessages`: the upstream messages of a messages request.
-/

namespace LlmGateway.Anthropic

structure FunctionCall where
  id : String
  name : String
  arguments : String
  deriving DecidableEq, Repr

/-- A missing `tool_calls` has no elements, and an empty list is not written. -/
structure AssistantMessage where
  content : Option String
  reasoningContent : Option String
  toolCalls : List FunctionCall
  deriving DecidableEq, Repr

inductive ContentPart where
  | text (text : String)
  | imageUrl (url : String)
  deriving DecidableEq, Repr

inductive UpstreamMessage where
  /-- A role with a text or `null`. -/
  | plain (role : String) (content : Option String)
  | user (content : List ContentPart)
  | tool (toolCallId content : String)
  | assistant (message : AssistantMessage)
  /-- An unknown role with its blocks as they are. -/
  | passedThrough (role : String) (content : List AnthropicContentBlock)

namespace AnthropicContentBlock

def text? : AnthropicContentBlock → Option String
  | .text words => some words
  | _ => none

def thinking? : AnthropicContentBlock → Option String
  | .thinking words _ => some words
  | _ => none

def toolCall? : AnthropicContentBlock → Option FunctionCall
  | .toolUse id name input => some ⟨id, name, (Js.Json.object input).stringify⟩
  | _ => none

def toolResult? : AnthropicContentBlock → Option UpstreamMessage
  | .toolResult toolUseId content _ => some (.tool toolUseId (content.elim "" fun
      | .text words => words
      | .parts texts => String.join texts))
  | _ => none

def imagePart? : AnthropicContentBlock → Option ContentPart
  | .image mediaType data => some (.imageUrl ("data:" ++ mediaType ++ ";base64," ++ data))
  | _ => none

end AnthropicContentBlock

open AnthropicContentBlock

def systemMessages (system : Option MessageContent) : List UpstreamMessage :=
  let text := system.map fun
    | .text words => words
    | .blocks blocks => "\n\n".intercalate (blocks.filterMap text?)
  (said text).toList.map fun words => .plain "system" (some words)

def translateUser (content : List AnthropicContentBlock) : List UpstreamMessage :=
  let rest := content.filter fun block => (toolResult? block).isNone
  content.filterMap toolResult? ++
    if rest.isEmpty then []
    else match (rest.filterMap text?).map ContentPart.text ++ rest.filterMap imagePart? with
      | [.text words] => [.plain "user" (some words)]
      | parts => [.user parts]

def translateAssistant (content : List AnthropicContentBlock) : AssistantMessage where
  content := said (some (String.join (content.filterMap text?)))
  reasoningContent := said (some (String.join (content.filterMap thinking?)))
  toolCalls := content.filterMap toolCall?

def translateMessage (message : AnthropicMessage) : List UpstreamMessage :=
  match message.content with
  | none => [.plain message.role none]
  | some (.text words) => [.plain message.role (some words)]
  | some (.blocks content) =>
      if message.role = "user" then translateUser content
      else if message.role ≠ "assistant" then [.passedThrough message.role content]
      else [.assistant (translateAssistant content)]

def translateMessages (messages : List AnthropicMessage) (system : Option MessageContent) :
    List UpstreamMessage :=
  systemMessages system ++ messages.flatMap translateMessage

end LlmGateway.Anthropic
