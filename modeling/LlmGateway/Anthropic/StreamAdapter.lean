import Mathlib.Data.List.AList
import LlmGateway.Chat.Tokens
import LlmGateway.Lib.Blocks
import LlmGateway.Lib.JsValue

/-!
The adapter from a stream of chat completion chunks to Anthropic stream
events. Its state machine is run over the whole source; the events yielded so
far are a part of the state.
-/

namespace LlmGateway.Anthropic

open Blocks

structure FunctionFragment where
  name : Option String
  arguments : Option String
  deriving DecidableEq, Repr

/-- An element of `delta.tool_calls`; a missing or `null` field is `none`. -/
structure ToolCallFragment where
  index : Option ℤ
  id : Option String
  function : Option FunctionFragment
  deriving DecidableEq, Repr

/-- A missing delta has no fields, a missing `tool_calls` no elements. -/
structure ChunkDelta where
  reasoningContent : Option String
  content : Option String
  toolCalls : List ToolCallFragment
  deriving DecidableEq, Repr

structure ChunkChoice where
  delta : ChunkDelta
  finishReason : Option String
  deriving DecidableEq, Repr

structure ChatCompletionChunk where
  choices : List ChunkChoice
  usage : Option Chat.CompletionUsage
  deriving DecidableEq, Repr

/-- `AnthropicResponseBlock`. -/
inductive ResponseBlock where
  | text (text : String)
  | thinking (thinking signature : String)
  | toolUse (id name : String) (input : Js.Json)

inductive ContentDelta where
  | text (text : String)
  | thinking (thinking : String)
  | inputJson (partialJson : String)
  deriving DecidableEq, Repr

inductive StopReason where
  | endTurn
  | maxTokens
  | stopSequence
  | toolUse
  deriving DecidableEq, Repr

/-- The fields of `message_start` that are not constant. -/
structure MessageHeader where
  id : String
  model : String
  deriving DecidableEq, Repr

/-- The events that the adapter yields; the three `content_block` events are
those of a block stream. -/
inductive StreamEvent where
  | messageStart (message : MessageHeader)
  | ping
  | contentBlock (event : Event ResponseBlock ContentDelta)
  | messageDelta (stopReason : StopReason) (outputTokens : ℚ)
  | messageStop

inductive StreamState where
  | waiting
  | inThinking
  | inText
  | inToolUse
  | closed
  deriving DecidableEq, Repr

structure ToolCallAccumulator where
  id : String
  name : String
  arguments : String
  deriving DecidableEq, Repr

structure Adapter where
  state : StreamState
  blockIndex : ℕ
  currentToolIndex : ℤ
  toolCalls : AList fun _ : ℤ => ToolCallAccumulator
  outputTokens : ℚ
  pingSent : Bool
  events : List StreamEvent

/-- A string that converts to `true`: neither absent nor empty. -/
def said (value : Option String) : Option String := value.filter (· ≠ "")

namespace ToolCallFragment

/-- `tc.index ?? 0`. -/
def key (fragment : ToolCallFragment) : ℤ := fragment.index.getD 0

def name (fragment : ToolCallFragment) : Option String := fragment.function.bind FunctionFragment.name

def arguments (fragment : ToolCallFragment) : Option String :=
  fragment.function.bind FunctionFragment.arguments

end ToolCallFragment

/-- ``toolu_${Date.now()}``. -/
def generatedId (now : ℕ → ℕ) (blockIndex : ℕ) : String := "toolu_" ++ toString (now blockIndex)

def mapFinishReason (reason : String) : StopReason :=
  if reason = "stop" then .endTurn
  else if reason = "length" then .maxTokens
  else if reason = "tool_calls" then .toolUse
  else .endTurn

namespace Adapter

def initial : Adapter where
  state := .waiting
  blockIndex := 0
  currentToolIndex := -1
  toolCalls := ∅
  outputTokens := 0
  pingSent := false
  events := []

section Yields

variable (adapter : Adapter)

def emit (event : StreamEvent) : Adapter := { adapter with events := adapter.events ++ [event] }

def emitContentBlockStart (block : ResponseBlock) : Adapter :=
  adapter.emit (.contentBlock (.start adapter.blockIndex block))

def emitDelta (delta : ContentDelta) : Adapter :=
  adapter.emit (.contentBlock (.delta adapter.blockIndex delta))

def emitPing : Adapter :=
  if adapter.pingSent then adapter else { adapter.emit .ping with pingSent := true }

def enter (state : StreamState) : Adapter := { adapter with state := state }

def nextBlock : Adapter :=
  { adapter.emit (.contentBlock (.stop adapter.blockIndex)) with
    blockIndex := adapter.blockIndex + 1 }

end Yields

section Chunks

variable (message : MessageHeader) (now : ℕ → ℕ) (adapter : Adapter)

def onReasoning (reasoning : String) : Adapter :=
  let adapter := match adapter.state with
    | .waiting => ((adapter.emit (.messageStart message)).emitContentBlockStart
        (.thinking "" "")).emitPing.enter .inThinking
    | .inText | .inToolUse =>
        (adapter.nextBlock.enter .inThinking).emitContentBlockStart (.thinking "" "")
    | .inThinking | .closed => adapter
  if adapter.state = .inThinking then adapter.emitDelta (.thinking reasoning) else adapter

def onContent (content : String) : Adapter :=
  let adapter := match adapter.state with
    | .waiting => ((adapter.emit (.messageStart message)).emitContentBlockStart
        (.text "")).emitPing.enter .inText
    | .inThinking => (adapter.nextBlock.enter .inText).emitContentBlockStart (.text "")
    | .inText | .inToolUse | .closed => adapter
  if adapter.state = .inText then adapter.emitDelta (.text content) else adapter

def openToolUse (fragment : ToolCallFragment) : Adapter :=
  let id := fragment.id.getD (generatedId now adapter.blockIndex)
  let name := fragment.name.getD ""
  { adapter with
    currentToolIndex := fragment.key
    toolCalls := adapter.toolCalls.insert fragment.key ⟨id, name, ""⟩ }.emitContentBlockStart
      (.toolUse id name (.object []))

def accumulate (fragment : ToolCallFragment) : Adapter :=
  match adapter.toolCalls.lookup fragment.key, said fragment.arguments with
  | some existing, some arguments =>
      { adapter with
        toolCalls := adapter.toolCalls.insert fragment.key
          { id := (said fragment.id).elim existing.id fun id =>
              if existing.id.startsWith "toolu_" then existing.id else id
            name := (said fragment.name).elim existing.name fun name =>
              if existing.name = "" then name else existing.name
            arguments := existing.arguments ++ arguments } }.emitDelta (.inputJson arguments)
  | _, _ => adapter

/-- One round of the loop over `delta.tool_calls`. -/
def onToolCall (fragment : ToolCallFragment) : Adapter :=
  let adapter := match adapter.state with
    | .waiting => (((adapter.emit (.messageStart message)).emitPing).enter
        .inToolUse).openToolUse now fragment
    | .inText | .inThinking => (adapter.nextBlock.enter .inToolUse).openToolUse now fragment
    | .inToolUse =>
        if fragment.key ≠ adapter.currentToolIndex then adapter.nextBlock.openToolUse now fragment
        else adapter
    | .closed => adapter
  adapter.accumulate fragment

def onFinish (reason : String) : Adapter :=
  match adapter.state with
  | .closed => adapter
  | .waiting => ((((adapter.emit (.messageStart message)).emitPing).emit
      (.messageDelta (mapFinishReason reason) adapter.outputTokens)).emit .messageStop).enter .closed
  | .inThinking | .inText | .inToolUse =>
      (((adapter.emit (.contentBlock (.stop adapter.blockIndex))).emit
        (.messageDelta (mapFinishReason reason) adapter.outputTokens)).emit .messageStop).enter
        .closed

def onUsage (usage : Option Chat.CompletionUsage) : Adapter :=
  match usage.bind Chat.CompletionUsage.completionTokens with
  | none => adapter
  | some tokens => if tokens = 0 then adapter else { adapter with outputTokens := tokens }

def processChunk (chunk : ChatCompletionChunk) : Adapter :=
  let adapter := adapter.onUsage chunk.usage
  match chunk.choices.head? with
  | none => adapter
  | some choice =>
      let adapter := (said choice.delta.reasoningContent).elim adapter (adapter.onReasoning message)
      let adapter := (said choice.delta.content).elim adapter (adapter.onContent message)
      let adapter := choice.delta.toolCalls.foldl (onToolCall message now) adapter
      (said choice.finishReason).elim adapter (adapter.onFinish message)

def endOfSource : Adapter :=
  match adapter.state with
  | .closed => adapter
  | .waiting => ((adapter.emit (.messageStart message)).emit
      (.messageDelta .endTurn adapter.outputTokens)).emit .messageStop
  | .inThinking | .inText | .inToolUse =>
      ((adapter.emit (.contentBlock (.stop adapter.blockIndex))).emit
        (.messageDelta .endTurn adapter.outputTokens)).emit .messageStop

end Chunks

end Adapter

/-- `now k` is the reading of `Date.now()` at the opening of block `k`. -/
def createStreamAdapter (message : MessageHeader) (now : ℕ → ℕ)
    (source : List ChatCompletionChunk) : List StreamEvent :=
  ((source.foldl (Adapter.processChunk message now) Adapter.initial).endOfSource message).events

end LlmGateway.Anthropic
