import LlmGateway.Access.EventReply
import LlmGateway.Anthropic.Grammar

/-!
`AnthropicController.messages` on both of its transports, behind the validation
of the body. On the stream the events of the adapter are written as they come,
under their own event names, so a source that fails has sent what its chunks
had led to.
-/

namespace LlmGateway.AnthropicController

open Anthropic Blocks EventReply EventStream HttpReply Js Js.Literal Quota Refusals

mutual

def jsonValue : Json → Value
  | .null => .null
  | .boolean value => .boolean value
  | .number printed => .number (units printed)
  | .string value => text value
  | .array items => .array (jsonItems items)
  | .object fields => .object (jsonFields fields)

def jsonItems : List Json → List Value
  | [] => []
  | item :: rest => jsonValue item :: jsonItems rest

def jsonFields : List (String × Json) → List (Utf16 × Value)
  | [] => []
  | (key, value) :: rest => (units key, jsonValue value) :: jsonFields rest

end

section Events

def blockValue : ResponseBlock → Value
  | .text content => object [("type", text "text"), ("text", text content)]
  | .thinking thinking signature =>
      object [("type", text "thinking"), ("thinking", text thinking), ("signature", text signature)]
  | .toolUse id name input =>
      object [("type", text "tool_use"), ("id", text id), ("name", text name),
        ("input", jsonValue input)]

def deltaValue : ContentDelta → Value
  | .text content => object [("type", text "text_delta"), ("text", text content)]
  | .thinking thinking => object [("type", text "thinking_delta"), ("thinking", text thinking)]
  | .inputJson partialJson =>
      object [("type", text "input_json_delta"), ("partial_json", text partialJson)]

def stopReasonText : StopReason → String
  | .endTurn => "end_turn"
  | .maxTokens => "max_tokens"
  | .stopSequence => "stop_sequence"
  | .toolUse => "tool_use"

/-- `event.type`. -/
def eventType : StreamEvent → String
  | .messageStart _ => "message_start"
  | .ping => "ping"
  | .contentBlock (.start _ _) => "content_block_start"
  | .contentBlock (.delta _ _) => "content_block_delta"
  | .contentBlock (.stop _) => "content_block_stop"
  | .messageDelta _ _ => "message_delta"
  | .messageStop => "message_stop"

def eventFields : StreamEvent → List (String × Value)
  | .messageStart message =>
      [("message", object
        [("id", text message.id), ("type", text "message"), ("role", text "assistant"),
          ("content", .array []), ("model", text message.model), ("stop_reason", .null),
          ("stop_sequence", .null),
          ("usage", object [("input_tokens", integer 0), ("output_tokens", integer 0)])])]
  | .ping => []
  | .contentBlock (.start index block) =>
      [("index", integer index), ("content_block", blockValue block)]
  | .contentBlock (.delta index delta) => [("index", integer index), ("delta", deltaValue delta)]
  | .contentBlock (.stop index) => [("index", integer index)]
  | .messageDelta reason outputTokens =>
      [("delta", object [("stop_reason", text (stopReasonText reason)), ("stop_sequence", .null)]),
        ("usage", object [("output_tokens", .number (units (Chat.countText outputTokens)))])]
  | .messageStop => []

def eventValue (event : StreamEvent) : Value :=
  object (("type", text (eventType event)) :: eventFields event)

def yielded (message : MessageHeader) (now : ℕ → ℕ) (source : List ChatCompletionChunk)
    (failure : Option Caught) : List StreamEvent :=
  match failure with
  | none => createStreamAdapter message now source
  | some _ => (source.foldl (Adapter.processChunk message now) Adapter.initial).events

end Events

section Replies

def eventTexts (type : String) (value : Value) : List Utf16 :=
  [units "event: " ++ units type ++ units "\n",
    units "data: " ++ stringify value ++ units "\n\n"]

def writeQuotaErrorFrame (nowMs : ℤ) (detail : QuotaExhaustedDetail) (reply : Reply) : Reply :=
  writeErrorFrame 429 (retryAfter nowMs (.quotaExhausted detail))
    (eventTexts "error" (anthropicQuotaErrorBody detail)) reply

def writeAliasForbiddenFrame (aliasKey : String) (reply : Reply) : Reply :=
  writeErrorFrame 403 [] (eventTexts "error" (anthropicAliasForbiddenBody aliasKey)) reply

/-- The branch of `body.stream`. -/
def streamMessages (served : ℕ) (nowMs : ℤ) (events : List StreamEvent)
    (failure : Option Caught) : Reply :=
  let reply := (openEventStream served).writeAll
    (events.flatMap fun event => eventTexts (eventType event) (eventValue event))
  match failure with
  | none => reply.end
  | some (.quotaExhausted detail) => writeQuotaErrorFrame nowMs detail reply
  | some (.aliasNotPermitted aliasKey) => writeAliasForbiddenFrame aliasKey reply
  | some (.other message plain) =>
      (reply.writeAll (eventTexts "error" (Caught.anthropicBody (.other message plain)))).end

def bufferedMessages (served : ℕ) (nowMs : ℤ) : Except Caught Value → Reply
  | .ok result => send [] result (Reply.fresh served)
  | .error (.quotaExhausted detail) =>
      (Reply.fresh served).setStatusCode 429
        |> send (retryAfter nowMs (.quotaExhausted detail)) (anthropicQuotaErrorBody detail)
  | .error (.aliasNotPermitted aliasKey) =>
      (Reply.fresh served).setStatusCode 403 |> send [] (anthropicAliasForbiddenBody aliasKey)
  | .error (.other message plain) =>
      (Reply.fresh served).setStatusCode 500
        |> send [] (Caught.anthropicBody (.other message plain))

end Replies

section Plain

theorem ratText_unbroken (value : ℚ) : Unbroken (units (Chat.countText value)) := by
  unfold Chat.countText
  split
  · exact int_unbroken value.num
  · rw [units_append, units_append, unbroken_append, unbroken_append]
    exact ⟨⟨int_unbroken value.num, by decide +kernel⟩, nat_unbroken value.den⟩

def OpensEmpty : StreamEvent → Prop
  | .contentBlock (.start _ (.toolUse _ _ input)) => input = .object []
  | _ => True

theorem eventValue_plain (event : StreamEvent) (opens : OpensEmpty event) :
    PlainNumbers (eventValue event) := by
  rcases event with message | _ | (⟨index, block⟩ | ⟨index, delta⟩ | index) | ⟨reason, tokens⟩ | _
  · exact ⟨trivial, ⟨trivial, trivial, trivial, trivial, trivial, trivial, trivial,
      ⟨int_unbroken 0, int_unbroken 0, trivial⟩, trivial⟩, trivial⟩
  · exact ⟨trivial, trivial⟩
  · refine ⟨trivial, int_unbroken index, ?_, trivial⟩
    cases block with
    | text content => exact ⟨trivial, trivial, trivial⟩
    | thinking thinking signature => exact ⟨trivial, trivial, trivial, trivial⟩
    | toolUse id name input =>
        have opens : input = .object [] := opens
        rw [opens]
        exact ⟨trivial, trivial, trivial, trivial, trivial⟩
  · refine ⟨trivial, int_unbroken index, ?_, trivial⟩
    cases delta <;> exact ⟨trivial, trivial, trivial⟩
  · exact ⟨trivial, int_unbroken index, trivial⟩
  · exact ⟨trivial, ⟨trivial, trivial, trivial⟩, ⟨ratText_unbroken tokens, trivial⟩, trivial⟩
  · exact ⟨trivial, trivial⟩

end Plain

section Adapter

variable (message : MessageHeader) (now : ℕ → ℕ)

def Tidy (adapter : Adapter) : Prop := ∀ event ∈ adapter.events, OpensEmpty event

theorem tidy_emit (adapter : Adapter) (event : StreamEvent) (tidy : Tidy adapter)
    (opens : OpensEmpty event) : Tidy (adapter.emit event) := by
  intro other member
  rcases List.mem_append.mp member with before | last
  · exact tidy other before
  · rw [List.mem_singleton.mp last]
    exact opens

theorem tidy_emitPing (adapter : Adapter) (tidy : Tidy adapter) : Tidy adapter.emitPing := by
  unfold Adapter.emitPing
  split
  · exact tidy
  · exact tidy_emit adapter .ping tidy trivial

theorem tidy_nextBlock (adapter : Adapter) (tidy : Tidy adapter) : Tidy adapter.nextBlock :=
  tidy_emit adapter (.contentBlock (.stop adapter.blockIndex)) tidy trivial

theorem tidy_openToolUse (adapter : Adapter) (fragment : ToolCallFragment) (tidy : Tidy adapter) :
    Tidy (adapter.openToolUse now fragment) :=
  tidy_emit _ (.contentBlock (.start adapter.blockIndex (.toolUse _ _ (.object [])))) tidy rfl

theorem tidy_delta (adapter : Adapter) (state : StreamState) (delta : ContentDelta)
    (tidy : Tidy adapter) :
    Tidy (if adapter.state = state then adapter.emitDelta delta else adapter) := by
  split
  · exact tidy_emit _ _ tidy trivial
  · exact tidy

theorem tidy_onReasoning (adapter : Adapter) (reasoning : String) (tidy : Tidy adapter) :
    Tidy (adapter.onReasoning message reasoning) := by
  unfold Adapter.onReasoning
  refine tidy_delta _ _ _ ?_
  split
  · exact tidy_emitPing _ (tidy_emit _ _ (tidy_emit _ _ tidy trivial) trivial)
  · exact tidy_emit _ _ (tidy_nextBlock adapter tidy) trivial
  · exact tidy_emit _ _ (tidy_nextBlock adapter tidy) trivial
  · exact tidy
  · exact tidy

theorem tidy_onContent (adapter : Adapter) (content : String) (tidy : Tidy adapter) :
    Tidy (adapter.onContent message content) := by
  unfold Adapter.onContent
  refine tidy_delta _ _ _ ?_
  split
  · exact tidy_emitPing _ (tidy_emit _ _ (tidy_emit _ _ tidy trivial) trivial)
  · exact tidy_emit _ _ (tidy_nextBlock adapter tidy) trivial
  · exact tidy
  · exact tidy
  · exact tidy

theorem tidy_accumulate (adapter : Adapter) (fragment : ToolCallFragment) (tidy : Tidy adapter) :
    Tidy (adapter.accumulate fragment) := by
  unfold Adapter.accumulate
  split
  · exact tidy_emit _ _ tidy trivial
  · exact tidy

theorem tidy_onToolCall (adapter : Adapter) (fragment : ToolCallFragment) (tidy : Tidy adapter) :
    Tidy (adapter.onToolCall message now fragment) := by
  unfold Adapter.onToolCall
  apply tidy_accumulate
  split
  · exact tidy_openToolUse now _ fragment
      (tidy_emitPing _ (tidy_emit _ _ tidy trivial))
  · exact tidy_openToolUse now _ fragment (tidy_nextBlock adapter tidy)
  · exact tidy_openToolUse now _ fragment (tidy_nextBlock adapter tidy)
  · split
    · exact tidy_openToolUse now _ fragment (tidy_nextBlock adapter tidy)
    · exact tidy
  · exact tidy

theorem tidy_onFinish (adapter : Adapter) (reason : String) (tidy : Tidy adapter) :
    Tidy (adapter.onFinish message reason) := by
  unfold Adapter.onFinish
  split
  · exact tidy
  · exact tidy_emit _ _ (tidy_emit _ _ (tidy_emitPing _ (tidy_emit _ _ tidy trivial)) trivial)
      trivial
  all_goals
    exact tidy_emit _ _ (tidy_emit _ _ (tidy_emit _ _ tidy trivial) trivial) trivial

theorem tidy_onUsage (adapter : Adapter) (usage : Option Chat.CompletionUsage)
    (tidy : Tidy adapter) : Tidy (adapter.onUsage usage) := by
  unfold Adapter.onUsage
  split
  · exact tidy
  · split
    · exact tidy
    · exact tidy

theorem tidy_elim (adapter : Adapter) (said : Option String) (on : Adapter → String → Adapter)
    (keeps : ∀ text, Tidy (on adapter text)) (tidy : Tidy adapter) :
    Tidy (said.elim adapter (on adapter)) := by
  cases said with
  | none => exact tidy
  | some text => exact keeps text

theorem tidy_processChunk (adapter : Adapter) (chunk : ChatCompletionChunk) (tidy : Tidy adapter) :
    Tidy (adapter.processChunk message now chunk) := by
  unfold Adapter.processChunk
  have counted := tidy_onUsage adapter chunk.usage tidy
  dsimp only
  split
  · exact counted
  next choice _ =>
    have thought := tidy_elim _ (said choice.delta.reasoningContent)
      (fun adapter => adapter.onReasoning message)
      (fun text => tidy_onReasoning message _ text counted) counted
    have spoken := tidy_elim _ (said choice.delta.content)
      (fun adapter => adapter.onContent message)
      (fun text => tidy_onContent message _ text thought) thought
    have called : ∀ (fragments : List ToolCallFragment) (start : Adapter), Tidy start →
        Tidy (fragments.foldl (Adapter.onToolCall message now) start) := by
      intro fragments
      induction fragments with
      | nil => exact fun _ tidy => tidy
      | cons fragment rest ih =>
          exact fun start tidy => ih _ (tidy_onToolCall message now start fragment tidy)
    have ended := called choice.delta.toolCalls _ spoken
    exact tidy_elim _ (said choice.finishReason) (fun adapter => adapter.onFinish message)
      (fun reason => tidy_onFinish message _ reason ended) ended

theorem tidy_endOfSource (adapter : Adapter) (tidy : Tidy adapter) :
    Tidy (adapter.endOfSource message) := by
  unfold Adapter.endOfSource
  split
  · exact tidy
  · exact tidy_emit _ _ (tidy_emit _ _ (tidy_emit _ _ tidy trivial) trivial) trivial
  all_goals
    exact tidy_emit _ _ (tidy_emit _ _ (tidy_emit _ _ tidy trivial) trivial) trivial

theorem yielded_opensEmpty (source : List ChatCompletionChunk) (failure : Option Caught) :
    ∀ event ∈ yielded message now source failure, OpensEmpty event := by
  have folded : Tidy (source.foldl (Adapter.processChunk message now) Adapter.initial) := by
    refine List.foldlRecOn source _ (motive := Tidy) (fun _ member => ?_) fun adapter tidy chunk _ =>
      tidy_processChunk message now adapter chunk tidy
    cases member
  cases failure with
  | none => exact tidy_endOfSource message _ folded
  | some caught => exact folded

end Adapter

section Streaming

variable (served : ℕ) (nowMs : ℤ) (events : List StreamEvent) (failure : Option Caught)

def eventFrame (event : StreamEvent) : Frame where
  type := some (units (eventType event))
  data := stringify (eventValue event)

def errorFrame (caught : Caught) : Frame where
  type := some (units "error")
  data := stringify caught.anthropicBody

def frames (events : List StreamEvent) (failure : Option Caught) : List Frame :=
  events.map eventFrame ++ failure.toList.map errorFrame

theorem eventTexts_flatten (type : String) (value : Value) :
    (eventTexts type value).flatten =
      Frame.wire { type := some (units type), data := stringify value } := by
  have one : units "\n" = [lineFeed] := by decide +kernel
  have two : units "\n\n" = [lineFeed] ++ [lineFeed] := by decide +kernel
  simp only [eventTexts, one, two, Frame.wire, Frame.typeLine, List.flatten_cons, List.flatten_nil,
    List.append_nil, List.append_assoc]

theorem events_flatten :
    (events.flatMap fun event => eventTexts (eventType event) (eventValue event)).flatten =
      ((events.map eventFrame).map Frame.wire).flatten := by
  induction events with
  | nil => rfl
  | cons event rest ih =>
      rw [List.flatMap_cons, List.flatten_append, ih, eventTexts_flatten]
      rfl

theorem stream_written :
    (streamMessages served nowMs events failure).written.flatten =
      ((frames events failure).map Frame.wire).flatten := by
  have opened : (openEventStream served).written = [] := rfl
  have framed : ∀ caught : Caught, (eventTexts "error" caught.anthropicBody).flatten =
      (errorFrame caught).wire := fun caught => eventTexts_flatten _ _
  rw [frames, List.map_append, List.flatten_append, ← events_flatten]
  rcases failure with _ | detail | aliasKey | ⟨message, plain⟩
  · change ((openEventStream served).writeAll _).written.flatten = _
    rw [Reply.writeAll_written, opened, List.nil_append]
    exact (List.append_nil _).symm
  · change (writeErrorFrame _ _ _ _).written.flatten = _
    rw [writeErrorFrame_written, Reply.writeAll_written, opened, List.nil_append,
      List.flatten_append]
    exact congrArg _ ((framed (.quotaExhausted detail)).trans (List.append_nil _).symm)
  · change (writeErrorFrame _ _ _ _).written.flatten = _
    rw [writeErrorFrame_written, Reply.writeAll_written, opened, List.nil_append,
      List.flatten_append]
    exact congrArg _ ((framed (.aliasNotPermitted aliasKey)).trans (List.append_nil _).symm)
  · change (((openEventStream served).writeAll _).writeAll _).written.flatten = _
    rw [Reply.writeAll_written, Reply.writeAll_written, opened, List.nil_append,
      List.flatten_append]
    exact congrArg _ ((framed (.other message plain)).trans (List.append_nil _).symm)

theorem stream_ended : (streamMessages served nowMs events failure).ended = true := by
  rcases failure with _ | detail | aliasKey | ⟨message, plain⟩ <;> rfl

theorem stream_sent :
    (streamMessages served nowMs events failure).sent = some
      (if events = [] then openingHead served nowMs failure else (openEventStream served).head) := by
  cases events with
  | nil => rcases failure with _ | detail | aliasKey | ⟨message, plain⟩ <;> rfl
  | cons event rest =>
      have out : ((openEventStream served).writeAll ((event :: rest).flatMap fun event =>
          eventTexts (eventType event) (eventValue event))).sent = some (openEventStream served).head := by
        rw [Reply.writeAll_sent, if_neg (by simp [eventTexts])]
        rfl
      rw [if_neg (List.cons_ne_nil event rest)]
      rcases failure with _ | detail | aliasKey | ⟨message, plain⟩
      · exact end_sent _ _ out
      · exact (writeErrorFrame_sent _ _ _ _).trans (by rw [out]; rfl)
      · exact (writeErrorFrame_sent _ _ _ _).trans (by rw [out]; rfl)
      · refine end_sent _ _ ?_
        rw [Reply.writeAll_sent, out]
        split <;> rfl

def eventTypes : List String :=
  ["message_start", "ping", "content_block_start", "content_block_delta", "content_block_stop",
    "message_delta", "message_stop"]

theorem eventType_mem (event : StreamEvent) : eventType event ∈ eventTypes := by
  rcases event with message | _ | (⟨index, block⟩ | ⟨index, delta⟩ | index) | ⟨reason, tokens⟩ | _ <;>
    simp [eventType, eventTypes]

theorem eventTypes_clean : ∀ type ∈ eventTypes,
    Unbroken (units type) ∧ units type ≠ [] ∧ units type ≠ units "error" := by
  decide +kernel

theorem eventFrame_clean (event : StreamEvent) (opens : OpensEmpty event) :
    (eventFrame event).Clean := by
  have named := eventTypes_clean (eventType event) (eventType_mem event)
  refine ⟨stringify_unbroken _ (eventValue_plain event opens), ?_, ?_⟩
  · rintro type ⟨⟩
    exact named.1
  · rintro type ⟨⟩
    exact named.2.1

theorem errorFrame_clean (caught : Caught) : (errorFrame caught).Clean := by
  refine ⟨stringify_unbroken _ (Caught.anthropicBody_plain caught), ?_, ?_⟩
  · rintro type ⟨⟩
    decide +kernel
  · rintro type ⟨⟩
    decide +kernel

theorem stream_delivers (opens : ∀ event ∈ events, OpensEmpty event) :
    Delivers (streamMessages served nowMs events failure) ((frames events failure).map Frame.message) := by
  refine delivers_of_frames _ _ (fun frame member => ?_) (stream_written served nowMs events failure)
    (stream_ended served nowMs events failure)
  rcases List.mem_append.mp member with streamed | last
  · obtain ⟨event, among, rfl⟩ := List.mem_map.mp streamed
    exact eventFrame_clean event (opens event among)
  · obtain ⟨caught, _, rfl⟩ := List.mem_map.mp last
    exact errorFrame_clean caught

theorem error_mem_iff :
    (∃ message ∈ (frames events failure).map Frame.message, message.type = units "error") ↔
      failure ≠ none := by
  constructor
  · rintro ⟨message, member, typed⟩ rfl
    obtain ⟨frame, among, rfl⟩ := List.mem_map.mp member
    rw [frames, Option.toList_none, List.map_nil, List.append_nil] at among
    obtain ⟨event, _, rfl⟩ := List.mem_map.mp among
    exact (eventTypes_clean (eventType event) (eventType_mem event)).2.2 typed
  · intro fails
    obtain ⟨caught, rfl⟩ := Option.ne_none_iff_exists'.mp fails
    exact ⟨(errorFrame caught).message, List.mem_map.mpr ⟨errorFrame caught,
      List.mem_append_right _ (List.mem_singleton_self _), rfl⟩, rfl⟩

end Streaming

/-- The client of a stream gets every event that the adapter yields, each under
its own name, in order and whole; a source that fails leaves an `error` event
behind what its chunks had led to, and one that ends leaves `message_stop`. -/
theorem messages_stream (served : ℕ) (nowMs : ℤ) (message : MessageHeader) (now : ℕ → ℕ)
    (source : List ChatCompletionChunk) (failure : Option Caught) :
    Delivers (streamMessages served nowMs (yielded message now source failure) failure)
        ((frames (yielded message now source failure) failure).map Frame.message) ∧
      ((∃ sent ∈ (frames (yielded message now source failure) failure).map Frame.message,
        sent.type = units "error") ↔ failure ≠ none) ∧
      (failure = none → ∃ sent ∈ (frames (yielded message now source failure) failure).map
        Frame.message, sent.type = units "message_stop") ∧
      (streamMessages served nowMs (yielded message now source failure) failure).sent = some
        (if yielded message now source failure = [] then openingHead served nowMs failure
          else (openEventStream served).head) := by
  refine ⟨stream_delivers served nowMs _ failure (yielded_opensEmpty message now source failure),
    error_mem_iff _ failure, ?_, stream_sent served nowMs _ failure⟩
  rintro rfl
  obtain ⟨body, tokens, events, _⟩ := createStreamAdapter_writes message now source
  refine ⟨(eventFrame .messageStop).message, List.mem_map.mpr ⟨eventFrame .messageStop, ?_, rfl⟩, rfl⟩
  refine List.mem_append_left _ (List.mem_map.mpr ⟨.messageStop, ?_, rfl⟩)
  change StreamEvent.messageStop ∈ createStreamAdapter message now source
  rw [events]
  simp

end LlmGateway.AnthropicController
