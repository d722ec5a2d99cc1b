import LlmGateway.Anthropic.Request
import LlmGateway.Anthropic.Response

/-!
The next turn: a client sends the content of a response back as an assistant
message. It comes through as the message it was made from when the arguments
of every call are an object.
-/

namespace LlmGateway.Anthropic

open Schema

def ResponseBlock.toJson : ResponseBlock → Js.Json
  | .text words => .object [("type", .string "text"), ("text", .string words)]
  | .thinking words signature => .object
      [("type", .string "thinking"), ("thinking", .string words), ("signature", .string signature)]
  | .toolUse id name input => .object
      [("type", .string "tool_use"), ("id", .string id), ("name", .string name), ("input", input)]

def echo (response : AnthropicMessageResponse) : Js.Json :=
  .object [("role", .string "assistant"), ("content", .array (response.content.map (·.toJson)))]

def withMessages (messages : List Js.Json) (settings : List (String × Js.Json)) : Js.Json :=
  .object (("messages", .array messages) :: settings)

namespace AssistantMessage

def received (message : AssistantMessage) : ReasoningChatMessage where
  reasoningContent := message.reasoningContent
  content := message.content
  toolCalls := message.toolCalls.map fun call => .function call.id call.name call.arguments

end AssistantMessage

section Parsing

variable (parse : String → Option Js.Json) (copied : String → Bool)

/-- What a program can hold of parsed JSON: a value that `JSON.parse` returned,
or the copy of such an object by a record schema. -/
inductive Held : Js.Json → Prop where
  | parsed (text : String) (value : Js.Json) : parse text = some value → Held value
  | copy (fields : List (String × Js.Json)) :
      Held (.object fields) → Held (.object (fields.filter fun field => copied field.1))

def meaning (call : FunctionCall) : String × String × Option Js.Json :=
  (call.id, call.name, parse call.arguments)

/-- The same turn; an empty text is the same as none. -/
structure SameTurn (message other : AssistantMessage) : Prop where
  content : said message.content = said other.content
  reasoningContent : said message.reasoningContent = said other.reasoningContent
  toolCalls : message.toolCalls.map (meaning parse) = other.toolCalls.map (meaning parse)

/-- In any accepted conversation the echo of a response to the message is accepted
and sent upstream as the same turn. -/
def RoundTrips (message : AssistantMessage) : Prop :=
  ∀ (messageId requestedModel : String) (finishReason : Option String)
    (usage : Option Chat.CompletionUsage) (settings : List (String × Js.Json))
    (before after : List Js.Json) (system : Option MessageContent)
    (earlier later : List AnthropicMessage),
    settingsSchema copied settings = some system →
    before.mapM (messageSchema copied) = some earlier →
    after.mapM (messageSchema copied) = some later →
    ∃ body sent,
      anthropicMessagesSchema copied (withMessages (before ++ echo (translateResponse parse
        messageId ⟨[⟨message.received, finishReason⟩], usage⟩ requestedModel) :: after) settings) =
          some body ∧
      translateMessages body.messages body.system =
        translateMessages earlier system ++ .assistant sent :: translateMessages later none ∧
      SameTurn parse message sent

end Parsing

section Reading

variable (copied : String → Bool)

def copiedFields : Js.Json → List (String × Js.Json)
  | .object fields => fields.filter fun field => copied field.1
  | _ => []

def reread : ResponseBlock → AnthropicContentBlock
  | .text words => .text words
  | .thinking words signature => .thinking words (some signature)
  | .toolUse id name input => .toolUse id name (copiedFields copied input)

def ResponseBlock.hasObject : ResponseBlock → Prop
  | .toolUse _ _ input => ∃ fields, input = .object fields
  | .text _ | .thinking _ _ => True

theorem contentBlock_reread (block : ResponseBlock) (object : block.hasObject) :
    contentBlock copied block.toJson = some (reread copied block) := by
  cases block with
  | text | thinking => rfl
  | toolUse id name input =>
      obtain ⟨fields, rfl⟩ := object
      rfl

theorem contentBlock_object (block : ResponseBlock) (read : AnthropicContentBlock)
    (accepted : contentBlock copied block.toJson = some read) : block.hasObject := by
  cases block with
  | text | thinking => trivial
  | toolUse id name input =>
      cases input with
      | object fields => exact ⟨fields, rfl⟩
      | null | boolean | number | string | array => cases accepted

theorem messageSchema_echo (response : AnthropicMessageResponse)
    (objects : ∀ block ∈ response.content, block.hasObject) :
    messageSchema copied (echo response) =
      some ⟨"assistant", some (.blocks (response.content.map (reread copied)))⟩ := by
  have blocks := array_written (contentBlock copied) ResponseBlock.toJson (reread copied)
    response.content fun block member => contentBlock_reread copied block (objects block member)
  have content : messageContent copied (.array (response.content.map (·.toJson))) =
      some (.blocks (response.content.map (reread copied))) := by
    change (array (contentBlock copied) (.array (response.content.map ResponseBlock.toJson))).map
      MessageContent.blocks = _
    rw [blocks]
    rfl
  change ((nullable (messageContent copied)
    (.array (response.content.map (·.toJson)))).map some).bind _ = _
  change (((messageContent copied (.array (response.content.map (·.toJson)))).map some).map
    some).bind _ = _
  rw [content]
  rfl

theorem messageSchema_objects (response : AnthropicMessageResponse) (message : AnthropicMessage)
    (accepted : messageSchema copied (echo response) = some message) :
    ∀ block ∈ response.content, block.hasObject := by
  have blocks : ∃ read, array (contentBlock copied)
      (.array (response.content.map ResponseBlock.toJson)) = some read := by
    change (((((array (contentBlock copied)
      (.array (response.content.map ResponseBlock.toJson))).map MessageContent.blocks).map
        some).map some).bind _) = some message at accepted
    cases read : array (contentBlock copied)
        (.array (response.content.map ResponseBlock.toJson)) with
    | none =>
        rw [read] at accepted
        cases accepted
    | some blocks => exact ⟨blocks, rfl⟩
  obtain ⟨read, accepts⟩ := blocks
  intro block member
  obtain ⟨one, here⟩ := mapM_accepts (contentBlock copied) _ read accepts block.toJson
    (List.mem_map_of_mem member)
  exact contentBlock_object copied block one here

end Reading

section Bodies

variable (copied : String → Bool) (settings : List (String × Js.Json))

theorem settingsSchema_withMessages (messages : Js.Json) :
    settingsSchema copied (("messages", messages) :: settings) =
      settingsSchema copied settings := by
  unfold settingsSchema
  simp [required_other, optional_other]

theorem body_eq (messages : List Js.Json) (system : Option MessageContent)
    (accepted : settingsSchema copied settings = some system) :
    anthropicMessagesSchema copied (withMessages messages settings) =
      ((messages.mapM (messageSchema copied)).filter fun messages => !messages.isEmpty).map
        fun messages => ⟨system, messages⟩ := by
  change ((settingsSchema copied (("messages", .array messages) :: settings)).bind _) = _
  rw [settingsSchema_withMessages, accepted]
  change ((required _ (("messages", .array messages) :: settings) "messages").bind _) = _
  rw [required, lookup_same]
  change (((messages.mapM (messageSchema copied)).filter fun messages => !messages.isEmpty).bind
    fun messages => some _) = _
  exact Option.map_eq_bind.symm

def leastSettings : List (String × Js.Json) :=
  [("model", .string "m"), ("max_tokens", .number "1")]

theorem leastSettings_accepted : settingsSchema copied leastSettings = some none := by
  have tokens : positiveInt (.number "1") = some 1 := by decide +kernel
  unfold settingsSchema leastSettings
  simp [required, Schema.optional, lookup, tokens, Schema.refine, Schema.string, Option.filter]

theorem body_accepted (system : Option MessageContent) (before after : List Js.Json)
    (earlier later : List AnthropicMessage) (sent : Js.Json) (message : AnthropicMessage)
    (accepted : settingsSchema copied settings = some system)
    (first : before.mapM (messageSchema copied) = some earlier)
    (last : after.mapM (messageSchema copied) = some later)
    (read : messageSchema copied sent = some message) :
    anthropicMessagesSchema copied (withMessages (before ++ sent :: after) settings) =
      some ⟨system, earlier ++ message :: later⟩ := by
  have all : (before ++ sent :: after).mapM (messageSchema copied) =
      some (earlier ++ message :: later) := by
    rw [List.mapM_append, List.mapM_cons, first, last, read]
    rfl
  rw [body_eq copied settings _ system accepted, all]
  cases earlier <;> rfl

end Bodies

theorem translateMessages_insert (system : Option MessageContent)
    (earlier later : List AnthropicMessage) (message : AnthropicMessage) :
    translateMessages (earlier ++ message :: later) system =
      translateMessages earlier system ++ (translateMessage message ++
        translateMessages later none) := by
  have unsaid : systemMessages none = [] := rfl
  unfold translateMessages
  rw [List.flatMap_append, List.flatMap_cons, unsaid, List.nil_append, List.append_assoc]

section Turns

variable (parse : String → Option Js.Json) (copied : String → Bool) (message : AssistantMessage)

theorem said_join_toList (value : Option String) :
    said (some (String.join (said value).toList)) = said value := by
  cases told : said value with
  | none => rfl
  | some text =>
      have nonempty := (Option.filter_eq_some_iff.mp told).2
      exact Option.filter_eq_some_iff.mpr ⟨by simp, nonempty⟩

theorem received_content :
    translateContent parse message.received =
      (said message.reasoningContent).toList.map (.thinking · "") ++
        ((said message.content).toList.map .text ++ message.toolCalls.map fun call =>
          .toolUse call.id call.name (toolInput parse call.arguments)) := by
  unfold translateContent AssistantMessage.received
  dsimp only
  rw [List.filterMap_map]
  congr 2
  rw [← List.filterMap_eq_map]
  rfl

def resent (call : FunctionCall) : FunctionCall :=
  ⟨call.id, call.name,
    (Js.Json.object (copiedFields copied (toolInput parse call.arguments))).stringify⟩

theorem filterMap_reread {Value : Type} (pick : AnthropicContentBlock → Option Value) :
    ((translateContent parse message.received).map (reread copied)).filterMap pick =
      (said message.reasoningContent).toList.filterMap
          (fun words => pick (.thinking words (some ""))) ++
        ((said message.content).toList.filterMap (fun words => pick (.text words)) ++
          message.toolCalls.filterMap fun call => pick (.toolUse call.id call.name
            (copiedFields copied (toolInput parse call.arguments)))) := by
  rw [received_content, List.filterMap_map, List.filterMap_append, List.filterMap_append,
    List.filterMap_map, List.filterMap_map, List.filterMap_map]
  rfl

theorem translateAssistant_reread :
    translateAssistant ((translateContent parse message.received).map (reread copied)) =
      ⟨said message.content, said message.reasoningContent,
        message.toolCalls.map (resent parse copied)⟩ := by
  have text : ((translateContent parse message.received).map (reread copied)).filterMap
      AnthropicContentBlock.text? = (said message.content).toList := by
    rw [filterMap_reread]
    simp [AnthropicContentBlock.text?]
  have thinking : ((translateContent parse message.received).map (reread copied)).filterMap
      AnthropicContentBlock.thinking? = (said message.reasoningContent).toList := by
    rw [filterMap_reread]
    simp [AnthropicContentBlock.thinking?]
  have calls : ((translateContent parse message.received).map (reread copied)).filterMap
      AnthropicContentBlock.toolCall? = message.toolCalls.map (resent parse copied) := by
    rw [filterMap_reread]
    simp [AnthropicContentBlock.toolCall?, resent]
  rw [translateAssistant, text, thinking, calls, said_join_toList, said_join_toList]

def ObjectArguments : Prop :=
  ∀ call ∈ message.toolCalls, ∃ fields, parse call.arguments = some (.object fields) ∧
    ∀ field ∈ fields, copied field.1 = true

theorem hasObject_iff :
    (∀ block ∈ translateContent parse message.received, block.hasObject) ↔
      ∀ call ∈ message.toolCalls, ∃ fields, toolInput parse call.arguments = .object fields := by
  rw [received_content]
  constructor
  · intro objects call member
    apply objects (.toolUse call.id call.name (toolInput parse call.arguments))
    exact List.mem_append_right _ (List.mem_append_right _ (List.mem_map.mpr ⟨call, member, rfl⟩))
  · intro objects block member
    rcases List.mem_append.mp member with thinking | other
    · obtain ⟨words, _, rfl⟩ := List.mem_map.mp thinking
      trivial
    · rcases List.mem_append.mp other with text | toolUse
      · obtain ⟨words, _, rfl⟩ := List.mem_map.mp text
        trivial
      · obtain ⟨call, here, rfl⟩ := List.mem_map.mp toolUse
        exact objects call here

variable (inverse : ∀ value, Held parse copied value → parse value.stringify = some value)

include inverse

theorem roundTrips_of_objects (objects : ObjectArguments parse copied message) :
    RoundTrips parse copied message := by
  intro messageId requestedModel finishReason usage settings before after system earlier later
    accepted first last
  have inputs : ∀ block ∈ translateContent parse message.received, block.hasObject := by
    apply (hasObject_iff parse message).mpr
    intro call member
    obtain ⟨fields, parsed, _⟩ := objects call member
    refine ⟨fields, ?_⟩
    rw [toolInput, parsed]
    rfl
  have read := messageSchema_echo copied (translateResponse parse messageId
    ⟨[⟨message.received, finishReason⟩], usage⟩ requestedModel) inputs
  refine ⟨_, _, body_accepted copied settings system before after earlier later _ _ accepted first
    last read, translateMessages_insert system earlier later _, ?_⟩
  change SameTurn parse message
    (translateAssistant ((translateContent parse message.received).map (reread copied)))
  rw [translateAssistant_reread]
  have again : ∀ value, said (said value) = said value := by
    intro value
    unfold said
    rw [Option.filter_filter]
    simp
  refine ⟨(again _).symm, (again _).symm, ?_⟩
  dsimp only
  rw [List.map_map]
  apply List.map_congr_left
  intro call member
  obtain ⟨fields, parsed, keys⟩ := objects call member
  have whole : copiedFields copied (toolInput parse call.arguments) = fields := by
    rw [toolInput, parsed]
    exact List.filter_eq_self.mpr keys
  change (call.id, call.name, parse call.arguments) = (call.id, call.name, parse _)
  rw [resent, whole, inverse (.object fields) (.parsed call.arguments _ parsed), parsed]

theorem objects_of_roundTrips
    (valid : ∀ call ∈ message.toolCalls, (parse call.arguments).isSome = true)
    (roundTrips : RoundTrips parse copied message) : ObjectArguments parse copied message := by
  obtain ⟨body, sent, accepted, translated, same⟩ := roundTrips "" "" none none leastSettings [] []
    none [] [] (leastSettings_accepted copied) rfl rfl
  rw [List.nil_append, body_eq copied leastSettings _ none (leastSettings_accepted copied)]
    at accepted
  obtain ⟨messages, kept, rfl⟩ := Option.map_eq_some_iff.mp accepted
  have read := (Option.filter_eq_some_iff.mp kept).1
  obtain ⟨echoed, here⟩ := mapM_accepts (messageSchema copied) _ messages read _
    List.mem_cons_self
  have inputs := messageSchema_objects copied _ echoed here
  have echoes := messageSchema_echo copied _ inputs
  rw [List.mapM_cons, echoes] at read
  cases read
  have turn : sent = ⟨said message.content, said message.reasoningContent,
      message.toolCalls.map (resent parse copied)⟩ := by
    rw [← translateAssistant_reread]
    have only := List.head_eq_of_cons_eq translated
    exact (UpstreamMessage.assistant.inj only).symm
  intro call member
  obtain ⟨fields, input⟩ := (hasObject_iff parse message).mp inputs call member
  obtain ⟨value, parsed⟩ := Option.isSome_iff_exists.mp (valid call member)
  rw [toolInput, parsed, Option.getD_some] at input
  subst input
  have again := same.toolCalls
  rw [turn] at again
  dsimp only at again
  rw [List.map_map] at again
  have arguments : parse call.arguments = parse (resent parse copied call).arguments :=
    congrArg (fun told => told.2.2) (List.map_inj_left.mp again call member)
  have taken : copiedFields copied (toolInput parse call.arguments) =
      fields.filter fun field => copied field.1 := by
    rw [toolInput, parsed]
    rfl
  rw [resent, taken, inverse _ (.copy fields (.parsed call.arguments _ parsed)), parsed]
    at arguments
  refine ⟨fields, parsed, ?_⟩
  have whole : fields = fields.filter fun field => copied field.1 :=
    Js.Json.object.inj (Option.some.inj arguments)
  exact List.filter_eq_self.mp whole.symm

end Turns

/-- A message with valid arguments comes back as the same turn if and only if the
arguments of its calls are objects whose keys the schema takes over. -/
theorem roundTrips_iff (parse : String → Option Js.Json) (copied : String → Bool)
    (inverse : ∀ value, Held parse copied value → parse value.stringify = some value)
    (message : AssistantMessage)
    (valid : ∀ call ∈ message.toolCalls, (parse call.arguments).isSome = true) :
    RoundTrips parse copied message ↔ ObjectArguments parse copied message :=
  ⟨objects_of_roundTrips parse copied message inverse valid,
    roundTrips_of_objects parse copied message inverse⟩

def weatherInput : Js.Json := .object [("city", .string "Oslo")]

/-- `JSON.parse` on two texts. -/
def weatherParse (text : String) : Option Js.Json :=
  if text = "\x7b\"city\":\"Oslo\"\x7d" then some weatherInput
  else if text = "null" then some .null else none

def recordKey (key : String) : Bool := key ≠ "__proto__"

theorem weather_inverse (value : Js.Json) (held : Held weatherParse recordKey value) :
    weatherParse value.stringify = some value := by
  have either : value = weatherInput ∨ value = .null := by
    induction held with
    | parsed text value parsed =>
        unfold weatherParse at parsed
        split at parsed
        · exact .inl (Option.some.inj parsed).symm
        · split at parsed
          · exact .inr (Option.some.inj parsed).symm
          · cases parsed
    | copy fields _ ih =>
        rcases ih with input | null
        · cases input
          exact .inl rfl
        · cases null
  rcases either with rfl | rfl
  · have text : weatherInput.stringify = "\x7b\"city\":\"Oslo\"\x7d" := by decide +kernel
    rw [text]
    rfl
  · rfl

def weatherMessage : AssistantMessage :=
  ⟨some "Let me see.", some "A tool knows.",
    [⟨"call_1", "weather", "\x7b\"city\":\"Oslo\"\x7d"⟩]⟩

theorem weather_roundTrips : RoundTrips weatherParse recordKey weatherMessage := by
  have valid : ∀ call ∈ weatherMessage.toolCalls, (weatherParse call.arguments).isSome = true := by
    intro call member
    rw [List.mem_singleton.mp member]
    rfl
  apply (roundTrips_iff weatherParse recordKey weather_inverse weatherMessage valid).mpr
  intro call member
  rw [List.mem_singleton.mp member]
  refine ⟨[("city", .string "Oslo")], rfl, ?_⟩
  intro field here
  rw [List.mem_singleton.mp here]
  rfl

def nullArguments : AssistantMessage := ⟨none, none, [⟨"call_1", "refresh", "null"⟩]⟩

/-- The arguments `null` parse, and the echo is not accepted. -/
theorem null_not_echoed :
    (∀ call ∈ nullArguments.toolCalls, (weatherParse call.arguments).isSome = true) ∧
      ¬RoundTrips weatherParse recordKey nullArguments := by
  have valid : ∀ call ∈ nullArguments.toolCalls, (weatherParse call.arguments).isSome = true := by
    intro call member
    rw [List.mem_singleton.mp member]
    rfl
  refine ⟨valid, ?_⟩
  intro roundTrips
  obtain ⟨fields, parsed, _⟩ := objects_of_roundTrips weatherParse recordKey nullArguments
    weather_inverse valid roundTrips _ (List.mem_singleton_self _)
  cases parsed

end LlmGateway.Anthropic
