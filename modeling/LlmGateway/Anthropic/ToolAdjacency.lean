import LlmGateway.Anthropic.UserContent

/-!
Upstreams take a conversation only if the tool messages stand right after the
assistant message that made the calls. When the messages of the request answer
their calls so, their translation does, and it carries what the messages carry.
-/

namespace LlmGateway.Anthropic

open AnthropicContentBlock

inductive Carried where
  | text (role words : String)
  | result (toolUseId content : String)
  | call (call : FunctionCall)
  deriving DecidableEq, Repr

/-- The texts of an assistant message are one text upstream. -/
def carriedTexts (role : String) (texts : List String) : List Carried :=
  if role = "user" then texts.map (.text role)
  else if role = "assistant" then [.text role (String.join texts)]
  else []

def AnthropicContentBlock.result? : AnthropicContentBlock → Option (String × String)
  | .toolResult toolUseId none _ => some (toolUseId, "")
  | .toolResult toolUseId (some (.text words)) _ => some (toolUseId, words)
  | .toolResult toolUseId (some (.parts texts)) _ => some (toolUseId, String.join texts)
  | _ => none

namespace AnthropicMessage

variable (message : AnthropicMessage)

def blocks : List AnthropicContentBlock :=
  match message.content with
  | some (.blocks blocks) => blocks
  | _ => []

def texts : List String :=
  match message.content with
  | none => []
  | some (.text words) => [words]
  | some (.blocks blocks) => blocks.filterMap text?

def results : List (String × String) := message.blocks.filterMap result?

def calls : List FunctionCall :=
  if message.role = "assistant" then message.blocks.filterMap toolCall? else []

def carried : List Carried :=
  message.results.map (fun result => .result result.1 result.2) ++
    (carriedTexts message.role message.texts ++ message.calls.map .call)

end AnthropicMessage

def ContentPart.words? : ContentPart → Option String
  | .text words => some words
  | .imageUrl _ => none

namespace UpstreamMessage

def toolId? : UpstreamMessage → Option String
  | .tool id _ => some id
  | _ => none

def calls : UpstreamMessage → List FunctionCall
  | .assistant message => message.toolCalls
  | _ => []

def carried : UpstreamMessage → List Carried
  | .plain role content => carriedTexts role content.toList
  | .user parts => carriedTexts "user" (parts.filterMap ContentPart.words?)
  | .tool id content => [.result id content]
  | .assistant message =>
      carriedTexts "assistant" message.content.toList ++ message.toolCalls.map .call
  | .passedThrough _ _ => []

end UpstreamMessage

/-- Every message has results for the calls of the message before it and for no
others, and only a user answers calls. `unanswered` are the calls of the
message before the first. -/
def Answered : List FunctionCall → List AnthropicMessage → Prop
  | unanswered, [] => unanswered = []
  | unanswered, message :: rest =>
      (unanswered ≠ [] → message.role = "user") ∧
        (message.results.map Prod.fst).Perm (unanswered.map FunctionCall.id) ∧
          Answered message.calls rest

def leadingIds (messages : List UpstreamMessage) : List String :=
  (messages.takeWhile fun message => message.toolId?.isSome).filterMap UpstreamMessage.toolId?

def Adjacent (messages : List UpstreamMessage) : Prop :=
  ∀ message after, (message :: after).IsSuffix messages → message.calls ≠ [] →
    (leadingIds after).Perm (message.calls.map FunctionCall.id)

section Leading

variable (tools rest : List UpstreamMessage) (message : UpstreamMessage)

theorem leadingIds_other (other : message.toolId? = none) : leadingIds (message :: rest) = [] := by
  rw [leadingIds, List.takeWhile_cons_of_neg (by simp [other])]
  rfl

theorem leadingIds_tools (only : ∀ tool ∈ tools, tool.toolId?.isSome = true) :
    leadingIds (tools ++ rest) = tools.filterMap UpstreamMessage.toolId? ++ leadingIds rest := by
  rw [leadingIds, List.takeWhile_append_of_pos only, List.filterMap_append]
  rfl

theorem adjacent_cons :
    Adjacent (message :: rest) ↔
      (message.calls ≠ [] → (leadingIds rest).Perm (message.calls.map FunctionCall.id)) ∧
        Adjacent rest := by
  constructor
  · intro adjacent
    exact ⟨adjacent message rest List.suffix_rfl,
      fun other after suffix => adjacent other after (suffix.trans (List.suffix_cons message rest))⟩
  · rintro ⟨first, others⟩ other after suffix
    rcases List.suffix_cons_iff.mp suffix with same | later
    · obtain ⟨rfl, rfl⟩ := List.cons.inj same
      exact first
    · exact others other after later

theorem adjacent_append (silent : ∀ tool ∈ tools, tool.calls = []) (adjacent : Adjacent rest) :
    Adjacent (tools ++ rest) := by
  induction tools with
  | nil => exact adjacent
  | cons tool tools ih =>
      rw [List.cons_append, adjacent_cons]
      exact ⟨fun calling => absurd (silent tool List.mem_cons_self) calling,
        ih fun other member => silent other (List.mem_cons_of_mem tool member)⟩

end Leading

section Message

variable (message : AnthropicMessage)

def toolMessage (result : String × String) : UpstreamMessage := .tool result.1 result.2

theorem toolResult?_eq (block : AnthropicContentBlock) :
    toolResult? block = (result? block).map toolMessage := by
  cases block with
  | toolResult toolUseId content isError => rcases content with _ | _ | _ <;> rfl
  | _ => rfl

theorem filterMap_toolResult? (content : List AnthropicContentBlock) :
    content.filterMap toolResult? = (content.filterMap result?).map toolMessage := by
  rw [List.map_filterMap]
  exact List.filterMap_congr fun block _ => toolResult?_eq block

theorem words?_parts (content : List AnthropicContentBlock) :
    ((content.filterMap text?).map ContentPart.text ++ content.filterMap imagePart?).filterMap
      ContentPart.words? = content.filterMap text? := by
  have texts : ((content.filterMap text?).map ContentPart.text).filterMap ContentPart.words? =
      content.filterMap text? := by
    rw [List.filterMap_map]
    exact List.filterMap_some
  have images : (content.filterMap imagePart?).filterMap ContentPart.words? = [] := by
    refine List.filterMap_eq_nil_iff.mpr fun part member => ?_
    obtain ⟨block, _, found⟩ := List.mem_filterMap.mp member
    cases block <;> cases found
    rfl
  rw [List.filterMap_append, texts, images, List.append_nil]

theorem user_message (sent : UpstreamMessage) (user : sent.isUser = true) :
    sent.toolId? = none ∧ sent.calls = [] ∧
      sent.carried = carriedTexts "user" (sent.userParts.filterMap ContentPart.words?) := by
  cases sent with
  | plain role content =>
      have same : role = "user" := of_decide_eq_true user
      subst same
      cases content <;> exact ⟨rfl, rfl, rfl⟩
  | user parts => exact ⟨rfl, rfl, rfl⟩
  | _ => cases user

theorem join_toList_said (words : String) : String.join (said (some words)).toList = words := by
  by_cases empty : words = ""
  · subst empty
    rfl
  · simp [said, Option.filter, empty]

structure Sends (message : AnthropicMessage) (sent : UpstreamMessage) : Prop where
  noTool : sent.toolId? = none
  calls : sent.calls = message.calls
  carried : sent.carried = carriedTexts message.role message.texts ++ message.calls.map .call

theorem sends_plain (role : String) (content : Option MessageContent) (text : Option String)
    (blocks : (AnthropicMessage.mk role content).blocks = [])
    (texts : (AnthropicMessage.mk role content).texts = text.toList) :
    Sends ⟨role, content⟩ (.plain role text) := by
  have calls : (AnthropicMessage.mk role content).calls = [] := by
    rw [AnthropicMessage.calls, blocks]
    exact ite_self []
  refine ⟨rfl, calls.symm, ?_⟩
  rw [calls, texts]
  exact (List.append_nil _).symm

theorem sends_user (content : List AnthropicContentBlock) (sent : UpstreamMessage)
    (user : sent.isUser = true)
    (parts : sent.userParts =
      (content.filterMap text?).map ContentPart.text ++ content.filterMap imagePart?) :
    Sends ⟨"user", some (.blocks content)⟩ sent := by
  obtain ⟨noTool, calls, carried⟩ := user_message sent user
  rw [parts, words?_parts] at carried
  exact ⟨noTool, calls, carried.trans (List.append_nil _).symm⟩

theorem sends_assistant (content : List AnthropicContentBlock) :
    Sends ⟨"assistant", some (.blocks content)⟩ (.assistant (translateAssistant content)) := by
  refine ⟨rfl, rfl, ?_⟩
  have same : carriedTexts "assistant" (translateAssistant content).content.toList =
      carriedTexts "assistant" (content.filterMap text?) :=
    congrArg (fun words => [Carried.text "assistant" words]) (join_toList_said _)
  exact congrArg (· ++ _) same

theorem sends_passedThrough (role : String) (content : List AnthropicContentBlock)
    (user : role ≠ "user") (assistant : role ≠ "assistant") :
    Sends ⟨role, some (.blocks content)⟩ (.passedThrough role content) := by
  have calls : (AnthropicMessage.mk role (some (.blocks content))).calls = [] := if_neg assistant
  refine ⟨rfl, calls.symm, ?_⟩
  rw [calls, carriedTexts, if_neg user, if_neg assistant]
  rfl

theorem translateMessage_cases (answers : message.results ≠ [] → message.role = "user") :
    (translateMessage message = message.results.map toolMessage ∧ message.calls = [] ∧
        carriedTexts message.role message.texts = []) ∨
      ∃ sent, translateMessage message = message.results.map toolMessage ++ [sent] ∧
        Sends message sent := by
  obtain ⟨role, content⟩ := message
  rcases content with _ | words | content
  · exact .inr ⟨.plain role none, rfl, sends_plain role none none rfl rfl⟩
  · exact .inr ⟨.plain role (some words), rfl, sends_plain role _ (some words) rfl rfl⟩
  by_cases user : role = "user"
  · subst user
    have results : content.filterMap toolResult? =
        (AnthropicMessage.mk "user" (some (.blocks content))).results.map toolMessage :=
      filterMap_toolResult? content
    rw [translateMessage_user, ← results]
    rcases translateUser_cases content with ⟨empty, only⟩ | ⟨sent, both, isUser, parts⟩
    · have texts := (filter_parts content).1
      rw [empty] at texts
      refine .inl ⟨only, rfl, ?_⟩
      have none : content.filterMap text? = [] := List.map_eq_nil_iff.mp texts.symm
      exact congrArg (carriedTexts "user") none
    · exact .inr ⟨sent, both, sends_user content sent isUser parts⟩
  · -- The results of any other role would not be sent.
    have results : (AnthropicMessage.mk role (some (.blocks content))).results = [] := by
      by_contra some
      exact user (answers some)
    rw [results]
    refine .inr ?_
    by_cases assistant : role = "assistant"
    · subst assistant
      exact ⟨_, by simp [translateMessage], sends_assistant content⟩
    · exact ⟨_, by simp [translateMessage, user, assistant],
        sends_passedThrough role content user assistant⟩

end Message

section Conversation

variable (unanswered : List FunctionCall) (messages : List AnthropicMessage)

theorem tools_lead (results : List (String × String)) :
    (∀ tool ∈ results.map toolMessage, tool.toolId?.isSome = true ∧ tool.calls = []) ∧
      (results.map toolMessage).filterMap UpstreamMessage.toolId? = results.map Prod.fst ∧
        (results.map toolMessage).flatMap UpstreamMessage.carried =
          results.map fun result => .result result.1 result.2 := by
  refine ⟨?_, ?_, ?_⟩
  · intro tool member
    obtain ⟨result, _, rfl⟩ := List.mem_map.mp member
    exact ⟨rfl, rfl⟩
  · rw [List.filterMap_map]
    exact congrFun List.filterMap_eq_map' results
  · rw [List.flatMap_map]
    exact List.map_eq_flatMap.symm

/-- One message may have results only as an answer of the user. -/
theorem answered_step (message : AnthropicMessage) (rest : List AnthropicMessage)
    (answered : Answered unanswered (message :: rest)) :
    message.results ≠ [] → message.role = "user" := by
  obtain ⟨user, ids, _⟩ := answered
  intro results
  refine user fun empty => results ?_
  rw [empty] at ids
  exact List.map_eq_nil_iff.mp ids.eq_nil

theorem answered_adjacent (answered : Answered unanswered messages) :
    (leadingIds (messages.flatMap translateMessage)).Perm (unanswered.map FunctionCall.id) ∧
      Adjacent (messages.flatMap translateMessage) := by
  induction messages generalizing unanswered with
  | nil =>
      rw [show unanswered = [] from answered]
      exact ⟨.refl _, fun message after suffix => by cases List.suffix_nil.mp suffix⟩
  | cons message rest ih =>
      have answers := answered_step unanswered message rest answered
      obtain ⟨_, ids, later⟩ := answered
      obtain ⟨leading, adjacent⟩ := ih message.calls later
      obtain ⟨tools, toolIds, _⟩ := tools_lead message.results
      have only := fun tool member => (tools tool member).1
      have silent := fun tool member => (tools tool member).2
      rw [List.flatMap_cons]
      rcases translateMessage_cases message answers with
        ⟨same, calls, _⟩ | ⟨sent, same, sends⟩
      · -- Nothing of this message comes between its results and the next message.
        rw [calls] at leading
        rw [same, leadingIds_tools _ _ only, toolIds, leading.eq_nil, List.append_nil]
        exact ⟨ids, adjacent_append _ _ silent adjacent⟩
      · rw [same, List.append_assoc, leadingIds_tools _ _ only, toolIds, List.singleton_append,
          leadingIds_other _ _ sends.noTool, List.append_nil]
        have called : sent.calls ≠ [] → (leadingIds (rest.flatMap translateMessage)).Perm
            (sent.calls.map FunctionCall.id) := by
          intro _
          rw [sends.calls]
          exact leading
        exact ⟨ids, adjacent_append _ _ silent ((adjacent_cons _ _).mpr ⟨called, adjacent⟩)⟩

theorem answered_carried (answered : Answered unanswered messages) :
    (messages.flatMap translateMessage).flatMap UpstreamMessage.carried =
      messages.flatMap AnthropicMessage.carried := by
  induction messages generalizing unanswered with
  | nil => rfl
  | cons message rest ih =>
      have answers := answered_step unanswered message rest answered
      have later := ih message.calls answered.2.2
      have tools := (tools_lead message.results).2.2
      rw [List.flatMap_cons, List.flatMap_append, later, List.flatMap_cons]
      refine congrArg (· ++ _) ?_
      rcases translateMessage_cases message answers with
        ⟨same, calls, silent⟩ | ⟨sent, same, sends⟩
      · rw [same, tools, AnthropicMessage.carried, calls, silent]
        exact (List.append_nil _).symm
      · rw [same, List.flatMap_append, tools, List.flatMap_singleton, sends.carried]
        rfl

end Conversation

/-- In the translation of an answered conversation the tool messages stand right
after the calls they answer, and each call of an assistant, each result and
each text of user and assistant is there once, in the order of the messages. -/
theorem tool_results_adjacent (messages : List AnthropicMessage) (system : Option MessageContent)
    (answered : Answered [] messages) :
    Adjacent (translateMessages messages system) ∧
      (translateMessages messages system).flatMap UpstreamMessage.carried =
        messages.flatMap AnthropicMessage.carried := by
  have plain : ∀ message ∈ systemMessages system,
      message.calls = [] ∧ message.carried = [] := by
    intro message member
    obtain ⟨words, _, rfl⟩ := List.mem_map.mp member
    exact ⟨rfl, rfl⟩
  refine ⟨adjacent_append _ _ (fun message member => (plain message member).1)
    (answered_adjacent [] messages answered).2, ?_⟩
  rw [translateMessages, List.flatMap_append, answered_carried [] messages answered,
    List.flatMap_eq_nil_iff.mpr fun message member => (plain message member).2]
  rfl

def weatherTalk : List AnthropicMessage :=
  [⟨"user", some (.text "Weather in Oslo and Rome?")⟩,
    ⟨"assistant", some (.blocks [.text "One moment.", .toolUse "a" "weather" [],
      .toolUse "b" "weather" []])⟩,
    ⟨"user", some (.blocks [.text "Here:", .toolResult "b" (some (.text "sunny")) none,
      .image "image/png" "AA", .toolResult "a" none none])⟩,
    ⟨"assistant", some (.text "Sunny in Rome.")⟩]

theorem tool_results_adjacent_weather :
    Answered [] weatherTalk ∧ Adjacent (translateMessages weatherTalk none) ∧
      (translateMessages weatherTalk none).flatMap UpstreamMessage.carried =
        weatherTalk.flatMap AnthropicMessage.carried := by
  have answered : Answered [] weatherTalk := by
    refine ⟨fun _ => rfl, by decide, fun asked => absurd rfl asked, by decide, fun _ => rfl, ?_,
      fun asked => absurd rfl asked, by decide, rfl⟩
    exact List.Perm.swap "a" "b" []
  exact ⟨answered, tool_results_adjacent weatherTalk none answered⟩

def callingUser : AnthropicMessage := ⟨"user", some (.blocks [.toolUse "a" "weather" []])⟩

/-- A call in a user message is left out. -/
theorem user_call_dropped :
    Answered [] [callingUser] ∧
      (callingUser.blocks.filterMap toolCall?).map FunctionCall.id = ["a"] ∧
        (translateMessages [callingUser] none).flatMap UpstreamMessage.calls = [] :=
  ⟨⟨fun _ => rfl, .refl _, rfl⟩, rfl, by decide⟩

end LlmGateway.Anthropic
