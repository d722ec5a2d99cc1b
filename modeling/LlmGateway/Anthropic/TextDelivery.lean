import LlmGateway.Anthropic.Writing

/-!
What of the text and of the reasoning of a source reaches the client. Reasoning
always does. Text that comes while a tool block is open does not.
-/

namespace LlmGateway.Anthropic

open Blocks

def textDelta : ContentDelta → Option String
  | .text text => some text
  | .thinking _ | .inputJson _ => none

def thinkingDelta : ContentDelta → Option String
  | .thinking thinking => some thinking
  | .text _ | .inputJson _ => none

/-- The concatenation of the deltas that `pick` selects. -/
def emitted (pick : ContentDelta → Option String) (events : List StreamEvent) : String :=
  String.join ((deltas (contentEvents events)).filterMap pick)

namespace ChatCompletionChunk

/-- `choices[0].delta.content`, an absent one as empty. -/
def content (chunk : ChatCompletionChunk) : String :=
  (chunk.choices.head?.bind fun choice => choice.delta.content).getD ""

def reasoningContent (chunk : ChatCompletionChunk) : String :=
  (chunk.choices.head?.bind fun choice => choice.delta.reasoningContent).getD ""

end ChatCompletionChunk

def Delivered (source : List ChatCompletionChunk) (events : List StreamEvent) : Prop :=
  emitted textDelta events =
      String.join ((untilFinish source).map ChatCompletionChunk.content) ∧
    emitted thinkingDelta events =
      String.join ((untilFinish source).map ChatCompletionChunk.reasoningContent)

def endsInToolCalls (chunks : List ChatCompletionChunk) : Bool :=
  (chunks.reverse.find? fun chunk => chunk.fragments ≠ [] || chunk.reasoning.isSome).any
    (·.fragments ≠ [])

/-- Up to the first finish reason, text after tool calls comes with or after reasoning. -/
def TextHeard (source : List ChatCompletionChunk) : Prop :=
  ∀ before chunk after, untilFinish source = before ++ chunk :: after →
    chunk.text.isSome = true → chunk.reasoning.isSome = true ∨ endsInToolCalls before = false

def spoken (kind : Kind) (draft : Draft) : List String :=
  (draft.filter fun block => block.header = kind).flatMap Block.pieces

section Spoken

variable (now : ℕ → ℕ) (draft : Draft) (kind : Kind)

theorem spoken_push (header : Kind) : spoken kind (push header draft) = spoken kind draft := by
  unfold spoken push
  rw [List.filter_append, List.flatMap_append]
  by_cases same : header = kind <;> simp [same]

theorem spoken_extend (header : Kind) (piece : String) (last : current draft = some header) :
    spoken kind (extend piece draft) =
      spoken kind draft ++ if header = kind then [piece] else [] := by
  induction draft using List.reverseRecOn with
  | nil => cases last
  | append_singleton front block _ =>
      have here : block.header = header := by simpa [current] using last
      unfold spoken
      rw [extend_concat, List.filter_append, List.filter_append, List.flatMap_append,
        List.flatMap_append]
      by_cases same : header = kind <;> simp [here, same]

theorem spoken_think (text : String) :
    spoken kind (Draft.think draft text) =
      spoken kind draft ++ if kind = .thinking then [text] else [] := by
  unfold Draft.think
  split
  · rename_i last
    rw [spoken_extend draft kind .thinking text last]
    simp [eq_comm]
  · rw [spoken_extend _ kind .thinking text (current_push draft .thinking), spoken_push]
    simp [eq_comm]

theorem spoken_speak (text : String) :
    spoken kind (Draft.speak draft text) = spoken kind draft ++
      if kind = .text ∧ Draft.openTool draft = none then [text] else [] := by
  unfold Draft.speak Draft.openTool
  cases last : current draft with
  | none =>
      rw [spoken_extend _ kind .text text (current_push draft .text), spoken_push]
      simp [eq_comm]
  | some header =>
      cases header with
      | thinking =>
          dsimp only
          rw [spoken_extend _ kind .text text (current_push draft .text), spoken_push]
          simp [eq_comm, Kind.key]
      | text =>
          dsimp only
          rw [spoken_extend draft kind .text text last]
          simp [eq_comm, Kind.key]
      | tool => simp [Kind.key]

theorem spoken_call (fragment : ToolCallFragment) (plain : kind.key = none) :
    spoken kind (Draft.call now draft fragment) = spoken kind draft := by
  have opened : spoken kind (Draft.openCall now draft fragment) = spoken kind draft := by
    unfold Draft.openCall
    split
    · rfl
    · exact spoken_push draft kind _
  unfold Draft.call
  cases said fragment.arguments with
  | none => exact opened
  | some arguments =>
      obtain ⟨header, last, keyed⟩ := Option.bind_eq_some_iff.mp
        (openTool_openCall now draft fragment)
      have other : header ≠ kind := by
        rintro rfl
        rw [plain] at keyed
        cases keyed
      dsimp only [Option.elim]
      rw [spoken_extend _ kind header arguments last, if_neg other, opened, List.append_nil]

end Spoken

def toolOpen (before : Bool) (chunk : ChatCompletionChunk) : Bool :=
  if chunk.fragments ≠ [] then true else if chunk.reasoning.isSome then false else before

def heard (tool : Bool) (chunk : ChatCompletionChunk) : List String :=
  if chunk.reasoning = none ∧ tool = true then [] else chunk.text.toList

section ChunkSteps

variable (now : ℕ → ℕ) (draft : Draft) (chunk : ChatCompletionChunk)

theorem spoken_fragments (kind : Kind) (plain : kind.key = none)
    (fragments : List ToolCallFragment) :
    spoken kind (fragments.foldl (Draft.call now) draft) = spoken kind draft ∧
      (Draft.openTool (fragments.foldl (Draft.call now) draft)).isSome =
        (fragments ≠ [] || (Draft.openTool draft).isSome) := by
  induction fragments generalizing draft with
  | nil => simp
  | cons fragment rest ih =>
      obtain ⟨same, tool⟩ := ih (Draft.call now draft fragment)
      rw [List.foldl_cons, same, tool, spoken_call now draft kind fragment plain, openTool_call]
      simp

theorem chunk_items (items : Draft) :
    chunk.items.foldl (Draft.add now) items =
      chunk.fragments.foldl (Draft.call now)
        (chunk.text.elim (chunk.reasoning.elim items (Draft.think items))
          (Draft.speak (chunk.reasoning.elim items (Draft.think items)))) := by
  unfold ChatCompletionChunk.items
  rw [List.foldl_append, List.foldl_append, List.foldl_map, List.foldl_map, List.foldl_map]
  cases chunk.reasoning <;> cases chunk.text <;> rfl

theorem spoken_chunk :
    spoken .thinking (chunk.items.foldl (Draft.add now) draft) =
        spoken .thinking draft ++ chunk.reasoning.toList ∧
      spoken .text (chunk.items.foldl (Draft.add now) draft) =
        spoken .text draft ++ heard (Draft.openTool draft).isSome chunk ∧
      (Draft.openTool (chunk.items.foldl (Draft.add now) draft)).isSome =
        toolOpen (Draft.openTool draft).isSome chunk := by
  rw [chunk_items]
  obtain ⟨thinking, tool⟩ := spoken_fragments now
    (chunk.text.elim (chunk.reasoning.elim draft (Draft.think draft))
      (Draft.speak (chunk.reasoning.elim draft (Draft.think draft)))) .thinking rfl chunk.fragments
  obtain ⟨text, _⟩ := spoken_fragments now
    (chunk.text.elim (chunk.reasoning.elim draft (Draft.think draft))
      (Draft.speak (chunk.reasoning.elim draft (Draft.think draft)))) .text rfl chunk.fragments
  rw [thinking, text, tool]
  unfold heard toolOpen
  cases chunk.reasoning with
  | none =>
      cases chunk.text with
      | none => simp
      | some content =>
          cases before : Draft.openTool draft <;> simp [spoken_speak, openTool_speak, before]
  | some thought =>
      cases chunk.text with
      | none => simp [spoken_think, openTool_think]
      | some content =>
          simp [spoken_speak, spoken_think, openTool_speak, openTool_think]

end ChunkSteps

def heardTexts : Bool → List ChatCompletionChunk → List String
  | _, [] => []
  | tool, chunk :: rest => heard tool chunk ++ heardTexts (toolOpen tool chunk) rest

def AllHeard : Bool → List ChatCompletionChunk → Prop
  | _, [] => True
  | tool, chunk :: rest =>
      (chunk.text.isSome = true → chunk.reasoning.isSome = true ∨ tool = false) ∧
        AllHeard (toolOpen tool chunk) rest

section Runs

variable (now : ℕ → ℕ) (chunks : List ChatCompletionChunk)

theorem spoken_chunks (draft : Draft) :
    spoken .thinking ((chunks.flatMap ChatCompletionChunk.items).foldl (Draft.add now) draft) =
        spoken .thinking draft ++ chunks.flatMap (·.reasoning.toList) ∧
      spoken .text ((chunks.flatMap ChatCompletionChunk.items).foldl (Draft.add now) draft) =
        spoken .text draft ++ heardTexts (Draft.openTool draft).isSome chunks := by
  induction chunks generalizing draft with
  | nil => exact ⟨(List.append_nil _).symm, (List.append_nil _).symm⟩
  | cons chunk rest ih =>
      obtain ⟨thinking, text, tool⟩ := spoken_chunk now draft chunk
      obtain ⟨thoughts, texts⟩ := ih (chunk.items.foldl (Draft.add now) draft)
      rw [List.flatMap_cons, List.foldl_append, thoughts, texts, thinking, text, tool,
        List.flatMap_cons, List.append_assoc, List.append_assoc]
      exact ⟨rfl, rfl⟩

theorem join_said (field : ChatCompletionChunk → Option String) (raw : ChatCompletionChunk → String)
    (same : ∀ chunk, raw chunk = (field chunk).getD "") :
    String.join (chunks.map raw) = String.join (chunks.flatMap fun chunk => (field chunk).toList) := by
  induction chunks with
  | nil => rfl
  | cons chunk rest ih =>
      rw [List.map_cons, List.flatMap_cons, String.join_cons, String.join_append, ih, same]
      cases field chunk <;> simp

theorem said_getD (value : Option String) : value.getD "" = (said value).getD "" := by
  cases value with
  | none => rfl
  | some text => by_cases empty : text = "" <;> simp [said, Option.filter, empty]

theorem content_eq (chunk : ChatCompletionChunk) : chunk.content = chunk.text.getD "" := by
  unfold ChatCompletionChunk.content ChatCompletionChunk.text
  cases chunk.choices.head? with
  | none => rfl
  | some choice => exact said_getD choice.delta.content

theorem reasoningContent_eq (chunk : ChatCompletionChunk) :
    chunk.reasoningContent = chunk.reasoning.getD "" := by
  unfold ChatCompletionChunk.reasoningContent ChatCompletionChunk.reasoning
  cases chunk.choices.head? with
  | none => rfl
  | some choice => exact said_getD choice.delta.reasoningContent

theorem text_length (chunk : ChatCompletionChunk) (text : String) (here : chunk.text = some text) :
    0 < text.length := by
  obtain ⟨choice, _, found⟩ := Option.bind_eq_some_iff.mp here
  have nonempty : text ≠ "" := by simpa using (Option.filter_eq_some_iff.mp found).2
  rw [Nat.pos_iff_ne_zero]
  intro zero
  exact nonempty (String.length_eq_zero_iff.mp zero)

theorem heardTexts_all (tool : Bool) (all : AllHeard tool chunks) :
    heardTexts tool chunks = chunks.flatMap (·.text.toList) := by
  induction chunks generalizing tool with
  | nil => rfl
  | cons chunk rest ih =>
      have here : heard tool chunk = chunk.text.toList := by
        unfold heard
        split
        · rename_i lost
          cases text : chunk.text with
          | none => rfl
          | some text' =>
              rcases all.1 (by rw [text]; rfl) with thought | closed
              · rw [lost.1] at thought
                cases thought
              · rw [lost.2] at closed
                cases closed
        · rfl
      rw [heardTexts, here, ih _ all.2, List.flatMap_cons]

theorem heard_length (tool : Bool) (chunk : ChatCompletionChunk) :
    (String.join (heard tool chunk)).length ≤ (String.join chunk.text.toList).length := by
  unfold heard
  split
  · exact Nat.zero_le _
  · exact le_refl _

theorem heardTexts_length (tool : Bool) :
    (String.join (heardTexts tool chunks)).length ≤
      (String.join (chunks.flatMap (·.text.toList))).length := by
  induction chunks generalizing tool with
  | nil => exact le_refl _
  | cons chunk rest ih =>
      have here := heard_length tool chunk
      have later := ih (toolOpen tool chunk)
      rw [heardTexts, List.flatMap_cons, String.join_append, String.join_append,
        String.length_append, String.length_append]
      omega

theorem heardTexts_short (tool : Bool) (some_lost : ¬AllHeard tool chunks) :
    (String.join (heardTexts tool chunks)).length <
      (String.join (chunks.flatMap (·.text.toList))).length := by
  induction chunks generalizing tool with
  | nil => exact absurd trivial some_lost
  | cons chunk rest ih =>
      have here := heard_length tool chunk
      have later := heardTexts_length rest (toolOpen tool chunk)
      rw [heardTexts, List.flatMap_cons, String.join_append, String.join_append,
        String.length_append, String.length_append]
      by_cases kept : chunk.text.isSome = true → chunk.reasoning.isSome = true ∨ tool = false
      · have tail := ih (toolOpen tool chunk) fun rest => some_lost ⟨kept, rest⟩
        omega
      · rw [Classical.not_imp, not_or] at kept
        obtain ⟨spoke, silent, isOpen⟩ := kept
        obtain ⟨text, found⟩ := Option.isSome_iff_exists.mp spoke
        have lost : heard tool chunk = [] :=
          if_pos ⟨Option.not_isSome_iff_eq_none.mp silent, Bool.not_eq_false _ ▸ isOpen⟩
        have long := text_length chunk text found
        rw [lost, found, Option.toList_some, String.join_cons, String.join_nil, String.append_empty,
          String.length_empty]
        omega

theorem allHeard_iff (seen : List ChatCompletionChunk) :
    AllHeard (endsInToolCalls seen) chunks ↔
      ∀ before chunk after, chunks = before ++ chunk :: after → chunk.text.isSome = true →
        chunk.reasoning.isSome = true ∨ endsInToolCalls (seen ++ before) = false := by
  induction chunks generalizing seen with
  | nil => simp [AllHeard]
  | cons first rest ih =>
      have next : toolOpen (endsInToolCalls seen) first = endsInToolCalls (seen ++ [first]) := by
        unfold toolOpen endsInToolCalls
        rw [List.reverse_append, List.reverse_singleton, List.singleton_append, List.find?_cons]
        by_cases calls : first.fragments = [] <;> cases first.reasoning <;> simp [calls]
      rw [AllHeard, next, ih]
      constructor
      · rintro ⟨head, tail⟩ before chunk after split spoke
        cases before with
        | nil =>
            cases split
            rw [List.append_nil]
            exact head spoke
        | cons other others =>
            obtain ⟨rfl, same⟩ := List.cons.inj split
            have later := tail others chunk after same spoke
            rwa [List.append_assoc] at later
      · intro every
        constructor
        · intro spoke
          have head := every [] first rest rfl spoke
          rwa [List.append_nil] at head
        · intro before chunk after split spoke
          have later := every (first :: before) chunk after (congrArg (first :: ·) split) spoke
          rwa [List.append_assoc]

theorem textHeard_iff (source : List ChatCompletionChunk) :
    TextHeard source ↔ AllHeard false (untilFinish source) :=
  (allHeard_iff (untilFinish source) []).symm

theorem typed_pieces (pick : ContentDelta → Option String) (kind : Kind)
    (own : ∀ text, pick (kind.delta text) = some text)
    (others : ∀ other text, other ≠ kind → pick (Kind.delta other text) = none) (draft : Draft) :
    (draft.typed.flatMap Block.pieces).filterMap pick = spoken kind draft := by
  induction draft with
  | nil => rfl
  | cons block rest ih =>
      have split : spoken kind (block :: rest) =
          (if block.header = kind then block.pieces else []) ++ spoken kind rest := by
        unfold spoken
        by_cases here : block.header = kind <;> simp [here]
      have here : (block.pieces.map block.header.delta).filterMap pick =
          if block.header = kind then block.pieces else [] := by
        rw [List.filterMap_map]
        by_cases same : block.header = kind
        · rw [if_pos same, same, show pick ∘ kind.delta = some from funext own,
            List.filterMap_some]
        · rw [if_neg same]
          apply List.filterMap_eq_nil_iff.mpr
          intro text _
          exact others block.header text same
      unfold Draft.typed at ih ⊢
      rw [List.map_cons, List.flatMap_cons, List.filterMap_append, ih, split, ← here]
      rfl

theorem lateDeltas_silent (pick : ContentDelta → Option String)
    (silent : ∀ json, pick (.inputJson json) = none) (draft : Draft)
    (chunks : List ChatCompletionChunk) :
    (deltas (contentEvents (lateDeltas draft chunks))).filterMap pick = [] := by
  have only : ∀ event ∈ contentEvents (lateDeltas draft chunks),
      ∃ index json, event = .delta index (.inputJson json) := by
    intro event member
    obtain ⟨late, sent, same⟩ := List.mem_filterMap.mp member
    obtain ⟨fragment, _, delta⟩ := List.mem_filterMap.mp sent
    unfold lateDelta at delta
    split at delta
    · obtain ⟨arguments, _, rfl⟩ := Option.map_eq_some_iff.mp delta
      exact ⟨_, arguments, (Option.some.inj same).symm⟩
    · cases delta
  apply List.filterMap_eq_nil_iff.mpr
  intro piece sent
  obtain ⟨event, member, same⟩ := List.mem_filterMap.mp sent
  obtain ⟨index, json, rfl⟩ := only event member
  cases same
  exact silent json

theorem emitted_eq (message : MessageHeader) (source : List ChatCompletionChunk)
    (pick : ContentDelta → Option String) (kind : Kind)
    (own : ∀ text, pick (kind.delta text) = some text)
    (others : ∀ other text, other ≠ kind → pick (Kind.delta other text) = none)
    (silent : ∀ json, pick (.inputJson json) = none) :
    emitted pick (createStreamAdapter message now source) =
      String.join (spoken kind (draftOf now source)) := by
  have writes := createStreamAdapter_writes message now source
  rw [emitted, contentEvents_writes message _ _ _ _ writes, deltas, List.filterMap_append,
    List.filterMap_append]
  have late := lateDeltas_silent pick silent (draftOf now source) (afterFinish source)
  unfold deltas at late
  rw [late, List.append_nil]
  have written := deltas_render (draftOf now source).typed 0
  unfold deltas at written
  rw [written, typed_pieces pick kind own others]

end Runs

/-- All text and reasoning up to the first finish reason is emitted exactly when
no text comes after tool calls without reasoning. -/
theorem delivered_iff (message : MessageHeader) (now : ℕ → ℕ)
    (source : List ChatCompletionChunk) :
    Delivered source (createStreamAdapter message now source) ↔ TextHeard source := by
  obtain ⟨thinking, text⟩ := spoken_chunks now (untilFinish source) []
  have thoughts : emitted thinkingDelta (createStreamAdapter message now source) =
      String.join ((untilFinish source).map ChatCompletionChunk.reasoningContent) := by
    rw [emitted_eq now message source thinkingDelta .thinking (fun _ => rfl) _ fun _ => rfl,
      join_said _ ChatCompletionChunk.reasoning _ reasoningContent_eq]
    · exact congrArg String.join thinking
    · intro other text different
      cases other with
      | thinking => exact absurd rfl different
      | text | tool => rfl
  have texts : emitted textDelta (createStreamAdapter message now source) =
      String.join (heardTexts false (untilFinish source)) := by
    rw [emitted_eq now message source textDelta .text (fun _ => rfl) _ fun _ => rfl]
    · exact congrArg String.join text
    · intro other text different
      cases other with
      | text => exact absurd rfl different
      | thinking | tool => rfl
  rw [textHeard_iff, Delivered, texts, join_said _ ChatCompletionChunk.text _ content_eq]
  constructor
  · intro delivered
    by_contra lost
    have short := heardTexts_short (untilFinish source) false lost
    rw [delivered.1] at short
    exact lt_irrefl _ short
  · intro all
    exact ⟨congrArg String.join (heardTexts_all _ false all), thoughts⟩

def textAfterCall : List ChatCompletionChunk :=
  [⟨[⟨⟨none, none, [⟨some 0, some "call_1", some ⟨some "search", some "\x7b\x7d"⟩⟩]⟩, none⟩], none⟩,
    ⟨[⟨⟨none, some "Searching.", []⟩, some "tool_calls"⟩], none⟩]

/-- The text is in no delta. -/
theorem text_after_call :
    emitted textDelta (createStreamAdapter ⟨"msg_1", "coder"⟩ (fun _ => 0) textAfterCall) = "" ∧
      ¬Delivered textAfterCall
        (createStreamAdapter ⟨"msg_1", "coder"⟩ (fun _ => 0) textAfterCall) := by
  have silent : emitted textDelta
      (createStreamAdapter ⟨"msg_1", "coder"⟩ (fun _ => 0) textAfterCall) = "" := rfl
  refine ⟨silent, ?_⟩
  intro delivered
  have same := delivered.1
  rw [silent] at same
  exact absurd same (by decide)

end LlmGateway.Anthropic
