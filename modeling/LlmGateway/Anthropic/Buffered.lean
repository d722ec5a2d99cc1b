import LlmGateway.Anthropic.Response
import LlmGateway.Anthropic.TextDelivery
import LlmGateway.Anthropic.ToolReassembly

/-!
Streaming against buffering. A turn is what a well-formed stream carries:
reasoning, then text, then one call after the other, then a finish reason.
Both translators give its blocks.
-/

namespace LlmGateway.Anthropic

open Blocks

section Stream

variable (parse : String → Option Js.Json)

def readInput (payload : String) : Js.Json :=
  if payload = "" then .object [] else (parse payload).getD (.object [])

def readBlock (block : Block ResponseBlock ContentDelta) : ResponseBlock :=
  match block.header with
  | .thinking thinking signature =>
      .thinking (thinking ++ String.join (block.pieces.filterMap thinkingDelta)) signature
  | .text text => .text (text ++ String.join (block.pieces.filterMap textDelta))
  | .toolUse id name _ =>
      .toolUse id name (readInput parse (String.join (block.pieces.filterMap inputJson)))

def streamContent (events : List StreamEvent) : List ResponseBlock :=
  (gather (contentEvents events)).map (readBlock parse)

def stopReasons (events : List StreamEvent) : List StopReason :=
  events.filterMap fun
    | .messageDelta reason _ => some reason
    | _ => none

end Stream

structure BufferedCall where
  key : ℤ
  id : Option String
  name : Option String
  arguments : String
  deriving DecidableEq, Repr

namespace BufferedCall

def absorb (call : BufferedCall) (fragment : ToolCallFragment) : BufferedCall where
  key := call.key
  id := call.id.or fragment.id
  name := call.name.or fragment.name
  arguments := call.arguments ++ fragment.arguments.getD ""

def toolCall (call : BufferedCall) : MessageToolCall :=
  .function (call.id.getD "") (call.name.getD "") call.arguments

end BufferedCall

def addFragment (calls : List BufferedCall) (fragment : ToolCallFragment) : List BufferedCall :=
  if fragment.key ∈ calls.map BufferedCall.key then
    calls.map fun call => if call.key = fragment.key then call.absorb fragment else call
  else
    calls ++ [⟨fragment.key, fragment.id, fragment.name, fragment.arguments.getD ""⟩]

/-- The message that the chunks make up, with its calls in the order of their first fragments. -/
def assemble (source : List ChatCompletionChunk) : ChatCompletion where
  choices := [{
    message := {
      reasoningContent := some (String.join (source.map ChatCompletionChunk.reasoningContent))
      content := some (String.join (source.map ChatCompletionChunk.content))
      toolCalls := ((allFragments source).foldl addFragment []).map BufferedCall.toolCall }
    finishReason := (source.filterMap ChatCompletionChunk.finish).getLast? }]
  usage := (source.filterMap ChatCompletionChunk.usage).getLast?

def payloads (fragments : List ToolCallFragment) : List String :=
  fragments.filterMap fun fragment => said fragment.arguments

theorem payloads_cons (fragment : ToolCallFragment) (rest : List ToolCallFragment) :
    payloads (fragment :: rest) = (said fragment.arguments).toList ++ payloads rest := by
  unfold payloads
  rw [List.filterMap_cons]
  cases said fragment.arguments <;> rfl

structure CallRun where
  key : ℤ
  id : String
  name : String
  first : ToolCallFragment
  rest : List ToolCallFragment
  first_key : first.key = key
  first_id : first.id = some id
  first_name : first.name = some name
  rest_key : ∀ fragment ∈ rest, fragment.key = key

namespace CallRun

variable (run : CallRun)

def fragments : List ToolCallFragment := run.first :: run.rest

def block : Block Kind String := ⟨.tool run.key run.id run.name, payloads run.fragments⟩

def buffered : BufferedCall :=
  ⟨run.key, some run.id, some run.name, String.join (payloads run.fragments)⟩

end CallRun

structure Turn where
  thoughts : List String
  texts : List String
  calls : List CallRun
  reason : String
  distinct : (calls.map CallRun.key).Nodup

def Turn.items (turn : Turn) : List Item :=
  turn.thoughts.map .reasoning ++
    (turn.texts.map .text ++ (turn.calls.flatMap CallRun.fragments).map .fragment)

/-- The source is a way of splitting the turn into chunks; after the finish reason
nothing is said. -/
structure Streams (source : List ChatCompletionChunk) (turn : Turn) : Prop where
  items : source.flatMap ChatCompletionChunk.items = turn.items
  finish : source.filterMap ChatCompletionChunk.finish = [turn.reason]
  ended : (afterFinish source).flatMap ChatCompletionChunk.items = []

def WellFormed (source : List ChatCompletionChunk) : Prop := ∃ turn, Streams source turn

def spokenBlock (kind : Kind) (pieces : List String) : Draft :=
  if pieces = [] then [] else [⟨kind, pieces⟩]

def Turn.draft (turn : Turn) : Draft :=
  spokenBlock .thinking turn.thoughts ++
    (spokenBlock .text turn.texts ++ turn.calls.map CallRun.block)

section Drafting

variable (now : ℕ → ℕ) (draft : Draft)

theorem think_all (thoughts : List String) (fresh : current draft ≠ some .thinking) :
    (thoughts.map Item.reasoning).foldl (Draft.add now) draft =
      draft ++ spokenBlock .thinking thoughts := by
  induction thoughts using List.reverseRecOn with
  | nil => exact (List.append_nil _).symm
  | append_singleton front text ih =>
      rw [List.map_append, List.foldl_append, ih]
      change Draft.think _ text = _
      unfold Draft.think
      by_cases empty : front = []
      · subst empty
        have same : draft ++ spokenBlock .thinking [] = draft := List.append_nil _
        rw [same, if_neg fresh, push, extend_concat]
        rfl
      · have shape : spokenBlock .thinking front = [⟨.thinking, front⟩] := if_neg empty
        have last : current (draft ++ spokenBlock .thinking front) = some .thinking := by
          rw [shape]
          simp [current]
        have longer : spokenBlock .thinking (front ++ [text]) = [⟨.thinking, front ++ [text]⟩] :=
          if_neg (by simp)
        rw [if_pos last, shape, extend_concat, longer]

theorem speak_all (texts : List String)
    (fresh : current draft = none ∨ current draft = some .thinking) :
    (texts.map Item.text).foldl (Draft.add now) draft = draft ++ spokenBlock .text texts := by
  induction texts using List.reverseRecOn with
  | nil => exact (List.append_nil _).symm
  | append_singleton front text ih =>
      rw [List.map_append, List.foldl_append, ih]
      change Draft.speak _ text = _
      unfold Draft.speak
      by_cases empty : front = []
      · subst empty
        have same : draft ++ spokenBlock .text [] = draft := List.append_nil _
        rw [same]
        rcases fresh with none | thinking
        · rw [none]
          exact extend_concat draft text ⟨.text, []⟩
        · rw [thinking]
          exact extend_concat draft text ⟨.text, []⟩
      · have shape : spokenBlock .text front = [⟨.text, front⟩] := if_neg empty
        have last : current (draft ++ spokenBlock .text front) = some .text := by
          rw [shape]
          simp [current]
        have longer : spokenBlock .text (front ++ [text]) = [⟨.text, front ++ [text]⟩] :=
          if_neg (by simp)
        rw [last, shape]
        dsimp only
        rw [extend_concat, longer]

theorem call_rest (run : CallRun) (rest : List ToolCallFragment) (pieces : List String)
    (keyed : ∀ fragment ∈ rest, fragment.key = run.key) :
    (rest.map Item.fragment).foldl (Draft.add now)
        (draft ++ [⟨.tool run.key run.id run.name, pieces⟩]) =
      draft ++ [⟨.tool run.key run.id run.name, pieces ++ payloads rest⟩] := by
  induction rest generalizing pieces with
  | nil =>
      have none : payloads [] = [] := rfl
      rw [none, List.append_nil, List.map_nil, List.foldl_nil]
  | cons fragment rest ih =>
      have same := keyed fragment List.mem_cons_self
      have open_ : Draft.openTool (draft ++ [⟨.tool run.key run.id run.name, pieces⟩]) =
          some fragment.key := by
        rw [same]
        simp [Draft.openTool, current, Kind.key]
      have step : Draft.add now (draft ++ [⟨.tool run.key run.id run.name, pieces⟩])
          (.fragment fragment) = draft ++ [⟨.tool run.key run.id run.name,
            pieces ++ (said fragment.arguments).toList⟩] := by
        change Draft.call now _ fragment = _
        unfold Draft.call Draft.openCall
        rw [if_pos open_]
        cases said fragment.arguments with
        | none => simp
        | some arguments => exact extend_concat draft arguments _
      rw [List.map_cons, List.foldl_cons, step,
        ih _ fun part member => keyed part (List.mem_cons_of_mem _ member), List.append_assoc,
        payloads_cons]

theorem call_run (run : CallRun) (fresh : Draft.openTool draft ≠ some run.key) :
    (run.fragments.map Item.fragment).foldl (Draft.add now) draft = draft ++ [run.block] := by
  have opened : Draft.add now draft (.fragment run.first) =
      draft ++ [⟨.tool run.key run.id run.name, (said run.first.arguments).toList⟩] := by
    have header : headerOf now draft run.first = .tool run.key run.id run.name := by
      unfold headerOf
      rw [run.first_key, run.first_id, run.first_name]
      rfl
    change Draft.call now draft run.first = _
    rcases call_cases now draft run.first with ⟨_, _, rfl, keyed, _⟩ | ⟨_, written⟩
    · refine absurd ?_ fresh
      rw [← run.first_key, ← keyed]
      simp [Draft.openTool, current]
    · rw [written, header]
  rw [CallRun.fragments, List.map_cons, List.foldl_cons, opened,
    call_rest now draft run run.rest _ run.rest_key, CallRun.block, CallRun.fragments,
    payloads_cons]

theorem call_runs (calls : List CallRun) (distinct : (calls.map CallRun.key).Nodup)
    (fresh : ∀ run ∈ calls, Draft.openTool draft ≠ some run.key) :
    ((calls.flatMap CallRun.fragments).map Item.fragment).foldl (Draft.add now) draft =
      draft ++ calls.map CallRun.block := by
  induction calls generalizing draft with
  | nil => exact (List.append_nil _).symm
  | cons run rest ih =>
      obtain ⟨apart, others⟩ := List.nodup_cons.mp distinct
      have next : ∀ other ∈ rest, Draft.openTool (draft ++ [run.block]) ≠ some other.key := by
        intro other member same
        have last : Draft.openTool (draft ++ [run.block]) = some run.key := by
          simp [Draft.openTool, current, CallRun.block, Kind.key]
        rw [last] at same
        exact apart (List.mem_map.mpr ⟨other, member, (Option.some.inj same).symm⟩)
      rw [List.flatMap_cons, List.map_append, List.foldl_append,
        call_run now draft run (fresh run List.mem_cons_self), ih _ others next, List.append_assoc]
      rfl

theorem current_spoken (kind : Kind) (pieces : List String) :
    current (spokenBlock kind pieces) = none ∨ current (spokenBlock kind pieces) = some kind := by
  unfold spokenBlock
  split
  · left
    rfl
  · right
    rfl

theorem ofItems_turn (turn : Turn) : Draft.ofItems now turn.items = turn.draft := by
  have thought := think_all now [] turn.thoughts (by simp [current])
  have spoke := speak_all now (spokenBlock .thinking turn.thoughts) turn.texts
    (current_spoken .thinking turn.thoughts)
  have plain : ∀ run ∈ turn.calls, Draft.openTool (spokenBlock .thinking turn.thoughts ++
      spokenBlock .text turn.texts) ≠ some run.key := by
    intro run _ tool
    have last : current (spokenBlock .thinking turn.thoughts ++ spokenBlock .text turn.texts) =
        (current (spokenBlock .text turn.texts)).or
          (current (spokenBlock .thinking turn.thoughts)) := by
      unfold current
      rw [List.getLast?_append]
      cases (spokenBlock .text turn.texts).getLast? <;> rfl
    unfold Draft.openTool at tool
    rw [last] at tool
    rcases current_spoken .text turn.texts with none | text
    · rw [none, Option.none_or] at tool
      rcases current_spoken .thinking turn.thoughts with none | thinking
      · rw [none] at tool
        cases tool
      · rw [thinking] at tool
        cases tool
    · rw [text] at tool
      cases tool
  rw [Draft.ofItems, Turn.items, List.foldl_append, List.foldl_append, thought, List.nil_append,
    spoke, call_runs now _ turn.calls turn.distinct plain, Turn.draft, List.append_assoc]

end Drafting

section Assembling

variable (calls : List BufferedCall)

theorem addFragment_last (call : BufferedCall) (fresh : call.key ∉ calls.map BufferedCall.key)
    (fragment : ToolCallFragment) (same : fragment.key = call.key) :
    addFragment (calls ++ [call]) fragment = calls ++ [call.absorb fragment] := by
  have known : fragment.key ∈ (calls ++ [call]).map BufferedCall.key := by
    rw [same]
    exact List.mem_map_of_mem (List.mem_append_right _ (List.mem_singleton_self call))
  have others : (calls.map fun other =>
      if other.key = fragment.key then other.absorb fragment else other) = calls := by
    refine (List.map_congr_left ?_).trans (List.map_id calls)
    intro other member
    have apart : ¬other.key = fragment.key := by
      intro equal
      exact fresh (List.mem_map.mpr ⟨other, member, equal.trans same⟩)
    exact if_neg apart
  rw [addFragment, if_pos known, List.map_append, others, List.map_singleton, if_pos same.symm]

theorem add_rest (call : BufferedCall) (fresh : call.key ∉ calls.map BufferedCall.key)
    (id name : String) (hasId : call.id = some id) (hasName : call.name = some name)
    (rest : List ToolCallFragment) (keyed : ∀ fragment ∈ rest, fragment.key = call.key) :
    rest.foldl addFragment (calls ++ [call]) =
      calls ++ [⟨call.key, some id, some name, call.arguments ++ String.join (payloads rest)⟩] := by
  induction rest generalizing call with
  | nil =>
      have none : String.join (payloads []) = "" := rfl
      rw [none, String.append_empty, ← hasId, ← hasName]
      rfl
  | cons fragment rest ih =>
      have others := fun part member => keyed part (List.mem_cons_of_mem _ member)
      have keepsId : (call.absorb fragment).id = some id := by
        rw [BufferedCall.absorb, hasId]
        rfl
      have keepsName : (call.absorb fragment).name = some name := by
        rw [BufferedCall.absorb, hasName]
        rfl
      rw [List.foldl_cons, addFragment_last calls call fresh fragment (keyed _ List.mem_cons_self),
        ih (call.absorb fragment) fresh keepsId keepsName others, payloads_cons,
        String.join_append, join_said_arguments, ← String.append_assoc]
      rfl

theorem add_run (run : CallRun) (fresh : run.key ∉ calls.map BufferedCall.key) :
    run.fragments.foldl addFragment calls = calls ++ [run.buffered] := by
  have unknown : run.first.key ∉ calls.map BufferedCall.key := by
    rw [run.first_key]
    exact fresh
  rw [CallRun.fragments, List.foldl_cons, addFragment, if_neg unknown, run.first_key, run.first_id,
    run.first_name, add_rest calls _ fresh run.id run.name rfl rfl run.rest run.rest_key,
    CallRun.buffered, CallRun.fragments, payloads_cons, String.join_append, join_said_arguments]

theorem add_runs (runs : List CallRun) (distinct : (runs.map CallRun.key).Nodup)
    (fresh : ∀ run ∈ runs, run.key ∉ calls.map BufferedCall.key) :
    (runs.flatMap CallRun.fragments).foldl addFragment calls =
      calls ++ runs.map CallRun.buffered := by
  induction runs generalizing calls with
  | nil => exact (List.append_nil _).symm
  | cons run rest ih =>
      obtain ⟨apart, others⟩ := List.nodup_cons.mp distinct
      have next : ∀ other ∈ rest, other.key ∉ (calls ++ [run.buffered]).map BufferedCall.key := by
        intro other member known
        rw [List.map_append] at known
        rcases List.mem_append.mp known with before | here
        · exact fresh other (List.mem_cons_of_mem _ member) before
        · have same : other.key = run.key := List.mem_singleton.mp here
          exact apart (List.mem_map.mpr ⟨other, member, same⟩)
      rw [List.flatMap_cons, List.foldl_append, add_run calls run (fresh run List.mem_cons_self),
        ih _ others next, List.append_assoc]
      rfl

end Assembling

section Agreement

variable (parse : String → Option Js.Json) (source : List ChatCompletionChunk) (turn : Turn)

theorem said_join (pieces : List String) (nonempty : ∀ piece ∈ pieces, piece ≠ "") :
    said (some (String.join pieces)) = if pieces = [] then none else some (String.join pieces) := by
  cases pieces with
  | nil => rfl
  | cons piece rest =>
      have whole : String.join (piece :: rest) ≠ "" := by
        intro empty
        rw [String.join_cons] at empty
        exact nonempty piece List.mem_cons_self (String.append_eq_empty_iff.mp empty).1
      rw [if_neg (List.cons_ne_nil piece rest)]
      exact Option.filter_eq_some_iff.mpr ⟨rfl, decide_eq_true whole⟩

theorem items_said (chunk : ChatCompletionChunk) (text : String)
    (item : .reasoning text ∈ chunk.items ∨ .text text ∈ chunk.items) : text ≠ "" := by
  have found : chunk.reasoning = some text ∨ chunk.text = some text := by
    unfold ChatCompletionChunk.items at item
    simpa using item
  rcases found with reasoning | spoken
  · obtain ⟨choice, _, told⟩ := Option.bind_eq_some_iff.mp reasoning
    simpa using (Option.filter_eq_some_iff.mp told).2
  · obtain ⟨choice, _, told⟩ := Option.bind_eq_some_iff.mp spoken
    simpa using (Option.filter_eq_some_iff.mp told).2

def Item.thought : Item → Option String
  | .reasoning words => some words
  | .text _ | .fragment _ => none

def Item.speech : Item → Option String
  | .text words => some words
  | .reasoning _ | .fragment _ => none

theorem filterMap_items (pick : Item → Option String) (thoughts texts : List String)
    (fragments : List ToolCallFragment) :
    (thoughts.map Item.reasoning ++ (texts.map Item.text ++ fragments.map Item.fragment)).filterMap
        pick =
      thoughts.filterMap (fun words => pick (.reasoning words)) ++
        (texts.filterMap (fun words => pick (.text words)) ++
          fragments.filterMap fun fragment => pick (.fragment fragment)) := by
  rw [List.filterMap_append, List.filterMap_append, List.filterMap_map, List.filterMap_map,
    List.filterMap_map]
  rfl

theorem picked_items (pick : Item → Option String) (field : ChatCompletionChunk → Option String)
    (own : ∀ chunk : ChatCompletionChunk, chunk.items.filterMap pick = (field chunk).toList) :
    (source.flatMap ChatCompletionChunk.items).filterMap pick =
      source.flatMap fun chunk => (field chunk).toList := by
  induction source with
  | nil => rfl
  | cons chunk rest ih => rw [List.flatMap_cons, List.filterMap_append, own, ih, List.flatMap_cons]

theorem streams_thoughts (streams : Streams source turn) :
    (source.flatMap fun chunk => chunk.reasoning.toList) = turn.thoughts := by
  rw [← picked_items source Item.thought ChatCompletionChunk.reasoning, streams.items, Turn.items,
    filterMap_items]
  · simp [Item.thought]
  · intro chunk
    rw [ChatCompletionChunk.items, filterMap_items]
    simp [Item.thought]

theorem streams_texts (streams : Streams source turn) :
    (source.flatMap fun chunk => chunk.text.toList) = turn.texts := by
  rw [← picked_items source Item.speech ChatCompletionChunk.text, streams.items, Turn.items,
    filterMap_items]
  · simp [Item.speech]
  · intro chunk
    rw [ChatCompletionChunk.items, filterMap_items]
    simp [Item.speech]

theorem streams_fragments (streams : Streams source turn) :
    allFragments source = turn.calls.flatMap CallRun.fragments := by
  rw [← fragmentsOf_items, streams.items]
  unfold fragmentsOf Turn.items
  rw [List.filterMap_append, List.filterMap_append, List.filterMap_map, List.filterMap_map,
    List.filterMap_map]
  simp

theorem streams_nonempty (streams : Streams source turn) (text : String)
    (told : text ∈ turn.thoughts ∨ text ∈ turn.texts) : text ≠ "" := by
  have item : Item.reasoning text ∈ turn.items ∨ Item.text text ∈ turn.items := by
    unfold Turn.items
    simpa using told
  rw [← streams.items] at item
  rcases item with reasoning | spoken
  · obtain ⟨chunk, _, here⟩ := List.mem_flatMap.mp reasoning
    exact items_said chunk text (.inl here)
  · obtain ⟨chunk, _, here⟩ := List.mem_flatMap.mp spoken
    exact items_said chunk text (.inr here)

theorem draftOf_turn (now : ℕ → ℕ) (streams : Streams source turn) :
    draftOf now source = turn.draft := by
  have all := congrArg (List.flatMap ChatCompletionChunk.items) (source_split source)
  rw [List.flatMap_append, streams.ended, List.append_nil, streams.items] at all
  rw [draftOf, ← all, ofItems_turn]

def Turn.content (turn : Turn) : List ResponseBlock :=
  (said (some (String.join turn.thoughts))).toList.map (.thinking · "") ++
    ((said (some (String.join turn.texts))).toList.map .text ++
      turn.calls.map fun run =>
        .toolUse run.id run.name (toolInput parse (String.join (payloads run.fragments))))

theorem assemble_content (messageId requestedModel : String) (streams : Streams source turn) :
    (translateResponse parse messageId (assemble source) requestedModel).content =
      turn.content parse := by
  have thoughts : String.join (source.map ChatCompletionChunk.reasoningContent) =
      String.join turn.thoughts := by
    rw [join_said source ChatCompletionChunk.reasoning _ reasoningContent_eq,
      streams_thoughts source turn streams]
  have texts : String.join (source.map ChatCompletionChunk.content) = String.join turn.texts := by
    rw [join_said source ChatCompletionChunk.text _ content_eq, streams_texts source turn streams]
  have calls : (allFragments source).foldl addFragment [] = turn.calls.map CallRun.buffered := by
    rw [streams_fragments source turn streams, add_runs [] turn.calls turn.distinct,
      List.nil_append]
    intro run _ known
    cases known
  change translateContent parse _ = _
  unfold translateContent Turn.content
  dsimp only
  rw [thoughts, texts, calls, List.map_map, List.filterMap_map]
  congr 2
  rw [← List.filterMap_eq_map]
  rfl

theorem readInput_eq (empty : parse "" = none) (payload : String) :
    readInput parse payload = toolInput parse payload := by
  unfold readInput toolInput
  split
  · rename_i same
    rw [same, empty]
    rfl
  · rfl

theorem pieces_typed (pick : ContentDelta → Option String) (kind : Kind) (pieces : List String)
    (own : ∀ piece, pick (kind.delta piece) = some piece) :
    (pieces.map kind.delta).filterMap pick = pieces := by
  rw [List.filterMap_map]
  refine (List.filterMap_congr ?_).trans List.filterMap_some
  intro piece _
  exact own piece

theorem readBlock_call (empty : parse "" = none) (run : CallRun) :
    readBlock parse (relabel Kind.block Kind.delta run.block) =
      .toolUse run.id run.name (toolInput parse (String.join (payloads run.fragments))) := by
  have pieces := pieces_typed inputJson (.tool run.key run.id run.name) (payloads run.fragments)
    fun _ => rfl
  change ResponseBlock.toolUse run.id run.name (readInput parse (String.join
    (((payloads run.fragments).map (Kind.delta (.tool run.key run.id run.name))).filterMap
      inputJson))) = _
  rw [pieces, readInput_eq parse empty]

theorem readBlocks_spoken (kind : Kind) (pieces : List String) (block : String → ResponseBlock)
    (nonempty : ∀ piece ∈ pieces, piece ≠ "")
    (read : readBlock parse (relabel Kind.block Kind.delta ⟨kind, pieces⟩) =
      block (String.join pieces)) :
    (spokenBlock kind pieces).typed.map (readBlock parse) =
      (said (some (String.join pieces))).toList.map block := by
  rw [said_join pieces nonempty]
  unfold spokenBlock
  split
  · rfl
  · exact congrArg (fun block => [block]) read

theorem turn_draft_content (empty : parse "" = none) (streams : Streams source turn) :
    turn.draft.typed.map (readBlock parse) = turn.content parse := by
  have thinking : readBlock parse (relabel Kind.block Kind.delta ⟨.thinking, turn.thoughts⟩) =
      .thinking (String.join turn.thoughts) "" := by
    change ResponseBlock.thinking ("" ++ String.join
      ((turn.thoughts.map (Kind.delta .thinking)).filterMap thinkingDelta)) "" = _
    rw [pieces_typed thinkingDelta .thinking _ fun _ => rfl, String.empty_append]
  have text : readBlock parse (relabel Kind.block Kind.delta ⟨.text, turn.texts⟩) =
      .text (String.join turn.texts) := by
    change ResponseBlock.text ("" ++ String.join
      ((turn.texts.map (Kind.delta .text)).filterMap textDelta)) = _
    rw [pieces_typed textDelta .text _ fun _ => rfl, String.empty_append]
  have thoughts := readBlocks_spoken parse .thinking turn.thoughts (.thinking · "")
    (fun piece member => streams_nonempty source turn streams piece (.inl member)) thinking
  have texts := readBlocks_spoken parse .text turn.texts .text
    (fun piece member => streams_nonempty source turn streams piece (.inr member)) text
  have calls : (turn.calls.map CallRun.block).map (relabel Kind.block Kind.delta) =
      turn.calls.map fun run => relabel Kind.block Kind.delta run.block := List.map_map
  unfold Draft.typed at thoughts texts ⊢
  rw [Turn.draft, List.map_append, List.map_append, List.map_append, List.map_append, thoughts,
    texts, calls, List.map_map, Turn.content]
  congr 2
  apply List.map_congr_left
  intro run _
  exact readBlock_call parse empty run

theorem stopReasons_writes (message : MessageHeader) (draft : Draft) (reason : StopReason)
    (events : List StreamEvent) (writes : Writes message draft reason [] events) :
    stopReasons events = [reason] := by
  obtain ⟨body, tokens, rfl, blocks, _⟩ := writes
  have silent : stopReasons body = [] := by
    have quiet : stopReasons (withoutPing body) = stopReasons body := by
      unfold stopReasons withoutPing
      rw [List.filterMap_filter]
      congr 1
      funext event
      cases event <;> rfl
    rw [← quiet, blocks, stopReasons, List.filterMap_map]
    exact List.filterMap_eq_nil_iff.mpr fun _ _ => rfl
  unfold stopReasons at silent ⊢
  rw [List.cons_append, List.filterMap_cons, List.filterMap_append, silent]
  rfl

end Agreement

/-- A well-formed stream gives the content and the stop reason that the message
assembled from its chunks gives. -/
theorem streaming_agrees (parse : String → Option Js.Json) (empty : parse "" = none)
    (message : MessageHeader) (now : ℕ → ℕ) (messageId : String)
    (source : List ChatCompletionChunk) (wellFormed : WellFormed source) :
    streamContent parse (createStreamAdapter message now source) =
        (translateResponse parse messageId (assemble source) message.model).content ∧
      (stopReasons (createStreamAdapter message now source)).map some =
        [(translateResponse parse messageId (assemble source) message.model).stopReason] := by
  obtain ⟨turn, streams⟩ := wellFormed
  have writes := createStreamAdapter_writes message now source
  have late : lateDeltas (draftOf now source) (afterFinish source) = [] := by
    have none : allFragments (afterFinish source) = [] := by
      rw [← fragmentsOf_items, streams.ended]
      rfl
    unfold allFragments at none
    rw [lateDeltas, none]
    rfl
  rw [late, draftOf_turn source turn now streams] at writes
  constructor
  · rw [streamContent, contentEvents_writes message _ _ _ _ writes]
    change (gather (render 0 turn.draft.typed ++ [])).map (readBlock parse) = _
    rw [List.append_nil, gather_render, turn_draft_content parse source turn empty streams,
      assemble_content parse source turn messageId message.model streams]
  · have nonempty : turn.reason ≠ "" := by
      have member : turn.reason ∈ source.filterMap ChatCompletionChunk.finish := by
        rw [streams.finish]
        exact List.mem_singleton_self turn.reason
      obtain ⟨chunk, _, finish⟩ := List.mem_filterMap.mp member
      obtain ⟨choice, _, told⟩ := Option.bind_eq_some_iff.mp finish
      simpa using (Option.filter_eq_some_iff.mp told).2
    have buffered : (translateResponse parse messageId (assemble source) message.model).stopReason =
        mapStopReason (some turn.reason) := by
      change mapStopReason (source.filterMap ChatCompletionChunk.finish).getLast? = _
      rw [streams.finish]
      rfl
    have streamed : stopReason source = mapFinishReason turn.reason := by
      unfold stopReason finishReason
      rw [streams.finish]
      rfl
    rw [stopReasons_writes message _ _ _ writes, buffered, mapStopReason_finish _ nonempty,
      streamed]
    rfl

def sampleTurn : Turn where
  thoughts := ["Look", " first."]
  texts := ["Reading", "."]
  calls := [
    ⟨0, "call_a", "read", ⟨some 0, some "call_a", some ⟨some "read", some "\x7b"⟩⟩,
      [⟨some 0, none, some ⟨none, some "\x7d"⟩⟩], rfl, rfl, rfl, by decide⟩,
    ⟨1, "call_b", "list", ⟨some 1, some "call_b", some ⟨some "list", some ""⟩⟩, [], rfl, rfl, rfl,
      by decide⟩]
  reason := "tool_calls"
  distinct := by decide

def sampleChunks : List ChatCompletionChunk :=
  [⟨[⟨⟨some "Look", none, []⟩, none⟩], none⟩,
    ⟨[⟨⟨some " first.", some "Reading", []⟩, none⟩], none⟩,
    ⟨[⟨⟨none, some ".", []⟩, none⟩], none⟩,
    callChunk 0 (some "call_a") (some "read") "\x7b", callChunk 0 none none "\x7d",
    callChunk 1 (some "call_b") (some "list") "",
    ⟨[⟨⟨none, none, []⟩, some "tool_calls"⟩], none⟩,
    ⟨[], some ⟨some 12, some 34, some 46⟩⟩]

/-- `JSON.parse` on the texts of the sample. -/
def sampleParse (text : String) : Option Js.Json :=
  if text = "\x7b\x7d" then some (.object []) else none

theorem sample_agrees :
    streamContent sampleParse (createStreamAdapter ⟨"msg_1", "coder"⟩ (fun _ => 0) sampleChunks) =
        (translateResponse sampleParse "msg_2" (assemble sampleChunks) "coder").content ∧
      (stopReasons (createStreamAdapter ⟨"msg_1", "coder"⟩ (fun _ => 0) sampleChunks)).map some =
        [(translateResponse sampleParse "msg_2" (assemble sampleChunks) "coder").stopReason] :=
  streaming_agrees sampleParse (by decide) ⟨"msg_1", "coder"⟩ (fun _ => 0) "msg_2" sampleChunks
    ⟨sampleTurn, rfl, rfl, rfl⟩

end LlmGateway.Anthropic
