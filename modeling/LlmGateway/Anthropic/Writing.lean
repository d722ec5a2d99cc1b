import LlmGateway.Anthropic.Draft

/-!
The events of a whole source. The first finish reason closes the message; after
that only the arguments of late tool fragments are still passed on.
-/

namespace LlmGateway.Anthropic

open Blocks

section Chunks

variable (message : MessageHeader) (now : ℕ → ℕ) (adapter : Adapter) (draft : Draft)

def Adapter.onItem (adapter : Adapter) : Item → Adapter
  | .reasoning text => adapter.onReasoning message text
  | .text text => adapter.onContent message text
  | .fragment fragment => adapter.onToolCall message now fragment

def Adapter.onItems (chunk : ChatCompletionChunk) : Adapter :=
  chunk.items.foldl (Adapter.onItem message now) (adapter.onUsage chunk.usage)

theorem processChunk_eq (chunk : ChatCompletionChunk) :
    adapter.processChunk message now chunk =
      chunk.finish.elim (adapter.onItems message now chunk)
        ((adapter.onItems message now chunk).onFinish message) := by
  unfold Adapter.processChunk Adapter.onItems ChatCompletionChunk.items
    ChatCompletionChunk.reasoning ChatCompletionChunk.text ChatCompletionChunk.fragments
    ChatCompletionChunk.finish
  cases chunk.choices.head? with
  | none => rfl
  | some choice =>
      simp only [Option.bind_some, Option.elim_some, List.foldl_append, List.foldl_map]
      cases said choice.delta.reasoningContent <;> cases said choice.delta.content <;> rfl

theorem denotes_onUsage (usage : Option Chat.CompletionUsage)
    (denotes : Denotes message adapter draft) : Denotes message (adapter.onUsage usage) draft := by
  unfold Adapter.onUsage
  split
  · exact denotes
  · split
    · exact denotes
    · exact ⟨denotes.state, denotes.blockIndex, denotes.tool, denotes.known, denotes.silent,
        denotes.written⟩

theorem denotes_onItem (item : Item) (denotes : Denotes message adapter draft) :
    Denotes message (adapter.onItem message now item) (Draft.add now draft item) := by
  cases item with
  | reasoning text => exact denotes_think message adapter draft text denotes
  | text text => exact denotes_speak message adapter draft text denotes
  | fragment fragment => exact denotes_call message now adapter draft fragment denotes

theorem denotes_items (items : List Item) (denotes : Denotes message adapter draft) :
    Denotes message (items.foldl (Adapter.onItem message now) adapter)
      (items.foldl (Draft.add now) draft) := by
  induction items generalizing adapter draft with
  | nil => exact denotes
  | cons item rest ih =>
      exact ih _ _ (denotes_onItem message now adapter draft item denotes)

theorem denotes_onItems (chunk : ChatCompletionChunk) (denotes : Denotes message adapter draft) :
    Denotes message (adapter.onItems message now chunk)
      (chunk.items.foldl (Draft.add now) draft) :=
  denotes_items message now _ draft chunk.items
    (denotes_onUsage message adapter draft chunk.usage denotes)

end Chunks

def untilFinish : List ChatCompletionChunk → List ChatCompletionChunk
  | [] => []
  | chunk :: rest => if chunk.finish.isSome then [chunk] else chunk :: untilFinish rest

def afterFinish : List ChatCompletionChunk → List ChatCompletionChunk
  | [] => []
  | chunk :: rest => if chunk.finish.isSome then rest else afterFinish rest

theorem source_split (source : List ChatCompletionChunk) :
    source = untilFinish source ++ afterFinish source := by
  induction source with
  | nil => rfl
  | cons chunk rest ih =>
      unfold untilFinish afterFinish
      split
      · rfl
      · rw [List.cons_append, ← ih]

def finishReason (source : List ChatCompletionChunk) : Option String :=
  (source.filterMap ChatCompletionChunk.finish).head?

def lateDelta (draft : Draft) (fragment : ToolCallFragment) : Option StreamEvent :=
  if fragment.key ∈ Draft.keys draft then
    (said fragment.arguments).map fun arguments =>
      .contentBlock (.delta (draft.length - 1) (.inputJson arguments))
  else none

def lateDeltas (draft : Draft) (chunks : List ChatCompletionChunk) : List StreamEvent :=
  (chunks.flatMap ChatCompletionChunk.fragments).filterMap (lateDelta draft)

/-- The events of a message: the draft between start and stop, then what came late. -/
def Writes (message : MessageHeader) (draft : Draft) (reason : StopReason)
    (late events : List StreamEvent) : Prop :=
  ∃ body tokens,
    events = .messageStart message :: body ++ .messageDelta reason tokens :: .messageStop :: late ∧
    withoutPing body = (render 0 draft.typed).map .contentBlock ∧
    body.countP StreamEvent.isPing ≤ 1

def contentEvents (events : List StreamEvent) : List (Event ResponseBlock ContentDelta) :=
  events.filterMap fun
    | .contentBlock event => some event
    | _ => none

section Closing

variable (message : MessageHeader) (now : ℕ → ℕ) (adapter : Adapter) (draft : Draft)

theorem typed_nonempty (nonempty : draft ≠ []) : draft.typed ≠ [] := by
  simpa [Draft.typed] using nonempty

theorem writes_stopped (reason : StopReason) (denotes : Denotes message adapter draft)
    (nonempty : draft ≠ []) :
    Writes message draft reason [] (adapter.events ++ [.contentBlock (.stop adapter.blockIndex)] ++
      [.messageDelta reason adapter.outputTokens] ++ [.messageStop]) := by
  obtain ⟨body, events, blocks, ping⟩ := denotes.written nonempty
  refine ⟨body ++ [.contentBlock (.stop adapter.blockIndex)], adapter.outputTokens, ?_, ?_, ?_⟩
  · rw [events]
    simp
  · have index : adapter.blockIndex = draft.typed.length - 1 := by
      rw [Draft.typed, List.length_map, denotes.blockIndex]
    rw [render_eq _ (typed_nonempty draft nonempty), List.map_append, ← blocks, ← index,
      withoutPing, List.filter_append]
    rfl
  · rw [List.countP_append, ping]
    rfl

theorem open_state (denotes : Denotes message adapter draft) (nonempty : draft ≠ []) :
    ∃ kind : Kind, adapter.state = kind.state := by
  obtain ⟨kind, last⟩ := Option.ne_none_iff_exists'.mp fun none =>
    nonempty ((current_eq_none draft).mp none)
  exact ⟨kind, denotes_state message adapter draft kind denotes last⟩

theorem onFinish_writes (reason : String) (denotes : Denotes message adapter draft) :
    Writes message draft (mapFinishReason reason) [] (adapter.onFinish message reason).events := by
  unfold Adapter.onFinish
  by_cases empty : draft = []
  · subst empty
    have waiting : adapter.state = .waiting := denotes.state
    obtain ⟨silent, fresh⟩ := denotes.silent rfl
    rw [waiting]
    unfold Adapter.emitPing Adapter.emit Adapter.enter
    dsimp only
    rw [fresh, silent, if_neg Bool.false_ne_true]
    exact ⟨[.ping], adapter.outputTokens, rfl, rfl, le_refl 1⟩
  · obtain ⟨kind, state⟩ := open_state message adapter draft denotes empty
    have stopped := writes_stopped message adapter draft (mapFinishReason reason) denotes empty
    rw [state]
    cases kind <;> exact stopped

theorem endOfSource_writes (denotes : Denotes message adapter draft) :
    Writes message draft .endTurn [] (adapter.endOfSource message).events := by
  unfold Adapter.endOfSource
  by_cases empty : draft = []
  · subst empty
    have waiting : adapter.state = .waiting := denotes.state
    obtain ⟨silent, _⟩ := denotes.silent rfl
    rw [waiting]
    unfold Adapter.emit
    dsimp only
    rw [silent]
    exact ⟨[], adapter.outputTokens, rfl, rfl, Nat.zero_le 1⟩
  · obtain ⟨kind, state⟩ := open_state message adapter draft denotes empty
    have stopped := writes_stopped message adapter draft .endTurn denotes empty
    rw [state]
    cases kind <;> exact stopped

structure Closed (adapter : Adapter) (draft : Draft) : Prop where
  state : adapter.state = .closed
  blockIndex : adapter.blockIndex = draft.length - 1
  known : ∀ key, (adapter.toolCalls.lookup key).isSome = true ↔ key ∈ Draft.keys draft

theorem emitPing_keeps (adapter : Adapter) :
    adapter.emitPing.blockIndex = adapter.blockIndex ∧
      adapter.emitPing.toolCalls = adapter.toolCalls := by
  unfold Adapter.emitPing
  split <;> exact ⟨rfl, rfl⟩

theorem onFinish_closed (reason : String) (denotes : Denotes message adapter draft) :
    Closed (adapter.onFinish message reason) draft := by
  unfold Adapter.onFinish
  by_cases empty : draft = []
  · subst empty
    have waiting : adapter.state = .waiting := denotes.state
    obtain ⟨index, calls⟩ := emitPing_keeps (adapter.emit (.messageStart message))
    rw [waiting]
    refine ⟨rfl, index.trans denotes.blockIndex, ?_⟩
    intro key
    change ((adapter.emit (.messageStart message)).emitPing.toolCalls.lookup key).isSome = true ↔ _
    rw [calls]
    exact denotes.known key
  · obtain ⟨kind, state⟩ := open_state message adapter draft denotes empty
    rw [state]
    cases kind <;> exact ⟨rfl, denotes.blockIndex, denotes.known⟩

end Closing

section Late

variable (message : MessageHeader) (now : ℕ → ℕ) (adapter : Adapter) (draft : Draft)

/-- After the message only the arguments of a known tool call are passed on. -/
theorem accumulate_closed (fragment : ToolCallFragment) (closed : Closed adapter draft) :
    Closed (adapter.accumulate fragment) draft ∧
      (adapter.accumulate fragment).events =
        adapter.events ++ (lateDelta draft fragment).toList := by
  unfold Adapter.accumulate lateDelta
  have known := closed.known fragment.key
  cases found : adapter.toolCalls.lookup fragment.key with
  | none =>
      have unknown : fragment.key ∉ Draft.keys draft := by
        intro member
        have present := known.mpr member
        rw [found] at present
        cases present
      rw [if_neg unknown]
      exact ⟨closed, (List.append_nil _).symm⟩
  | some existing =>
      have member : fragment.key ∈ Draft.keys draft := known.mp (by rw [found]; rfl)
      rw [if_pos member]
      cases said fragment.arguments with
      | none => exact ⟨closed, (List.append_nil _).symm⟩
      | some arguments =>
          refine ⟨⟨closed.state, closed.blockIndex, ?_⟩, ?_⟩
          · intro key
            rw [← closed.known key]
            change ((adapter.toolCalls.insert fragment.key _).lookup key).isSome = true ↔ _
            rw [insert_known]
            constructor
            · rintro (present | here)
              · exact present
              · cases here
                rw [found]
                rfl
            · exact .inl
          · change adapter.events ++ [.contentBlock (.delta adapter.blockIndex _)] = _
            rw [closed.blockIndex]
            rfl

def Item.late (draft : Draft) : Item → List StreamEvent
  | .fragment part => (lateDelta draft part).toList
  | .reasoning _ | .text _ => []

theorem onItem_closed (item : Item) (closed : Closed adapter draft) :
    Closed (adapter.onItem message now item) draft ∧
      (adapter.onItem message now item).events = adapter.events ++ item.late draft := by
  have state := closed.state
  cases item with
  | reasoning text =>
      have same : adapter.onItem message now (.reasoning text) = adapter := by
        simp [Adapter.onItem, Adapter.onReasoning, state]
      rw [same]
      exact ⟨closed, (List.append_nil _).symm⟩
  | text text =>
      have same : adapter.onItem message now (.text text) = adapter := by
        simp [Adapter.onItem, Adapter.onContent, state]
      rw [same]
      exact ⟨closed, (List.append_nil _).symm⟩
  | fragment fragment =>
      have same : adapter.onItem message now (.fragment fragment) =
          adapter.accumulate fragment := by
        simp [Adapter.onItem, Adapter.onToolCall, state]
      rw [same]
      exact accumulate_closed adapter draft fragment closed

theorem items_closed (items : List Item) (closed : Closed adapter draft) :
    Closed (items.foldl (Adapter.onItem message now) adapter) draft ∧
      (items.foldl (Adapter.onItem message now) adapter).events =
        adapter.events ++ items.flatMap (Item.late draft) := by
  induction items generalizing adapter with
  | nil => exact ⟨closed, (List.append_nil _).symm⟩
  | cons item rest ih =>
      obtain ⟨next, events⟩ := onItem_closed message now adapter draft item closed
      obtain ⟨last, others⟩ := ih _ next
      refine ⟨last, ?_⟩
      rw [List.foldl_cons, others, events, List.flatMap_cons, List.append_assoc]

theorem late_items (chunk : ChatCompletionChunk) :
    chunk.items.flatMap (Item.late draft) = chunk.fragments.filterMap (lateDelta draft) := by
  have told : ∀ texts : List String, ∀ item : String → Item,
      (∀ text, (item text).late draft = []) → (texts.map item).flatMap (Item.late draft) = [] := by
    intro texts item silent
    rw [List.flatMap_map]
    simp [silent]
  unfold ChatCompletionChunk.items
  rw [List.flatMap_append, List.flatMap_append, told _ _ fun _ => rfl, told _ _ fun _ => rfl,
    List.flatMap_map, List.filterMap_eq_flatMap_toList]
  rfl

theorem processChunk_closed (chunk : ChatCompletionChunk) (closed : Closed adapter draft) :
    Closed (adapter.processChunk message now chunk) draft ∧
      (adapter.processChunk message now chunk).events =
        adapter.events ++ chunk.fragments.filterMap (lateDelta draft) := by
  have used : Closed (adapter.onUsage chunk.usage) draft ∧
      (adapter.onUsage chunk.usage).events = adapter.events := by
    unfold Adapter.onUsage
    split
    · exact ⟨closed, rfl⟩
    · split
      · exact ⟨closed, rfl⟩
      · exact ⟨⟨closed.state, closed.blockIndex, closed.known⟩, rfl⟩
  obtain ⟨next, events⟩ := items_closed message now _ draft chunk.items used.1
  rw [used.2, late_items] at events
  have again : ∀ reason, (adapter.onItems message now chunk).onFinish message reason =
      adapter.onItems message now chunk := by
    intro reason
    unfold Adapter.onFinish
    have state : (adapter.onItems message now chunk).state = .closed := next.state
    rw [state]
  have stays : adapter.processChunk message now chunk = adapter.onItems message now chunk := by
    rw [processChunk_eq]
    cases chunk.finish with
    | none => rfl
    | some reason => exact again reason
  rw [stays]
  exact ⟨next, events⟩

theorem source_closed (source : List ChatCompletionChunk) (closed : Closed adapter draft) :
    ((source.foldl (Adapter.processChunk message now) adapter).endOfSource message).events =
      adapter.events ++ lateDeltas draft source := by
  induction source generalizing adapter with
  | nil =>
      have ended : adapter.endOfSource message = adapter := by
        unfold Adapter.endOfSource
        rw [closed.state]
      rw [List.foldl_nil, ended]
      exact (List.append_nil _).symm
  | cons chunk rest ih =>
      obtain ⟨next, events⟩ := processChunk_closed message now adapter draft chunk closed
      rw [List.foldl_cons, ih _ next, events, List.append_assoc]
      unfold lateDeltas
      rw [List.flatMap_cons, List.filterMap_append]

end Late

section Runs

variable (message : MessageHeader) (now : ℕ → ℕ)

def draftOf (source : List ChatCompletionChunk) : Draft :=
  Draft.ofItems now ((untilFinish source).flatMap ChatCompletionChunk.items)

def stopReason (source : List ChatCompletionChunk) : StopReason :=
  (finishReason source).elim .endTurn mapFinishReason

theorem writes_late (draft : Draft) (reason : StopReason) (late events : List StreamEvent)
    (writes : Writes message draft reason [] events) :
    Writes message draft reason late (events ++ late) := by
  obtain ⟨body, tokens, same, blocks, ping⟩ := writes
  exact ⟨body, tokens, by rw [same]; simp, blocks, ping⟩

theorem source_writes (source : List ChatCompletionChunk) (adapter : Adapter) (draft : Draft)
    (denotes : Denotes message adapter draft) :
    Writes message
      (((untilFinish source).flatMap ChatCompletionChunk.items).foldl (Draft.add now) draft)
      (stopReason source)
      (lateDeltas (((untilFinish source).flatMap ChatCompletionChunk.items).foldl
        (Draft.add now) draft) (afterFinish source))
      ((source.foldl (Adapter.processChunk message now) adapter).endOfSource message).events := by
  induction source generalizing adapter draft with
  | nil => exact endOfSource_writes message adapter draft denotes
  | cons chunk rest ih =>
      have next := denotes_onItems message now adapter draft chunk denotes
      have step := processChunk_eq message now adapter chunk
      unfold untilFinish afterFinish stopReason finishReason
      cases finish : chunk.finish with
      | none =>
          rw [finish] at step
          have tail := ih _ _ next
          rw [List.foldl_cons, step, List.filterMap_cons_none finish]
          simpa [stopReason, finishReason, List.foldl_append] using tail
      | some reason =>
          rw [finish] at step
          have written := onFinish_writes message _ _ reason next
          have closed := onFinish_closed message _ _ reason next
          have late := source_closed message now _ _ rest closed
          have all := writes_late message _ _
            (lateDeltas (chunk.items.foldl (Draft.add now) draft) rest) _ written
          rw [← late] at all
          rw [List.foldl_cons, step, List.filterMap_cons_some finish]
          simpa using all

/-- The events of the adapter: the draft as a finished block stream between
start and stop, and what is passed on after the message was closed. -/
theorem createStreamAdapter_writes (source : List ChatCompletionChunk) :
    Writes message (draftOf now source) (stopReason source)
      (lateDeltas (draftOf now source) (afterFinish source))
      (createStreamAdapter message now source) :=
  source_writes message now source .initial [] (denotes_initial message)

theorem contentEvents_withoutPing (events : List StreamEvent) :
    contentEvents (withoutPing events) = contentEvents events := by
  unfold contentEvents withoutPing
  rw [List.filterMap_filter]
  congr 1
  funext event
  cases event <;> rfl

theorem contentEvents_contentBlock (events : List (Event ResponseBlock ContentDelta)) :
    contentEvents (events.map .contentBlock) = events := by
  unfold contentEvents
  rw [List.filterMap_map]
  exact List.filterMap_some

theorem contentEvents_append (left right : List StreamEvent) :
    contentEvents (left ++ right) = contentEvents left ++ contentEvents right :=
  List.filterMap_append

theorem contentEvents_writes (draft : Draft) (reason : StopReason)
    (late events : List StreamEvent) (writes : Writes message draft reason late events) :
    contentEvents events = render 0 draft.typed ++ contentEvents late := by
  obtain ⟨body, tokens, rfl, blocks, _⟩ := writes
  have middle : contentEvents body = render 0 draft.typed := by
    rw [← contentEvents_withoutPing, blocks, contentEvents_contentBlock]
  rw [← middle, ← contentEvents_append]
  unfold contentEvents
  simp

theorem mem_keys_draftOf (source : List ChatCompletionChunk) (key : ℤ) :
    key ∈ Draft.keys (draftOf now source) ↔
      ∃ early ∈ (untilFinish source).flatMap ChatCompletionChunk.fragments, early.key = key := by
  have fragments : ∀ chunk : ChatCompletionChunk, ∀ fragment,
      .fragment fragment ∈ chunk.items ↔ fragment ∈ chunk.fragments := by
    intro chunk fragment
    simp [ChatCompletionChunk.items]
  rw [draftOf, Draft.ofItems, mem_keys_items]
  simp only [List.mem_flatMap, fragments]
  simp [Draft.keys]

end Runs

end LlmGateway.Anthropic
