import LlmGateway.Anthropic.Writing

/-!
The output tokens of a streamed message. The adapter keeps the last count above
zero and writes it when it closes the message, so what an upstream reports
behind its finish reason comes too late.
-/

namespace LlmGateway.Anthropic

open Blocks

def ChatCompletionChunk.reported (chunk : ChatCompletionChunk) : Option ℚ :=
  chunk.usage.bind Chat.CompletionUsage.completionTokens

def reports (chunks : List ChatCompletionChunk) : List ℚ :=
  chunks.filterMap ChatCompletionChunk.reported

def reportedTokens (source : List ChatCompletionChunk) : ℚ := (reports source).getLast?.getD 0

def StreamEvent.deltaTokens : StreamEvent → Option ℚ
  | .messageDelta _ tokens => some tokens
  | _ => none

/-- The counts the client reads: one for each `message_delta`. -/
def deliveredTokens (events : List StreamEvent) : List ℚ :=
  events.filterMap StreamEvent.deltaTokens

def held (tokens : ℚ) (counts : List ℚ) : ℚ :=
  counts.foldl (fun kept count => if count = 0 then kept else count) tokens

/-- The last report of the stream already stands when the finish reason comes:
if it is zero, no report up to there is anything else, and otherwise it is the
last of those above zero. -/
def ReportsInTime (source : List ChatCompletionChunk) : Prop :=
  if reportedTokens source = 0 then ∀ count ∈ reports (untilFinish source), count = 0
  else ((reports (untilFinish source)).filter (· ≠ 0)).getLast? = some (reportedTokens source)

section Counts

variable (tokens : ℚ) (counts : List ℚ)

theorem held_eq : held tokens counts = (counts.filter (· ≠ 0)).getLast?.getD tokens := by
  induction counts generalizing tokens with
  | nil => rfl
  | cons count rest ih =>
      unfold held at ih ⊢
      rw [List.foldl_cons, ih]
      by_cases zero : count = 0
      · rw [if_pos zero, List.filter_cons_of_neg (by simpa using zero)]
      · rw [if_neg zero, List.filter_cons_of_pos (by simpa using zero), List.getLast?_cons]
        rfl

theorem held_iff (final : ℚ) :
    held 0 counts = final ↔
      if final = 0 then ∀ count ∈ counts, count = 0
      else (counts.filter (· ≠ 0)).getLast? = some final := by
  rw [held_eq]
  split
  · rename_i zero
    subst zero
    cases last : (counts.filter (· ≠ 0)).getLast? with
    | none =>
        have none_left := List.getLast?_eq_none_iff.mp last
        rw [List.filter_eq_nil_iff] at none_left
        exact iff_of_true rfl fun count member => by simpa using none_left count member
    | some count =>
        have kept := List.mem_of_getLast? last
        obtain ⟨member, above⟩ := List.mem_filter.mp kept
        have above : count ≠ 0 := by simpa using above
        exact iff_of_false above fun all => above (all count member)
  · rename_i above
    cases (counts.filter (· ≠ 0)).getLast? with
    | none => exact iff_of_false (fun zero => above zero.symm) fun none => by cases none
    | some count => simp

end Counts

section Adapters

variable (message : MessageHeader) (now : ℕ → ℕ) (adapter : Adapter) (draft : Draft)

theorem onUsage_tokens (usage : Option Chat.CompletionUsage) :
    (adapter.onUsage usage).outputTokens =
      held adapter.outputTokens (usage.bind Chat.CompletionUsage.completionTokens).toList := by
  unfold Adapter.onUsage
  cases usage.bind Chat.CompletionUsage.completionTokens with
  | none => rfl
  | some tokens =>
      change (if tokens = 0 then adapter else _).outputTokens = if tokens = 0 then _ else tokens
      split <;> rfl

theorem emitPing_tokens : adapter.emitPing.outputTokens = adapter.outputTokens := by
  unfold Adapter.emitPing
  split <;> rfl

theorem accumulate_tokens (fragment : ToolCallFragment) :
    (adapter.accumulate fragment).outputTokens = adapter.outputTokens := by
  unfold Adapter.accumulate
  split <;> rfl

theorem onItem_tokens (item : Item) :
    (adapter.onItem message now item).outputTokens = adapter.outputTokens := by
  cases item with
  | reasoning text =>
      unfold Adapter.onItem Adapter.onReasoning
      cases state : adapter.state <;> dsimp only <;> split <;>
        first | rfl | exact emitPing_tokens _
  | text text =>
      unfold Adapter.onItem Adapter.onContent
      cases state : adapter.state <;> dsimp only <;> split <;>
        first | rfl | exact emitPing_tokens _
  | fragment fragment =>
      unfold Adapter.onItem Adapter.onToolCall
      cases state : adapter.state <;> dsimp only <;> rw [accumulate_tokens]
      · exact emitPing_tokens _
      · rfl
      · rfl
      · split <;> rfl

theorem onItems_tokens (chunk : ChatCompletionChunk) :
    (adapter.onItems message now chunk).outputTokens =
      held adapter.outputTokens (reports [chunk]) := by
  have items : ∀ (items : List Item) (adapter : Adapter),
      (items.foldl (Adapter.onItem message now) adapter).outputTokens = adapter.outputTokens := by
    intro items
    induction items with
    | nil => exact fun _ => rfl
    | cons item rest ih =>
        intro adapter
        rw [List.foldl_cons, ih, onItem_tokens]
  rw [Adapter.onItems, items, onUsage_tokens]
  change held _ chunk.reported.toList = _
  cases counted : chunk.reported with
  | none => rw [reports, List.filterMap_cons_none counted]; rfl
  | some tokens => rw [reports, List.filterMap_cons_some counted]; rfl

theorem denotes_undelivered (denotes : Denotes message adapter draft) :
    deliveredTokens adapter.events = [] := by
  have silent : ∀ events : List StreamEvent, deliveredTokens (withoutPing events) = [] →
      deliveredTokens events = [] := by
    intro events none
    rw [deliveredTokens, List.filterMap_eq_nil_iff] at none ⊢
    intro event member
    cases event with
    | ping => rfl
    | _ => exact none _ (List.mem_filter.mpr ⟨member, rfl⟩)
  by_cases empty : draft = []
  · rw [(denotes.silent empty).1]
    rfl
  · obtain ⟨body, events, blocks, _⟩ := denotes.written empty
    rw [events]
    change deliveredTokens body = []
    apply silent
    rw [blocks, deliveredTokens, List.filterMap_map]
    exact List.filterMap_eq_nil_iff.mpr fun _ _ => rfl

theorem deliveredTokens_append (left right : List StreamEvent) :
    deliveredTokens (left ++ right) = deliveredTokens left ++ deliveredTokens right :=
  List.filterMap_append

theorem emitPing_delivered : deliveredTokens adapter.emitPing.events =
    deliveredTokens adapter.events := by
  unfold Adapter.emitPing
  split
  · rfl
  · exact (deliveredTokens_append _ _).trans (List.append_nil _)

theorem onFinish_delivered (reason : String) (denotes : Denotes message adapter draft) :
    deliveredTokens (adapter.onFinish message reason).events = [adapter.outputTokens] := by
  have undelivered := denotes_undelivered message adapter draft denotes
  unfold Adapter.onFinish
  by_cases empty : draft = []
  · subst empty
    have waiting : adapter.state = .waiting := denotes.state
    rw [waiting]
    simp only [Adapter.enter, Adapter.emit, deliveredTokens_append, emitPing_delivered,
      undelivered]
    rfl
  · obtain ⟨kind, state⟩ := open_state message adapter draft denotes empty
    rw [state]
    cases kind <;>
      simp only [Kind.state, Adapter.enter, Adapter.emit, deliveredTokens_append, undelivered] <;>
      rfl

theorem endOfSource_delivered (denotes : Denotes message adapter draft) :
    deliveredTokens (adapter.endOfSource message).events = [adapter.outputTokens] := by
  have undelivered := denotes_undelivered message adapter draft denotes
  unfold Adapter.endOfSource
  by_cases empty : draft = []
  · subst empty
    have waiting : adapter.state = .waiting := denotes.state
    rw [waiting]
    simp only [Adapter.emit, deliveredTokens_append, undelivered]
    rfl
  · obtain ⟨kind, state⟩ := open_state message adapter draft denotes empty
    rw [state]
    cases kind <;> simp only [Kind.state, Adapter.emit, deliveredTokens_append, undelivered] <;> rfl

theorem lateDeltas_undelivered (chunks : List ChatCompletionChunk) :
    deliveredTokens (lateDeltas draft chunks) = [] := by
  rw [deliveredTokens, List.filterMap_eq_nil_iff]
  intro event member
  obtain ⟨fragment, _, late⟩ := List.mem_filterMap.mp member
  unfold lateDelta at late
  split at late
  · obtain ⟨arguments, _, rfl⟩ := Option.map_eq_some_iff.mp late
    rfl
  · cases late

theorem held_reports (tokens : ℚ) (chunk : ChatCompletionChunk)
    (rest : List ChatCompletionChunk) :
    held tokens (reports (chunk :: rest)) = held (held tokens (reports [chunk])) (reports rest) := by
  rw [← List.singleton_append, reports, List.filterMap_append]
  exact List.foldl_append

/-- One count is delivered: the one held when the message is closed. -/
theorem source_delivered (source : List ChatCompletionChunk)
    (denotes : Denotes message adapter draft) :
    deliveredTokens
        ((source.foldl (Adapter.processChunk message now) adapter).endOfSource message).events =
      [held adapter.outputTokens (reports (untilFinish source))] := by
  induction source generalizing adapter draft with
  | nil => exact endOfSource_delivered message adapter draft denotes
  | cons chunk rest ih =>
      have next := denotes_onItems message now adapter draft chunk denotes
      have step := processChunk_eq message now adapter chunk
      unfold untilFinish
      cases finish : chunk.finish with
      | none =>
          rw [finish] at step
          rw [List.foldl_cons, step, if_neg (by simp)]
          change deliveredTokens (List.foldl _ (adapter.onItems message now chunk) rest
            |>.endOfSource message).events = _
          rw [ih _ _ next, onItems_tokens, ← held_reports]
      | some reason =>
          rw [finish] at step
          have closed := onFinish_closed message _ _ reason next
          rw [List.foldl_cons, step, if_pos (by simp)]
          change deliveredTokens (List.foldl _
            ((adapter.onItems message now chunk).onFinish message reason) rest
            |>.endOfSource message).events = _
          rw [source_closed message now _ _ rest closed, deliveredTokens_append,
            onFinish_delivered message _ _ reason next, lateDeltas_undelivered, onItems_tokens,
            List.append_nil]

end Adapters

/-- The client reads the last count the upstream reported exactly when that
count stands by the time the message is closed. -/
theorem usage_delivered_iff (message : MessageHeader) (now : ℕ → ℕ)
    (source : List ChatCompletionChunk) :
    deliveredTokens (createStreamAdapter message now source) = [reportedTokens source] ↔
      ReportsInTime source := by
  rw [createStreamAdapter, source_delivered message now .initial [] source
    (denotes_initial message), List.singleton_inj]
  exact held_iff _ _

section Example

def usageLast : List ChatCompletionChunk :=
  [{ choices := [{ delta := { reasoningContent := none, content := some "hi", toolCalls := [] }
                   finishReason := some "stop" }]
     usage := none },
   { choices := []
     usage := some { promptTokens := some 3, completionTokens := some 4, totalTokens := some 7 } }]

theorem usageLast_lost :
    ¬ ∀ (message : MessageHeader) (now : ℕ → ℕ) (source : List ChatCompletionChunk),
      deliveredTokens (createStreamAdapter message now source) = [reportedTokens source] := by
  intro claimed
  have same := claimed ⟨"msg_1", "codex"⟩ (fun _ => 0) usageLast
  rw [createStreamAdapter, source_delivered _ _ .initial [] usageLast (denotes_initial _)] at same
  exact absurd same (by decide +kernel)

end Example

end LlmGateway.Anthropic
