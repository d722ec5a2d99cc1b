import LlmGateway.Anthropic.Writing

/-!
The grammar of Anthropic streams. The adapter keeps it exactly when no
arguments of a known tool call come after the first finish reason.
-/

namespace LlmGateway.Anthropic

open Blocks

def Matches : ResponseBlock → ContentDelta → Prop
  | .text _, .text _ => True
  | .thinking _ _, .thinking _ => True
  | .toolUse _ _ _, .inputJson _ => True
  | _, _ => False

/-- `message_start (content_block_start content_block_delta* content_block_stop)*
message_delta message_stop` with the indices in order, and at most one ping in between. -/
def Grammatical (events : List StreamEvent) : Prop :=
  ∃ message body reason tokens blocks,
    events = .messageStart message :: body ++ [.messageDelta reason tokens, .messageStop] ∧
    withoutPing body = (render 0 blocks).map .contentBlock ∧
    body.countP StreamEvent.isPing ≤ 1 ∧
    ∀ block ∈ blocks, ∀ piece ∈ block.pieces, Matches block.header piece

/-- After the first finish reason no fragment brings arguments for an index that
came up to then. -/
def NoLateArguments (source : List ChatCompletionChunk) : Prop :=
  ∀ late ∈ (afterFinish source).flatMap ChatCompletionChunk.fragments,
    (∃ early ∈ (untilFinish source).flatMap ChatCompletionChunk.fragments, early.key = late.key) →
      said late.arguments = none

theorem lateDeltas_eq_nil (now : ℕ → ℕ) (source : List ChatCompletionChunk) :
    lateDeltas (draftOf now source) (afterFinish source) = [] ↔ NoLateArguments source := by
  unfold lateDeltas NoLateArguments
  rw [List.filterMap_eq_nil_iff]
  apply forall₂_congr
  intro late _
  rw [← mem_keys_draftOf now source]
  unfold lateDelta
  split
  · rename_i member
    simp [member]
  · rename_i unknown
    simp [unknown]

theorem typed_matches (draft : Draft) (block : Block ResponseBlock ContentDelta)
    (member : block ∈ draft.typed) : ∀ piece ∈ block.pieces, Matches block.header piece := by
  intro piece sent
  obtain ⟨written, _, rfl⟩ := List.mem_map.mp member
  obtain ⟨text, _, rfl⟩ := List.mem_map.mp sent
  have agrees : ∀ kind : Kind, Matches kind.block (kind.delta text) := by
    intro kind
    cases kind <;> trivial
  exact agrees written.header

theorem grammatical_last (events : List StreamEvent) (grammatical : Grammatical events) :
    events.getLast? = some .messageStop := by
  obtain ⟨message, body, reason, tokens, _, rfl, _⟩ := grammatical
  have split : .messageStart message :: body ++ [.messageDelta reason tokens, .messageStop] =
      (.messageStart message :: body ++ [.messageDelta reason tokens]) ++
        [StreamEvent.messageStop] := by
    simp
  rw [split, List.getLast?_concat]

/-- The grammar holds exactly when no arguments come late. -/
theorem grammatical_iff (message : MessageHeader) (now : ℕ → ℕ)
    (source : List ChatCompletionChunk) :
    Grammatical (createStreamAdapter message now source) ↔ NoLateArguments source := by
  obtain ⟨body, tokens, events, blocks, ping⟩ := createStreamAdapter_writes message now source
  rw [← lateDeltas_eq_nil now source]
  constructor
  · intro grammatical
    by_contra late
    -- A late delta would be the last event.
    obtain ⟨front, last, split⟩ := (List.eq_nil_or_concat' _).resolve_left late
    have stop := grammatical_last _ grammatical
    have ending : createStreamAdapter message now source = (.messageStart message :: body ++
        .messageDelta (stopReason source) tokens :: .messageStop :: front) ++ [last] := by
      rw [events, split]
      simp
    rw [ending, List.getLast?_concat] at stop
    have member : last ∈ lateDeltas (draftOf now source) (afterFinish source) := by
      rw [split]
      simp
    obtain ⟨fragment, _, delta⟩ := List.mem_filterMap.mp member
    unfold lateDelta at delta
    split at delta
    · obtain ⟨arguments, _, same⟩ := Option.map_eq_some_iff.mp delta
      cases same.trans (Option.some.inj stop)
    · cases delta
  · intro none
    rw [none] at events
    exact ⟨message, body, stopReason source, tokens, _, events, blocks, ping,
      typed_matches (draftOf now source)⟩

def trailingArguments : List ChatCompletionChunk :=
  let fragment := fun id name arguments =>
    (⟨some 0, id, some ⟨name, some arguments⟩⟩ : ToolCallFragment)
  [⟨[⟨⟨none, none, [fragment (some "call_1") (some "search") "\x7b"]⟩, some "tool_calls"⟩], none⟩,
    ⟨[⟨⟨none, none, [fragment none none "\x7d"]⟩, none⟩], none⟩]

/-- The rest of the arguments comes after `message_stop`. -/
theorem trailing_arguments :
    ¬Grammatical (createStreamAdapter ⟨"msg_1", "coder"⟩ (fun _ => 0) trailingArguments) := by
  intro grammatical
  have stop := grammatical_last _ grammatical
  have delta : (createStreamAdapter ⟨"msg_1", "coder"⟩ (fun _ => 0) trailingArguments).getLast? =
      some (.contentBlock (.delta 0 (.inputJson "\x7d"))) := rfl
  rw [delta] at stop
  cases stop

end LlmGateway.Anthropic
