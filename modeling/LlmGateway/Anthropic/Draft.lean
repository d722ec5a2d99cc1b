import LlmGateway.Anthropic.StreamAdapter

/-!
What the adapter writes. A chunk is a list of items, and each item adds to a
draft of content blocks. While no chunk has finished the message, the events of
the adapter are the draft as an open block stream.
-/

namespace LlmGateway.Anthropic

open Blocks

inductive Item where
  | reasoning (text : String)
  | text (text : String)
  | fragment (fragment : ToolCallFragment)
  deriving DecidableEq, Repr

namespace ChatCompletionChunk

variable (chunk : ChatCompletionChunk)

def reasoning : Option String :=
  chunk.choices.head?.bind fun choice => said choice.delta.reasoningContent

def text : Option String := chunk.choices.head?.bind fun choice => said choice.delta.content

def fragments : List ToolCallFragment :=
  chunk.choices.head?.elim [] fun choice => choice.delta.toolCalls

def finish : Option String := chunk.choices.head?.bind fun choice => said choice.finishReason

def items : List Item :=
  chunk.reasoning.toList.map .reasoning ++ (chunk.text.toList.map .text ++
    chunk.fragments.map .fragment)

end ChatCompletionChunk

inductive Kind where
  | thinking
  | text
  | tool (key : ℤ) (id name : String)
  deriving DecidableEq, Repr

namespace Kind

def state : Kind → StreamState
  | .thinking => .inThinking
  | .text => .inText
  | .tool _ _ _ => .inToolUse

def block : Kind → ResponseBlock
  | .thinking => .thinking "" ""
  | .text => .text ""
  | .tool _ id name => .toolUse id name (.object [])

def delta : Kind → String → ContentDelta
  | .thinking => .thinking
  | .text => .text
  | .tool _ _ _ => .inputJson

def key : Kind → Option ℤ
  | .tool key _ _ => some key
  | .thinking | .text => none

end Kind

abbrev Draft := List (Block Kind String)

namespace Draft

def openTool (draft : Draft) : Option ℤ := (current draft).bind Kind.key

def keys (draft : Draft) : List ℤ := draft.filterMap fun block => block.header.key

def think (draft : Draft) (text : String) : Draft :=
  extend text (if current draft = some .thinking then draft else push .thinking draft)

/-- Text while a tool block is open is lost. -/
def speak (draft : Draft) (text : String) : Draft :=
  match current draft with
  | some (.tool _ _ _) => draft
  | some .text => extend text draft
  | some .thinking | none => extend text (push .text draft)

def openCall (now : ℕ → ℕ) (draft : Draft) (fragment : ToolCallFragment) : Draft :=
  if openTool draft = some fragment.key then draft
  else push (.tool fragment.key (fragment.id.getD (generatedId now draft.length))
    (fragment.name.getD "")) draft

def call (now : ℕ → ℕ) (draft : Draft) (fragment : ToolCallFragment) : Draft :=
  (said fragment.arguments).elim (openCall now draft fragment) fun arguments =>
    extend arguments (openCall now draft fragment)

def add (now : ℕ → ℕ) (draft : Draft) : Item → Draft
  | .reasoning text => think draft text
  | .text text => speak draft text
  | .fragment fragment => call now draft fragment

def ofItems (now : ℕ → ℕ) (items : List Item) : Draft := items.foldl (add now) []

def typed (draft : Draft) : List (Block ResponseBlock ContentDelta) :=
  draft.map (relabel Kind.block Kind.delta)

end Draft

def StreamEvent.isPing : StreamEvent → Bool
  | .ping => true
  | _ => false

def withoutPing (events : List StreamEvent) : List StreamEvent :=
  events.filter fun event => !event.isPing

/-- The state of the adapter between two blocks, as a function of the draft. -/
def stateOf (draft : Draft) : StreamState := (current draft).elim .waiting Kind.state

/-- The events after `message_start` are the open draft and one ping. -/
structure Body (draft : Draft) (body : List StreamEvent) : Prop where
  blocks : withoutPing body = (renderOpen 0 draft.typed).map .contentBlock
  ping : body.countP StreamEvent.isPing = 1

/-- An adapter that has not closed its message has written the draft. -/
structure Denotes (message : MessageHeader) (adapter : Adapter) (draft : Draft) : Prop where
  state : adapter.state = stateOf draft
  blockIndex : adapter.blockIndex = draft.length - 1
  tool : ∀ key, Draft.openTool draft = some key → adapter.currentToolIndex = key
  known : ∀ key, (adapter.toolCalls.lookup key).isSome = true ↔ key ∈ Draft.keys draft
  silent : draft = [] → adapter.events = [] ∧ adapter.pingSent = false
  written : draft ≠ [] → ∃ body, adapter.events = .messageStart message :: body ∧ Body draft body

theorem keys_push (kind : Kind) (draft : Draft) (key : ℤ) :
    key ∈ Draft.keys (push kind draft) ↔ key ∈ Draft.keys draft ∨ kind.key = some key := by
  simp [Draft.keys, push]

theorem keys_extend (piece : String) (draft : Draft) :
    Draft.keys (extend piece draft) = Draft.keys draft := by
  induction draft using List.reverseRecOn with
  | nil => rfl
  | append_singleton front last _ =>
      unfold Draft.keys
      rw [extend_concat, List.filterMap_append, List.filterMap_append]
      rfl

section Rules

variable (message : MessageHeader) (adapter next : Adapter) (draft : Draft)

theorem denotes_first (kind : Kind) (state : next.state = kind.state) (index : next.blockIndex = 0)
    (tool : ∀ key, kind.key = some key → next.currentToolIndex = key)
    (known : ∀ key, (next.toolCalls.lookup key).isSome = true ↔ kind.key = some key)
    (body : List StreamEvent) (events : next.events = .messageStart message :: body)
    (opened : withoutPing body = [.contentBlock (.start 0 kind.block)])
    (ping : body.countP StreamEvent.isPing = 1) : Denotes message next (push kind []) where
  state := state
  blockIndex := index
  tool := tool
  known := by
    intro key
    rw [known, keys_push]
    simp [Draft.keys]
  silent := by
    intro empty
    cases empty
  written := fun _ => ⟨body, events, opened, ping⟩

theorem denotes_push (kind : Kind) (denotes : Denotes message adapter draft) (nonempty : draft ≠ [])
    (state : next.state = kind.state) (index : next.blockIndex = adapter.blockIndex + 1)
    (tool : ∀ key, kind.key = some key → next.currentToolIndex = key)
    (known : ∀ key, (next.toolCalls.lookup key).isSome = true ↔
      (adapter.toolCalls.lookup key).isSome = true ∨ kind.key = some key)
    (events : next.events = adapter.events ++ [.contentBlock (.stop adapter.blockIndex),
      .contentBlock (.start (adapter.blockIndex + 1) kind.block)]) :
    Denotes message next (push kind draft) := by
  have some_blocks : 0 < draft.length := List.length_pos_iff.mpr nonempty
  have before := denotes.blockIndex
  constructor
  · rw [state, stateOf, current_push]
    rfl
  · rw [index, length_push]
    omega
  · intro key openKey
    apply tool
    rwa [Draft.openTool, current_push] at openKey
  · intro key
    rw [known, keys_push, denotes.known]
  · intro empty
    simp [push] at empty
  · intro _
    obtain ⟨body, same, blocks, ping⟩ := denotes.written nonempty
    refine ⟨body ++ [.contentBlock (.stop adapter.blockIndex),
      .contentBlock (.start (adapter.blockIndex + 1) kind.block)], ?_, ?_, ?_⟩
    · rw [events, same]
      rfl
    · have started : adapter.blockIndex + 1 = draft.typed.length := by
        rw [Draft.typed, List.length_map]
        omega
      have stopped : adapter.blockIndex = draft.typed.length - 1 := by
        omega
      have typed_nonempty : draft.typed ≠ [] := by
        simpa [Draft.typed] using nonempty
      have typed_push : Draft.typed (push kind draft) = push kind.block draft.typed :=
        relabel_push _ _ kind draft
      rw [typed_push, renderOpen_push _ _ typed_nonempty, List.map_append, ← blocks,
        withoutPing, List.filter_append, started, ← stopped]
      rfl
    · rw [List.countP_append, ping]
      rfl

theorem denotes_extend (kind : Kind) (piece : String) (denotes : Denotes message adapter draft)
    (last : current draft = some kind) (state : next.state = adapter.state)
    (index : next.blockIndex = adapter.blockIndex)
    (tool : next.currentToolIndex = adapter.currentToolIndex)
    (known : ∀ key, (next.toolCalls.lookup key).isSome = (adapter.toolCalls.lookup key).isSome)
    (events : next.events = adapter.events ++
      [.contentBlock (.delta adapter.blockIndex (kind.delta piece))]) :
    Denotes message next (extend piece draft) := by
  have nonempty : draft ≠ [] := by
    intro empty
    rw [empty] at last
    cases last
  constructor
  · rw [state, denotes.state, stateOf, stateOf, current_extend]
  · rw [index, length_extend, denotes.blockIndex]
  · intro key openKey
    rw [tool]
    apply denotes.tool
    rwa [Draft.openTool, current_extend] at openKey
  · intro key
    rw [known, keys_extend, denotes.known]
  · intro empty
    have same := congrArg List.length empty
    rw [length_extend] at same
    exact absurd (List.length_eq_zero_iff.mp same) nonempty
  · intro _
    obtain ⟨body, same, blocks, ping⟩ := denotes.written nonempty
    refine ⟨body ++ [.contentBlock (.delta adapter.blockIndex (kind.delta piece))], ?_, ?_, ?_⟩
    · rw [events, same]
      rfl
    · have typed_nonempty : draft.typed ≠ [] := by
        simpa [Draft.typed] using nonempty
      have at_ : adapter.blockIndex = draft.typed.length - 1 := by
        rw [Draft.typed, List.length_map, denotes.blockIndex]
      have typed_extend :
          Draft.typed (extend piece draft) = extend (kind.delta piece) draft.typed :=
        relabel_extend _ _ kind piece draft last
      rw [typed_extend, renderOpen_extend _ _ typed_nonempty, List.map_append, ← blocks,
        withoutPing, List.filter_append, ← at_]
      rfl
    · rw [List.countP_append, ping]
      rfl

end Rules

section Items

variable (message : MessageHeader) (now : ℕ → ℕ) (adapter : Adapter) (draft : Draft)

theorem denotes_initial : Denotes message .initial [] where
  state := rfl
  blockIndex := rfl
  tool := by
    intro key openKey
    cases openKey
  known := by
    intro key
    simp [Adapter.initial, Draft.keys]
  silent := fun _ => ⟨rfl, rfl⟩
  written := fun nonempty => absurd rfl nonempty

theorem denotes_state (kind : Kind) (denotes : Denotes message adapter draft)
    (last : current draft = some kind) : adapter.state = kind.state := by
  rw [denotes.state, stateOf, last]
  rfl

theorem current_nonempty (kind : Kind) (last : current draft = some kind) : draft ≠ [] := by
  intro empty
  rw [empty] at last
  cases last

theorem denotes_waiting (denotes : Denotes message adapter draft) (last : current draft = none) :
    draft = [] ∧ adapter.state = .waiting := by
  have empty := (current_eq_none draft).mp last
  subst empty
  exact ⟨rfl, denotes.state⟩

theorem denotes_emitDelta (kind : Kind) (piece : String) (denotes : Denotes message adapter draft)
    (last : current draft = some kind) :
    Denotes message (adapter.emitDelta (kind.delta piece)) (extend piece draft) :=
  denotes_extend message adapter _ draft kind piece denotes last rfl rfl rfl (fun _ => rfl) rfl

theorem denotes_openFirst (kind : Kind) (plain : kind.key = none)
    (denotes : Denotes message adapter []) :
    Denotes message (((adapter.emit (.messageStart message)).emitContentBlockStart
      kind.block).emitPing.enter kind.state) (push kind []) := by
  obtain ⟨silent, fresh⟩ := denotes.silent rfl
  have index : adapter.blockIndex = 0 := denotes.blockIndex
  have unknown : ∀ key, (adapter.toolCalls.lookup key).isSome = true ↔ kind.key = some key := by
    intro key
    rw [denotes.known, plain]
    simp [Draft.keys]
  have untold : ∀ key, kind.key = some key → adapter.currentToolIndex = key := by
    intro key keyed
    rw [plain] at keyed
    cases keyed
  unfold Adapter.emitPing Adapter.emitContentBlockStart Adapter.emit
  dsimp only
  rw [fresh, silent, index, if_neg Bool.false_ne_true]
  exact denotes_first message _ kind rfl rfl untold unknown
    [.contentBlock (.start 0 kind.block), .ping] rfl rfl rfl

theorem denotes_openNext (kind : Kind) (plain : kind.key = none)
    (denotes : Denotes message adapter draft) (nonempty : draft ≠ []) :
    Denotes message ((adapter.nextBlock.enter kind.state).emitContentBlockStart kind.block)
      (push kind draft) := by
  apply denotes_push message adapter _ draft kind denotes nonempty rfl rfl
  · intro key keyed
    rw [plain] at keyed
    cases keyed
  · intro key
    rw [plain]
    simp [Adapter.emitContentBlockStart, Adapter.nextBlock, Adapter.enter, Adapter.emit]
  · simp [Adapter.emitContentBlockStart, Adapter.nextBlock, Adapter.enter, Adapter.emit]

theorem denotes_think (text : String) (denotes : Denotes message adapter draft) :
    Denotes message (adapter.onReasoning message text) (Draft.think draft text) := by
  unfold Draft.think Adapter.onReasoning
  cases last : current draft with
  | none =>
      obtain ⟨rfl, waiting⟩ := denotes_waiting message adapter draft denotes last
      rw [waiting]
      exact denotes_emitDelta message _ _ .thinking text
        (denotes_openFirst message adapter .thinking rfl denotes) rfl
  | some kind =>
      have nonempty := current_nonempty draft kind last
      have state := denotes_state message adapter draft kind denotes last
      rw [state]
      cases kind with
      | thinking =>
          change Denotes message (if adapter.state = .inThinking then
            adapter.emitDelta (.thinking text) else adapter) _
          have here : adapter.state = .inThinking := state
          rw [if_pos here, if_pos rfl]
          exact denotes_emitDelta message adapter draft .thinking text denotes last
      | text | tool =>
          exact denotes_emitDelta message _ _ .thinking text
            (denotes_openNext message adapter draft .thinking rfl denotes nonempty)
            (current_push draft .thinking)

/-- Text is added to the open text block or to a new one, and lost in a tool block. -/
theorem denotes_speak (text : String) (denotes : Denotes message adapter draft) :
    Denotes message (adapter.onContent message text) (Draft.speak draft text) := by
  unfold Draft.speak Adapter.onContent
  cases last : current draft with
  | none =>
      obtain ⟨rfl, waiting⟩ := denotes_waiting message adapter draft denotes last
      rw [waiting]
      exact denotes_emitDelta message _ _ .text text
        (denotes_openFirst message adapter .text rfl denotes) rfl
  | some kind =>
      have nonempty := current_nonempty draft kind last
      have state := denotes_state message adapter draft kind denotes last
      rw [state]
      cases kind with
      | thinking =>
          exact denotes_emitDelta message _ _ .text text
            (denotes_openNext message adapter draft .text rfl denotes nonempty)
            (current_push draft .text)
      | text =>
          change Denotes message (if adapter.state = .inText then
            adapter.emitDelta (.text text) else adapter) _
          have here : adapter.state = .inText := state
          rw [if_pos here]
          exact denotes_emitDelta message adapter draft .text text denotes last
      | tool =>
          have apart : adapter.state ≠ .inText := by
            rw [state]
            exact StreamState.noConfusion
          change Denotes message (if adapter.state = .inText then
            adapter.emitDelta (.text text) else adapter) _
          rw [if_neg apart]
          exact denotes

theorem openTool_mem_keys (key : ℤ) (openKey : Draft.openTool draft = some key) :
    key ∈ Draft.keys draft := by
  unfold Draft.openTool current at openKey
  cases last : draft.getLast? with
  | none => simp [last] at openKey
  | some block =>
      rw [last] at openKey
      exact List.mem_filterMap.mpr ⟨block, List.mem_of_getLast? last, openKey⟩

theorem openTool_openCall (fragment : ToolCallFragment) :
    Draft.openTool (Draft.openCall now draft fragment) = some fragment.key := by
  unfold Draft.openCall
  split
  · assumption
  · rw [Draft.openTool, current_push]
    rfl

theorem denotes_accumulate (fragment : ToolCallFragment) (denotes : Denotes message adapter draft)
    (openKey : Draft.openTool draft = some fragment.key) :
    Denotes message (adapter.accumulate fragment)
      ((said fragment.arguments).elim draft fun arguments => extend arguments draft) := by
  have known := (denotes.known fragment.key).mpr
    (openTool_mem_keys draft fragment.key openKey)
  obtain ⟨existing, found⟩ := Option.isSome_iff_exists.mp known
  unfold Adapter.accumulate
  rw [found]
  cases json : said fragment.arguments with
  | none => exact denotes
  | some arguments =>
      obtain ⟨kind, last, keyed⟩ := Option.bind_eq_some_iff.mp openKey
      cases kind with
      | thinking | text => cases keyed
      | tool key id name =>
          dsimp only [Option.elim]
          apply denotes_extend message adapter _ draft (.tool key id name) arguments denotes last
          · rfl
          · rfl
          · rfl
          · intro other
            change ((adapter.toolCalls.insert fragment.key _).lookup other).isSome = _
            by_cases same : other = fragment.key
            · subst same
              rw [AList.lookup_insert, known]
              rfl
            · rw [AList.lookup_insert_ne same]
          · rfl

theorem insert_known (calls : AList fun _ : ℤ => ToolCallAccumulator) (key other : ℤ)
    (call : ToolCallAccumulator) :
    ((calls.insert key call).lookup other).isSome = true ↔
      (calls.lookup other).isSome = true ∨ some key = some other := by
  by_cases same : other = key
  · subst same
    simp
  · have apart : key ≠ other := fun equal => same equal.symm
    rw [AList.lookup_insert_ne same]
    simp [apart]

def headerOf (now : ℕ → ℕ) (draft : Draft) (fragment : ToolCallFragment) : Kind :=
  .tool fragment.key (fragment.id.getD (generatedId now draft.length)) (fragment.name.getD "")

theorem denotes_openToolFirst (fragment : ToolCallFragment)
    (denotes : Denotes message adapter []) :
    Denotes message ((((adapter.emit (.messageStart message)).emitPing).enter
      .inToolUse).openToolUse now fragment) (push (headerOf now [] fragment) []) := by
  obtain ⟨silent, fresh⟩ := denotes.silent rfl
  have index : adapter.blockIndex = 0 := denotes.blockIndex
  have unknown : ∀ key, (adapter.toolCalls.lookup key).isSome = true ↔ False := by
    intro key
    rw [denotes.known]
    simp [Draft.keys]
  unfold Adapter.openToolUse Adapter.emitPing Adapter.emitContentBlockStart Adapter.emit
  dsimp only
  rw [fresh, silent, if_neg Bool.false_ne_true]
  dsimp only [Adapter.enter]
  rw [index]
  apply denotes_first message _ (headerOf now [] fragment) rfl rfl _ _
    [.ping, .contentBlock (.start 0 (headerOf now [] fragment).block)] rfl rfl rfl
  · intro key keyed
    exact Option.some.inj keyed
  · intro key
    dsimp only
    rw [insert_known, unknown, false_or]
    rfl

theorem denotes_openToolNext (fragment : ToolCallFragment) (denotes : Denotes message adapter draft)
    (nonempty : draft ≠ []) :
    Denotes message ((adapter.nextBlock.enter .inToolUse).openToolUse now fragment)
      (push (headerOf now draft fragment) draft) := by
  have some_blocks : 0 < draft.length := List.length_pos_iff.mpr nonempty
  have before := denotes.blockIndex
  have index : adapter.blockIndex + 1 = draft.length := by omega
  apply denotes_push message adapter _ draft (headerOf now draft fragment) denotes nonempty rfl rfl
  · intro key keyed
    exact Option.some.inj keyed
  · intro key
    exact insert_known adapter.toolCalls fragment.key key _
  · unfold headerOf
    rw [← index]
    simp [Adapter.openToolUse, Adapter.emitContentBlockStart, Adapter.nextBlock, Adapter.enter,
      Adapter.emit, Kind.block]

/-- A fragment opens a block unless the one of its key is open. -/
theorem denotes_call (fragment : ToolCallFragment) (denotes : Denotes message adapter draft) :
    Denotes message (adapter.onToolCall message now fragment) (Draft.call now draft fragment) := by
  have opened : ∀ other : Draft,
      Draft.openTool (push (headerOf now other fragment) other) = some fragment.key := by
    intro other
    rw [Draft.openTool, current_push]
    rfl
  unfold Draft.call Draft.openCall Adapter.onToolCall
  cases last : current draft with
  | none =>
      obtain ⟨rfl, waiting⟩ := denotes_waiting message adapter draft denotes last
      rw [waiting]
      exact denotes_accumulate message _ _ fragment
        (denotes_openToolFirst message now adapter fragment denotes) (opened [])
  | some kind =>
      have nonempty := current_nonempty draft kind last
      have state := denotes_state message adapter draft kind denotes last
      rw [state]
      cases kind with
      | thinking | text =>
          have closed : Draft.openTool draft ≠ some fragment.key := by
            intro openKey
            rw [Draft.openTool, last] at openKey
            cases openKey
          rw [if_neg closed]
          exact denotes_accumulate message _ _ fragment
            (denotes_openToolNext message now adapter draft fragment denotes nonempty)
            (opened draft)
      | tool key id name =>
          have openKey : Draft.openTool draft = some key := by
            rw [Draft.openTool, last]
            rfl
          have at_ := denotes.tool key openKey
          dsimp only [Kind.state]
          rw [at_, openKey]
          by_cases same : fragment.key = key
          · rw [if_neg (not_not.mpr same), if_pos (congrArg some same.symm)]
            exact denotes_accumulate message adapter draft fragment denotes
              (openKey.trans (congrArg some same.symm))
          · have apart : ¬some key = some fragment.key := by
              intro equal
              exact same (Option.some.inj equal).symm
            have stays : adapter.nextBlock.enter .inToolUse = adapter.nextBlock := by
              unfold Adapter.enter Adapter.nextBlock Adapter.emit
              dsimp only
              rw [state]
              rfl
            rw [if_pos same, if_neg apart]
            have next := denotes_openToolNext message now adapter draft fragment denotes nonempty
            rw [stays] at next
            exact denotes_accumulate message _ _ fragment next (opened draft)

end Items

section Keys

variable (now : ℕ → ℕ) (draft : Draft)

theorem keys_think (text : String) : Draft.keys (Draft.think draft text) = Draft.keys draft := by
  unfold Draft.think
  rw [keys_extend]
  split
  · rfl
  · simp [Draft.keys, push, Kind.key]

theorem keys_speak (text : String) : Draft.keys (Draft.speak draft text) = Draft.keys draft := by
  unfold Draft.speak
  split
  · rfl
  · exact keys_extend text draft
  · rw [keys_extend]
    simp [Draft.keys, push, Kind.key]
  · rw [keys_extend]
    simp [Draft.keys, push, Kind.key]

theorem mem_keys_call (fragment : ToolCallFragment) (key : ℤ) :
    key ∈ Draft.keys (Draft.call now draft fragment) ↔
      key ∈ Draft.keys draft ∨ fragment.key = key := by
  have extended : Draft.keys (Draft.call now draft fragment) =
      Draft.keys (Draft.openCall now draft fragment) := by
    unfold Draft.call
    cases said fragment.arguments with
    | none => rfl
    | some arguments => exact keys_extend arguments _
  rw [extended]
  unfold Draft.openCall
  split
  · rename_i openKey
    have listed := openTool_mem_keys draft fragment.key openKey
    constructor
    · exact .inl
    · rintro (member | rfl)
      · exact member
      · exact listed
  · rw [keys_push]
    exact or_congr_right ⟨Option.some.inj, congrArg some⟩

theorem mem_keys_items (items : List Item) (key : ℤ) :
    key ∈ Draft.keys (items.foldl (Draft.add now) draft) ↔
      key ∈ Draft.keys draft ∨ ∃ fragment, .fragment fragment ∈ items ∧ fragment.key = key := by
  induction items generalizing draft with
  | nil => simp
  | cons item rest ih =>
      rw [List.foldl_cons, ih]
      cases item with
      | reasoning text => simp [Draft.add, keys_think]
      | text text => simp [Draft.add, keys_speak]
      | fragment fragment =>
          simp only [Draft.add, mem_keys_call, List.mem_cons, Item.fragment.injEq]
          grind

theorem openTool_think (text : String) : Draft.openTool (Draft.think draft text) = none := by
  unfold Draft.think Draft.openTool
  rw [current_extend]
  split
  · rename_i last
    rw [last]
    rfl
  · rw [current_push]
    rfl

theorem openTool_speak (text : String) :
    Draft.openTool (Draft.speak draft text) = Draft.openTool draft := by
  unfold Draft.speak
  cases last : current draft with
  | none => simp [Draft.openTool, last, Kind.key]
  | some header => cases header <;> simp [Draft.openTool, last, Kind.key]

theorem openTool_call (fragment : ToolCallFragment) :
    Draft.openTool (Draft.call now draft fragment) = some fragment.key := by
  have opened := openTool_openCall now draft fragment
  unfold Draft.call
  cases said fragment.arguments with
  | none => exact opened
  | some arguments =>
      unfold Draft.openTool at opened ⊢
      rw [Option.elim_some, current_extend, opened]

end Keys

end LlmGateway.Anthropic
