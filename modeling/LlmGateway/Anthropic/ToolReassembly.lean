import Mathlib.Data.Finset.Preimage
import Mathlib.Data.List.Dedup
import LlmGateway.Anthropic.Writing

/-!
Tool calls as a client puts them together again from the block stream. Blocks
are strictly sequential, so the fragments of a call have to be.
-/

namespace LlmGateway.Anthropic

open Blocks

structure ReassembledCall where
  id : String
  name : String
  arguments : String
  deriving DecidableEq, Repr

def inputJson : ContentDelta → Option String
  | .inputJson json => some json
  | .text _ | .thinking _ => none

/-- A `tool_use` block with the concatenation of its payloads. -/
def toolUse (block : Block ResponseBlock ContentDelta) : Option ReassembledCall :=
  match block.header with
  | .toolUse id name _ => some ⟨id, name, String.join (block.pieces.filterMap inputJson)⟩
  | .text _ | .thinking _ _ => none

def toolUses (events : List StreamEvent) : List ReassembledCall :=
  (gather (contentEvents events)).filterMap toolUse

section Calls

variable (fragments : List ToolCallFragment)

def ofIndex (key : ℤ) : List ToolCallFragment := fragments.filter (·.key = key)

def carried (field : ToolCallFragment → Option String) (key : ℤ) : String :=
  (((ofIndex fragments key).filterMap fun fragment => said (field fragment)).head?).getD ""

def callOf (key : ℤ) : ReassembledCall where
  id := carried fragments ToolCallFragment.id key
  name := carried fragments ToolCallFragment.name key
  arguments := String.join ((ofIndex fragments key).map fun fragment => fragment.arguments.getD "")

def indices : List ℤ := (fragments.map ToolCallFragment.key).dedup

def Identified : Prop :=
  ∀ key ∈ indices fragments,
    (∃ fragment ∈ ofIndex fragments key, (said fragment.id).isSome = true) ∧
      ∃ fragment ∈ ofIndex fragments key, (said fragment.name).isSome = true

def OwnIds : Prop :=
  ∀ left ∈ fragments, ∀ right ∈ fragments, (said left.id).isSome = true →
    said left.id = said right.id → left.key = right.key

end Calls

def allFragments (source : List ChatCompletionChunk) : List ToolCallFragment :=
  source.flatMap ChatCompletionChunk.fragments

/-- One `tool_use` block for each index, with its id, its name and its arguments. -/
def Reassembled (source : List ChatCompletionChunk) (events : List StreamEvent) : Prop :=
  (toolUses events).Perm ((indices (allFragments source)).map (callOf (allFragments source)))

def Item.mark : Item → Option (Option ℤ)
  | .reasoning _ => some none
  | .fragment part => some (some part.key)
  | .text _ => none

def marks (source : List ChatCompletionChunk) : List (Option ℤ) :=
  ((untilFinish source).flatMap ChatCompletionChunk.items).filterMap Item.mark

def runs : Option ℤ → List (Option ℤ) → List ℤ
  | _, [] => []
  | _, none :: rest => runs none rest
  | before, some key :: rest =>
      if before = some key then runs before rest else key :: runs (some key) rest

/-- Up to the first finish reason the fragments of an index are contiguous and the
first has an id and a name; later fragments are of these indices, and only the
call that came last still gets arguments. -/
structure Sequential (source : List ChatCompletionChunk) : Prop where
  contiguous : (runs none (marks source)).Nodup
  identified : ∀ key first,
    (allFragments (untilFinish source)).find? (·.key = key) = some first →
      (said first.id).isSome = true ∧ (said first.name).isSome = true
  known : ∀ late ∈ allFragments (afterFinish source),
    ∃ early ∈ allFragments (untilFinish source), early.key = late.key
  last : ∀ late ∈ allFragments (afterFinish source), (said late.arguments).isSome = true →
    (marks source).getLast? = some (some late.key)

section Runs

variable (now : ℕ → ℕ) (draft : Draft)

theorem keys_call (fragment : ToolCallFragment) :
    Draft.keys (Draft.call now draft fragment) =
      Draft.keys draft ++
        if Draft.openTool draft = some fragment.key then [] else [fragment.key] := by
  have opened : Draft.keys (Draft.openCall now draft fragment) =
      Draft.keys draft ++
        if Draft.openTool draft = some fragment.key then [] else [fragment.key] := by
    unfold Draft.openCall
    split
    · exact (List.append_nil _).symm
    · unfold Draft.keys push
      rw [List.filterMap_append]
      rfl
  unfold Draft.call
  cases said fragment.arguments with
  | none => exact opened
  | some arguments => exact (keys_extend arguments _).trans opened

theorem keys_items (items : List Item) :
    Draft.keys (items.foldl (Draft.add now) draft) =
        Draft.keys draft ++ runs (Draft.openTool draft) (items.filterMap Item.mark) ∧
      Draft.openTool (items.foldl (Draft.add now) draft) =
        (items.filterMap Item.mark).getLast?.getD (Draft.openTool draft) := by
  induction items generalizing draft with
  | nil => exact ⟨(List.append_nil _).symm, rfl⟩
  | cons item rest ih =>
      obtain ⟨keys, tool⟩ := ih (Draft.add now draft item)
      rw [List.foldl_cons, keys, tool]
      cases item with
      | reasoning text =>
          rw [List.filterMap_cons_some (show Item.mark (.reasoning text) = some none from rfl),
            runs, List.getLast?_cons]
          simp only [Draft.add, keys_think, openTool_think]
          exact ⟨trivial, by simp⟩
      | text text =>
          rw [List.filterMap_cons_none (show Item.mark (.text text) = none from rfl)]
          simp only [Draft.add, keys_speak, openTool_speak]
          exact ⟨trivial, trivial⟩
      | fragment fragment =>
          rw [List.filterMap_cons_some
            (show Item.mark (.fragment fragment) = some (some fragment.key) from rfl),
            runs, List.getLast?_cons]
          simp only [Draft.add, keys_call, openTool_call]
          constructor
          · split
            · rename_i same
              rw [List.append_nil, same]
            · rw [List.append_assoc, List.singleton_append]
          · simp

end Runs

def toolBlocks (draft : Draft) : Draft := draft.filter fun block => block.header.key.isSome

section Calls

variable (now : ℕ → ℕ) (draft : Draft) (fragments : List ToolCallFragment)
  (fragment : ToolCallFragment)

theorem toolBlocks_append (left right : Draft) :
    toolBlocks (left ++ right) = toolBlocks left ++ toolBlocks right :=
  List.filter_append _ _

theorem toolBlocks_extend (kind : Kind) (piece : String) (last : current draft = some kind)
    (plain : kind.key = none) : toolBlocks (extend piece draft) = toolBlocks draft := by
  induction draft using List.reverseRecOn with
  | nil => rfl
  | append_singleton front block _ =>
      have here : block.header = kind := by simpa [current] using last
      rw [extend_concat, toolBlocks_append, toolBlocks_append]
      simp [toolBlocks, here, plain]

theorem toolBlocks_push (kind : Kind) (plain : kind.key = none) :
    toolBlocks (push kind draft) = toolBlocks draft := by
  rw [push, toolBlocks_append]
  simp [toolBlocks, plain]

theorem toolBlocks_think (text : String) :
    toolBlocks (Draft.think draft text) = toolBlocks draft := by
  unfold Draft.think
  split
  · rename_i last
    exact toolBlocks_extend draft .thinking text last rfl
  · rw [toolBlocks_extend _ .thinking text (current_push draft .thinking) rfl,
      toolBlocks_push draft .thinking rfl]

theorem toolBlocks_speak (text : String) :
    toolBlocks (Draft.speak draft text) = toolBlocks draft := by
  unfold Draft.speak
  split
  · rfl
  · rename_i last
    exact toolBlocks_extend draft .text text last rfl
  · rw [toolBlocks_extend _ .text text (current_push draft .text) rfl,
      toolBlocks_push draft .text rfl]
  · rw [toolBlocks_extend _ .text text (current_push draft .text) rfl,
      toolBlocks_push draft .text rfl]

theorem call_cases :
    (∃ front last, draft = front ++ [last] ∧ last.header.key = some fragment.key ∧
      Draft.call now draft fragment =
        front ++ [⟨last.header, last.pieces ++ (said fragment.arguments).toList⟩]) ∨
      Draft.openTool draft ≠ some fragment.key ∧
        Draft.call now draft fragment =
          draft ++ [⟨headerOf now draft fragment, (said fragment.arguments).toList⟩] := by
  unfold Draft.call Draft.openCall
  by_cases same : Draft.openTool draft = some fragment.key
  · left
    have nonempty : draft ≠ [] := by
      rintro rfl
      cases same
    obtain ⟨front, last, rfl⟩ := (List.eq_nil_or_concat' draft).resolve_left nonempty
    have keyed : last.header.key = some fragment.key := by
      simpa [Draft.openTool, current] using same
    refine ⟨front, last, rfl, keyed, ?_⟩
    rw [if_pos same]
    cases said fragment.arguments with
    | none => simp
    | some arguments => exact extend_concat front arguments last
  · right
    refine ⟨same, ?_⟩
    rw [if_neg same]
    cases said fragment.arguments with
    | none => rfl
    | some arguments => exact extend_concat draft arguments ⟨headerOf now draft fragment, []⟩

theorem arguments_append (key : ℤ) :
    (callOf (fragments ++ [fragment]) key).arguments =
      (callOf fragments key).arguments ++
        if fragment.key = key then fragment.arguments.getD "" else "" := by
  unfold callOf ofIndex
  dsimp only
  rw [List.filter_append, List.map_append, String.join_append]
  by_cases same : fragment.key = key <;> simp [same]

theorem join_said_arguments (arguments : Option String) :
    String.join (said arguments).toList = arguments.getD "" := by
  cases arguments with
  | none => rfl
  | some text => by_cases empty : text = "" <;> simp [said, Option.filter, empty]

def OpenedBy (now : ℕ → ℕ) (block : Block Kind String) (opener : ToolCallFragment) : Prop :=
  ∃ index, block.header =
    .tool opener.key (opener.id.getD (generatedId now index)) (opener.name.getD "")

/-- Every tool block was opened by the first fragment of its index and has the
arguments of that index. -/
def Told (now : ℕ → ℕ) (fragments : List ToolCallFragment) (draft : Draft) : Prop :=
  ∀ block ∈ toolBlocks draft, ∃ opener, OpenedBy now block opener ∧
    fragments.find? (·.key = opener.key) = some opener ∧
    String.join block.pieces = (callOf fragments opener.key).arguments

theorem mem_keys_toolBlocks (block : Block Kind String) (opener : ToolCallFragment)
    (member : block ∈ toolBlocks draft) (opened : OpenedBy now block opener) :
    opener.key ∈ Draft.keys draft := by
  obtain ⟨index, header⟩ := opened
  refine List.mem_filterMap.mpr ⟨block, (List.mem_filter.mp member).1, ?_⟩
  rw [header]
  rfl

theorem told_other (block : Block Kind String) (opener : ToolCallFragment)
    (different : opener.key ≠ fragment.key)
    (first : fragments.find? (·.key = opener.key) = some opener)
    (told : String.join block.pieces = (callOf fragments opener.key).arguments) :
    (fragments ++ [fragment]).find? (·.key = opener.key) = some opener ∧
      String.join block.pieces = (callOf (fragments ++ [fragment]) opener.key).arguments := by
  constructor
  · rw [List.find?_append, first]
    rfl
  · have apart : ¬fragment.key = opener.key := fun same => different same.symm
    rw [arguments_append, if_neg apart, told, String.append_empty]

theorem told_append (left right : Draft) :
    Told now fragments (left ++ right) ↔ Told now fragments left ∧ Told now fragments right := by
  unfold Told
  rw [toolBlocks_append]
  exact List.forall_mem_append

theorem key_fresh (front : Draft) (block : Block Kind String) (key : ℤ)
    (keyed : block.header.key = some key) (distinct : (Draft.keys (front ++ [block])).Nodup) :
    key ∉ Draft.keys front := by
  unfold Draft.keys at distinct ⊢
  rw [List.filterMap_append] at distinct
  intro early
  exact (List.nodup_append.mp distinct).2.2 _ early _
    (List.mem_filterMap.mpr ⟨_, List.mem_singleton_self _, keyed⟩) rfl

theorem told_front (fresh : fragment.key ∉ Draft.keys draft) (told : Told now fragments draft) :
    Told now (fragments ++ [fragment]) draft := by
  intro block member
  obtain ⟨opener, opened, first, arguments⟩ := told block member
  have key := mem_keys_toolBlocks now draft block opener member opened
  have different : opener.key ≠ fragment.key := by
    intro same
    rw [same] at key
    exact fresh key
  exact ⟨opener, opened, told_other fragments fragment block opener different first arguments⟩

theorem told_more (last : Block Kind String) (keyed : last.header.key = some fragment.key)
    (told : Told now fragments [last]) :
    Told now (fragments ++ [fragment])
      [⟨last.header, last.pieces ++ (said fragment.arguments).toList⟩] := by
  intro block member
  have same := List.mem_singleton.mp (List.mem_filter.mp member).1
  have listed : last ∈ toolBlocks [last] := by simp [toolBlocks, keyed]
  obtain ⟨opener, ⟨index, header⟩, first, arguments⟩ := told last listed
  have key : fragment.key = opener.key := by
    rw [header] at keyed
    exact (Option.some.inj keyed).symm
  refine ⟨opener, ⟨index, ?_⟩, ?_, ?_⟩
  · rw [same]
    exact header
  · rw [List.find?_append, first]
    rfl
  · rw [same, String.join_append, arguments, join_said_arguments, arguments_append, if_pos key]

theorem told_new (unseen : ∀ early ∈ fragments, early.key ≠ fragment.key) :
    Told now (fragments ++ [fragment])
      [⟨headerOf now draft fragment, (said fragment.arguments).toList⟩] := by
  intro block member
  have same := List.mem_singleton.mp (List.mem_filter.mp member).1
  have none : fragments.find? (·.key = fragment.key) = none := by
    apply List.find?_eq_none.mpr
    intro early listed
    simpa using unseen early listed
  have silent : (callOf fragments fragment.key).arguments = "" := by
    have empty : ofIndex fragments fragment.key = [] := by
      apply List.filter_eq_nil_iff.mpr
      intro early listed
      simpa using unseen early listed
    unfold callOf
    rw [empty]
    rfl
  refine ⟨fragment, ⟨draft.length, by rw [same]; rfl⟩, ?_, ?_⟩
  · rw [List.find?_append, none]
    simp
  · rw [same, join_said_arguments, arguments_append, if_pos rfl, silent, String.empty_append]

theorem told_call (told : Told now fragments draft)
    (seen : ∀ key, key ∈ Draft.keys draft ↔ ∃ early ∈ fragments, early.key = key)
    (distinct : (Draft.keys (Draft.call now draft fragment)).Nodup) :
    Told now (fragments ++ [fragment]) (Draft.call now draft fragment) := by
  rcases call_cases now draft fragment with ⟨front, last, rfl, keyed, written⟩ | ⟨other, written⟩
  · rw [written] at distinct ⊢
    have fresh := key_fresh front
      ⟨last.header, last.pieces ++ (said fragment.arguments).toList⟩ fragment.key keyed distinct
    obtain ⟨before, here⟩ := (told_append now fragments front [last]).mp told
    exact (told_append now _ front _).mpr
      ⟨told_front now front fragments fragment fresh before,
        told_more now fragments fragment last keyed here⟩
  · rw [written] at distinct ⊢
    have fresh := key_fresh draft ⟨headerOf now draft fragment, (said fragment.arguments).toList⟩
      fragment.key rfl distinct
    have unseen : ∀ early ∈ fragments, early.key ≠ fragment.key := by
      intro early listed same
      exact fresh ((seen fragment.key).mpr ⟨early, listed, same⟩)
    exact (told_append now _ draft _).mpr
      ⟨told_front now draft fragments fragment fresh told,
        told_new now draft fragments fragment unseen⟩

end Calls

def fragmentsOf (items : List Item) : List ToolCallFragment :=
  items.filterMap fun
    | .fragment fragment => some fragment
    | .reasoning _ | .text _ => none

section Items

variable (now : ℕ → ℕ) (items : List Item)

theorem ofItems_append (item : Item) :
    Draft.ofItems now (items ++ [item]) = Draft.add now (Draft.ofItems now items) item := by
  unfold Draft.ofItems
  rw [List.foldl_append]
  rfl

theorem mem_keys_ofItems (key : ℤ) :
    key ∈ Draft.keys (Draft.ofItems now items) ↔ ∃ early ∈ fragmentsOf items, early.key = key := by
  have listed : ∀ fragment, .fragment fragment ∈ items ↔ fragment ∈ fragmentsOf items := by
    intro fragment
    constructor
    · intro member
      exact List.mem_filterMap.mpr ⟨_, member, rfl⟩
    · intro member
      obtain ⟨item, held, same⟩ := List.mem_filterMap.mp member
      cases item with
      | fragment part => exact Option.some.inj same ▸ held
      | reasoning | text => cases same
  rw [Draft.ofItems, mem_keys_items]
  simp [Draft.keys, listed]

theorem told_ofItems (distinct : (Draft.keys (Draft.ofItems now items)).Nodup) :
    Told now (fragmentsOf items) (Draft.ofItems now items) := by
  induction items using List.reverseRecOn with
  | nil =>
      intro block member
      cases member
  | append_singleton items item ih =>
      rw [ofItems_append] at distinct ⊢
      unfold fragmentsOf
      rw [List.filterMap_append]
      change Told now (fragmentsOf items ++ _) _
      cases item with
      | reasoning text =>
          simp only [Draft.add, keys_think] at distinct ⊢
          unfold Told
          rw [toolBlocks_think, List.filterMap_cons, List.filterMap_nil, List.append_nil]
          exact ih distinct
      | text text =>
          simp only [Draft.add, keys_speak] at distinct ⊢
          unfold Told
          rw [toolBlocks_speak, List.filterMap_cons, List.filterMap_nil, List.append_nil]
          exact ih distinct
      | fragment fragment =>
          have before : (Draft.keys (Draft.ofItems now items)).Nodup := by
            simp only [Draft.add, keys_call] at distinct
            exact (List.nodup_append.mp distinct).1
          exact told_call now _ _ fragment (ih before) (mem_keys_ofItems now items) distinct

theorem opened_ofItems :
    ∀ block ∈ toolBlocks (Draft.ofItems now items),
      ∃ opener ∈ fragmentsOf items, OpenedBy now block opener := by
  induction items using List.reverseRecOn with
  | nil =>
      intro block member
      cases member
  | append_singleton items item ih =>
      rw [ofItems_append]
      unfold fragmentsOf
      rw [List.filterMap_append]
      intro block member
      cases item with
      | reasoning text =>
          rw [Draft.add, toolBlocks_think] at member
          obtain ⟨opener, listed, opened⟩ := ih block member
          exact ⟨opener, List.mem_append_left _ listed, opened⟩
      | text text =>
          rw [Draft.add, toolBlocks_speak] at member
          obtain ⟨opener, listed, opened⟩ := ih block member
          exact ⟨opener, List.mem_append_left _ listed, opened⟩
      | fragment fragment =>
          rw [Draft.add] at member
          rcases call_cases now (Draft.ofItems now items) fragment with
            ⟨front, last, split, keyed, written⟩ | ⟨_, written⟩
          · rw [written, toolBlocks_append] at member
            rw [split, toolBlocks_append] at ih
            rcases List.mem_append.mp member with before | here
            · obtain ⟨opener, listed, opened⟩ := ih block (List.mem_append_left _ before)
              exact ⟨opener, List.mem_append_left _ listed, opened⟩
            · have old : last ∈ toolBlocks [last] := by simp [toolBlocks, keyed]
              obtain ⟨opener, listed, index, header⟩ := ih last (List.mem_append_right _ old)
              have same := List.mem_singleton.mp (List.mem_filter.mp here).1
              exact ⟨opener, List.mem_append_left _ listed, index, by rw [same]; exact header⟩
          · rw [written, toolBlocks_append] at member
            rcases List.mem_append.mp member with before | here
            · obtain ⟨opener, listed, opened⟩ := ih block before
              exact ⟨opener, List.mem_append_left _ listed, opened⟩
            · have same := List.mem_singleton.mp (List.mem_filter.mp here).1
              refine ⟨fragment, List.mem_append_right _ (List.mem_singleton_self _),
                (Draft.ofItems now items).length, ?_⟩
              rw [same]
              rfl

end Items

def blockCall (block : Block Kind String) : Option ReassembledCall :=
  match block.header with
  | .tool _ id name => some ⟨id, name, String.join block.pieces⟩
  | .thinking | .text => none

theorem blockCall_plain (block : Block Kind String) (plain : block.header.key = none) :
    blockCall block = none := by
  unfold blockCall
  cases header : block.header with
  | thinking | text => rfl
  | tool key id name =>
      rw [header] at plain
      cases plain

def lateArguments (now : ℕ → ℕ) (source : List ChatCompletionChunk) : List String :=
  (allFragments (afterFinish source)).filterMap fun fragment =>
    if fragment.key ∈ Draft.keys (draftOf now source) then said fragment.arguments else none

def readDraft (now : ℕ → ℕ) (source : List ChatCompletionChunk) : Draft :=
  extendAll (lateArguments now source) (draftOf now source)

section Reading

variable (now : ℕ → ℕ) (source : List ChatCompletionChunk)

theorem contentEvents_lateDeltas :
    contentEvents (lateDeltas (draftOf now source) (afterFinish source)) =
      ((lateArguments now source).map ContentDelta.inputJson).map
        (.delta ((draftOf now source).length - 1)) := by
  unfold contentEvents lateDeltas lateArguments allFragments
  rw [List.filterMap_filterMap, List.map_map, List.map_filterMap]
  congr 1
  funext fragment
  unfold lateDelta
  split
  · cases said fragment.arguments <;> rfl
  · rfl

theorem toolUse_typed (block : Block Kind String) (late : List String) :
    toolUse ⟨(relabel Kind.block Kind.delta block).header,
        (relabel Kind.block Kind.delta block).pieces ++ late.map ContentDelta.inputJson⟩ =
      blockCall ⟨block.header, block.pieces ++ late⟩ := by
  unfold toolUse blockCall relabel
  cases block.header with
  | thinking | text => rfl
  | tool key id name =>
      have payload : ((block.pieces.map ContentDelta.inputJson) ++
          late.map ContentDelta.inputJson).filterMap inputJson = block.pieces ++ late := by
        rw [← List.map_append, List.filterMap_map]
        exact List.filterMap_some
      simp only [Kind.block, Kind.delta, payload]

theorem toolUse_block (block : Block Kind String) :
    toolUse (relabel Kind.block Kind.delta block) = blockCall block := by
  have same := toolUse_typed block []
  rwa [List.map_nil, List.append_nil, List.append_nil] at same

theorem toolUses_eq (message : MessageHeader) :
    toolUses (createStreamAdapter message now source) =
      (readDraft now source).filterMap blockCall := by
  have writes := createStreamAdapter_writes message now source
  have length : (draftOf now source).length = (draftOf now source).typed.length := by
    rw [Draft.typed, List.length_map]
  rw [toolUses, contentEvents_writes message _ _ _ _ writes, contentEvents_lateDeltas, length,
    gather_late, readDraft]
  rcases List.eq_nil_or_concat' (draftOf now source) with empty | ⟨front, last, split⟩
  · rw [empty, extendAll_nil]
    unfold Draft.typed
    rw [List.map_nil, extendAll_nil]
    rfl
  · have before : (front.map (relabel Kind.block Kind.delta)).filterMap toolUse =
        front.filterMap blockCall := by
      rw [List.filterMap_map]
      congr 1
      funext block
      exact toolUse_block block
    rw [split, extendAll_concat]
    unfold Draft.typed
    rw [List.map_append, List.map_singleton, extendAll_concat, List.filterMap_append,
      List.filterMap_append, before, List.filterMap_cons, List.filterMap_cons, toolUse_typed]
    cases blockCall ⟨last.header, last.pieces ++ lateArguments now source⟩ <;> rfl

theorem readDraft_header (block : Block Kind String) (member : block ∈ readDraft now source) :
    ∃ old ∈ draftOf now source, old.header = block.header := by
  unfold readDraft at member
  rcases List.eq_nil_or_concat' (draftOf now source) with empty | ⟨front, last, split⟩
  · rw [empty, extendAll_nil] at member
    cases member
  · rw [split, extendAll_concat] at member
    rw [split]
    rcases List.mem_append.mp member with before | here
    · exact ⟨block, List.mem_append_left _ before, rfl⟩
    · have same := List.mem_singleton.mp here
      exact ⟨last, List.mem_append_right _ (List.mem_singleton_self _), by rw [same]⟩

theorem readDraft_keys : Draft.keys (readDraft now source) = Draft.keys (draftOf now source) := by
  unfold readDraft
  rcases List.eq_nil_or_concat' (draftOf now source) with empty | ⟨front, last, split⟩
  · rw [empty, extendAll_nil]
  · rw [split, extendAll_concat]
    unfold Draft.keys
    rw [List.filterMap_append, List.filterMap_append]
    rfl

theorem draftOf_keys :
    Draft.keys (draftOf now source) = runs none (marks source) ∧
      Draft.openTool (draftOf now source) = (marks source).getLast?.getD none := by
  obtain ⟨keys, tool⟩ := keys_items now [] ((untilFinish source).flatMap ChatCompletionChunk.items)
  exact ⟨keys, tool⟩

theorem fragmentsOf_items (chunks : List ChatCompletionChunk) :
    fragmentsOf (chunks.flatMap ChatCompletionChunk.items) = allFragments chunks := by
  induction chunks with
  | nil => rfl
  | cons chunk rest ih =>
      have here : fragmentsOf chunk.items = chunk.fragments := by
        unfold fragmentsOf ChatCompletionChunk.items
        rw [List.filterMap_append, List.filterMap_append]
        simp
      unfold fragmentsOf at here ih ⊢
      rw [List.flatMap_cons, List.filterMap_append, here, ih]
      rfl

theorem allFragments_split :
    allFragments source =
      allFragments (untilFinish source) ++ allFragments (afterFinish source) := by
  have split := congrArg allFragments (source_split source)
  unfold allFragments at split ⊢
  rwa [List.flatMap_append] at split

end Reading

section Spec

variable (fragments : List ToolCallFragment) (key : ℤ)

theorem carried_first (field : ToolCallFragment → Option String) (first : ToolCallFragment)
    (value : String) (found : fragments.find? (·.key = key) = some first)
    (carries : said (field first) = some value) : carried fragments field key = value := by
  have head : (ofIndex fragments key).head? = some first := by
    rw [ofIndex, List.head?_filter, found]
  obtain ⟨rest, shape⟩ := List.head?_eq_some_iff.mp head
  rw [carried, shape, List.filterMap_cons, carries]
  rfl

theorem arguments_appendAll (others : List ToolCallFragment) :
    (callOf (fragments ++ others) key).arguments =
      (callOf fragments key).arguments ++ (callOf others key).arguments := by
  unfold callOf ofIndex
  dsimp only
  rw [List.filter_append, List.map_append, String.join_append]

theorem arguments_filter :
    (callOf (fragments.filter fun fragment => (said fragment.arguments).isSome) key).arguments =
      (callOf fragments key).arguments := by
  induction fragments with
  | nil => rfl
  | cons fragment rest ih =>
      have head : ∀ others, (callOf (fragment :: others) key).arguments =
          (callOf [fragment] key).arguments ++ (callOf others key).arguments :=
        fun others => arguments_appendAll [fragment] key others
      cases json : said fragment.arguments with
      | some arguments =>
          rw [List.filter_cons_of_pos (by rw [json]; rfl), head, ih, head rest]
      | none =>
          have silent : (callOf [fragment] key).arguments = "" := by
            have empty := arguments_append [] fragment key
            rw [List.nil_append] at empty
            rw [empty, ← join_said_arguments, json]
            by_cases same : fragment.key = key <;> simp [same, callOf, ofIndex]
          rw [List.filter_cons_of_neg (by rw [json]; exact Bool.false_ne_true), head rest, silent,
            String.empty_append, ih]

theorem mem_indices : key ∈ indices fragments ↔ ∃ fragment ∈ fragments, fragment.key = key := by
  simp [indices]

end Spec

section Forward

variable (now : ℕ → ℕ) (source : List ChatCompletionChunk)

theorem foldl_call_late (draft : Draft) (late : List ToolCallFragment)
    (open_ : ∀ fragment ∈ late, (said fragment.arguments).isSome = true →
      Draft.openTool draft = some fragment.key) :
    (late.filter fun fragment => (said fragment.arguments).isSome).foldl (Draft.call now) draft =
      extendAll (late.filterMap fun fragment => said fragment.arguments) draft := by
  induction late generalizing draft with
  | nil => rfl
  | cons fragment rest ih =>
      have others := fun part member => open_ part (List.mem_cons_of_mem _ member)
      cases json : said fragment.arguments with
      | none =>
          rw [List.filter_cons_of_neg (by rw [json]; exact Bool.false_ne_true),
            List.filterMap_cons, json]
          exact ih draft others
      | some arguments =>
          have here := open_ fragment List.mem_cons_self (by rw [json]; rfl)
          have extended : Draft.call now draft fragment = extend arguments draft := by
            unfold Draft.call Draft.openCall
            rw [if_pos here, json]
            rfl
          rw [List.filter_cons_of_pos (by rw [json]; rfl), List.filterMap_cons, json,
            List.foldl_cons, extended]
          apply ih (extend arguments draft)
          intro part member told
          have still := others part member told
          unfold Draft.openTool at still ⊢
          rwa [current_extend]

/-- What a client reads was written by the early items and the late arguments. -/
theorem readDraft_items (sequential : Sequential source) :
    readDraft now source = Draft.ofItems now
      ((untilFinish source).flatMap ChatCompletionChunk.items ++
        ((allFragments (afterFinish source)).filter fun fragment =>
          (said fragment.arguments).isSome).map .fragment) := by
  have all_known : lateArguments now source =
      (allFragments (afterFinish source)).filterMap fun fragment => said fragment.arguments := by
    unfold lateArguments
    apply List.filterMap_congr
    intro fragment member
    obtain ⟨early, listed, same⟩ := sequential.known fragment member
    rw [if_pos ((mem_keys_draftOf now source fragment.key).mpr ⟨early, listed, same⟩)]
  have tool := (draftOf_keys now source).2
  rw [readDraft, all_known, Draft.ofItems, List.foldl_append, List.foldl_map]
  symm
  apply foldl_call_late now (draftOf now source)
  intro fragment member told
  rw [tool, sequential.last fragment member told]
  rfl

theorem opener_early (opener : ToolCallFragment) (late : List ToolCallFragment)
    (written : opener.key ∈ Draft.keys (draftOf now source))
    (first : (allFragments (untilFinish source) ++ late).find? (·.key = opener.key) = some opener) :
    (allFragments (untilFinish source)).find? (·.key = opener.key) = some opener := by
  obtain ⟨fragment, before, own⟩ := (mem_keys_draftOf now source opener.key).mp written
  cases early : (allFragments (untilFinish source)).find? (·.key = opener.key) with
  | none =>
      have absent := List.find?_eq_none.mp early fragment before
      exact absurd own (by simpa using absent)
  | some fragment =>
      rw [List.find?_append, early] at first
      exact congrArg some (Option.some.inj first)

theorem blockCall_sequential (sequential : Sequential source) (block : Block Kind String)
    (member : block ∈ readDraft now source) :
    blockCall block = block.header.key.map (callOf (allFragments source)) := by
  have distinct : (Draft.keys (readDraft now source)).Nodup := by
    rw [readDraft_keys, (draftOf_keys now source).1]
    exact sequential.contiguous
  have items := readDraft_items now source sequential
  rw [items] at distinct
  have told := told_ofItems now _ distinct
  rw [← items] at told
  unfold fragmentsOf at told
  rw [List.filterMap_append, List.filterMap_map] at told
  change Told now (fragmentsOf _ ++ List.filterMap some _) _ at told
  rw [fragmentsOf_items, List.filterMap_some] at told
  cases tool : block.header.key with
  | none => exact blockCall_plain block tool
  | some key =>
      have listed : block ∈ toolBlocks (readDraft now source) :=
        List.mem_filter.mpr ⟨member, by rw [tool]; rfl⟩
      obtain ⟨opener, ⟨index, header⟩, found, arguments⟩ := told block listed
      have same : opener.key = key := by
        rw [header] at tool
        exact Option.some.inj tool
      have written : opener.key ∈ Draft.keys (draftOf now source) := by
        rw [← readDraft_keys]
        exact mem_keys_toolBlocks now _ block opener listed ⟨index, header⟩
      have early := opener_early now source opener _ written found
      obtain ⟨hasId, hasName⟩ := sequential.identified opener.key opener early
      obtain ⟨id, carriesId⟩ := Option.isSome_iff_exists.mp hasId
      obtain ⟨name, carriesName⟩ := Option.isSome_iff_exists.mp hasName
      have first : (allFragments source).find? (·.key = opener.key) = some opener := by
        rw [allFragments_split, List.find?_append, early]
        rfl
      have openerId : opener.id = some id := (Option.filter_eq_some_iff.mp carriesId).1
      have openerName : opener.name = some name := (Option.filter_eq_some_iff.mp carriesName).1
      have own := carried_first (allFragments source) opener.key ToolCallFragment.id opener id
        first carriesId
      have named :=
        carried_first (allFragments source) opener.key ToolCallFragment.name opener name
          first carriesName
      have payload : String.join block.pieces =
          (callOf (allFragments source) opener.key).arguments := by
        rw [arguments, arguments_appendAll, arguments_filter, allFragments_split source,
          arguments_appendAll]
      rw [blockCall, header, Option.map_some, ← same, openerId, openerName]
      dsimp only [Option.getD_some]
      rw [payload, callOf, own, named]

theorem reassembled_sequential (message : MessageHeader) (sequential : Sequential source) :
    Reassembled source (createStreamAdapter message now source) := by
  have calls : (readDraft now source).filterMap blockCall =
      (Draft.keys (readDraft now source)).map (callOf (allFragments source)) := by
    rw [Draft.keys, List.map_filterMap]
    apply List.filterMap_congr
    intro block member
    exact blockCall_sequential now source sequential block member
  have distinct : (Draft.keys (draftOf now source)).Nodup := by
    rw [(draftOf_keys now source).1]
    exact sequential.contiguous
  rw [Reassembled, toolUses_eq, calls, readDraft_keys]
  apply List.Perm.map
  apply (List.perm_ext_iff_of_nodup distinct (List.nodup_dedup _)).mpr
  intro key
  rw [mem_keys_draftOf]
  change _ ↔ key ∈ indices (allFragments source)
  rw [mem_indices, allFragments_split]
  constructor
  · rintro ⟨early, listed, same⟩
    exact ⟨early, List.mem_append_left _ listed, same⟩
  · rintro ⟨fragment, listed, rfl⟩
    rcases List.mem_append.mp listed with early | late
    · exact ⟨fragment, early, rfl⟩
    · exact sequential.known fragment late

end Forward

section Converse

variable (source : List ChatCompletionChunk)

theorem exists_fresh (ids : List String) :
    ∃ reading : ℕ, ∀ index, generatedId (fun _ => reading) index ∉ ids := by
  have injective : Function.Injective fun reading : ℕ => "toolu_" ++ toString reading := by
    intro left right same
    have printed : left.repr = right.repr := (String.append_right_inj "toolu_").mp same
    have digits := congrArg String.toList printed
    rw [Nat.toList_repr, Nat.toList_repr] at digits
    have read := congrArg (Nat.ofDigitChars 10 · 0) digits
    simpa [Nat.ofDigitChars_toDigits] using read
  obtain ⟨reading, fresh⟩ := Infinite.exists_notMem_finset
    (ids.toFinset.preimage (fun reading : ℕ => "toolu_" ++ toString reading) injective.injOn)
  refine ⟨reading, ?_⟩
  intro _ listed
  exact fresh (Finset.mem_preimage.mpr (List.mem_toFinset.mpr listed))

theorem carried_carrier (fragments : List ToolCallFragment) (key : ℤ)
    (field : ToolCallFragment → Option String)
    (carries : ∃ fragment ∈ ofIndex fragments key, (said (field fragment)).isSome = true) :
    ∃ fragment ∈ fragments, fragment.key = key ∧
      said (field fragment) = some (carried fragments field key) := by
  obtain ⟨some_, listed, told⟩ := carries
  obtain ⟨value, said_⟩ := Option.isSome_iff_exists.mp told
  have nonempty : ((ofIndex fragments key).filterMap fun fragment => said (field fragment)) ≠ [] :=
    List.ne_nil_of_mem (List.mem_filterMap.mpr ⟨some_, listed, said_⟩)
  obtain ⟨first, rest, shape⟩ := List.exists_cons_of_ne_nil nonempty
  have member : first ∈
      (ofIndex fragments key).filterMap fun fragment => said (field fragment) := by
    rw [shape]
    exact List.mem_cons_self
  obtain ⟨fragment, own, found⟩ := List.mem_filterMap.mp member
  obtain ⟨inside, keyed⟩ := List.mem_filter.mp own
  refine ⟨fragment, inside, of_decide_eq_true keyed, ?_⟩
  rw [carried, shape]
  exact found

theorem callOf_injective (identified : Identified (allFragments source))
    (own : OwnIds (allFragments source)) :
    ∀ left ∈ indices (allFragments source), ∀ right ∈ indices (allFragments source),
      callOf (allFragments source) left = callOf (allFragments source) right → left = right := by
  intro left inLeft right inRight same
  obtain ⟨first, held, keyed, told⟩ := carried_carrier _ left _ (identified left inLeft).1
  obtain ⟨second, listed, also, tells⟩ := carried_carrier _ right _ (identified right inRight).1
  have sameId : carried (allFragments source) ToolCallFragment.id left =
      carried (allFragments source) ToolCallFragment.id right :=
    congrArg ReassembledCall.id same
  have apart := own first held second listed (by rw [told]; rfl) (by rw [told, tells, sameId])
  rw [← keyed, ← also, apart]

section Fresh

variable (reading : ℕ)
  (fresh : ∀ index, generatedId (fun _ => reading) index ∉
    (indices (allFragments source)).map (carried (allFragments source) ToolCallFragment.id))
  (identified : Identified (allFragments source)) (own : OwnIds (allFragments source))
  (calls : ((readDraft (fun _ => reading) source).filterMap blockCall).Perm
    ((indices (allFragments source)).map (callOf (allFragments source))))

include fresh identified own calls

/-- Under fresh generated ids a tool block carries the id of its own index. -/
theorem block_identified (block : Block Kind String)
    (member : block ∈ readDraft (fun _ => reading) source) (opener : ToolCallFragment)
    (early : opener ∈ allFragments (untilFinish source))
    (opened : OpenedBy (fun _ => reading) block opener) :
    (said opener.id).isSome = true ∧ (said opener.name).isSome = true ∧
      blockCall block = some (callOf (allFragments source) opener.key) := by
  obtain ⟨index, header⟩ := opened
  have call : blockCall block = some ⟨opener.id.getD (generatedId (fun _ => reading) index),
      opener.name.getD "", String.join block.pieces⟩ := by
    rw [blockCall, header]
  have emitted := calls.subset (List.mem_filterMap.mpr ⟨block, member, call⟩)
  obtain ⟨key, present, read⟩ := List.mem_map.mp emitted
  obtain ⟨hasId, hasName⟩ := identified key present
  obtain ⟨carrier, held, keyed, told⟩ := carried_carrier _ key ToolCallFragment.id hasId
  obtain ⟨_, _, _, named⟩ := carried_carrier _ key ToolCallFragment.name hasName
  have sameId : carried (allFragments source) ToolCallFragment.id key =
      opener.id.getD (generatedId (fun _ => reading) index) :=
    congrArg ReassembledCall.id read
  have sameName : carried (allFragments source) ToolCallFragment.name key = opener.name.getD "" :=
    congrArg ReassembledCall.name read
  have earlier : opener ∈ allFragments source := by
    rw [allFragments_split]
    exact List.mem_append_left _ early
  have saidId : said opener.id = said carrier.id := by
    rw [told, sameId]
    cases given : opener.id with
    | none =>
        rw [given] at sameId
        exact absurd (List.mem_map.mpr ⟨key, present, sameId⟩) (fresh index)
    | some id =>
        rw [given] at sameId
        have nonempty := (Option.filter_eq_some_iff.mp told).2
        rw [sameId] at nonempty
        exact Option.filter_eq_some_iff.mpr ⟨rfl, nonempty⟩
  have hasOwn : (said opener.id).isSome = true := by
    rw [saidId, told]
    rfl
  have sameKey : opener.key = key := (own opener earlier carrier held hasOwn saidId).trans keyed
  refine ⟨hasOwn, ?_, ?_⟩
  · have nonempty := (Option.filter_eq_some_iff.mp named).2
    rw [sameName] at nonempty
    cases given : opener.name with
    | none =>
        rw [given] at nonempty
        simp at nonempty
    | some name =>
        rw [given] at nonempty
        exact Option.isSome_iff_exists.mpr ⟨name, Option.filter_eq_some_iff.mpr ⟨rfl, nonempty⟩⟩
  · rw [call, sameKey, read]

theorem blockCalls_eq :
    (readDraft (fun _ => reading) source).filterMap blockCall =
      (Draft.keys (draftOf (fun _ => reading) source)).map (callOf (allFragments source)) := by
  rw [← readDraft_keys, Draft.keys, List.map_filterMap]
  apply List.filterMap_congr
  intro block member
  cases tool : block.header.key with
  | none => exact blockCall_plain block tool
  | some key =>
      obtain ⟨old, written, same⟩ := readDraft_header _ source block member
      have listed : old ∈ toolBlocks (draftOf (fun _ => reading) source) :=
        List.mem_filter.mpr ⟨written, by rw [same, tool]; rfl⟩
      obtain ⟨opener, early, index, header⟩ := opened_ofItems (fun _ => reading) _ old listed
      rw [fragmentsOf_items] at early
      rw [same] at header
      have call := (block_identified source reading fresh identified own calls block member
        opener early ⟨index, header⟩).2.2
      rw [header] at tool
      rw [call, ← Option.some.inj tool]
      rfl

theorem keys_complete :
    (Draft.keys (draftOf (fun _ => reading) source)).Nodup ∧
      ∀ key ∈ indices (allFragments source),
        key ∈ Draft.keys (draftOf (fun _ => reading) source) := by
  have each := blockCalls_eq source reading fresh identified own calls
  have injective := callOf_injective source identified own
  rw [each] at calls
  have distinct := (List.nodup_dedup ((allFragments source).map ToolCallFragment.key)).map_on
    injective
  refine ⟨List.Nodup.of_map _ (calls.nodup_iff.mpr distinct), ?_⟩
  intro key present
  obtain ⟨other, written, same⟩ :=
    List.mem_map.mp (calls.symm.subset (List.mem_map_of_mem present))
  obtain ⟨early, listed, keyed⟩ := (mem_keys_draftOf _ source other).mp written
  have known : other ∈ indices (allFragments source) := by
    rw [mem_indices, allFragments_split]
    exact ⟨early, List.mem_append_left _ listed, keyed⟩
  rw [injective key present other known same.symm]
  exact written

end Fresh

theorem arguments_pos (fragments : List ToolCallFragment) (fragment : ToolCallFragment)
    (member : fragment ∈ fragments) (told : (said fragment.arguments).isSome = true) :
    0 < (callOf fragments fragment.key).arguments.length := by
  obtain ⟨arguments, given⟩ := Option.isSome_iff_exists.mp told
  obtain ⟨before, after, rfl⟩ := List.append_of_mem member
  have here : (callOf [fragment] fragment.key).arguments = arguments := by
    have single := arguments_append [] fragment fragment.key
    rw [List.nil_append, if_pos rfl] at single
    rw [single, ← join_said_arguments, given]
    simp [callOf, ofIndex]
  have nonempty : arguments ≠ "" := by
    simpa using (Option.filter_eq_some_iff.mp given).2
  have long : 0 < arguments.length := by
    rw [Nat.pos_iff_ne_zero]
    exact fun zero => nonempty (String.length_eq_zero_iff.mp zero)
  rw [arguments_appendAll, ← List.singleton_append, arguments_appendAll, here,
    String.length_append, String.length_append]
  omega

section Fresh

variable (reading : ℕ)
  (fresh : ∀ index, generatedId (fun _ => reading) index ∉
    (indices (allFragments source)).map (carried (allFragments source) ToolCallFragment.id))
  (identified : Identified (allFragments source)) (own : OwnIds (allFragments source))
  (calls : ((readDraft (fun _ => reading) source).filterMap blockCall).Perm
    ((indices (allFragments source)).map (callOf (allFragments source))))

include fresh identified own calls

theorem told_draftOf :
    Told (fun _ => reading) (allFragments (untilFinish source))
      (draftOf (fun _ => reading) source) := by
  have told := told_ofItems (fun _ => reading) _
    (keys_complete source reading fresh identified own calls).1
  rwa [fragmentsOf_items] at told

theorem block_of_key (key : ℤ) (written : key ∈ Draft.keys (draftOf (fun _ => reading) source)) :
    ∃ block ∈ readDraft (fun _ => reading) source, ∃ opener,
      (allFragments (untilFinish source)).find? (·.key = key) = some opener ∧
      block.header.key = some key ∧ (said opener.id).isSome = true ∧
      (said opener.name).isSome = true ∧
      blockCall block = some (callOf (allFragments source) key) := by
  rw [← readDraft_keys] at written
  obtain ⟨block, member, tool⟩ := List.mem_filterMap.mp written
  obtain ⟨old, drafted, same⟩ := readDraft_header _ source block member
  have listed : old ∈ toolBlocks (draftOf (fun _ => reading) source) :=
    List.mem_filter.mpr ⟨drafted, by rw [same, tool]; rfl⟩
  obtain ⟨opener, ⟨index, header⟩, first, _⟩ :=
    told_draftOf source reading fresh identified own calls old listed
  rw [same] at header
  have keyed : opener.key = key := by
    rw [header] at tool
    exact Option.some.inj tool
  obtain ⟨hasId, hasName, call⟩ := block_identified source reading fresh identified own calls
    block member opener (List.mem_of_find?_eq_some first) ⟨index, header⟩
  rw [keyed] at first call
  exact ⟨block, member, opener, first, tool, hasId, hasName, call⟩

theorem late_known (late : ToolCallFragment) (member : late ∈ allFragments (afterFinish source)) :
    late.key ∈ Draft.keys (draftOf (fun _ => reading) source) := by
  apply (keys_complete source reading fresh identified own calls).2
  rw [mem_indices, allFragments_split]
  exact ⟨late, List.mem_append_right _ member, rfl⟩

theorem late_last (late : ToolCallFragment) (member : late ∈ allFragments (afterFinish source))
    (hasArguments : (said late.arguments).isSome = true) :
    Draft.openTool (draftOf (fun _ => reading) source) = some late.key := by
  obtain ⟨block, inside, _, _, tool, _, _, call⟩ :=
    block_of_key source reading fresh identified own calls late.key
      (late_known source reading fresh identified own calls late member)
  by_contra closed
  -- A block that is not the last one has only the early arguments.
  have drafted : block ∈ draftOf (fun _ => reading) source := by
    unfold readDraft at inside
    rcases List.eq_nil_or_concat' (draftOf (fun _ => reading) source) with
      empty | ⟨front, final, split⟩
    · rw [empty, extendAll_nil] at inside
      cases inside
    · rw [split, extendAll_concat] at inside
      rw [split]
      rcases List.mem_append.mp inside with before | here
      · exact List.mem_append_left _ before
      · rw [List.mem_singleton.mp here] at tool
        rw [split] at closed
        exact absurd (by simpa [Draft.openTool, current] using tool) closed
  have listed : block ∈ toolBlocks (draftOf (fun _ => reading) source) :=
    List.mem_filter.mpr ⟨drafted, by rw [tool]; rfl⟩
  obtain ⟨opener, ⟨index, header⟩, _, early⟩ :=
    told_draftOf source reading fresh identified own calls block listed
  have keyed : opener.key = late.key := by
    rw [header] at tool
    exact Option.some.inj tool
  rw [blockCall, header] at call
  have payload := congrArg ReassembledCall.arguments (Option.some.inj call)
  dsimp only at payload
  rw [early, keyed, allFragments_split source, arguments_appendAll] at payload
  have length := congrArg String.length payload
  have long := arguments_pos _ late member hasArguments
  rw [String.length_append] at length
  omega

end Fresh

/-- Under ids of their own a source that is always reassembled is sequential. -/
theorem sequential_of_reassembled (message : MessageHeader)
    (identified : Identified (allFragments source)) (own : OwnIds (allFragments source))
    (reassembled : ∀ now, Reassembled source (createStreamAdapter message now source)) :
    Sequential source := by
  obtain ⟨reading, fresh⟩ := exists_fresh
    ((indices (allFragments source)).map (carried (allFragments source) ToolCallFragment.id))
  have calls := reassembled fun _ => reading
  rw [Reassembled, toolUses_eq] at calls
  constructor
  · rw [← (draftOf_keys (fun _ => reading) source).1]
    exact (keys_complete source reading fresh identified own calls).1
  · intro key first isFirst
    have keyed : first.key = key := by simpa using List.find?_some isFirst
    have written : key ∈ Draft.keys (draftOf (fun _ => reading) source) :=
      (mem_keys_draftOf _ source key).mpr ⟨first, List.mem_of_find?_eq_some isFirst, keyed⟩
    obtain ⟨_, _, opener, opens, _, hasId, hasName, _⟩ :=
      block_of_key source reading fresh identified own calls key written
    rw [isFirst] at opens
    cases opens
    exact ⟨hasId, hasName⟩
  · intro late member
    exact (mem_keys_draftOf _ source late.key).mp
      (late_known source reading fresh identified own calls late member)
  · intro late member hasArguments
    have last := late_last source reading fresh identified own calls late member hasArguments
    rw [(draftOf_keys (fun _ => reading) source).2] at last
    cases final : (marks source).getLast? with
    | none =>
        rw [final] at last
        cases last
    | some mark =>
        rw [final] at last
        exact congrArg some last

end Converse

/-- A sequential source is reassembled one to one; where no two indices share an
id, only a sequential source is, whatever the clock. -/
theorem reassembled_iff (message : MessageHeader) (source : List ChatCompletionChunk)
    (identified : Identified (allFragments source)) :
    (Sequential source → ∀ now, Reassembled source (createStreamAdapter message now source)) ∧
      (OwnIds (allFragments source) →
        (∀ now, Reassembled source (createStreamAdapter message now source)) →
          Sequential source) := by
  constructor
  · intro sequential now
    exact reassembled_sequential now source message sequential
  · intro own reassembled
    exact sequential_of_reassembled source message identified own reassembled

def callChunk (index : ℤ) (id name : Option String) (arguments : String) : ChatCompletionChunk :=
  ⟨[⟨⟨none, none, [⟨some index, id, some ⟨name, some arguments⟩⟩]⟩, none⟩], none⟩

def sequentialCalls : List ChatCompletionChunk :=
  [callChunk 0 (some "call_a") (some "read") "\x7b", callChunk 0 none none "\x7d",
    callChunk 1 (some "call_b") (some "list") "\x7b\x7d"]

theorem sequential_reassembled :
    Reassembled sequentialCalls
      (createStreamAdapter ⟨"msg_1", "coder"⟩ (fun _ => 0) sequentialCalls) := by
  have identified : Identified (allFragments sequentialCalls) := by
    unfold Identified
    decide
  have indexed : ∀ fragment ∈ allFragments (untilFinish sequentialCalls),
      fragment.key = 0 ∨ fragment.key = 1 := by decide
  have sequential : Sequential sequentialCalls := by
    refine ⟨by decide, ?_, ?_, ?_⟩
    · intro key first isFirst
      have member := List.mem_of_find?_eq_some isFirst
      have keyed : first.key = key := by simpa using List.find?_some isFirst
      have among : key = 0 ∨ key = 1 := by
        rw [← keyed]
        exact indexed first member
      rcases among with rfl | rfl
      · cases isFirst
        exact ⟨rfl, rfl⟩
      · cases isFirst
        exact ⟨rfl, rfl⟩
    · intro late member
      cases member
    · intro late member
      cases member
  exact (reassembled_iff ⟨"msg_1", "coder"⟩ sequentialCalls identified).1 sequential _

def alternatingCalls : List ChatCompletionChunk :=
  [callChunk 0 (some "call_a") (some "read") "\x7b", callChunk 1 (some "call_b") (some "list") "\x7b",
    callChunk 0 none none "\x7d", callChunk 1 none none "\x7d"]

/-- They come out as four blocks. -/
theorem alternating_calls :
    Identified (allFragments alternatingCalls) ∧
      (toolUses (createStreamAdapter ⟨"msg_1", "coder"⟩ (fun _ => 0) alternatingCalls)).length = 4 ∧
      ¬Reassembled alternatingCalls
        (createStreamAdapter ⟨"msg_1", "coder"⟩ (fun _ => 0) alternatingCalls) := by
  have four : (toolUses
      (createStreamAdapter ⟨"msg_1", "coder"⟩ (fun _ => 0) alternatingCalls)).length = 4 := rfl
  refine ⟨by unfold Identified; decide, four, ?_⟩
  intro reassembled
  have two := reassembled.length_eq
  rw [four] at two
  exact absurd two (by decide)

end LlmGateway.Anthropic
