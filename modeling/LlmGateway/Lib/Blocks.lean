import Mathlib.Data.List.Basic
import Mathlib.Data.List.Induction

/-!
A list of blocks written as a stream of events. Every block is opened under
the next index, receives its pieces and is closed before the next one opens.
`render` writes finished blocks, `renderOpen` leaves the last one open, and
`gather` is the reader that collects the pieces of each index.
-/

namespace Blocks

inductive Event (Header Piece : Type*) where
  | start (index : ℕ) (header : Header)
  | delta (index : ℕ) (piece : Piece)
  | stop (index : ℕ)

structure Block (Header Piece : Type*) where
  header : Header
  pieces : List Piece

variable {Header Piece : Type*}

def Block.opened (index : ℕ) (block : Block Header Piece) : List (Event Header Piece) :=
  .start index block.header :: block.pieces.map (.delta index)

def render : ℕ → List (Block Header Piece) → List (Event Header Piece)
  | _, [] => []
  | index, block :: rest => block.opened index ++ .stop index :: render (index + 1) rest

def renderOpen : ℕ → List (Block Header Piece) → List (Event Header Piece)
  | _, [] => []
  | index, [block] => block.opened index
  | index, block :: rest => block.opened index ++ .stop index :: renderOpen (index + 1) rest

def push (header : Header) (blocks : List (Block Header Piece)) : List (Block Header Piece) :=
  blocks ++ [⟨header, []⟩]

def extend (piece : Piece) : List (Block Header Piece) → List (Block Header Piece)
  | [] => []
  | [block] => [⟨block.header, block.pieces ++ [piece]⟩]
  | block :: rest => block :: extend piece rest

def extendAll (pieces : List Piece) (blocks : List (Block Header Piece)) :
    List (Block Header Piece) :=
  pieces.foldl (fun blocks piece => extend piece blocks) blocks

def current (blocks : List (Block Header Piece)) : Option Header :=
  blocks.getLast?.map Block.header

section Writing

variable (blocks : List (Block Header Piece)) (header : Header) (piece : Piece)

theorem extend_concat (block : Block Header Piece) :
    extend piece (blocks ++ [block]) = blocks ++ [⟨block.header, block.pieces ++ [piece]⟩] := by
  induction blocks with
  | nil => rfl
  | cons first rest ih =>
      cases rest with
      | nil => rfl
      | cons second others => exact congrArg (first :: ·) ih

theorem extendAll_nil (pieces : List Piece) :
    extendAll pieces ([] : List (Block Header Piece)) = [] := by
  induction pieces with
  | nil => rfl
  | cons piece rest ih => exact ih

theorem extendAll_concat (block : Block Header Piece) (pieces : List Piece) :
    extendAll pieces (blocks ++ [block]) = blocks ++ [⟨block.header, block.pieces ++ pieces⟩] := by
  induction pieces generalizing block with
  | nil => simp [extendAll]
  | cons piece rest ih =>
      have tail := ih ⟨block.header, block.pieces ++ [piece]⟩
      unfold extendAll at tail ⊢
      rw [List.foldl_cons, extend_concat, tail, List.append_assoc, List.singleton_append]

@[simp] theorem length_push : (push header blocks).length = blocks.length + 1 := by
  simp [push]

@[simp] theorem length_extend : (extend piece blocks).length = blocks.length := by
  induction blocks with
  | nil => rfl
  | cons first rest ih =>
      cases rest with
      | nil => rfl
      | cons second others => exact congrArg (· + 1) ih

@[simp] theorem current_push : current (push header blocks) = some header := by
  simp [current, push]

@[simp] theorem current_extend : current (extend piece blocks) = current blocks := by
  induction blocks using List.reverseRecOn with
  | nil => rfl
  | append_singleton front last _ =>
      rw [extend_concat]
      simp [current]

@[simp] theorem current_eq_none : current blocks = none ↔ blocks = [] := by
  simp [current]

theorem render_append (index : ℕ) (others : List (Block Header Piece)) :
    render index (blocks ++ others) =
      render index blocks ++ render (index + blocks.length) others := by
  induction blocks generalizing index with
  | nil => rfl
  | cons block rest ih =>
      have shifted : index + 1 + rest.length = index + (block :: rest).length := by
        rw [List.length_cons]
        omega
      rw [List.cons_append, render, ih, shifted, render, List.append_assoc, List.cons_append]

theorem renderOpen_concat (index : ℕ) (block : Block Header Piece) :
    renderOpen index (blocks ++ [block]) =
      render index blocks ++ block.opened (index + blocks.length) := by
  induction blocks generalizing index with
  | nil => rfl
  | cons first rest ih =>
      have shifted : index + 1 + rest.length = index + (first :: rest).length := by
        rw [List.length_cons]
        omega
      have tail : renderOpen index (first :: (rest ++ [block])) =
          first.opened index ++ .stop index :: renderOpen (index + 1) (rest ++ [block]) := by
        cases rest <;> rfl
      rw [List.cons_append, tail, ih, shifted, render, List.append_assoc, List.cons_append]

theorem render_eq (nonempty : blocks ≠ []) :
    render 0 blocks = renderOpen 0 blocks ++ [.stop (blocks.length - 1)] := by
  obtain ⟨front, last, rfl⟩ := (List.eq_nil_or_concat' blocks).resolve_left nonempty
  rw [renderOpen_concat, render_append, List.append_assoc, List.length_append,
    List.length_singleton, Nat.add_sub_cancel]
  simp [render]

theorem renderOpen_push (nonempty : blocks ≠ []) :
    renderOpen 0 (push header blocks) =
      renderOpen 0 blocks ++ [.stop (blocks.length - 1), .start blocks.length header] := by
  rw [push, renderOpen_concat, render_eq blocks nonempty, Nat.zero_add, List.append_assoc]
  rfl

theorem renderOpen_extend (nonempty : blocks ≠ []) :
    renderOpen 0 (extend piece blocks) =
      renderOpen 0 blocks ++ [.delta (blocks.length - 1) piece] := by
  obtain ⟨front, last, rfl⟩ := (List.eq_nil_or_concat' blocks).resolve_left nonempty
  rw [extend_concat, renderOpen_concat, renderOpen_concat, List.length_append,
    List.length_singleton, Nat.add_sub_cancel, List.append_assoc]
  simp [Block.opened]

end Writing

section Relabelling

variable {NewHeader NewPiece : Type*} (nameHeader : Header → NewHeader)
  (namePiece : Header → Piece → NewPiece)

def relabel (block : Block Header Piece) : Block NewHeader NewPiece :=
  ⟨nameHeader block.header, block.pieces.map (namePiece block.header)⟩

theorem relabel_push (header : Header) (blocks : List (Block Header Piece)) :
    (push header blocks).map (relabel nameHeader namePiece) =
      push (nameHeader header) (blocks.map (relabel nameHeader namePiece)) := by
  simp [push, relabel]

theorem relabel_extend (header : Header) (piece : Piece) (blocks : List (Block Header Piece))
    (last : current blocks = some header) :
    (extend piece blocks).map (relabel nameHeader namePiece) =
      extend (namePiece header piece) (blocks.map (relabel nameHeader namePiece)) := by
  induction blocks using List.reverseRecOn with
  | nil => rfl
  | append_singleton front block _ =>
      have here : block.header = header := by simpa [current] using last
      rw [extend_concat, List.map_append, List.map_append, List.map_singleton, List.map_singleton,
        extend_concat]
      simp [relabel, here]

end Relabelling

section Reading

def deltas (events : List (Event Header Piece)) : List Piece :=
  events.filterMap fun
    | .delta _ piece => some piece
    | _ => none

def piecesAt (index : ℕ) (events : List (Event Header Piece)) : List Piece :=
  events.filterMap fun
    | .delta at_ piece => if at_ = index then some piece else none
    | _ => none

/-- Every block that is opened, with the pieces that `sent` has under its index. -/
def gatherFrom (sent events : List (Event Header Piece)) : List (Block Header Piece) :=
  events.filterMap fun
    | .start index header => some ⟨header, piecesAt index sent⟩
    | _ => none

def gather (events : List (Event Header Piece)) : List (Block Header Piece) :=
  gatherFrom events events

variable (blocks : List (Block Header Piece))

theorem deltas_render (first : ℕ) : deltas (render first blocks) = blocks.flatMap Block.pieces := by
  induction blocks generalizing first with
  | nil => rfl
  | cons block rest ih =>
      have opened : deltas (block.opened first) = block.pieces := by
        simp [deltas, Block.opened, List.filterMap_map]
      have split : deltas (render first (block :: rest)) =
          deltas (block.opened first) ++ deltas (render (first + 1) rest) := by
        rw [render, deltas, List.filterMap_append]
        rfl
      rw [split, opened, ih, List.flatMap_cons]

theorem piecesAt_append (index : ℕ) (left right : List (Event Header Piece)) :
    piecesAt index (left ++ right) = piecesAt index left ++ piecesAt index right :=
  List.filterMap_append

theorem piecesAt_deltas (index first : ℕ) (pieces : List Piece) :
    piecesAt index (pieces.map (.delta first : Piece → Event Header Piece)) =
      if first = index then pieces else [] := by
  induction pieces with
  | nil => simp [piecesAt]
  | cons piece rest ih =>
      unfold piecesAt at ih ⊢
      rw [List.map_cons, List.filterMap_cons, ih]
      by_cases same : first = index <;> simp [same]

theorem piecesAt_opened (index first : ℕ) (block : Block Header Piece) :
    piecesAt index (block.opened first) = if first = index then block.pieces else [] :=
  piecesAt_deltas index first block.pieces

theorem piecesAt_render (first index : ℕ) :
    piecesAt index (render first blocks) =
      if first ≤ index then (blocks[index - first]?).elim [] Block.pieces else [] := by
  induction blocks generalizing first with
  | nil => simp [piecesAt, render]
  | cons block rest ih =>
      have split : piecesAt index (render first (block :: rest)) =
          piecesAt index (block.opened first) ++ piecesAt index (render (first + 1) rest) := by
        rw [render, piecesAt_append]
        rfl
      rw [split, piecesAt_opened, ih]
      by_cases here : first = index
      · subst here
        have none : ¬first + 1 ≤ first := by omega
        simp [none]
      · by_cases later : first + 1 ≤ index
        · have before : first ≤ index := by omega
          have shifted : index - first = index - (first + 1) + 1 := by omega
          rw [if_neg here, if_pos later, if_pos before, shifted, List.getElem?_cons_succ,
            List.nil_append]
        · have after : ¬first ≤ index := by omega
          rw [if_neg here, if_neg later, if_neg after, List.nil_append]

theorem gatherFrom_append (sent left right : List (Event Header Piece)) :
    gatherFrom sent (left ++ right) = gatherFrom sent left ++ gatherFrom sent right :=
  List.filterMap_append

theorem gatherFrom_deltas (sent : List (Event Header Piece)) (index : ℕ) (pieces : List Piece) :
    gatherFrom sent (pieces.map (.delta index)) = [] := by
  simp [gatherFrom]

theorem gatherFrom_render (sent : List (Event Header Piece)) (first : ℕ) :
    gatherFrom sent (render first blocks) =
      blocks.mapIdx fun index block => ⟨block.header, piecesAt (first + index) sent⟩ := by
  induction blocks generalizing first with
  | nil => rfl
  | cons block rest ih =>
      have opened : gatherFrom sent (block.opened first) =
          [⟨block.header, piecesAt first sent⟩] :=
        congrArg (_ :: ·) (gatherFrom_deltas sent first block.pieces)
      have split : gatherFrom sent (render first (block :: rest)) =
          gatherFrom sent (block.opened first) ++ gatherFrom sent (render (first + 1) rest) := by
        rw [render, gatherFrom_append]
        rfl
      rw [split, opened, ih, List.mapIdx_cons, List.singleton_append]
      congr 1
      congr 1
      funext index block
      have shifted : first + 1 + index = first + (index + 1) := by omega
      rw [shifted]

theorem gather_render : gather (render 0 blocks) = blocks := by
  rw [gather, gatherFrom_render]
  apply List.ext_getElem
  · simp
  · intro index _ inside
    rw [List.getElem_mapIdx, piecesAt_render]
    simp [inside]

/-- Pieces sent after the end still count for the last block. -/
theorem gather_late (pieces : List Piece) :
    gather (render 0 blocks ++ pieces.map (.delta (blocks.length - 1))) =
      extendAll pieces blocks := by
  rw [gather, gatherFrom_append, gatherFrom_deltas, List.append_nil, gatherFrom_render]
  induction blocks using List.reverseRecOn with
  | nil => exact (extendAll_nil pieces).symm
  | append_singleton front last _ =>
      rw [extendAll_concat]
      apply List.ext_getElem
      · simp
      · intro index inside _
        have below : index < front.length + 1 := by simpa using inside
        rw [List.getElem_mapIdx, piecesAt_append, piecesAt_render, piecesAt_deltas]
        by_cases final : index = front.length
        · subst final
          simp
        · have before : index < front.length := by omega
          have apart : ¬front.length = index := fun same => final same.symm
          simp [List.getElem_append_left before, List.getElem?_append_left before, before, apart]

end Reading

end Blocks
