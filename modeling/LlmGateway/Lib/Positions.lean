import Mathlib.Data.List.InsertIdx
import Mathlib.Data.List.Sort
import Mathlib.Data.List.Range

/-!
Lists kept in a table. Each row carries the key of its list, its position in
it and a value; a list is read by sorting the rows of its key by position.
Appending inserts a row at the count, erasing deletes a row and moves the later
ones down by one. As long as the positions of a key are dense, these are the
list operations.
-/

namespace Positions

/-- How a row stores the place it has in a list. -/
structure Layout (Row Key Value : Type*) where
  key : Row → Key
  position : Row → ℕ
  value : Row → Value
  place : ℕ → Row → Row
  key_place : ∀ n row, key (place n row) = key row
  position_place : ∀ n row, position (place n row) = n
  value_place : ∀ n row, value (place n row) = value row

variable {Row Key Value : Type*} (layout : Layout Row Key Value)

namespace Layout

def ordered (rows : List Row) : List Row :=
  rows.insertionSort fun left right => layout.position left ≤ layout.position right

def lower (gap : ℕ) (row : Row) : Row :=
  if gap < layout.position row then layout.place (layout.position row - 1) row else row

section Ordered

@[simp] theorem mem_ordered (rows : List Row) (row : Row) :
    row ∈ layout.ordered rows ↔ row ∈ rows :=
  List.mem_insertionSort _

theorem ordered_perm (rows : List Row) : (layout.ordered rows).Perm rows :=
  List.perm_insertionSort _ _

theorem ordered_pairwise (rows : List Row) :
    (layout.ordered rows).Pairwise fun left right => layout.position left ≤ layout.position right := by
  have : Std.Total fun left right : Row => layout.position left ≤ layout.position right :=
    ⟨fun _ _ => le_total _ _⟩
  have : IsTrans Row fun left right => layout.position left ≤ layout.position right :=
    ⟨fun _ _ _ => le_trans⟩
  exact List.pairwise_insertionSort _ rows

theorem ordered_eq (rows candidate : List Row) (perm : candidate.Perm rows)
    (increasing : (candidate.map layout.position).Pairwise (· < ·)) :
    layout.ordered rows = candidate := by
  have strict := List.pairwise_map.mp increasing
  apply List.Perm.eq_of_pairwise _ (layout.ordered_pairwise rows) (strict.imp le_of_lt)
    ((layout.ordered_perm rows).trans perm.symm)
  intro left right inLeft inRight below above
  have member : left ∈ candidate := perm.symm.subset ((layout.mem_ordered rows left).mp inLeft)
  have same : layout.position left = layout.position right := le_antisymm below above
  exact List.inj_on_of_nodup_map (increasing.imp ne_of_lt) member inRight same

theorem ordered_positions (rows : List Row) (n : ℕ)
    (dense : (rows.map layout.position).Perm (List.range n)) :
    (layout.ordered rows).map layout.position = List.range n := by
  apply List.Perm.eq_of_pairwise' (r := (· ≤ ·))
  · exact List.pairwise_map.mpr (layout.ordered_pairwise rows)
  · exact List.pairwise_le_range
  · exact ((layout.ordered_perm rows).map _).trans dense

theorem lower_position (gap : ℕ) (row : Row) :
    layout.position (layout.lower gap row) =
      if gap < layout.position row then layout.position row - 1 else layout.position row := by
  unfold lower
  split
  · exact layout.position_place _ _
  · rfl

@[simp] theorem lower_value (gap : ℕ) (row : Row) :
    layout.value (layout.lower gap row) = layout.value row := by
  unfold lower
  split
  · exact layout.value_place _ _
  · rfl

theorem filter_eq_eraseIdx (rows : List Row) (first gap n : ℕ)
    (positions : rows.map layout.position = List.range' first n) :
    (rows.filter fun row => layout.position row ≠ first + gap) = rows.eraseIdx gap := by
  induction rows generalizing first gap n with
  | nil => rfl
  | cons row rest ih =>
      cases n with
      | zero => simp at positions
      | succ n =>
          obtain ⟨here, after⟩ := List.cons.inj positions
          have later : ∀ row ∈ rest, first < layout.position row := by
            intro other member
            have listed : layout.position other ∈ List.range' (first + 1) n := by
              rw [← after]
              exact List.mem_map_of_mem member
            have bounds := List.mem_range'_1.mp listed
            omega
          cases gap with
          | zero =>
              -- The head goes and nothing else does.
              rw [Nat.add_zero, List.filter_cons_of_neg (by simp [here]), List.eraseIdx_cons_zero]
              apply List.filter_eq_self.mpr
              intro other member
              have above := later other member
              simp only [ne_eq, decide_eq_true_eq]
              omega
          | succ gap =>
              have tail := ih (first + 1) gap n after
              have stays : layout.position row ≠ first + (gap + 1) := by omega
              rw [List.filter_cons_of_pos (by simpa using stays), List.eraseIdx_cons_succ, ← tail]
              congr 2
              funext other
              congr 2
              omega

theorem range_lowered (gap n : ℕ) (inside : gap < n) :
    ((List.range n).eraseIdx gap).map (fun q => if gap < q then q - 1 else q) =
      List.range (n - 1) := by
  apply List.ext_getElem
  · simp [List.length_eraseIdx, inside]
  · intro i _ _
    simp only [List.getElem_map, List.getElem_eraseIdx, List.getElem_range]
    split <;> split <;> omega

/-- The rows of one list without position `gap`, closed up. -/
def removeAt (gap : ℕ) (rows : List Row) : List Row :=
  (rows.filter fun row => layout.position row ≠ gap).map (layout.lower gap)

theorem ordered_removeAt (rows : List Row) (gap n : ℕ)
    (dense : (rows.map layout.position).Perm (List.range n)) (inside : gap < n) :
    layout.ordered (layout.removeAt gap rows) =
        ((layout.ordered rows).eraseIdx gap).map (layout.lower gap) ∧
      ((layout.removeAt gap rows).map layout.position).Perm (List.range (n - 1)) := by
  have positions := layout.ordered_positions rows n dense
  have erased : ((layout.ordered rows).filter fun row => layout.position row ≠ gap) =
      (layout.ordered rows).eraseIdx gap := by
    have found := layout.filter_eq_eraseIdx (layout.ordered rows) 0 gap n
      (by rw [positions, List.range_eq_range'])
    simpa using found
  have perm : (((layout.ordered rows).eraseIdx gap).map (layout.lower gap)).Perm
      (layout.removeAt gap rows) := by
    rw [← erased]
    exact ((layout.ordered_perm rows).filter _).map _
  have count : (((layout.ordered rows).eraseIdx gap).map (layout.lower gap)).map layout.position =
      List.range (n - 1) := by
    have moved : layout.position ∘ layout.lower gap =
        (fun q => if gap < q then q - 1 else q) ∘ layout.position := by
      funext row
      exact layout.lower_position gap row
    rw [List.map_map, moved, ← List.map_map, ← List.eraseIdx_map, positions,
      range_lowered gap n inside]
  constructor
  · apply layout.ordered_eq _ _ perm
    rw [count]
    exact List.pairwise_lt_range
  · rw [← count]
    exact (perm.map layout.position).symm

theorem ordered_append (rows : List Row) (row : Row) (n : ℕ)
    (dense : (rows.map layout.position).Perm (List.range n)) (last : layout.position row = n) :
    layout.ordered (rows ++ [row]) = layout.ordered rows ++ [row] ∧
      ((rows ++ [row]).map layout.position).Perm (List.range (n + 1)) := by
  have positions := layout.ordered_positions rows n dense
  constructor
  · apply layout.ordered_eq
    · exact (layout.ordered_perm rows).append_right [row]
    · rw [List.map_append, positions, List.map_singleton, last, ← List.range_succ]
      exact List.pairwise_lt_range
  · rw [List.map_append, List.map_singleton, last, List.range_succ]
    exact dense.append_right [n]

theorem ordered_map (rows : List Row) (change : Row → Row)
    (still : ∀ row, layout.position (change row) = layout.position row) :
    layout.ordered (rows.map change) = (layout.ordered rows).map change := by
  symm
  apply List.map_insertionSort
  intro left _ right _
  rw [still, still]

end Ordered

section Lookup

variable (rows : List Row)

def find (position : ℕ) (rows : List Row) : Option Row :=
  rows.find? (layout.position · = position)

theorem find_removeAt (gap i : ℕ) :
    layout.find i (layout.removeAt gap rows) =
      (layout.find (if i < gap then i else i + 1) rows).map (layout.lower gap) := by
  have moved : ∀ row, (layout.position row ≠ gap ∧ layout.position (layout.lower gap row) = i) ↔
      layout.position row = if i < gap then i else i + 1 := by
    intro row
    rw [layout.lower_position]
    split <;> split <;> omega
  unfold find removeAt
  rw [List.find?_map, List.find?_filter]
  congr 2
  funext row
  simp only [Function.comp_apply, decide_eq_true_eq]
  exact decide_eq_decide.mpr (moved row)

theorem find_write (position i : ℕ) (row : Row) (placed : layout.position row = position) :
    layout.find i ((rows.filter fun row => layout.position row ≠ position) ++ [row]) =
      if i = position then some row else layout.find i rows := by
  unfold find
  rw [List.find?_append, List.find?_filter]
  simp only [decide_eq_true_eq]
  by_cases here : i = position
  · subst here
    have none : rows.find? (fun row =>
        decide (layout.position row ≠ i ∧ layout.position row = i)) = none := by
      apply List.find?_eq_none.mpr
      intro row _
      simp
    rw [none, if_pos rfl]
    simp [placed]
  · have apart : ¬layout.position row = i := by
      intro same
      exact here (same.symm.trans placed)
    have others : (fun row =>
        decide (layout.position row ≠ position ∧ layout.position row = i)) =
        fun row => decide (layout.position row = i) := by
      funext row
      apply decide_eq_decide.mpr
      omega
    rw [others, if_neg here]
    simp [apart]

end Lookup

section Tables

variable [DecidableEq Key]

def group (name : Key) (rows : List Row) : List Row :=
  rows.filter fun row => layout.key row = name

def column (name : Key) (rows : List Row) : List Value :=
  (layout.ordered (layout.group name rows)).map layout.value

def Dense (name : Key) (rows : List Row) : Prop :=
  ((layout.group name rows).map layout.position).Perm
    (List.range (layout.group name rows).length)

/-- `DELETE … WHERE key = name AND position = gap`. -/
def deleteAt (name : Key) (gap : ℕ) (rows : List Row) : List Row :=
  rows.filter fun row => ¬(layout.key row = name ∧ layout.position row = gap)

/-- `UPDATE … WHERE key = name AND position = index`. -/
def updateAt (name : Key) (index : ℕ) (change : Row → Row) (rows : List Row) : List Row :=
  rows.map fun row =>
    if layout.key row = name ∧ layout.position row = index then change row else row

/-- `DELETE … WHERE key = name`. -/
def deleteGroup (name : Key) (rows : List Row) : List Row :=
  rows.filter fun row => layout.key row ≠ name

/-- `UPDATE … SET position = position - 1 WHERE key = name AND position > gap`. -/
def shiftAfter (name : Key) (gap : ℕ) (rows : List Row) : List Row :=
  rows.map fun row =>
    if layout.key row = name ∧ gap < layout.position row then
      layout.place (layout.position row - 1) row
    else row

variable (name other : Key) (rows : List Row)

theorem group_append (row : Row) :
    layout.group name (rows ++ [row]) =
      if layout.key row = name then layout.group name rows ++ [row]
      else layout.group name rows := by
  unfold group
  by_cases same : layout.key row = name <;> simp [List.filter_append, same]

theorem group_deleteAt_shift (gap : ℕ) :
    layout.group name (layout.shiftAfter name gap (layout.deleteAt name gap rows)) =
      layout.removeAt gap (layout.group name rows) := by
  induction rows with
  | nil => rfl
  | cons row rest ih =>
      simp only [group, shiftAfter, deleteAt, removeAt] at ih ⊢
      by_cases mine : layout.key row = name
      · by_cases hit : layout.position row = gap
        · simpa [mine, hit] using ih
        · by_cases after : gap < layout.position row <;>
            simpa [mine, hit, after, lower, layout.key_place] using ih
      · simpa [mine] using ih

theorem group_deleteAt_shift_other (gap : ℕ) (different : other ≠ name) :
    layout.group other (layout.shiftAfter name gap (layout.deleteAt name gap rows)) =
      layout.group other rows := by
  induction rows with
  | nil => rfl
  | cons row rest ih =>
      simp only [group, shiftAfter, deleteAt] at ih ⊢
      by_cases mine : layout.key row = name
      · have apart : name ≠ other := fun same => different same.symm
        by_cases hit : layout.position row = gap
        · simpa [mine, hit, apart] using ih
        · by_cases after : gap < layout.position row <;>
            simpa [mine, hit, after, layout.key_place, apart] using ih
      · by_cases theirs : layout.key row = other
        · simpa [mine, theirs, different] using ih
        · simpa [mine, theirs] using ih

theorem group_deleteAt (gap : ℕ) :
    layout.group name (layout.deleteAt name gap rows) =
      (layout.group name rows).filter fun row => layout.position row ≠ gap := by
  unfold group deleteAt
  rw [List.filter_filter, List.filter_filter]
  apply List.filter_congr
  intro row _
  by_cases mine : layout.key row = name <;> simp [mine]

theorem group_deleteAt_other (gap : ℕ) (different : other ≠ name) :
    layout.group other (layout.deleteAt name gap rows) = layout.group other rows := by
  unfold group deleteAt
  rw [List.filter_filter]
  apply List.filter_congr
  intro row _
  by_cases theirs : layout.key row = other <;> simp [theirs, different]

theorem column_length :
    (layout.column name rows).length = (layout.group name rows).length := by
  unfold column
  rw [List.length_map, (layout.ordered_perm _).length_eq]

theorem column_remove (gap : ℕ) (dense : layout.Dense name rows)
    (inside : gap < (layout.group name rows).length) :
    layout.column name (layout.shiftAfter name gap (layout.deleteAt name gap rows)) =
        (layout.column name rows).eraseIdx gap ∧
      layout.Dense name (layout.shiftAfter name gap (layout.deleteAt name gap rows)) := by
  obtain ⟨sorted, positions⟩ := layout.ordered_removeAt (layout.group name rows) gap _ dense inside
  constructor
  · unfold column
    rw [layout.group_deleteAt_shift, sorted, List.map_map, List.eraseIdx_map]
    congr 1
    funext row
    exact layout.lower_value gap row
  · unfold Dense
    rw [layout.group_deleteAt_shift]
    have length := positions.length_eq
    rw [List.length_map, List.length_range] at length
    rwa [length]

theorem column_append (row : Row) (dense : layout.Dense name rows) (mine : layout.key row = name)
    (last : layout.position row = (layout.group name rows).length) :
    layout.column name (rows ++ [row]) = layout.column name rows ++ [layout.value row] ∧
      layout.Dense name (rows ++ [row]) := by
  obtain ⟨sorted, positions⟩ := layout.ordered_append (layout.group name rows) row _ dense last
  unfold column Dense
  rw [layout.group_append, if_pos mine]
  constructor
  · rw [sorted, List.map_append, List.map_singleton]
  · rwa [List.length_append, List.length_singleton]

theorem group_updateAt (index : ℕ) (change : Row → Row)
    (keeps : ∀ row, layout.key (change row) = layout.key row) :
    layout.group name (layout.updateAt name index change rows) =
      (layout.group name rows).map
        fun row => if layout.position row = index then change row else row := by
  induction rows with
  | nil => rfl
  | cons row rest ih =>
      simp only [group, updateAt] at ih ⊢
      by_cases mine : layout.key row = name
      · by_cases hit : layout.position row = index <;> simpa [mine, hit, keeps] using ih
      · simpa [mine] using ih

theorem group_updateAt_other (index : ℕ) (change : Row → Row) (different : other ≠ name)
    (keeps : ∀ row, layout.key (change row) = layout.key row) :
    layout.group other (layout.updateAt name index change rows) = layout.group other rows := by
  induction rows with
  | nil => rfl
  | cons row rest ih =>
      simp only [group, updateAt] at ih ⊢
      by_cases mine : layout.key row = name
      · have apart : name ≠ other := fun same => different same.symm
        by_cases hit : layout.position row = index <;> simpa [mine, hit, keeps, apart] using ih
      · by_cases theirs : layout.key row = other
        · simpa [mine, theirs, different] using ih
        · simpa [mine, theirs] using ih

theorem column_updateAt (index : ℕ) (change : Row → Row) (amend : Value → Value)
    (dense : layout.Dense name rows)
    (keeps : ∀ row, layout.key (change row) = layout.key row)
    (still : ∀ row, layout.position (change row) = layout.position row)
    (amends : ∀ row, layout.value (change row) = amend (layout.value row)) :
    layout.column name (layout.updateAt name index change rows) =
        (layout.column name rows).modify index amend ∧
      layout.Dense name (layout.updateAt name index change rows) := by
  have grouped := layout.group_updateAt name rows index change keeps
  have stays : ∀ row, layout.position (if layout.position row = index then change row else row) =
      layout.position row := by
    intro row
    split
    · exact still row
    · rfl
  constructor
  · have positions := layout.ordered_positions (layout.group name rows) _ dense
    unfold column
    rw [grouped, layout.ordered_map _ _ stays]
    apply List.ext_getElem?
    intro i
    simp only [List.getElem?_map, List.getElem?_modify, Option.map_map]
    cases found : (layout.ordered (layout.group name rows))[i]? with
    | none => rfl
    | some row =>
        -- The row at index `i` of the sorted rows is the one at position `i`.
        have here : layout.position row = i := by
          have both := congrArg (·[i]?) positions
          simp only [List.getElem?_map, found, Option.map_some] at both
          obtain ⟨_, same⟩ := List.getElem?_eq_some_iff.mp both.symm
          rw [List.getElem_range] at same
          exact same.symm
        simp only [Option.map_some, Function.comp_apply, here]
        by_cases hit : index = i
        · simp [hit, amends]
        · have miss : ¬i = index := fun same => hit same.symm
          simp [hit, miss]
  · unfold Dense
    rw [grouped, List.map_map, List.length_map]
    have same : layout.position ∘ (fun row => if layout.position row = index then change row
        else row) = layout.position := funext stays
    rw [same]
    exact dense

@[simp] theorem group_deleteGroup : layout.group name (layout.deleteGroup name rows) = [] := by
  simp [group, deleteGroup, List.filter_filter]

theorem group_deleteGroup_other (different : other ≠ name) :
    layout.group other (layout.deleteGroup name rows) = layout.group other rows := by
  unfold group deleteGroup
  rw [List.filter_filter]
  apply List.filter_congr
  intro row _
  by_cases theirs : layout.key row = other <;> simp [theirs, different]

section Write

variable {Item : Type*} (items : List Item) (write : Item × ℕ → Row) (read : Item → Value)

theorem column_write (empty : layout.group name rows = [])
    (keyed : ∀ item, layout.key (write item) = name)
    (placed : ∀ item, layout.position (write item) = item.2)
    (holds : ∀ item, layout.value (write item) = read item.1) :
    layout.column name (rows ++ items.zipIdx.map write) = items.map read ∧
      ((layout.group name (rows ++ items.zipIdx.map write)).map layout.position) =
        List.range items.length := by
  have grouped : layout.group name (rows ++ items.zipIdx.map write) = items.zipIdx.map write := by
    unfold group at empty ⊢
    rw [List.filter_append, empty, List.nil_append, List.filter_eq_self]
    intro row member
    obtain ⟨item, _, rfl⟩ := List.mem_map.mp member
    simp [keyed]
  have positions : (items.zipIdx.map write).map layout.position = List.range items.length := by
    rw [List.map_map, show layout.position ∘ write = Prod.snd from funext placed,
      List.zipIdx_map_snd, List.range_eq_range']
  have increasing : ((items.zipIdx.map write).map layout.position).Pairwise (· < ·) := by
    rw [positions]
    exact List.pairwise_lt_range
  constructor
  · unfold column
    rw [grouped, layout.ordered_eq _ _ (List.Perm.refl _) increasing, List.map_map,
      show layout.value ∘ write = read ∘ Prod.fst from funext holds, ← List.map_map,
      List.zipIdx_map_fst]
  · rw [grouped, positions]

theorem group_write_other (different : other ≠ name)
    (keyed : ∀ item, layout.key (write item) = name) :
    layout.group other (rows ++ items.zipIdx.map write) = layout.group other rows := by
  have apart : name ≠ other := fun same => different same.symm
  have none : layout.group other (items.zipIdx.map write) = [] := by
    apply List.filter_eq_nil_iff.mpr
    intro row member
    obtain ⟨item, _, rfl⟩ := List.mem_map.mp member
    simp [keyed, apart]
  unfold group at none ⊢
  rw [List.filter_append, none, List.append_nil]

end Write

theorem dense_of_positions (n : ℕ)
    (positions : (layout.group name rows).map layout.position = List.range n) :
    layout.Dense name rows := by
  unfold Dense
  have length := congrArg List.length positions
  rw [List.length_map, List.length_range] at length
  rw [positions, length]

theorem mem_removed (gap : ℕ) (row : Row)
    (member : row ∈ layout.shiftAfter name gap (layout.deleteAt name gap rows)) :
    ∃ old ∈ rows, layout.value row = layout.value old := by
  obtain ⟨old, kept, rfl⟩ := List.mem_map.mp member
  refine ⟨old, (List.mem_filter.mp kept).1, ?_⟩
  split
  · exact layout.value_place _ _
  · rfl

theorem dense_congr (left right : List Row)
    (same : layout.group name left = layout.group name right) :
    layout.Dense name left ↔ layout.Dense name right := by
  unfold Dense
  rw [same]

end Tables

end Layout

end Positions
