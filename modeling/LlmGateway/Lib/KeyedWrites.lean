import LlmGateway.Lib.Effects
import Mathlib.Data.Finmap

/-!
Writes under distinct keys, one after the other, any of which may fail. Where a
write settles what is read under its key and leaves the other keys alone, each
key reads in the end what its own item wrote. Objects are finite maps: their
keys have no order.
-/

namespace KeyedWrites

open Effects

variable {Key Value State Image Error View : Type}

def writeAll (write : State → Key → Value → Except Error State)
    (items : AList fun _ : Key => Value) (state : State) : Except Error State :=
  items.entries.foldlM (fun state item => write state item.1 item.2) state

/-- What is read under a key depends on the last write of this key alone. -/
structure Settles (write : State → Key → Value → Except Error State) (proper : Value → Prop)
    (read : State → Key → Image) (image : Key → Value → Image) : Prop where
  written : ∀ state key value next, proper value → write state key value = .ok next →
    read next key = image key value
  kept : ∀ state key value next other, write state key value = .ok next → other ≠ key →
    read next other = read state other

section Rules

variable (write : State → Key → Value → Except Error State)

theorem view_writeAll (view : State → View) (act : View → Key → View)
    (acts : ∀ state key value next, write state key value = .ok next →
      view next = act (view state) key)
    (items : AList fun _ : Key => Value) (state next : State)
    (written : writeAll write items state = .ok next) :
    view next = items.keys.foldl act (view state) := by
  unfold writeAll at written
  unfold AList.keys
  generalize items.entries = entries at written
  induction entries generalizing state with
  | nil =>
      cases written
      rfl
  | cons item rest ih =>
      rw [List.foldlM_cons] at written
      obtain ⟨middle, first, later⟩ := except_bind_ok.mp written
      rw [ih middle later, acts state item.1 item.2 middle first]
      rfl

theorem kept_writeAll (view : State → View)
    (kept : ∀ state key value next, write state key value = .ok next → view next = view state)
    (items : AList fun _ : Key => Value) (state next : State)
    (written : writeAll write items state = .ok next) : view next = view state := by
  rw [view_writeAll write view (fun seen _ => seen) kept items state next written]
  exact List.foldl_fixed _

variable [DecidableEq Key]

theorem foldlM_reads (proper : Value → Prop) (read : State → Key → Image)
    (image : Key → Value → Image) (settles : Settles write proper read image)
    (items : List (Sigma fun _ : Key => Value)) (distinct : items.NodupKeys)
    (shaped : ∀ item ∈ items, proper item.2) (state next : State)
    (written : items.foldlM (fun state item => write state item.1 item.2) state = .ok next)
    (key : Key) :
    read next key = ((items.dlookup key).map (image key)).getD (read state key) := by
  induction items generalizing state with
  | nil =>
      cases written
      rfl
  | cons item rest ih =>
      obtain ⟨fresh, distinct⟩ := List.nodupKeys_cons.mp distinct
      obtain ⟨proper, others⟩ := List.forall_mem_cons.mp shaped
      rw [List.foldlM_cons] at written
      obtain ⟨middle, first, later⟩ := except_bind_ok.mp written
      have tail := ih distinct others middle later
      by_cases same : key = item.1
      · subst same
        -- No later item has this key.
        rw [tail, List.dlookup_eq_none.mpr fresh, List.dlookup_cons_eq]
        exact settles.written state item.1 item.2 middle proper first
      · rw [tail, List.dlookup_cons_ne _ _ same,
          settles.kept state item.1 item.2 middle key first same]

theorem read_writeAll (proper : Value → Prop) (read : State → Key → Image)
    (image : Key → Value → Image) (settles : Settles write proper read image)
    (items : AList fun _ : Key => Value)
    (shaped : ∀ key value, items.lookup key = some value → proper value)
    (state next : State) (written : writeAll write items state = .ok next) (key : Key) :
    read next key = ((items.lookup key).map (image key)).getD (read state key) := by
  apply foldlM_reads write proper read image settles items.entries items.nodupKeys
  · intro item member
    exact shaped item.1 item.2 (List.mem_dlookup items.nodupKeys member)
  · exact written

/-- Where a write is judged by what no write touches, all succeed when each
would at the start. -/
theorem writeAll_ok_iff (view : State → View) (proper : Value → Prop)
    (passes : View → Key → Value → Prop)
    (kept : ∀ state key value next, write state key value = .ok next → view next = view state)
    (judged : ∀ state key value, proper value →
      ((∃ next, write state key value = .ok next) ↔ passes (view state) key value))
    (items : AList fun _ : Key => Value)
    (shaped : ∀ key value, items.lookup key = some value → proper value) (state : State) :
    (∃ next, writeAll write items state = .ok next) ↔
      ∀ key value, items.lookup key = some value → passes (view state) key value := by
  have each : ∀ property : Key → Value → Prop,
      (∀ key value, items.lookup key = some value → property key value) ↔
        ∀ item ∈ items.entries, property item.1 item.2 := by
    intro property
    constructor
    · intro all item member
      exact all item.1 item.2 (List.mem_dlookup items.nodupKeys member)
    · intro all key value present
      exact all ⟨key, value⟩ (List.of_mem_dlookup present)
  rw [each]
  rw [each fun _ value => proper value] at shaped
  unfold writeAll
  clear each
  generalize items.entries = entries at shaped ⊢
  induction entries generalizing state with
  | nil => exact ⟨fun _ _ member => absurd member List.not_mem_nil, fun _ => ⟨state, rfl⟩⟩
  | cons item rest ih =>
      obtain ⟨here, shaped⟩ := List.forall_mem_cons.mp shaped
      rw [List.forall_mem_cons, ← judged state item.1 item.2 here, List.foldlM_cons]
      constructor
      · rintro ⟨next, written⟩
        obtain ⟨middle, first, later⟩ := except_bind_ok.mp written
        have tail := (ih middle shaped).mp ⟨next, later⟩
        rw [kept state item.1 item.2 middle first] at tail
        exact ⟨⟨middle, first⟩, tail⟩
      · rintro ⟨⟨middle, first⟩, others⟩
        rw [← kept state item.1 item.2 middle first] at others
        obtain ⟨next, later⟩ := (ih middle shaped).mpr others
        exact ⟨next, except_bind_ok.mpr ⟨middle, first, later⟩⟩

end Rules

section Objects

variable [DecidableEq Key] (names : List Key) (value : Key → Option Value) (key : Key)

def tabulate (names : List Key) (value : Key → Option Value) : Finmap fun _ : Key => Value :=
  (names.filterMap fun name => (value name).map (Sigma.mk name)).toFinmap

theorem lookup_tabulate (covered : ∀ name, (value name).isSome = true → name ∈ names) :
    (tabulate names value).lookup key = value key := by
  have listed : (tabulate names value).lookup key = if key ∈ names then value key else none := by
    clear covered
    unfold tabulate
    rw [Finmap.dlookup_list_toFinmap]
    induction names with
    | nil => rfl
    | cons name rest ih =>
        cases held : value name with
        | none =>
            rw [List.filterMap_cons, held, Option.map_none]
            refine ih.trans ?_
            by_cases same : key = name
            · simp [same, held]
            · simp [same]
        | some found =>
            rw [List.filterMap_cons, held, Option.map_some]
            by_cases same : key = name
            · subst same
              rw [List.dlookup_cons_eq, if_pos List.mem_cons_self, held]
            · rw [List.dlookup_cons_ne _ _ same, ih]
              simp [same]
  by_cases member : key ∈ names
  · rw [listed, if_pos member]
  · rw [listed, if_neg member]
    cases held : value key with
    | none => rfl
    | some found => exact absurd (covered key (by rw [held]; rfl)) member

theorem lookup_union (left right : Finmap fun _ : Key => Value) :
    (left ∪ right).lookup key = (left.lookup key).or (right.lookup key) := by
  by_cases member : key ∈ left
  · obtain ⟨item, present⟩ := Finmap.mem_iff.mp member
    rw [Finmap.lookup_union_left member, present, Option.some_or]
  · rw [Finmap.lookup_union_right member, Finmap.lookup_eq_none.mpr member, Option.none_or]

end Objects

end KeyedWrites
