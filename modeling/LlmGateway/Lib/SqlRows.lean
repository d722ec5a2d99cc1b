import LlmGateway.Lib.SqlText

/-!
What an `INSERT` or an `UPDATE` does to the rows of one table. A column has a
default and a check, and one column is the key. Values stay as they are written:
nothing is converted for the sake of a column, so a value that its column does
not take is refused.
-/

namespace Sql

open Js

inductive Cell where
  | null
  | integer (value : ℤ)
  | text (value : Utf16)
  deriving DecidableEq, Repr

structure Column where
  name : Utf16
  default : Cell
  check : Cell → Bool

structure Schema where
  table : Utf16
  key : Utf16
  columns : List Column

abbrev Row := List (Utf16 × Cell)

/-- A whole number of at most eighteen digits is an integer in any case. -/
def integerOf (printed : Utf16) : Option ℤ :=
  if printed ≠ [] ∧ printed.all decimalDigit = true ∧ printed.length ≤ 18 then
    some (digitsValue printed : ℤ)
  else none

/-- The value of an operand. No column can be named where a value is expected. -/
def Operand.cell : Operand → Option Cell
  | .text value => some (.text value)
  | .number negative printed =>
      (integerOf printed).map fun value => .integer (if negative then -value else value)
  | .name _ _ => none
  | .null => some .null

def cellsOf (given : List (Utf16 × Operand)) : Option Row :=
  given.mapM fun field => field.2.cell.map fun cell => (field.1, cell)

def assign (given : Row) (row : Row) : Row :=
  row.map fun field => (field.1, (given.lookup field.1).getD field.2)

namespace Schema

variable (schema : Schema)

def names : List Utf16 := schema.columns.map Column.name

def blank : Row := schema.columns.map fun column => (column.name, column.default)

def admits (row : Row) : Bool :=
  schema.columns.all fun column => ((row.lookup column.name).map column.check).getD false

local instance : LawfulBEq Utf16 := inferInstance

def keyFree (rows : List Row) (row : Row) : Bool :=
  row.lookup schema.key = some .null ∨ ∀ other ∈ rows, other.lookup schema.key ≠ row.lookup schema.key

/-- The rows after the statement, or nothing where it is refused. An update of
the key itself is not covered. -/
def execute (rows : List Row) : Statement → Option (List Row)
  | .insert table given =>
      if table = schema.table ∧ ∀ field ∈ given, field.1 ∈ schema.names then
        (cellsOf given).bind fun given =>
          let row := assign given schema.blank
          if schema.admits row = true ∧ schema.keyFree rows row = true then some (rows ++ [row])
          else none
      else none
  | .update table given (column, value) =>
      if table = schema.table ∧ (∀ field ∈ given, field.1 ∈ schema.names ∧ field.1 ≠ schema.key) ∧
          column ∈ schema.names then
        (cellsOf given).bind fun given => value.cell.bind fun value =>
          let changed := rows.map fun row =>
            if value ≠ .null ∧ row.lookup column = some value then assign given row else row
          if changed.all schema.admits then some changed else none
      else none

end Schema

section Encoding

variable {Item : Type*} (schema : Schema) (encode : Item → Row) (items : List Item)

theorem execute_insert (item : Item) (given : List (Utf16 × Operand)) (cells : Row)
    (known : ∀ field ∈ given, field.1 ∈ schema.names) (read : cellsOf given = some cells)
    (encoded : assign cells schema.blank = encode item)
    (admitted : schema.admits (encode item) = true)
    (free : schema.keyFree (items.map encode) (encode item) = true) :
    schema.execute (items.map encode) (.insert schema.table given) =
      some ((items ++ [item]).map encode) := by
  rw [Schema.execute, if_pos ⟨rfl, known⟩, read, Option.bind_some]
  dsimp only
  rw [encoded, if_pos ⟨admitted, free⟩, List.map_append]
  rfl

theorem execute_insert_refused (given : List (Utf16 × Operand)) (cells : Row) (rows : List Row)
    (read : cellsOf given = some cells)
    (refused : schema.admits (assign cells schema.blank) = false ∨
      schema.keyFree rows (assign cells schema.blank) = false) :
    schema.execute rows (.insert schema.table given) = none := by
  rw [Schema.execute]
  split
  · rw [read, Option.bind_some]
    dsimp only
    refine if_neg fun both => ?_
    rcases refused with no | no
    · rw [no] at both
      exact Bool.false_ne_true both.1
    · rw [no] at both
      exact Bool.false_ne_true both.2
  · rfl

theorem execute_update (selected : Item → Prop) [DecidablePred selected] (change : Item → Item)
    (given : List (Utf16 × Operand)) (cells : Row) (column : Utf16) (operand : Operand)
    (value : Cell) (known : ∀ field ∈ given, field.1 ∈ schema.names ∧ field.1 ≠ schema.key)
    (among : column ∈ schema.names) (read : cellsOf given = some cells)
    (valued : operand.cell = some value) (present : value ≠ .null)
    (selects : ∀ item ∈ items, (encode item).lookup column = some value ↔ selected item)
    (changes : ∀ item ∈ items, selected item →
      assign cells (encode item) = encode (change item))
    (admitted : ∀ item, schema.admits (encode item) = true) :
    schema.execute (items.map encode) (.update schema.table given (column, operand)) =
      some ((items.map fun item => if selected item then change item else item).map encode) := by
  have same : ((items.map encode).map fun row =>
      if value ≠ .null ∧ row.lookup column = some value then assign cells row else row) =
      (items.map fun item => if selected item then change item else item).map encode := by
    rw [List.map_map, List.map_map]
    apply List.map_congr_left
    intro item member
    simp only [Function.comp_apply]
    by_cases chosen : selected item
    · rw [if_pos ⟨present, (selects item member).mpr chosen⟩, if_pos chosen,
        changes item member chosen]
    · rw [if_neg fun both => chosen ((selects item member).mp both.2), if_neg chosen]
  rw [Schema.execute, if_pos ⟨rfl, known, among⟩, read, Option.bind_some, valued,
    Option.bind_some]
  dsimp only
  rw [same, if_pos]
  simp [admitted]

end Encoding

section Named

variable {Name : Type*} (text : Name → Utf16) (value other : Name → Cell) (names : List Name)

def rowOf : Row := names.map fun name => (text name, value name)

def Schema.of (table : Utf16) (key : Name) (default : Name → Cell) (check : Name → Cell → Bool) :
    Schema where
  table := table
  key := text key
  columns := names.map fun name => ⟨text name, default name, check name⟩

theorem lookup_rowOf (injective : Function.Injective text) (name : Name) (listed : name ∈ names) :
    (rowOf text value names).lookup (text name) = some (value name) := by
  unfold rowOf
  induction names with
  | nil => cases listed
  | cons first rest ih =>
      rw [List.map_cons, List.lookup_cons]
      by_cases same : text name = text first
      · rw [beq_iff_eq.mpr same, injective same]
      · rw [beq_eq_false_iff_ne.mpr same]
        rcases List.mem_cons.mp listed with rfl | later
        · exact absurd rfl same
        · exact ih later

theorem lookup_rowOf_none (injective : Function.Injective text) (name : Name)
    (absent : name ∉ names) : (rowOf text value names).lookup (text name) = none := by
  refine List.lookup_eq_none_iff.mpr fun field member => ?_
  obtain ⟨listed, among, rfl⟩ := List.mem_map.mp member
  refine bne_iff_ne.mpr fun same => ?_
  rw [injective same] at absent
  exact absent among

theorem assign_rowOf (given : Row)
    (assigned : ∀ name ∈ names, (given.lookup (text name)).getD (value name) = other name) :
    assign given (rowOf text value names) = rowOf text other names := by
  unfold assign rowOf
  rw [List.map_map]
  refine List.map_congr_left fun name listed => ?_
  rw [Function.comp_apply, assigned name listed]

variable (table : Utf16) (key : Name) (default : Name → Cell) (check : Name → Cell → Bool)

theorem blank_of : (Schema.of text names table key default check).blank =
    rowOf text default names := by
  unfold Schema.blank Schema.of rowOf
  rw [List.map_map]
  rfl

theorem mem_names_of (name : Name) (listed : name ∈ names) :
    text name ∈ (Schema.of text names table key default check).names := by
  unfold Schema.names Schema.of
  rw [List.map_map]
  exact List.mem_map_of_mem listed

theorem admits_rowOf (injective : Function.Injective text) :
    (Schema.of text names table key default check).admits (rowOf text value names) =
      names.all fun name => check name (value name) := by
  unfold Schema.admits Schema.of
  rw [Bool.eq_iff_iff, List.all_map, List.all_eq_true, List.all_eq_true]
  refine forall₂_congr fun name listed => ?_
  rw [Function.comp_apply, lookup_rowOf text value names injective name listed]
  rfl

end Named

section Integers

theorem integerOf_decimal (number : ℕ) (short : number < 10 ^ 18) :
    integerOf (digits (decimal number)) = some (number : ℤ) := by
  have plain : (digits (decimal number)).all decimalDigit = true := by
    refine List.all_eq_true.mpr fun unit member => ?_
    obtain ⟨value, _, rfl⟩ := List.mem_map.mp member
    exact (digit_plain value).2.1
  have written : digits (decimal number) ≠ [] := by
    simpa [digits] using decimal_ne_nil number
  have size : (digits (decimal number)).length ≤ 18 := by
    rw [digits, List.length_map]
    exact length_decimal number 18 (by decide) short
  rw [integerOf, if_pos ⟨written, plain, size⟩, digitsValue_digits, ofDigits_decimal]

end Integers

end Sql
