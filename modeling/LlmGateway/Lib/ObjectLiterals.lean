import LlmGateway.Lib.JsDynamic

/-!
Object literals: their properties under names written as strings, some of them
left out, and what a property reads as.
-/

namespace Js.Literal

def text (value : String) : Value := .string (units value)

def integer (value : ℤ) : Value := .number (units (toString value))

def natural (value : ℕ) : Value := .number (units (toString value))

def object (fields : List (String × Value)) : Value :=
  .object (fields.map fun field => (units field.1, field.2))

def fieldsOf (entries : List (String × Option Value)) : List (Utf16 × Value) :=
  entries.filterMap fun entry => entry.2.map fun value => (units entry.1, value)

theorem lookup_put (key other : Utf16) (value : Value) (fields : List (Utf16 × Value)) :
    (put key value fields).lookup other = if other = key then some value else fields.lookup other := by
  split
  · rename_i same
    rw [same, lookup_put_self]
  · rename_i different
    exact lookup_put_ne key other value fields different

def Distinct (key : String) (names : List String) : Prop :=
  names.Nodup ∧ ∀ name ∈ names, units key = units name → key = name

instance (key : String) (names : List String) : Decidable (Distinct key names) :=
  inferInstanceAs (Decidable (_ ∧ _))

section Lookup

variable (entries : List (String × Option Value))

theorem lookup_fieldsOf (key : String) (names : List String)
    (named : entries.map Prod.fst = names) (distinct : Distinct key names) :
    (fieldsOf entries).lookup (units key) = (entries.lookup key).join := by
  subst named
  induction entries with
  | nil => rfl
  | cons entry rest ih =>
      obtain ⟨name, value⟩ := entry
      obtain ⟨single, known⟩ := distinct
      obtain ⟨fresh, others⟩ := List.nodup_cons.mp single
      have later := ih ⟨others, fun other member => known other (List.mem_cons_of_mem _ member)⟩
      by_cases same : key = name
      · subst same
        rw [List.lookup_cons_self]
        have absent : rest.lookup key = none := by
          refine List.lookup_eq_none_iff.mpr fun other member => ?_
          have away : key ≠ other.1 := fun named =>
            fresh (List.mem_map.mpr ⟨other, member, named.symm⟩)
          simpa using away
        cases value with
        | none =>
            rw [absent] at later
            exact later
        | some value => exact List.lookup_cons_self
      · have differs : units key ≠ units name := fun units =>
          same (known name List.mem_cons_self units)
        rw [List.lookup_cons, beq_eq_false_iff_ne.mpr same]
        cases value with
        | none => exact later
        | some value => exact (lookup_cons_ne _ _ _ _ differs).trans later

theorem member_fieldsOf (key : String) (names : List String)
    (named : entries.map Prod.fst = names) (distinct : Distinct key names) :
    (Value.object (fieldsOf entries)).member (units key) =
      (entries.lookup key).join.getD .undefined := by
  rw [Value.member, lookup_fieldsOf entries key names named distinct]

theorem lookup_fieldsOf_none (key : Utf16) (unknown : ∀ name ∈ entries.map Prod.fst, key ≠ units name) :
    (fieldsOf entries).lookup key = none := by
  refine List.lookup_eq_none_iff.mpr fun field member => ?_
  obtain ⟨entry, among, written⟩ := List.mem_filterMap.mp member
  obtain ⟨value, _, rfl⟩ := Option.map_eq_some_iff.mp written
  simpa using unknown entry.1 (List.mem_map_of_mem among)

theorem object_eq (fields : List (String × Value)) :
    object fields = .object (fieldsOf (fields.map fun field => (field.1, some field.2))) := by
  rw [object, fieldsOf, List.filterMap_map]
  exact congrArg Value.object (congrFun List.filterMap_eq_map fields).symm

theorem member_object (fields : List (String × Value)) (key : String) (names : List String)
    (named : fields.map Prod.fst = names) (distinct : Distinct key names) :
    (object fields).member (units key) =
      ((fields.map fun field => (field.1, some field.2)).lookup key).join.getD .undefined := by
  rw [object_eq]
  refine member_fieldsOf _ key names ?_ distinct
  rw [← named, List.map_map]
  rfl

end Lookup

end Js.Literal
