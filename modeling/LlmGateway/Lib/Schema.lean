import LlmGateway.Lib.JsValue

/-!
Schemas as readers of JSON values. A schema gives the typed value it reads or
rejects its input; the schema of an object reads the fields one by one.
-/

abbrev Schema (Value : Type*) := Js.Json → Option Value

namespace Schema

variable {Value Other : Type*}

def string : Schema String
  | .string value => some value
  | _ => none

def boolean : Schema Bool
  | .boolean value => some value
  | _ => none

/-- The number that its printed form denotes. -/
def denoted (printed : String) : ℚ :=
  let unsigned := printed.toList.dropWhile (· = '-')
  let whole := unsigned.takeWhile Char.isDigit
  let rest := unsigned.dropWhile Char.isDigit
  let fraction := ((rest.takeWhile (· ≠ 'e')).drop 1)
  let power := (rest.dropWhile (· ≠ 'e')).drop 1
  let size : ℤ := Nat.ofDigitChars 10 (power.filter Char.isDigit) 0
  let exponent := if power.head? = some '-' then -size else size
  let magnitude : ℚ :=
    Nat.ofDigitChars 10 (whole ++ fraction) 0 * 10 ^ (exponent - fraction.length)
  if printed.toList.head? = some '-' then -magnitude else magnitude

example : denoted "-2.5e+3" = -2500 := by decide +kernel

def number : Schema ℚ
  | .number printed => some (denoted printed)
  | _ => none

def literal (expected : String) : Schema Unit
  | .string value => if value = expected then some () else none
  | _ => none

def array (item : Schema Value) : Schema (List Value)
  | .array items => items.mapM item
  | _ => none

def object : Schema (List (String × Js.Json))
  | .object fields => some fields
  | _ => none

/-- An object with any values; only the keys that `copied` accepts are taken over. -/
def record (copied : String → Bool) : Schema (List (String × Js.Json))
  | .object fields => some (fields.filter fun field => copied field.1)
  | _ => none

def nullable (schema : Schema Value) : Schema (Option Value)
  | .null => some none
  | value => (schema value).map some

def union (first second : Schema Value) : Schema Value := fun value =>
  (first value).or (second value)

def refine (schema : Schema Value) (check : Value → Bool) : Schema Value := fun value =>
  (schema value).filter check

def lookup (fields : List (String × Js.Json)) (key : String) : Option Js.Json :=
  (fields.find? fun field => field.1 = key).map Prod.snd

def required (schema : Schema Value) (fields : List (String × Js.Json)) (key : String) :
    Option Value :=
  (lookup fields key).bind schema

def optional (schema : Schema Value) (fields : List (String × Js.Json)) (key : String) :
    Option (Option Value) :=
  (lookup fields key).elim (some none) fun value => (schema value).map some

section Fields

variable (fields : List (String × Js.Json)) (key other : String) (value : Js.Json)

@[simp] theorem lookup_same : lookup ((key, value) :: fields) key = some value := by
  simp [lookup]

theorem lookup_other (different : other ≠ key) :
    lookup ((other, value) :: fields) key = lookup fields key := by
  simp [lookup, different]

theorem required_other (schema : Schema Value) (different : other ≠ key) :
    required schema ((other, value) :: fields) key = required schema fields key := by
  rw [required, lookup_other fields key other value different, required]

theorem optional_other (schema : Schema Value) (different : other ≠ key) :
    optional schema ((other, value) :: fields) key = optional schema fields key := by
  rw [optional, lookup_other fields key other value different, optional]

end Fields

theorem array_written (item : Schema Value) (write : Other → Js.Json) (read : Other → Value)
    (others : List Other) (reads : ∀ other ∈ others, item (write other) = some (read other)) :
    array item (.array (others.map write)) = some (others.map read) := by
  change (others.map write).mapM item = _
  induction others with
  | nil => rfl
  | cons other rest ih =>
      have tail := ih fun item member => reads item (List.mem_cons_of_mem _ member)
      rw [List.map_cons, List.mapM_cons, reads other List.mem_cons_self, tail]
      rfl

theorem mapM_accepts (item : Schema Value) (items : List Js.Json) (values : List Value)
    (accepted : items.mapM item = some values) :
    ∀ value ∈ items, ∃ result, item value = some result := by
  induction items generalizing values with
  | nil =>
      intro value member
      cases member
  | cons first rest ih =>
      rw [List.mapM_cons] at accepted
      obtain ⟨head, here, tail⟩ := Option.bind_eq_some_iff.mp accepted
      obtain ⟨others, later, _⟩ := Option.bind_eq_some_iff.mp tail
      intro value member
      rcases List.mem_cons.mp member with rfl | behind
      · exact ⟨head, here⟩
      · exact ih others later value behind

section Results

variable (schema : Schema Value) (good : Value → Prop)
  (reads : ∀ value result, schema value = some result → good result)

include reads in
theorem optional_holds (fields : List (String × Js.Json)) (key : String) (found : Option Value)
    (read : optional schema fields key = some found) (result : Value)
    (present : found = some result) : good result := by
  subst present
  unfold optional at read
  cases held : lookup fields key with
  | none =>
      rw [held] at read
      cases read
  | some value =>
      rw [held] at read
      obtain ⟨_, accepted, same⟩ := Option.map_eq_some_iff.mp read
      cases same
      exact reads value result accepted

include reads in
theorem array_holds (value : Js.Json) (found : List Value) (read : array schema value = some found) :
    ∀ result ∈ found, good result := by
  cases value with
  | array own =>
      change own.mapM schema = some found at read
      induction own generalizing found with
      | nil =>
          cases read
          exact fun _ member => absurd member List.not_mem_nil
      | cons first rest ih =>
          rw [List.mapM_cons] at read
          obtain ⟨head, here, tail⟩ := Option.bind_eq_some_iff.mp read
          obtain ⟨later, behind, built⟩ := Option.bind_eq_some_iff.mp tail
          cases built
          exact List.forall_mem_cons.mpr ⟨reads first head here, ih later behind⟩
  | null => cases read
  | boolean _ => cases read
  | number _ => cases read
  | string _ => cases read
  | object _ => cases read

end Results

end Schema
