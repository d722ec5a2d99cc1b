import Mathlib.Algebra.Order.BigOperators.Group.List
import LlmGateway.Lib.JsValue

/-!
JavaScript values as JSON and object literals build them: texts of UTF-16 code
units, lone surrogates included, and objects as their own properties in order.
With them `String`, property reads and writes, and `JSON.stringify` with the
length of what it prints.
-/

namespace Js

abbrev Utf16 := List UInt16

def units (text : String) : Utf16 := (codeUnits text).map UInt16.ofNat

theorem units_append (first second : String) :
    units (first ++ second) = units first ++ units second := by
  simp [units, codeUnits]

/-- `texts.join(separator)`. -/
def join (separator : Utf16) (texts : List Utf16) : Utf16 := separator.intercalate texts

/-- A value; a number is kept as the text that prints it. -/
inductive Value where
  | undefined
  | null
  | boolean (value : Bool)
  | number (printed : Utf16)
  | string (text : Utf16)
  | array (items : List Value)
  | object (fields : List (Utf16 × Value))

section Properties

variable {α : Type}

/-- `object[key] = value`: in place when the property is there, else at the end. -/
def put (key : Utf16) (value : α) : List (Utf16 × α) → List (Utf16 × α)
  | [] => [(key, value)]
  | (name, old) :: rest =>
      if name = key then (name, value) :: rest else (name, old) :: put key value rest

/-- `delete object[key]`. -/
def erase (key : Utf16) (fields : List (Utf16 × α)) : List (Utf16 × α) :=
  fields.filter fun field => field.1 ≠ key

theorem lookup_cons_ne (key name : Utf16) (value : α) (rest : List (Utf16 × α))
    (different : key ≠ name) : ((name, value) :: rest).lookup key = rest.lookup key := by
  rw [List.lookup_cons, beq_eq_false_iff_ne.mpr different]

@[simp] theorem lookup_put_self (key : Utf16) (value : α) (fields : List (Utf16 × α)) :
    (put key value fields).lookup key = some value := by
  induction fields with
  | nil => simp [put]
  | cons field rest ih =>
      obtain ⟨name, old⟩ := field
      by_cases same : name = key
      · simp [put, same]
      · rw [put, if_neg same, lookup_cons_ne _ _ _ _ (Ne.symm same), ih]

theorem lookup_put_ne (key other : Utf16) (value : α) (fields : List (Utf16 × α))
    (different : other ≠ key) : (put key value fields).lookup other = fields.lookup other := by
  induction fields with
  | nil => simp [put, different]
  | cons field rest ih =>
      obtain ⟨name, old⟩ := field
      by_cases same : name = key
      · have differs : other ≠ name := by rw [same]; exact different
        rw [put, if_pos same, lookup_cons_ne _ _ _ _ differs, lookup_cons_ne _ _ _ _ differs]
      · rw [put, if_neg same, List.lookup_cons, List.lookup_cons, ih]

theorem put_of_lookup (key : Utf16) (value : α) (fields : List (Utf16 × α))
    (present : fields.lookup key = some value) : put key value fields = fields := by
  induction fields with
  | nil => simp at present
  | cons field rest ih =>
      obtain ⟨name, old⟩ := field
      by_cases same : name = key
      · rw [same, List.lookup_cons_self] at present
        cases present
        simp [put, same]
      · rw [lookup_cons_ne _ _ _ _ (Ne.symm same)] at present
        rw [put, if_neg same, ih present]

theorem mem_put (key : Utf16) (value : α) (fields : List (Utf16 × α)) (field : Utf16 × α)
    (member : field ∈ put key value fields) : field = (key, value) ∨ field ∈ fields := by
  induction fields with
  | nil => exact Or.inl (by simpa [put] using member)
  | cons first rest ih =>
      obtain ⟨name, old⟩ := first
      by_cases same : name = key
      · simp only [put, same, ↓reduceIte, List.mem_cons] at member
        rcases member with written | later
        · exact Or.inl written
        · exact Or.inr (List.mem_cons_of_mem _ later)
      · simp only [put, same, ↓reduceIte, List.mem_cons] at member
        rcases member with kept | later
        · exact Or.inr (by simp [kept])
        · rcases ih later with written | there
          · exact Or.inl written
          · exact Or.inr (List.mem_cons_of_mem _ there)

theorem mem_put_of_ne (key : Utf16) (value : α) (fields : List (Utf16 × α)) (field : Utf16 × α)
    (member : field ∈ fields) (other : field.1 ≠ key) : field ∈ put key value fields := by
  induction fields with
  | nil => cases member
  | cons first rest ih =>
      obtain ⟨name, old⟩ := first
      by_cases same : name = key
      · rw [put, if_pos same]
        rcases List.mem_cons.mp member with rfl | later
        · exact absurd same other
        · exact List.mem_cons_of_mem _ later
      · rw [put, if_neg same]
        rcases List.mem_cons.mp member with rfl | later
        · exact List.mem_cons_self
        · exact List.mem_cons_of_mem _ (ih later)

theorem mem_of_lookup (key : Utf16) (value : α) (fields : List (Utf16 × α))
    (present : fields.lookup key = some value) : (key, value) ∈ fields := by
  induction fields with
  | nil => simp at present
  | cons field rest ih =>
      obtain ⟨name, old⟩ := field
      by_cases same : key = name
      · subst same
        rw [List.lookup_cons_self] at present
        cases present
        exact List.mem_cons_self
      · rw [lookup_cons_ne _ _ _ _ same] at present
        exact List.mem_cons_of_mem _ (ih present)

end Properties

namespace Value

/-- `value?.key`, for a key that arrays and texts do not have. -/
def member (key : Utf16) : Value → Value
  | .object fields => (fields.lookup key).getD .undefined
  | _ => .undefined

/-- `Object.keys` of an object or array, with the values. -/
def ownFields : Value → List (Utf16 × Value)
  | .object fields => fields
  | .array items => items.zipIdx.map fun entry => (units (toString entry.2), entry.1)
  | _ => []

def nullish : Value → Bool
  | .undefined | .null => true
  | _ => false

def defined : Value → Bool
  | .undefined => false
  | _ => true

/-- The value converts to `true`. -/
def truthy : Value → Bool
  | .undefined | .null | .boolean false => false
  | .number printed => printed ≠ units "0" && printed ≠ units "NaN"
  | .string text => text ≠ []
  | _ => true

def cannotConvert : Thrown := .error "TypeError" "Cannot convert object to primitive value"

mutual

/-- `String(value)`. A `toString` of the object's own is no function, and the
inherited `valueOf` gives no primitive. -/
def toText : Value → Except Thrown Utf16
  | .undefined => .ok (units "undefined")
  | .null => .ok (units "null")
  | .boolean value => .ok (units (if value then "true" else "false"))
  | .number printed => .ok printed
  | .string text => .ok text
  | .array items => do
      let texts ← elementTexts items
      return join (units ",") texts
  | .object fields =>
      if (fields.lookup (units "toString")).isSome then .error cannotConvert
      else .ok (units "[object Object]")

def elementTexts : List Value → Except Thrown (List Utf16)
  | [] => .ok []
  | item :: rest => do
      let text ← if item.nullish then .ok [] else item.toText
      let others ← elementTexts rest
      return text :: others

end

end Value

section Printing

def highSurrogate (unit : UInt16) : Bool := 0xD800 ≤ unit && unit ≤ 0xDBFF

def lowSurrogate (unit : UInt16) : Bool := 0xDC00 ≤ unit && unit ≤ 0xDFFF

def hexUnit (digit : ℕ) : UInt16 := UInt16.ofNat (hexDigit digit).toNat

def escapeUnit (unit : UInt16) : Utf16 :=
  if unit = 0x22 then units "\\\""
  else if unit = 0x5C then units "\\\\"
  else if unit = 0x08 then units "\\b"
  else if unit = 0x0C then units "\\f"
  else if unit = 0x0A then units "\\n"
  else if unit = 0x0D then units "\\r"
  else if unit = 0x09 then units "\\t"
  else if unit < 0x20 || highSurrogate unit || lowSurrogate unit then
    units "\\u" ++ [hexUnit (unit.toNat / 0x1000), hexUnit (unit.toNat / 0x100 % 0x10),
      hexUnit (unit.toNat / 0x10 % 0x10), hexUnit (unit.toNat % 0x10)]
  else [unit]

def escapeUnits : Utf16 → Utf16
  | [] => []
  | [unit] => escapeUnit unit
  | high :: low :: rest =>
      if highSurrogate high && lowSurrogate low then high :: low :: escapeUnits rest
      else escapeUnit high ++ escapeUnits (low :: rest)

theorem escapeUnit_length_pos (unit : UInt16) : 0 < (escapeUnit unit).length := by
  unfold escapeUnit
  split_ifs <;> simp [units, codeUnits]

theorem length_le_escapeUnits (text : Utf16) : text.length ≤ (escapeUnits text).length := by
  fun_induction escapeUnits text with
  | case1 => exact Nat.le_refl 0
  | case2 unit => exact escapeUnit_length_pos unit
  | case3 high low rest pair ih => exact Nat.succ_le_succ (Nat.succ_le_succ ih)
  | case4 high low rest alone ih =>
      have first := escapeUnit_length_pos high
      rw [List.length_append, List.length_cons]
      omega

def quoteUnits (text : Utf16) : Utf16 := units "\"" ++ escapeUnits text ++ units "\""

/-- Numbers that are not finite are printed as `null`. -/
def numberJson (printed : Utf16) : Utf16 :=
  if printed ∈ [units "NaN", units "Infinity", units "-Infinity"] then units "null" else printed

def braces (texts : List Utf16) : Utf16 := units "\x7b" ++ join (units ",") texts ++ units "\x7d"

mutual

/-- `JSON.stringify(value)`; there is no text for `undefined`. -/
def Value.json : Value → Option Utf16
  | .undefined => none
  | .null => some (units "null")
  | .boolean value => some (units (if value then "true" else "false"))
  | .number printed => some (numberJson printed)
  | .string text => some (quoteUnits text)
  | .array items => some (units "[" ++ join (units ",") (itemsJson items) ++ units "]")
  | .object fields => some (braces (fieldsJson fields))

def itemsJson : List Value → List Utf16
  | [] => []
  | item :: rest => item.json.getD (units "null") :: itemsJson rest

/-- Properties that are `undefined` are left out. -/
def fieldsJson : List (Utf16 × Value) → List Utf16
  | [] => []
  | (key, value) :: rest =>
      ((value.json.map fun text => quoteUnits key ++ units ":" ++ text).toList ++ fieldsJson rest)

end

/-- `JSON.stringify` of an object with these properties. -/
def objectJson (fields : List (Utf16 × Value)) : Utf16 := braces (fieldsJson fields)

def fieldJson (field : Utf16 × Value) : Option Utf16 :=
  field.2.json.map fun text => quoteUnits field.1 ++ units ":" ++ text

theorem fieldsJson_eq (fields : List (Utf16 × Value)) :
    fieldsJson fields = fields.filterMap fieldJson := by
  induction fields with
  | nil => simp [fieldsJson]
  | cons field rest ih =>
      obtain ⟨key, value⟩ := field
      rw [fieldsJson, ih, List.filterMap_cons, fieldJson]
      cases value.json <;> rfl

def room (texts : List Utf16) : ℕ := (texts.map fun text => text.length + 1).sum

theorem join_length (separator : UInt16) (first : Utf16) (rest : List Utf16) :
    (join [separator] (first :: rest)).length + 1 = room (first :: rest) := by
  induction rest generalizing first with
  | nil => simp [join, room, List.intercalate]
  | cons second others ih =>
      have shorter := ih second
      simp only [join, room, List.intercalate, List.intersperse_cons_cons, List.flatten_cons,
        List.length_append, List.length_singleton, List.map_cons, List.sum_cons] at shorter ⊢
      omega

theorem braces_length (texts : List Utf16) :
    (braces texts).length = if texts = [] then 2 else 1 + room texts := by
  cases texts with
  | nil => decide +kernel
  | cons first rest =>
      have inside := join_length 44 first rest
      have comma : units "," = [44] := by decide +kernel
      have opening : (units "\x7b").length = 1 := by decide +kernel
      have closing : (units "\x7d").length = 1 := by decide +kernel
      rw [if_neg (List.cons_ne_nil _ _), braces, comma, List.length_append, List.length_append,
        opening, closing]
      omega

theorem room_le_of_subperm (fewer more : List Utf16) (within : fewer.Subperm more) :
    room fewer ≤ room more := by
  obtain ⟨middle, same, sub⟩ := within
  unfold room
  rw [← (same.map _).sum_eq]
  exact (sub.map _).sum_le_sum (fun _ _ => Nat.zero_le _)

theorem objectJson_length_le (fewer more : List (Utf16 × Value)) (within : fewer.Subperm more)
    (printed : fieldsJson fewer ≠ []) :
    (objectJson fewer).length ≤ (objectJson more).length := by
  have texts : (fieldsJson fewer).Subperm (fieldsJson more) := by
    rw [fieldsJson_eq, fieldsJson_eq]
    obtain ⟨middle, same, sub⟩ := within
    exact ⟨middle.filterMap fieldJson, same.filterMap _, sub.filterMap _⟩
  have others : fieldsJson more ≠ [] := by
    intro empty
    rw [empty, List.subperm_nil] at texts
    exact printed texts
  unfold objectJson
  rw [braces_length, braces_length, if_neg printed, if_neg others]
  exact Nat.add_le_add_left (room_le_of_subperm _ _ texts) 1

end Printing

end Js
