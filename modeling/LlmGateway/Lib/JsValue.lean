import Mathlib.Data.List.Sort
import Mathlib.Data.Rat.Floor

/-!
The JavaScript values the model needs: numbers as exact rationals beside the
three non-finite ones (the rounding of the double format is outside the
model), thrown values, and JSON texts with the length of their UTF-16 form.
-/

namespace Js

inductive Number where
  | nan
  | infinite (negative : Bool)
  | finite (value : ℚ)
  deriving DecidableEq, Repr

/-- `Math.trunc` of a finite number. -/
def trunc (value : ℚ) : ℤ := if 0 ≤ value then ⌊value⌋ else ⌈value⌉

@[simp] theorem trunc_natCast (n : ℕ) : trunc (n : ℚ) = n := by
  simp [trunc]

/-- A thrown value: an `Error`, a string, or another object as `String` prints it. -/
inductive Thrown where
  | error (name message : String)
  | text (value : String)
  | other (printed : String)
  deriving DecidableEq, Repr

/-- ``err instanceof Error ? `${err.name}: ${err.message}` : String(err)``. -/
def Thrown.describe : Thrown → String
  | .error name message => name ++ ": " ++ message
  | .text value => value
  | .other printed => printed

/-- The value converts to `true`. -/
def Thrown.truthy : Thrown → Bool
  | .text value => value ≠ ""
  | _ => true

/-- `text.length`, which counts UTF-16 code units. -/
def utf16Length (text : String) : ℕ :=
  (text.toList.map fun char => if char.toNat < 0x10000 then 1 else 2).sum

def codeUnits (text : String) : List ℕ :=
  text.toList.flatMap fun char =>
    if char.toNat < 0x10000 then [char.toNat]
    else [0xD800 + (char.toNat - 0x10000) / 0x400, 0xDC00 + (char.toNat - 0x10000) % 0x400]

/-- `left < right` on strings. -/
def before (left right : String) : Bool := (codeUnits left).lex (codeUnits right)

theorem not_before (left right : String) (first : before left right = true) :
    ¬ before right left = true := by
  unfold before at first ⊢
  rw [List.lex_eq_true_iff_lex] at first ⊢
  refine List.lex_asymm ?_ first
  intro left right smaller larger
  exact absurd (of_decide_eq_true larger) (Nat.lt_asymm (of_decide_eq_true smaller))

def endsWith (text ending : String) : Bool := ending.toList.isSuffixOf text.toList

/-- A property name that counts as an index, and so comes first among the keys. -/
def arrayIndex (name : String) : Option ℕ :=
  name.toNat?.filter fun index => toString index = name ∧ index < 4294967295

/-- `Object.keys` of an object to which these names were assigned in turn. -/
def objectKeys (assigned : List String) : List String :=
  -- Assigning `__proto__` makes no property.
  let own := assigned.filter (· ≠ "__proto__")
  (own.filter fun name => (arrayIndex name).isSome).insertionSort
      (fun left right => (arrayIndex left).getD 0 ≤ (arrayIndex right).getD 0) ++
    own.filter fun name => (arrayIndex name).isNone

theorem mem_objectKeys (assigned : List String) (name : String) :
    name ∈ objectKeys assigned ↔ name ≠ "__proto__" ∧ name ∈ assigned := by
  simp only [objectKeys, List.mem_append, List.mem_insertionSort, List.mem_filter,
    decide_eq_true_eq]
  cases arrayIndex name with
  | none => simp [and_comm]
  | some index => simp [and_comm]

/-- A JSON value; a number is kept as the text that prints it. -/
inductive Json where
  | null
  | boolean (value : Bool)
  | number (printed : String)
  | string (value : String)
  | array (items : List Json)
  | object (fields : List (String × Json))

def hexDigit (digit : ℕ) : Char := Nat.digitChar digit

/-- One character of a JSON string literal as `JSON.stringify` escapes it. -/
def escapeChar (char : Char) : List Char :=
  if char = '"' then ['\\', '"']
  else if char = '\\' then ['\\', '\\']
  else if char = '\x08' then ['\\', 'b']
  else if char = '\x0c' then ['\\', 'f']
  else if char = '\n' then ['\\', 'n']
  else if char = '\r' then ['\\', 'r']
  else if char = '\t' then ['\\', 't']
  -- The control characters without a short form are written as four hex digits.
  else if char.toNat < 0x20 then
    ['\\', 'u', '0', '0', hexDigit (char.toNat / 16), hexDigit (char.toNat % 16)]
  else [char]

def quote (text : String) : String :=
  String.ofList ('"' :: (text.toList.flatMap escapeChar ++ ['"']))

mutual

def Json.stringify : Json → String
  | .null => "null"
  | .boolean value => if value then "true" else "false"
  | .number printed => printed
  | .string value => quote value
  | .array items => "[" ++ stringifyItems items ++ "]"
  | .object fields => "\x7b" ++ stringifyFields fields ++ "\x7d"

def stringifyItems : List Json → String
  | [] => ""
  | [item] => item.stringify
  | item :: rest => item.stringify ++ "," ++ stringifyItems rest

def stringifyFields : List (String × Json) → String
  | [] => ""
  | [(key, value)] => quote key ++ ":" ++ value.stringify
  | (key, value) :: rest => quote key ++ ":" ++ value.stringify ++ "," ++ stringifyFields rest

end

end Js
