import LlmGateway.Lib.Numerals

/-!
The JSON Schema of a tool's arguments: an object of texts, integers and truth
values. A schema is read from the document that advertises it; the length of a
text counts its code points.
-/

namespace ToolSchema

open Js

inductive Property where
  | string (minLength maxLength : Option ℕ)
  | integer (minimum maximum : Option ℕ)
  | boolean
  deriving DecidableEq

structure Arguments where
  properties : List (Utf16 × Property)
  required : List Utf16
  deriving DecidableEq

section Reading

def string? : Value → Option Utf16
  | .string text => some text
  | _ => none

def natural? : Value → Option ℕ
  | .number printed => (parseInt printed).map Int.toNat
  | _ => none

def property? (document : Value) : Option Property :=
  let keyword := fun name : String => document.member (units name)
  match string? (keyword "type") with
  | some type =>
      if type = units "string" then
        some (.string (natural? (keyword "minLength")) (natural? (keyword "maxLength")))
      else if type = units "integer" then
        some (.integer (natural? (keyword "minimum")) (natural? (keyword "maximum")))
      else if type = units "boolean" then some .boolean
      else none
  | none => none

def arguments? (document : Value) : Option Arguments :=
  match document.member (units "properties"), document.member (units "required") with
  | .object properties, .array required => do
      let properties ← properties.mapM fun entry => do
        let property ← property? entry.2
        return (entry.1, property)
      let required ← required.mapM string?
      return { properties := properties, required := required }
  | _, _ => none

end Reading

/-- The numbers from `least` to `most`, both optional. -/
def within (least most : Option ℕ) (value : ℚ) : Bool :=
  least.all (fun bound : ℕ => (bound : ℚ) ≤ value) && most.all fun bound : ℕ => value ≤ (bound : ℚ)

def Property.conforms : Property → Value → Bool
  | .string least most, .string text => within least most (codePoints text).length
  | .integer least most, .number printed => match numberOf printed with
    | .finite value => value.den == 1 && within least most value
    | _ => false
  | .boolean, .boolean _ => true
  | _, _ => false

/-- The value satisfies the schema; a property that is not there does. -/
def Arguments.conforms (schema : Arguments) : Value → Bool
  | .object fields =>
      (schema.required.all fun name => ((Value.object fields).member name).defined) &&
        schema.properties.all fun property =>
          !((Value.object fields).member property.1).defined ||
            property.2.conforms ((Value.object fields).member property.1)
  | _ => false

end ToolSchema
