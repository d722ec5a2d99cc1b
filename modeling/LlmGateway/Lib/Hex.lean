import LlmGateway.Lib.JsValue

/-!
Bytes and their hexadecimal texts. Reading stops, as `Buffer.from` does, at the
first pair of characters that is no byte, and takes both cases of the letters.
-/

namespace Hex

abbrev Byte := Fin 256

def high (byte : Byte) : Fin 16 := ⟨byte / 16, by omega⟩

def low (byte : Byte) : Fin 16 := ⟨byte % 16, by omega⟩

def byteOf (high low : Fin 16) : Byte := ⟨16 * high + low, by omega⟩

theorem byteOf_high_low (byte : Byte) : byteOf (high byte) (low byte) = byte :=
  Fin.ext (Nat.div_add_mod byte.val 16)

def hexValue (char : Char) : Option (Fin 16) :=
  (List.finRange 16).find? fun digit => Js.hexDigit digit = char.toLower

def encode (bytes : List Byte) : List Char :=
  bytes.flatMap fun byte => [Js.hexDigit (high byte), Js.hexDigit (low byte)]

def decode : List Char → List Byte
  | first :: second :: rest =>
      match hexValue first, hexValue second with
      | some high, some low => byteOf high low :: decode rest
      | _, _ => []
  | _ => []

theorem hexValue_hexDigit : ∀ digit : Fin 16, hexValue (Js.hexDigit digit) = some digit := by
  decide +kernel

theorem decode_encode (bytes : List Byte) : decode (encode bytes) = bytes := by
  induction bytes with
  | nil => rfl
  | cons byte rest ih =>
      change decode (Js.hexDigit (high byte) :: Js.hexDigit (low byte) :: encode rest) = _
      rw [decode, hexValue_hexDigit, hexValue_hexDigit]
      simp only [byteOf_high_low, ih]

theorem hexDigit_ne_dollar : ∀ digit : Fin 16, Js.hexDigit digit ≠ '$' := by
  decide +kernel

theorem dollar_not_mem_encode (bytes : List Byte) : '$' ∉ encode bytes := by
  intro member
  obtain ⟨byte, _, written⟩ := List.mem_flatMap.mp member
  rcases List.mem_cons.mp written with first | rest
  · exact hexDigit_ne_dollar _ first.symm
  · exact hexDigit_ne_dollar _ (List.mem_singleton.mp rest).symm

theorem length_encode (bytes : List Byte) : (encode bytes).length = 2 * bytes.length := by
  induction bytes with
  | nil => rfl
  | cons byte rest ih =>
      change (encode rest).length + 2 = 2 * (rest.length + 1)
      omega

end Hex
