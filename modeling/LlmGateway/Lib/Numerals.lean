import Mathlib.Data.List.Induction
import Mathlib.Data.List.TakeWhile
import Mathlib.Data.Nat.Digits.Lemmas
import Mathlib.Tactic.NormNum
import LlmGateway.Lib.JsText

/-!
The numbers behind the texts that `String` prints them as: digits with a point
and an exponent where they need them, and three names.
-/

namespace Js

def digitsValue (digits : Utf16) : ℕ :=
  digits.foldl (fun value digit => 10 * value + (digit.toNat - 48)) 0

/-- `12`, `12.5` or `1.25e+30`, without a sign. -/
def unsignedValue (printed : Utf16) : ℚ :=
  let mantissa := printed.takeWhile (· ≠ 0x65)
  let exponent := (printed.dropWhile (· ≠ 0x65)).tail
  let whole := mantissa.takeWhile (· ≠ 0x2E)
  let fraction := (mantissa.dropWhile (· ≠ 0x2E)).tail
  let scaled := (digitsValue (whole ++ fraction) : ℚ) / 10 ^ fraction.length
  if exponent.head? = some 0x2D then scaled / 10 ^ digitsValue exponent.tail
  else scaled * 10 ^ digitsValue exponent.tail

def numberOf (printed : Utf16) : Number :=
  if printed = units "NaN" then .nan
  else if printed = units "Infinity" then .infinite false
  else if printed = units "-Infinity" then .infinite true
  else if printed.head? = some 0x2D then .finite (-unsignedValue printed.tail)
  else .finite (unsignedValue printed)

def decimalDigit (unit : UInt16) : Bool := 0x30 ≤ unit && unit ≤ 0x39

/-- `Number.parseInt(text, 10)`; nothing stands for `NaN`. -/
def parseInt (text : Utf16) : Option ℤ :=
  let text := text.dropWhile whitespace
  let unsigned := if text.head? = some 0x2D ∨ text.head? = some 0x2B then text.tail else text
  let digits := unsigned.takeWhile decimalDigit
  if digits = [] then none
  else some (if text.head? = some 0x2D then -digitsValue digits else digitsValue digits)

/-- `number > bound`. -/
def Number.above (bound : ℚ) : Number → Bool
  | .nan => false
  | .infinite negative => !negative
  | .finite value => bound < value

example : (["0", "131072.5", "1.25e+21", "-7", "5e-7"].map fun text => numberOf (units text)) =
    [.finite 0, .finite (262145 / 2), .finite (125 * 10 ^ 19), .finite (-7),
      .finite (5 / 10 ^ 7)] := by
  decide +kernel

section Naturals

def digit (value : Fin 10) : UInt16 := 0x30 + UInt16.ofNat value

def digits (values : List (Fin 10)) : Utf16 := values.map digit

def decimal (number : ℕ) : List (Fin 10) :=
  if number = 0 then [0] else (Nat.digits 10 number).reverse.map (Fin.ofNat 10)

theorem decimal_ne_nil (number : ℕ) : decimal number ≠ [] := by
  unfold decimal
  split
  · exact List.cons_ne_nil _ _
  · rename_i positive
    simp [Nat.digits_ne_nil_iff_ne_zero.mpr positive]

theorem length_decimal (number size : ℕ) (positive : 0 < size) (short : number < 10 ^ size) :
    (decimal number).length ≤ size := by
  unfold decimal
  split
  · exact positive
  · rw [List.length_map, List.length_reverse]
    exact (Nat.digits_length_le_iff (by decide) number).mpr short

theorem decimal_step (number : ℕ) (more : 10 ≤ number) :
    decimal number = decimal (number / 10) ++ [Fin.ofNat 10 (number % 10)] := by
  have rest : number / 10 ≠ 0 := by omega
  rw [decimal, if_neg (by omega), decimal, if_neg rest,
    Nat.digits_def' (by decide) (by omega : 0 < number), List.reverse_cons, List.map_append]
  rfl

theorem decimal_one (number : ℕ) (less : number < 10) : decimal number = [Fin.ofNat 10 number] := by
  by_cases zero : number = 0
  · rw [zero]
    rfl
  · rw [decimal, if_neg zero, Nat.digits_of_lt 10 number zero less]
    rfl

theorem ofDigits_decimal (number : ℕ) :
    Nat.ofDigits 10 ((decimal number).reverse.map Fin.val) = number := by
  induction number using Nat.strong_induction_on with
  | h number ih =>
      by_cases less : number < 10
      · rw [decimal_one number less]
        simp [Nat.mod_eq_of_lt less]
      · rw [decimal_step number (by omega), List.reverse_append, List.map_append]
        simp only [List.reverse_cons, List.reverse_nil, List.nil_append, List.map_cons,
          List.map_nil, List.singleton_append, Nat.ofDigits_cons, ih (number / 10) (by omega),
          Fin.val_ofNat]
        omega

theorem units_digitChar : ∀ value : Fin 10,
    units (String.ofList [Nat.digitChar value]) = [digit value] := by
  decide +kernel

theorem units_decimal (number : ℕ) : units (toString number) = digits (decimal number) := by
  rw [Nat.toString_eq_ofList_toDigits]
  induction number using Nat.strong_induction_on with
  | h number ih =>
      rw [Nat.toDigits_eq_if (by decide)]
      split
      next less =>
        rw [decimal_one number less]
        have last := units_digitChar (Fin.ofNat 10 number)
        rwa [Fin.val_ofNat, Nat.mod_eq_of_lt less] at last
      next more =>
        have last := units_digitChar (Fin.ofNat 10 (number % 10))
        rw [Fin.val_ofNat, Nat.mod_mod] at last
        rw [decimal_step number (by omega), String.ofList_append, units_append,
          ih (number / 10) (by omega), last, digits, digits, List.map_append]
        rfl

theorem toNat_digit : ∀ value : Fin 10, (digit value).toNat = 48 + value := by decide

theorem digitsValue_digits (values : List (Fin 10)) :
    digitsValue (digits values) = Nat.ofDigits 10 (values.reverse.map Fin.val) := by
  induction values using List.reverseRecOn with
  | nil => rfl
  | append_singleton earlier value ih =>
      unfold digits digitsValue at ih ⊢
      rw [List.map_append, List.foldl_append, ih, List.reverse_append, List.map_append]
      simp only [List.map_cons, List.map_nil, List.reverse_cons, List.reverse_nil, List.nil_append,
        List.foldl_cons, List.foldl_nil, toNat_digit, List.singleton_append, Nat.ofDigits_cons]
      omega

theorem mem_digits (values : List (Fin 10)) (unit : UInt16) (member : unit ∈ digits values) :
    48 ≤ unit.toNat ∧ unit.toNat ≤ 57 := by
  obtain ⟨value, _, rfl⟩ := List.mem_map.mp member
  rw [toNat_digit]
  omega

theorem digit_plain : ∀ value : Fin 10, whitespace (digit value) = false ∧
    decimalDigit (digit value) = true ∧ digit value ≠ 0x2D ∧ digit value ≠ 0x2B := by
  decide

theorem numberOf_digits (values : List (Fin 10)) :
    numberOf (digits values) = .finite (Nat.ofDigits 10 (values.reverse.map Fin.val) : ℕ) := by
  have plain := mem_digits values
  have whole : ∀ other : UInt16, (other.toNat < 48 ∨ 57 < other.toNat) →
      ∀ unit ∈ digits values, decide (unit ≠ other) = true := by
    intro other outside unit member
    have inside := plain unit member
    refine decide_eq_true fun same => ?_
    rw [same] at inside
    omega
  have named : ∀ name : Utf16, (∃ unit ∈ name, unit.toNat < 48 ∨ 57 < unit.toNat) →
      digits values ≠ name := by
    rintro name ⟨unit, member, outside⟩ rfl
    have inside := plain unit member
    omega
  have unsigned : unsignedValue (digits values) =
      (Nat.ofDigits 10 (values.reverse.map Fin.val) : ℕ) := by
    have noExponent := whole 0x65 (Or.inr (by decide))
    have noPoint := whole 0x2E (Or.inl (by decide))
    simp only [unsignedValue, List.takeWhile_eq_self_iff.mpr noExponent,
      List.dropWhile_eq_nil_iff.mpr noExponent, List.takeWhile_eq_self_iff.mpr noPoint,
      List.dropWhile_eq_nil_iff.mpr noPoint, List.tail_nil, List.append_nil, List.length_nil,
      pow_zero, div_one, digitsValue_digits values]
    simp [digitsValue]
  have positive : (digits values).head? ≠ some 0x2D := by
    intro signed
    have inside := plain 0x2D (List.mem_of_mem_head? signed)
    exact absurd inside (by decide)
  rw [numberOf, if_neg (named _ ⟨78, by decide +kernel, Or.inr (by decide)⟩),
    if_neg (named _ ⟨73, by decide +kernel, Or.inr (by decide)⟩),
    if_neg (named _ ⟨0x2D, by decide +kernel, Or.inl (by decide)⟩), if_neg positive, unsigned]

theorem parseInt_digits (values : List (Fin 10)) (printed : values ≠ []) :
    parseInt (digits values) = some ((Nat.ofDigits 10 (values.reverse.map Fin.val) : ℕ) : ℤ) := by
  obtain ⟨first, rest, rfl⟩ := List.exists_cons_of_ne_nil printed
  obtain ⟨unspaced, _, unsigned, unmarked⟩ := digit_plain first
  have kept : (digits (first :: rest)).dropWhile whitespace = digits (first :: rest) := by
    rw [digits, List.map_cons, List.dropWhile_cons_of_neg (by rw [unspaced]; decide)]
  have head : (digits (first :: rest)).head? = some (digit first) := rfl
  have all : (digits (first :: rest)).takeWhile decimalDigit = digits (first :: rest) := by
    refine List.takeWhile_eq_self_iff.mpr fun unit member => ?_
    obtain ⟨value, _, rfl⟩ := List.mem_map.mp member
    exact (digit_plain value).2.1
  have written : digits (first :: rest) ≠ [] := List.cons_ne_nil _ _
  simp only [parseInt, kept, head, Option.some.injEq, unsigned, unmarked, or_self, if_false, all,
    written, digitsValue_digits]

theorem numberOf_natural (value : ℕ) : numberOf (units (toString value)) = .finite value := by
  rw [units_decimal, numberOf_digits, ofDigits_decimal]

theorem parseInt_natural (value : ℕ) : parseInt (units (toString value)) = some (value : ℤ) := by
  rw [units_decimal, parseInt_digits _ (decimal_ne_nil value), ofDigits_decimal]

end Naturals

end Js
