import Mathlib
import LlmGateway.Lib.Calendar

/-!
The UTC calendar months of the quota domain. The source spells a month as the
text `YYYY-MM`; the proofs name it by its calendar index and use that the text
determines the index. Instants are unix milliseconds, windows unix seconds.
-/

namespace LlmGateway.Quota

open Calendar

def msPerDay : ℤ := 86400000

def utcMonth (nowMs : ℤ) : ℤ := monthOfDay (nowMs / msPerDay)

def getUTCFullYear (nowMs : ℤ) : ℤ := utcMonth nowMs / 12

def getUTCMonth (nowMs : ℤ) : ℤ := utcMonth nowMs % 12

/-- `Date.UTC(year, month, 1)`: a month past December rolls into the next
year, and the two-digit years are read as years of the twentieth century. -/
def dateUTC (year month : ℤ) : ℤ :=
  let fullYear := if 0 ≤ year ∧ year ≤ 99 then 1900 + year else year
  monthStart (12 * fullYear + month) * msPerDay

/-- The year `Date.UTC` takes a number to be. -/
def fullYear (year : ℤ) : ℤ := if 0 ≤ year ∧ year ≤ 99 then 1900 + year else year

theorem dateUTC_eq (year month : ℤ) :
    dateUTC year month = monthStart (12 * fullYear year + month) * msPerDay := rfl

def monthText (month : ℤ) : String :=
  if month < 10 then "0" ++ toString month else toString month

def periodText (year month : ℤ) : String := toString year ++ "-" ++ monthText month

def periodKey (nowMs : ℤ) : String :=
  periodText (getUTCFullYear nowMs) (getUTCMonth nowMs + 1)

def nextUtcMonthStart (nowMs : ℤ) : ℤ :=
  dateUTC (getUTCFullYear nowMs) (getUTCMonth nowMs + 1)

/-- `0[1-9]|1[0-2]`. -/
def isMonthPair (m1 m2 : Char) : Bool :=
  (m1 == '0' && m2.isDigit && m2 != '0') || (m1 == '1' && (m2 == '0' || m2 == '1' || m2 == '2'))

/-- The test of `PERIOD_KEY_PATTERN`. -/
def isPeriodKey (key : String) : Bool :=
  match key.toList with
  | [y1, y2, y3, y4, '-', m1, m2] =>
      y1.isDigit && y2.isDigit && y3.isDigit && y4.isDigit && isMonthPair m1 m2
  | _ => false

/-- `Number(text.slice(first, last))` of a slice of decimal digits. -/
def numberAt (text : String) (first last : ℕ) : ℤ :=
  Nat.ofDigitChars 10 ((text.toList.drop first).take (last - first)) 0

structure Window where
  fromTs : ℤ
  toTs : ℤ
  deriving DecidableEq, Repr

def Window.Contains (window : Window) (ts : ℤ) : Prop := window.fromTs ≤ ts ∧ ts < window.toTs

instance (window : Window) (ts : ℤ) : Decidable (window.Contains ts) :=
  inferInstanceAs (Decidable (_ ∧ _))

def utcMonthWindow (key : String) : Window where
  fromTs := dateUTC (numberAt key 0 4) (numberAt key 5 7 - 1) / 1000
  toTs := dateUTC (numberAt key 0 4) (numberAt key 5 7) / 1000

def keyOf (month : ℤ) : String := periodText (month / 12) (month % 12 + 1)

def monthWindow (month : ℤ) : Window where
  fromTs := monthStart month * 86400
  toTs := monthStart (month + 1) * 86400

def readMonth (key : String) : ℤ :=
  12 * fullYear (numberAt key 0 4) + (numberAt key 5 7 - 1)

theorem periodKey_eq (nowMs : ℤ) : periodKey nowMs = keyOf (utcMonth nowMs) := rfl

theorem utcMonthWindow_eq (key : String) : utcMonthWindow key = monthWindow (readMonth key) := by
  have next : 12 * fullYear (numberAt key 0 4) + numberAt key 5 7 = readMonth key + 1 := by
    unfold readMonth
    omega
  unfold utcMonthWindow monthWindow
  rw [dateUTC_eq, dateUTC_eq, next]
  unfold msPerDay
  congr 1
  · change monthStart (readMonth key) * 86400000 / 1000 = _
    omega
  · omega

theorem monthText_spec (month : ℤ) (low : 1 ≤ month) (high : month ≤ 12) :
    ∃ m1 m2 : Char, (monthText month).toList = [m1, m2] ∧ isMonthPair m1 m2 = true ∧
      (Nat.ofDigitChars 10 [m1, m2] 0 : ℤ) = month := by
  have checked : (monthText month).toList =
        [(monthText month).toList.getD 0 ' ', (monthText month).toList.getD 1 ' '] ∧
      isMonthPair ((monthText month).toList.getD 0 ' ') ((monthText month).toList.getD 1 ' ') =
        true ∧
      (Nat.ofDigitChars 10 [(monthText month).toList.getD 0 ' ',
        (monthText month).toList.getD 1 ' '] 0 : ℤ) = month := by
    interval_cases month <;> decide
  exact ⟨_, _, checked⟩

theorem keyOf_toList (month : ℤ) :
    (keyOf month).toList =
      (toString (month / 12)).toList ++ '-' :: (monthText (month % 12 + 1)).toList := by
  simp [keyOf, periodText]

theorem keyOf_injective : Function.Injective keyOf := by
  intro left right same
  obtain ⟨l1, l2, leftText, _, leftValue⟩ :=
    monthText_spec (left % 12 + 1) (by omega) (by omega)
  obtain ⟨r1, r2, rightText, _, rightValue⟩ :=
    monthText_spec (right % 12 + 1) (by omega) (by omega)
  have texts := congrArg String.toList same
  rw [keyOf_toList, keyOf_toList, leftText, rightText] at texts
  -- The month is always two characters, so both texts split at the same place.
  obtain ⟨years, months⟩ := List.append_inj' texts rfl
  have year : left / 12 = right / 12 := Int.repr_inj.mp (String.toList_injective years)
  have month : left % 12 + 1 = right % 12 + 1 := by
    rw [← leftValue, ← rightValue, (List.cons.inj months).2]
  omega

theorem yearText_toList (number : ℕ) :
    (toString (number : ℤ)).toList = Nat.toDigits 10 number := by
  simp [Int.repr_eq_if]

theorem year_digits (year : ℤ) (low : 1000 ≤ year) (high : year ≤ 9999) :
    ∃ y1 y2 y3 y4 : Char, (toString year).toList = [y1, y2, y3, y4] ∧
      (∀ digit ∈ [y1, y2, y3, y4], digit.isDigit = true) ∧
      (Nat.ofDigitChars 10 [y1, y2, y3, y4] 0 : ℤ) = year := by
  obtain ⟨number, rfl⟩ : ∃ number : ℕ, year = number := ⟨year.toNat, by omega⟩
  -- Between 1000 and 9999 the numeral has exactly four digits.
  have short : (Nat.toDigits 10 number).length ≤ 4 :=
    (Nat.length_toDigits_le_iff (by decide) (by decide)).mpr (by omega)
  have long : ¬ (Nat.toDigits 10 number).length ≤ 3 := fun fits => by
    have := (Nat.length_toDigits_le_iff (by decide) (by decide)).mp fits
    omega
  obtain ⟨y1, y2, y3, y4, digits⟩ : ∃ y1 y2 y3 y4, Nat.toDigits 10 number = [y1, y2, y3, y4] := by
    have four : (Nat.toDigits 10 number).length = 4 := by omega
    match Nat.toDigits 10 number, four with
    | [y1, y2, y3, y4], _ => exact ⟨y1, y2, y3, y4, rfl⟩
  refine ⟨y1, y2, y3, y4, (yearText_toList number).trans digits, ?_, ?_⟩
  · intro digit member
    rw [← digits] at member
    exact Nat.isDigit_of_mem_toDigits (by decide) (by decide) member
  · rw [← digits, Nat.ofDigitChars_ten_toDigits]

/-- The months whose text the reconciliation accepts and a live counter can carry. -/
def FourDigitYear (month : ℤ) : Prop := 1000 ≤ month / 12 ∧ month / 12 ≤ 9999

theorem keyOf_isPeriodKey (month : ℤ) (year : FourDigitYear month) :
    isPeriodKey (keyOf month) = true := by
  obtain ⟨y1, y2, y3, y4, yearText, digits, _⟩ := year_digits (month / 12) year.1 year.2
  obtain ⟨m1, m2, monthChars, pair, _⟩ :=
    monthText_spec (month % 12 + 1) (by omega) (by omega)
  have shape := keyOf_toList month
  rw [yearText, monthChars] at shape
  simp only [List.mem_cons, List.not_mem_nil, or_false, forall_eq_or_imp, forall_eq] at digits
  simp [isPeriodKey, shape, digits, pair]

theorem utcMonthWindow_keyOf (month : ℤ) (year : FourDigitYear month) :
    utcMonthWindow (keyOf month) = monthWindow month := by
  obtain ⟨y1, y2, y3, y4, yearText, _, yearValue⟩ := year_digits (month / 12) year.1 year.2
  obtain ⟨m1, m2, monthChars, _, monthValue⟩ :=
    monthText_spec (month % 12 + 1) (by omega) (by omega)
  have shape := keyOf_toList month
  rw [yearText, monthChars] at shape
  have yearPart : numberAt (keyOf month) 0 4 = month / 12 := by
    simp only [numberAt, shape]
    exact yearValue
  have monthPart : numberAt (keyOf month) 5 7 = month % 12 + 1 := by
    simp only [numberAt, shape]
    exact monthValue
  -- `Date.UTC` would read a year below 100 as one of the twentieth century.
  have notShort : ¬ (0 ≤ month / 12 ∧ month / 12 ≤ 99) := by
    have := year.1
    omega
  have same : readMonth (keyOf month) = month := by
    unfold readMonth fullYear
    rw [yearPart, monthPart, if_neg notShort]
    omega
  rw [utcMonthWindow_eq, same]

theorem monthWindow_contains_iff (month requestedAt : ℤ) :
    (monthWindow month).Contains requestedAt ↔ utcMonth (requestedAt * 1000) = month := by
  unfold utcMonth
  rw [monthOfDay_iff]
  unfold monthWindow Window.Contains InTile msPerDay
  constructor
  · rintro ⟨low, high⟩
    constructor <;> dsimp only at low high <;> omega
  · rintro ⟨low, high⟩
    constructor <;> dsimp only <;> omega

theorem utcMonth_floor_second (nowMs : ℤ) : utcMonth (nowMs / 1000 * 1000) = utcMonth nowMs := by
  unfold utcMonth msPerDay
  congr 1
  omega

def monthStartMs (month : ℤ) : ℤ := monthStart month * msPerDay

theorem monthStartMs_strictMono : StrictMono monthStartMs := by
  intro left right before
  have := monthStart_strictMono before
  unfold monthStartMs msPerDay
  omega

theorem utcMonth_tile (nowMs : ℤ) : InTile monthStartMs (utcMonth nowMs) nowMs := by
  obtain ⟨low, high⟩ := monthOfDay_spec (nowMs / msPerDay)
  unfold InTile monthStartMs utcMonth
  unfold msPerDay at *
  constructor <;> omega

theorem utcMonth_eq_iff (first last : ℤ) (ordered : first ≤ last) :
    utcMonth first = utcMonth last ↔
      ¬ ∃ month, first < monthStartMs month ∧ monthStartMs month ≤ last :=
  same_tile_iff monthStartMs_strictMono _ _ first last (utcMonth_tile first) (utcMonth_tile last)
    ordered

end LlmGateway.Quota
