import Mathlib.Order.SuccPred.IntervalSucc
import Mathlib.Algebra.Order.Ring.Int
import Mathlib.Order.SuccPred.LinearLocallyFinite
import Mathlib.Data.Int.ConditionallyCompleteOrder
import Mathlib.Data.Int.SuccPred
import Mathlib.Tactic.IntervalCases

/-!
The proleptic Gregorian calendar on integer days since 1970-01-01. A month is
named by one integer, twelve times its year plus its number from zero, so the
successor of a month is the next integer. `monthStart` is strictly increasing,
hence its intervals tile the day line, and `monthOfDay` is the index of the
tile a day lies in.
-/

namespace Calendar

section Tiles

variable {start : ℤ → ℤ}

/-- The tile of `index` under an increasing sequence of boundaries. -/
def InTile (start : ℤ → ℤ) (index point : ℤ) : Prop :=
  start index ≤ point ∧ point < start (index + 1)

theorem tile_unique (increasing : StrictMono start) (left right point : ℤ)
    (inLeft : InTile start left point) (inRight : InTile start right point) : left = right := by
  have below : left < right + 1 :=
    increasing.lt_iff_lt.mp (lt_of_le_of_lt inLeft.1 inRight.2)
  have above : right < left + 1 :=
    increasing.lt_iff_lt.mp (lt_of_le_of_lt inRight.1 inLeft.2)
  omega

theorem same_tile_iff (increasing : StrictMono start) (left right first last : ℤ)
    (inLeft : InTile start left first) (inRight : InTile start right last) (ordered : first ≤ last) :
    left = right ↔ ¬ ∃ index, first < start index ∧ start index ≤ last := by
  constructor
  · rintro rfl ⟨index, after, before⟩
    -- Such a boundary would start a tile strictly between `left` and `left + 1`.
    have above : left < index := increasing.lt_iff_lt.mp (lt_of_le_of_lt inLeft.1 after)
    have below : index < left + 1 := increasing.lt_iff_lt.mp (lt_of_le_of_lt before inRight.2)
    omega
  · intro none
    have notAfter : ¬ right < left := by
      intro after
      have gap : start (right + 1) ≤ start left := increasing.monotone (by omega)
      have := inLeft.1
      have := inRight.2
      omega
    have notBefore : ¬ left < right := by
      intro before
      exact none ⟨right, lt_of_lt_of_le inLeft.2 (increasing.monotone (by omega)), inRight.1⟩
    omega

/-- The last tile below `top` that starts at or before `point`. -/
def lastTile (start : ℤ → ℤ) (point : ℤ) : ℕ → ℤ
  | 0 => 0
  | top + 1 => if start (top + 1) ≤ point then top + 1 else lastTile start point top

theorem lastTile_spec (start : ℤ → ℤ) (point : ℤ) (top : ℕ) (low : start 0 ≤ point)
    (high : point < start (top + 1)) :
    0 ≤ lastTile start point top ∧ lastTile start point top ≤ top ∧
      InTile start (lastTile start point top) point := by
  induction top with
  | zero => exact ⟨le_refl 0, le_refl 0, low, high⟩
  | succ top ih =>
      by_cases reached : start (top + 1) ≤ point
      · simp only [lastTile, reached, ↓reduceIte]
        exact ⟨by omega, by simp, reached, by simpa using high⟩
      · simp only [lastTile, reached, ↓reduceIte]
        obtain ⟨nonneg, bounded, tile⟩ := ih (by omega)
        exact ⟨nonneg, by push_cast; omega, tile⟩

end Tiles

/-- Days before January 1st of `year`, counted from 1970-01-01. -/
def daysBeforeYear (year : ℤ) : ℤ :=
  365 * (year - 1970) + (year - 1969) / 4 - (year - 1901) / 100 + (year - 1601) / 400

def isLeap (year : ℤ) : Bool :=
  year % 4 == 0 && (year % 100 != 0 || year % 400 == 0)

theorem daysBeforeYear_succ (year : ℤ) :
    daysBeforeYear (year + 1) = daysBeforeYear year + if isLeap year then 366 else 365 := by
  unfold daysBeforeYear isLeap
  -- The quotients step at multiples of 4, 100 and 400: the residues decide each case.
  by_cases four : year % 4 = 0 <;> by_cases hundred : year % 100 = 0 <;>
    by_cases fourHundred : year % 400 = 0 <;> simp [four, hundred, fourHundred] <;> omega

/-- The year of a day: the mean-year estimate, corrected by at most one. -/
def yearOfDay (day : ℤ) : ℤ :=
  let guess := 1970 + 400 * day / 146097
  if daysBeforeYear (guess + 1) ≤ day then guess + 1
  else if day < daysBeforeYear guess then guess - 1
  else guess

theorem yearOfDay_spec (day : ℤ) : InTile daysBeforeYear (yearOfDay day) day := by
  unfold yearOfDay
  simp only
  split
  next late =>
    -- The mean year is 146097 / 400 days, so the estimate is never two years early.
    refine ⟨late, ?_⟩
    unfold daysBeforeYear
    omega
  next notLate =>
    split
    next early =>
      refine ⟨?_, by simpa using early⟩
      unfold daysBeforeYear
      omega
    next notEarly => exact ⟨by omega, by omega⟩

/-- Days of the year before month `month`, numbered from zero. -/
def daysBeforeMonth (leap : Bool) (month : ℤ) : ℤ :=
  let feb := if leap then 29 else 28
  if month ≤ 0 then 0
  else if month = 1 then 31
  else if month = 2 then 31 + feb
  else if month = 3 then 62 + feb
  else if month = 4 then 92 + feb
  else if month = 5 then 123 + feb
  else if month = 6 then 153 + feb
  else if month = 7 then 184 + feb
  else if month = 8 then 215 + feb
  else if month = 9 then 245 + feb
  else if month = 10 then 276 + feb
  else if month = 11 then 306 + feb
  else 337 + feb

theorem daysBeforeMonth_lt (leap : Bool) (month : ℤ) (low : 0 ≤ month) (high : month < 12) :
    daysBeforeMonth leap month < daysBeforeMonth leap (month + 1) := by
  interval_cases month <;> cases leap <;> decide

def monthStart (index : ℤ) : ℤ :=
  daysBeforeYear (index / 12) + daysBeforeMonth (isLeap (index / 12)) (index % 12)

theorem monthStart_january (year : ℤ) : monthStart (12 * year) = daysBeforeYear year := by
  have quotient : 12 * year / 12 = year := by omega
  have remainder : 12 * year % 12 = 0 := by omega
  simp [monthStart, quotient, remainder, daysBeforeMonth]

theorem monthStart_succ_lt (index : ℤ) : monthStart index < monthStart (index + 1) := by
  have bounds : 0 ≤ index % 12 ∧ index % 12 < 12 := by omega
  by_cases december : index % 12 = 11
  · have same : index + 1 = 12 * (index / 12 + 1) := by omega
    rw [same, monthStart_january, daysBeforeYear_succ, monthStart, december]
    cases isLeap (index / 12) <;> simp [daysBeforeMonth]
  · have quotient : (index + 1) / 12 = index / 12 := by omega
    have remainder : (index + 1) % 12 = index % 12 + 1 := by omega
    have grows := daysBeforeMonth_lt (isLeap (index / 12)) (index % 12) bounds.1 bounds.2
    rw [monthStart, monthStart, quotient, remainder]
    omega

theorem monthStart_strictMono : StrictMono monthStart :=
  strictMono_int_of_lt_succ monthStart_succ_lt

def monthOfDay (day : ℤ) : ℤ :=
  let year := yearOfDay day
  12 * year + lastTile (daysBeforeMonth (isLeap year)) (day - daysBeforeYear year) 11

theorem daysBeforeMonth_year (leap : Bool) :
    daysBeforeMonth leap 12 = if leap then 366 else 365 := by
  cases leap <;> rfl

theorem monthOfDay_spec (day : ℤ) : InTile monthStart (monthOfDay day) day := by
  obtain ⟨yearLow, yearHigh⟩ := yearOfDay_spec day
  rw [daysBeforeYear_succ, ← daysBeforeMonth_year] at yearHigh
  obtain ⟨low, high, tileLow, tileHigh⟩ :=
    lastTile_spec (daysBeforeMonth (isLeap (yearOfDay day)))
      (day - daysBeforeYear (yearOfDay day)) 11
      (by simp only [daysBeforeMonth, le_refl, ↓reduceIte]; omega) (by norm_num; omega)
  -- The month within the year is below twelve, so division and remainder recover both.
  have quotient : monthOfDay day / 12 = yearOfDay day := by
    simp only [monthOfDay]; omega
  have remainder : monthOfDay day % 12 = lastTile (daysBeforeMonth (isLeap (yearOfDay day)))
      (day - daysBeforeYear (yearOfDay day)) 11 := by
    simp only [monthOfDay]; omega
  constructor
  · rw [monthStart, quotient, remainder]
    omega
  · by_cases december : monthOfDay day % 12 = 11
    · have same : monthOfDay day + 1 = 12 * (yearOfDay day + 1) := by omega
      rw [same, monthStart_january, daysBeforeYear_succ, ← daysBeforeMonth_year]
      omega
    · have nextQuotient : (monthOfDay day + 1) / 12 = yearOfDay day := by omega
      have nextRemainder : (monthOfDay day + 1) % 12 = monthOfDay day % 12 + 1 := by omega
      rw [monthStart, nextQuotient, nextRemainder, remainder]
      omega

theorem monthOfDay_iff (day index : ℤ) : monthOfDay day = index ↔ InTile monthStart index day := by
  constructor
  · rintro rfl
    exact monthOfDay_spec day
  · exact tile_unique monthStart_strictMono _ _ day (monthOfDay_spec day)

end Calendar
