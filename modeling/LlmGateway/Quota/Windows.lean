import LlmGateway.Quota.Period

/-!
The three readings of the UTC month: the key of an instant, the window of a key
and the instant the counters start again. They agree on the years 1970 to 9999.
The seconds in the window of an accepted key carry that key exactly when its
year is not padded with zeros.
-/

namespace LlmGateway.Quota

open Calendar

def secondsUntilInstant (instantSeconds nowMs : ℤ) : ℤ := max 1 (instantSeconds - nowMs / 1000)

def retryAfterSeconds (nowMs : ℤ) : ℤ := secondsUntilInstant (nextUtcMonthStart nowMs / 1000) nowMs

structure InstantAgrees (nowMs : ℤ) : Prop where
  accepted : isPeriodKey (periodKey nowMs) = true
  inside : (utcMonthWindow (periodKey nowMs)).Contains (nowMs / 1000)
  resets : nextUtcMonthStart nowMs = (utcMonthWindow (periodKey nowMs)).toTs * 1000
  hint : retryAfterSeconds nowMs = (utcMonthWindow (periodKey nowMs)).toTs - nowMs / 1000
  positive : 1 ≤ retryAfterSeconds nowMs

def UnixMonth (month : ℤ) : Prop := 1970 ≤ month / 12 ∧ month / 12 ≤ 9999

structure WindowsTile : Prop where
  ordered : ∀ month, UnixMonth month →
    (utcMonthWindow (keyOf month)).fromTs < (utcMonthWindow (keyOf month)).toTs
  meet : ∀ month, UnixMonth month → UnixMonth (month + 1) →
    (utcMonthWindow (keyOf month)).toTs = (utcMonthWindow (keyOf (month + 1))).fromTs
  cover : ∀ ts, UnixMonth (utcMonth (ts * 1000)) →
    ∃! month, UnixMonth month ∧ (utcMonthWindow (keyOf month)).Contains ts

/-- Every second of the window of a key has that period key. -/
def WindowKeepsKey (key : String) : Prop :=
  ∀ ts, (utcMonthWindow key).Contains ts → periodKey (ts * 1000) = key

section Instants

variable (nowMs month : ℤ)

theorem UnixMonth.fourDigitYear {month : ℤ} (unix : UnixMonth month) : FourDigitYear month :=
  ⟨by have := unix.1; omega, unix.2⟩

theorem monthWindow_ordered : (monthWindow month).fromTs < (monthWindow month).toTs := by
  have := monthStart_strictMono (show month < month + 1 by omega)
  unfold monthWindow
  dsimp only
  omega

theorem nextUtcMonthStart_eq (late : 100 ≤ getUTCFullYear nowMs) :
    nextUtcMonthStart nowMs = (monthWindow (utcMonth nowMs)).toTs * 1000 := by
  have year : fullYear (getUTCFullYear nowMs) = getUTCFullYear nowMs :=
    if_neg (by omega)
  have next : 12 * getUTCFullYear nowMs + (getUTCMonth nowMs + 1) = utcMonth nowMs + 1 := by
    unfold getUTCFullYear getUTCMonth
    omega
  unfold nextUtcMonthStart monthWindow
  rw [dateUTC_eq, year, next]
  unfold msPerDay
  dsimp only
  omega

theorem window_of_instant (unix : UnixMonth (utcMonth nowMs)) :
    utcMonthWindow (periodKey nowMs) = monthWindow (utcMonth nowMs) := by
  rw [periodKey_eq]
  exact utcMonthWindow_keyOf _ unix.fourDigitYear

theorem instant_agrees (unix : UnixMonth (utcMonth nowMs)) : InstantAgrees nowMs := by
  have window := window_of_instant nowMs unix
  have inside : (utcMonthWindow (periodKey nowMs)).Contains (nowMs / 1000) := by
    rw [window, monthWindow_contains_iff]
    exact utcMonth_floor_second nowMs
  have resets : nextUtcMonthStart nowMs = (utcMonthWindow (periodKey nowMs)).toTs * 1000 := by
    rw [window]
    exact nextUtcMonthStart_eq nowMs (by have := unix.1; unfold getUTCFullYear; omega)
  -- The instant lies before the end of its window, so the clamp at one is not taken.
  have before := inside.2
  have hint : retryAfterSeconds nowMs =
      (utcMonthWindow (periodKey nowMs)).toTs - nowMs / 1000 := by
    unfold retryAfterSeconds secondsUntilInstant
    rw [resets]
    omega
  refine ⟨?_, inside, resets, hint, ?_⟩
  · rw [periodKey_eq]
    exact keyOf_isPeriodKey _ unix.fourDigitYear
  · rw [hint]
    omega

theorem windows_tile : WindowsTile where
  ordered month unix := by
    rw [utcMonthWindow_keyOf month unix.fourDigitYear]
    exact monthWindow_ordered month
  meet month unix later := by
    rw [utcMonthWindow_keyOf month unix.fourDigitYear,
      utcMonthWindow_keyOf (month + 1) later.fourDigitYear]
    rfl
  cover ts unix := by
    refine ⟨utcMonth (ts * 1000), ⟨unix, ?_⟩, ?_⟩
    · rw [utcMonthWindow_keyOf _ unix.fourDigitYear, monthWindow_contains_iff]
    · rintro month ⟨other, contains⟩
      rw [utcMonthWindow_keyOf month other.fourDigitYear, monthWindow_contains_iff] at contains
      exact contains.symm

end Instants

section Keys

variable (key : String)

theorem windowKeepsKey_iff : WindowKeepsKey key ↔ keyOf (readMonth key) = key := by
  unfold WindowKeepsKey
  rw [utcMonthWindow_eq]
  constructor
  · intro keeps
    have first : (monthWindow (readMonth key)).Contains (monthWindow (readMonth key)).fromTs :=
      ⟨le_refl _, monthWindow_ordered _⟩
    have named := keeps _ first
    rwa [periodKey_eq, (monthWindow_contains_iff _ _).mp first] at named
  · intro same ts contains
    rw [periodKey_eq, (monthWindow_contains_iff _ _).mp contains]
    exact same

theorem digit_value (digit : Char) (decimal : digit.isDigit = true) :
    digit.toNat - '0'.toNat < 10 ∧ digit.toNat = digit.toNat - '0'.toNat + 48 := by
  have zero : '0'.toNat = 48 := rfl
  simp only [Char.isDigit, Bool.and_eq_true, decide_eq_true_eq, ge_iff_le,
    UInt32.le_iff_toNat_le] at decimal
  change 48 ≤ digit.toNat ∧ digit.toNat ≤ 57 at decimal
  omega

theorem digit_positive (digit : Char) (decimal : digit.isDigit = true) (notZero : digit ≠ '0') :
    digit.toNat - '0'.toNat ≠ 0 := by
  intro zero
  have value := (digit_value digit decimal).2
  rw [zero] at value
  exact notZero (Char.toNat_inj.mp value)

theorem ofDigitChars_inj (left right : List Char) (leftInit rightInit : ℕ)
    (leftDigits : ∀ digit ∈ left, digit.isDigit = true)
    (rightDigits : ∀ digit ∈ right, digit.isDigit = true)
    (long : left.length = right.length)
    (same : Nat.ofDigitChars 10 left leftInit = Nat.ofDigitChars 10 right rightInit) :
    leftInit = rightInit ∧ left = right := by
  -- The read of the later digits fixes the number read before them.
  induction left generalizing right leftInit rightInit with
  | nil =>
      cases right with
      | nil => exact ⟨by simpa using same, rfl⟩
      | cons second others => simp at long
  | cons first rest ih =>
      cases right with
      | nil => simp at long
      | cons second others =>
          rw [Nat.ofDigitChars_cons, Nat.ofDigitChars_cons] at same
          obtain ⟨number, later⟩ := ih others _ _
            (fun digit member => leftDigits digit (List.mem_cons_of_mem first member))
            (fun digit member => rightDigits digit (List.mem_cons_of_mem second member))
            (by simpa using long) same
          have low := digit_value first (leftDigits first List.mem_cons_self)
          have high := digit_value second (rightDigits second List.mem_cons_self)
          have char : first = second := Char.toNat_inj.mp (by omega)
          exact ⟨by omega, by rw [char, later]⟩

theorem ofDigitChars_lt (digits : List Char) (init : ℕ)
    (decimal : ∀ digit ∈ digits, digit.isDigit = true) :
    Nat.ofDigitChars 10 digits init < 10 ^ digits.length * (init + 1) := by
  induction digits generalizing init with
  | nil => simp
  | cons first rest ih =>
      have later := ih (10 * init + (first.toNat - '0'.toNat))
        fun digit member => decimal digit (List.mem_cons_of_mem first member)
      have low := (digit_value first (decimal first List.mem_cons_self)).1
      rw [Nat.ofDigitChars_cons]
      calc Nat.ofDigitChars 10 rest (10 * init + (first.toNat - '0'.toNat))
          < 10 ^ rest.length * (10 * init + (first.toNat - '0'.toNat) + 1) := later
        _ ≤ 10 ^ rest.length * (10 * (init + 1)) := Nat.mul_le_mul_left _ (by omega)
        _ = 10 ^ (first :: rest).length * (init + 1) := by
            rw [List.length_cons, pow_succ, mul_assoc]

theorem toDigits_ofDigitChars (years : List Char) (fourLong : years.length = 4)
    (decimal : ∀ digit ∈ years, digit.isDigit = true)
    (fourDigits : 1000 ≤ Nat.ofDigitChars 10 years 0) :
    Nat.toDigits 10 (Nat.ofDigitChars 10 years 0) = years := by
  have short := ofDigitChars_lt years 0 decimal
  rw [fourLong] at short
  have fits : (Nat.toDigits 10 (Nat.ofDigitChars 10 years 0)).length ≤ 4 :=
    (Nat.length_toDigits_le_iff (by decide) (by decide)).mpr (by omega)
  have fills : ¬ (Nat.toDigits 10 (Nat.ofDigitChars 10 years 0)).length ≤ 3 := by
    rw [Nat.length_toDigits_le_iff (by decide) (by decide)]
    omega
  refine (ofDigitChars_inj _ years 0 0 ?_ decimal (by omega) ?_).2
  · intro digit member
    exact Nat.isDigit_of_mem_toDigits (by decide) (by decide) member
  · exact Nat.ofDigitChars_ten_toDigits

theorem isMonthPair_value (m1 m2 : Char) (pair : isMonthPair m1 m2 = true) :
    m1.isDigit = true ∧ m2.isDigit = true ∧
      1 ≤ Nat.ofDigitChars 10 [m1, m2] 0 ∧ Nat.ofDigitChars 10 [m1, m2] 0 ≤ 12 := by
  simp only [isMonthPair, Bool.or_eq_true, Bool.and_eq_true, beq_iff_eq, bne_iff_ne] at pair
  rcases pair with ⟨⟨rfl, decimal⟩, notZero⟩ | ⟨rfl, (rfl | rfl) | rfl⟩
  · have value := digit_value m2 decimal
    have positive := digit_positive m2 decimal notZero
    refine ⟨rfl, decimal, ?_, ?_⟩ <;>
      simp only [Nat.ofDigitChars_cons, Nat.ofDigitChars_nil] <;> omega
  · decide
  · decide
  · decide

theorem isPeriodKey_parts (accepted : isPeriodKey key = true) :
    ∃ years months : List Char, key.toList = years ++ '-' :: months ∧
      years.length = 4 ∧ (∀ digit ∈ years, digit.isDigit = true) ∧
      months.length = 2 ∧ (∀ digit ∈ months, digit.isDigit = true) ∧
      numberAt key 0 4 = (Nat.ofDigitChars 10 years 0 : ℕ) ∧
      numberAt key 5 7 = (Nat.ofDigitChars 10 months 0 : ℕ) ∧
      1 ≤ numberAt key 5 7 ∧ numberAt key 5 7 ≤ 12 := by
  unfold isPeriodKey at accepted
  split at accepted
  next y1 y2 y3 y4 m1 m2 text =>
    simp only [Bool.and_eq_true] at accepted
    obtain ⟨⟨⟨⟨first, second⟩, third⟩, fourth⟩, pair⟩ := accepted
    obtain ⟨ten, one, low, high⟩ := isMonthPair_value m1 m2 pair
    have month : numberAt key 5 7 = (Nat.ofDigitChars 10 [m1, m2] 0 : ℕ) := by
      simp only [numberAt, text]
      rfl
    refine ⟨[y1, y2, y3, y4], [m1, m2], text, rfl, ?_, rfl, ?_, ?_, month, ?_, ?_⟩
    · simp [first, second, third, fourth]
    · simp [ten, one]
    · simp only [numberAt, text]
      rfl
    · rw [month]
      exact_mod_cast low
    · rw [month]
      exact_mod_cast high
  next => cases accepted

/-- The month a key is read as has that key exactly when the year needs four digits. -/
theorem keyOf_readMonth_iff (accepted : isPeriodKey key = true) :
    keyOf (readMonth key) = key ↔ 1000 ≤ numberAt key 0 4 := by
  obtain ⟨years, months, text, fourLong, yearDigits, twoLong, monthDigits, year, month, low, high⟩ :=
    isPeriodKey_parts key accepted
  have readYear : readMonth key / 12 = fullYear (numberAt key 0 4) := by
    unfold readMonth
    omega
  have readNumber : readMonth key % 12 + 1 = numberAt key 5 7 := by
    unfold readMonth
    omega
  obtain ⟨m1, m2, monthChars, pair, monthValue⟩ := monthText_spec (numberAt key 5 7) low high
  have shape := keyOf_toList (readMonth key)
  rw [readYear, readNumber, monthChars] at shape
  constructor
  · intro same
    rw [same, text] at shape
    obtain ⟨yearText, _⟩ := List.append_inj' shape (by simp [twoLong])
    -- The year written back is the number read, and it fills four places.
    have nonneg : 0 ≤ fullYear (numberAt key 0 4) := by
      unfold fullYear
      split <;> omega
    obtain ⟨number, written⟩ := Int.eq_ofNat_of_zero_le nonneg
    rw [written, yearText_toList] at yearText
    have value : numberAt key 0 4 = number := by
      rw [year, yearText, Nat.ofDigitChars_ten_toDigits]
    have long : ¬ (Nat.toDigits 10 number).length ≤ 3 := by
      rw [← yearText]
      omega
    rw [Nat.length_toDigits_le_iff (by decide) (by decide)] at long
    omega
  · intro fourDigits
    have notShort : fullYear (numberAt key 0 4) = numberAt key 0 4 := if_neg (by omega)
    rw [year] at fourDigits
    have yearText := toDigits_ofDigitChars years fourLong yearDigits (by omega)
    have monthSame : [m1, m2] = months := by
      obtain ⟨ten, one, _, _⟩ := isMonthPair_value m1 m2 pair
      refine (ofDigitChars_inj [m1, m2] months 0 0 ?_ monthDigits twoLong.symm ?_).2
      · simp [ten, one]
      · rw [month] at monthValue
        exact_mod_cast monthValue
    apply String.toList_injective
    rw [shape, text, notShort, year, yearText_toList, yearText, monthSame]

theorem year_ge_iff (accepted : isPeriodKey key = true) :
    1000 ≤ numberAt key 0 4 ↔ key.toList.head? ≠ some '0' := by
  obtain ⟨years, months, text, fourLong, yearDigits, _, _, year, _⟩ :=
    isPeriodKey_parts key accepted
  obtain ⟨first, rest, rfl⟩ := List.exists_cons_of_length_pos (l := years) (by omega)
  have threeLong : rest.length = 3 := by simpa using fourLong
  have short := ofDigitChars_lt rest 0
    fun digit member => yearDigits digit (List.mem_cons_of_mem first member)
  rw [threeLong] at short
  rw [year, Nat.ofDigitChars_cons, Nat.ofDigitChars_eq_ofDigitChars_zero, threeLong, text]
  simp only [List.cons_append, List.head?_cons, ne_eq, Option.some.injEq]
  constructor
  · rintro large rfl
    have zero : '0'.toNat - '0'.toNat = 0 := rfl
    rw [zero] at large
    omega
  · intro notZero
    have positive := digit_positive first (yearDigits first List.mem_cons_self) notZero
    omega

end Keys

/-- `0026` is read as 1926, so every second of its window has another key. -/
theorem short_year_windows :
    ¬ ∀ key, isPeriodKey key = true → WindowKeepsKey key := by
  intro claimed
  have keeps := claimed "0026-01" (by decide) (-1388534400) (by decide +kernel)
  exact absurd keeps (by decide +kernel)

/-- At an instant of the years 1970 to 9999 the key, its window and the reset
agree, and the windows of those months tile their seconds. An accepted key is
the key of every second in its window exactly when it does not begin with a zero. -/
theorem calendar_agrees_iff (nowMs : ℤ) (key : String) :
    (1970 ≤ getUTCFullYear nowMs → getUTCFullYear nowMs ≤ 9999 → InstantAgrees nowMs) ∧
      WindowsTile ∧
      (isPeriodKey key = true → (WindowKeepsKey key ↔ key.toList.head? ≠ some '0')) := by
  refine ⟨fun low high => instant_agrees nowMs ⟨low, high⟩, windows_tile, ?_⟩
  intro accepted
  rw [windowKeepsKey_iff, keyOf_readMonth_iff key accepted, year_ge_iff key accepted]

end LlmGateway.Quota
