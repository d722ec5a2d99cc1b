import Mathlib.Data.List.DropRight
import LlmGateway.Lib.JsDynamic

/-!
Texts as JavaScript cleans them: runs of white space, `trim` and `toLowerCase`.
Cleaned text holds no line feed, so lines joined by line feeds can be told apart
again, up to a marked last one that may hold anything.
-/

namespace Js

def lineFeed : UInt16 := 0x0A

/-- What `\s` matches and `trim` strips. -/
def whitespace (unit : UInt16) : Bool :=
  (0x09 ≤ unit && unit ≤ 0x0D) || unit == 0x20 || unit == 0xA0 || unit == 0x1680 ||
    (0x2000 ≤ unit && unit ≤ 0x200A) || unit == 0x2028 || unit == 0x2029 || unit == 0x202F ||
    unit == 0x205F || unit == 0x3000 || unit == 0xFEFF

def trim (text : Utf16) : Utf16 := (text.dropWhile whitespace).rdropWhile whitespace

def isSpace (char : Char) : Bool :=
  char.toNat < 0x10000 && whitespace (UInt16.ofNat char.toNat)

def trimChars (text : List Char) : List Char := (text.dropWhile isSpace).rdropWhile isSpace

def collapseFrom : Bool → Utf16 → Utf16
  | _, [] => []
  | inRun, unit :: rest =>
      if whitespace unit then
        if inRun then collapseFrom true rest else 0x20 :: collapseFrom true rest
      else unit :: collapseFrom false rest

/-- `text.replace(/\s+/g, ' ')`. -/
def collapse (text : Utf16) : Utf16 := collapseFrom false text

section Cleaning

variable (text : Utf16)

theorem lineFeed_not_mem_collapse : lineFeed ∉ collapse text := by
  unfold collapse
  generalize false = inRun
  induction text generalizing inRun with
  | nil => exact List.not_mem_nil
  | cons unit rest ih =>
      rw [collapseFrom]
      split
      next =>
        split
        · exact ih true
        · exact List.not_mem_cons_of_ne_of_not_mem (by decide) (ih true)
      next visible =>
        refine List.not_mem_cons_of_ne_of_not_mem ?_ (ih false)
        rintro rfl
        exact visible (by decide)

theorem trim_sublist : (trim text).Sublist text :=
  (List.rdropWhile_prefix _ _).sublist.trans (List.dropWhile_sublist _)

theorem lineFeed_not_mem_trim (absent : lineFeed ∉ text) : lineFeed ∉ trim text :=
  fun member => absent ((trim_sublist text).subset member)

theorem dropWhile_trim : (trim text).dropWhile whitespace = trim text := by
  obtain ⟨tail, whole⟩ := List.rdropWhile_prefix whitespace (text.dropWhile whitespace)
  change trim text ++ tail = _ at whole
  cases kept : trim text with
  | nil => rfl
  | cons unit rest =>
      refine List.dropWhile_cons_of_neg fun white => ?_
      rw [kept, List.cons_append] at whole
      have again := List.dropWhile_idempotent whitespace text
      rw [← whole, List.dropWhile_cons_of_pos white] at again
      have shorter := (List.dropWhile_sublist whitespace (l := rest ++ tail)).length_le
      rw [again, List.length_cons] at shorter
      omega

@[simp] theorem trim_trim : trim (trim text) = trim text := by
  rw [trim, dropWhile_trim]
  exact List.rdropWhile_idempotent _ _

end Cleaning

def codePoints : Utf16 → List ℕ
  | [] => []
  | [unit] => [unit.toNat]
  | high :: low :: rest =>
      if highSurrogate high && lowSurrogate low then
        (0x10000 + (high.toNat - 0xD800) * 0x400 + (low.toNat - 0xDC00)) :: codePoints rest
      else high.toNat :: codePoints (low :: rest)

section Points

theorem codePoints_cons (unit : UInt16) (rest : Utf16) (plain : highSurrogate unit = false) :
    codePoints (unit :: rest) = unit.toNat :: codePoints rest := by
  cases rest with
  | nil => rfl
  | cons next rest => rw [codePoints, plain, Bool.false_and, if_neg Bool.false_ne_true]

theorem codePoints_pair (high low : UInt16) (rest : Utf16) (first : highSurrogate high = true)
    (second : lowSurrogate low = true) :
    codePoints (high :: low :: rest) =
      (0x10000 + (high.toNat - 0xD800) * 0x400 + (low.toNat - 0xDC00)) :: codePoints rest := by
  rw [codePoints, first, second]
  rfl

theorem highBounds : (0xD800 : UInt16).toNat = 0xD800 ∧ (0xDBFF : UInt16).toNat = 0xDBFF := by
  decide

theorem lowBounds : (0xDC00 : UInt16).toNat = 0xDC00 ∧ (0xDFFF : UInt16).toNat = 0xDFFF := by
  decide

theorem codePoints_units (text : String) :
    codePoints (units text) = text.toList.map Char.toNat := by
  unfold units codeUnits
  induction text.toList with
  | nil => rfl
  | cons char rest ih =>
      have valid := char.valid
      rw [List.flatMap_cons, List.map_append, List.map_cons]
      split
      · rename_i small
        have same : (UInt16.ofNat char.toNat).toNat = char.toNat := by
          rw [UInt16.toNat_ofNat', Nat.mod_eq_of_lt (by omega)]
        have plain : highSurrogate (UInt16.ofNat char.toNat) = false := by
          unfold highSurrogate
          rw [Bool.and_eq_false_iff, decide_eq_false_iff_not, decide_eq_false_iff_not,
            UInt16.le_iff_toNat_le, UInt16.le_iff_toNat_le, same]
          have bounds : char.toNat < 0xD800 ∨ 0xDFFF < char.toNat := by
            rcases valid with low | ⟨high, _⟩
            · exact Or.inl low
            · exact Or.inr high
          rw [highBounds.1, highBounds.2]
          omega
        rw [List.map_singleton, List.singleton_append, codePoints_cons _ _ plain, same, ih]
      · rename_i large
        have bound : char.toNat < 0x110000 := by
          rcases valid with low | ⟨_, high⟩
          · exact Nat.lt_trans low (by decide)
          · exact high
        have first : (UInt16.ofNat (0xD800 + (char.toNat - 0x10000) / 0x400)).toNat =
            0xD800 + (char.toNat - 0x10000) / 0x400 := by
          rw [UInt16.toNat_ofNat', Nat.mod_eq_of_lt (by omega)]
        have second : (UInt16.ofNat (0xDC00 + (char.toNat - 0x10000) % 0x400)).toNat =
            0xDC00 + (char.toNat - 0x10000) % 0x400 := by
          rw [UInt16.toNat_ofNat', Nat.mod_eq_of_lt (by omega)]
        have value : 0x10000 + (0xD800 + (char.toNat - 0x10000) / 0x400 - 0xD800) * 0x400 +
            (0xDC00 + (char.toNat - 0x10000) % 0x400 - 0xDC00) = char.toNat := by
          omega
        rw [List.map_cons, List.map_singleton, List.cons_append, List.singleton_append,
          codePoints_pair, first, second, ih, value]
        · unfold highSurrogate
          rw [Bool.and_eq_true, decide_eq_true_iff, decide_eq_true_iff, UInt16.le_iff_toNat_le,
            UInt16.le_iff_toNat_le, first]
          rw [highBounds.1, highBounds.2]
          omega
        · unfold lowSurrogate
          rw [Bool.and_eq_true, decide_eq_true_iff, decide_eq_true_iff, UInt16.le_iff_toNat_le,
            UInt16.le_iff_toNat_le, second]
          rw [lowBounds.1, lowBounds.2]
          omega

theorem units_injective : Function.Injective units := by
  intro left right same
  have points := congrArg codePoints same
  rw [codePoints_units, codePoints_units] at points
  have chars : Function.Injective Char.toNat := fun left right same =>
    Char.ext (UInt32.toNat_inj.mp same)
  exact String.toList_inj.mp (List.map_injective_iff.mpr chars points)

end Points

def pointUnits (point : ℕ) : Utf16 :=
  if point < 0x10000 then [UInt16.ofNat point]
  else [UInt16.ofNat (0xD800 + (point - 0x10000) / 0x400 % 0x400),
    UInt16.ofNat (0xDC00 + (point - 0x10000) % 0x400)]

/-- What the Unicode tables tell `toLowerCase` of a code point: its lower case, and
the two properties that decide between the forms of a final sigma. -/
structure UnicodeCase where
  lowercase : ℕ → List ℕ
  cased : ℕ → Bool
  caseIgnorable : ℕ → Bool
  /-- Only the line feed is lowered to one. -/
  feeds : ∀ point, 0x0A ∈ lowercase point → point = 0x0A

namespace UnicodeCase

variable (unicode : UnicodeCase)

/-- Past case-ignorable points there is a cased one. -/
def meetsCased : List ℕ → Bool
  | [] => false
  | point :: rest => unicode.cased point || (unicode.caseIgnorable point && meetsCased rest)

/-- `before` is what precedes, the nearest point first. -/
def lowerFrom (before : List ℕ) : List ℕ → List ℕ
  | [] => []
  | point :: rest =>
      (if point = 0x3A3 && unicode.meetsCased before && !unicode.meetsCased rest then [0x3C2]
        else unicode.lowercase point) ++ lowerFrom (point :: before) rest

def toLowerCase (text : Utf16) : Utf16 := (unicode.lowerFrom [] (codePoints text)).flatMap pointUnits

theorem lineFeed_of_toNat (unit : UInt16) (same : 0x0A = unit.toNat) : unit = lineFeed :=
  UInt16.toNat_inj.mp same.symm

theorem lineFeed_mem_codePoints (text : Utf16) (member : 0x0A ∈ codePoints text) :
    lineFeed ∈ text := by
  fun_induction codePoints text with
  | case1 => cases member
  | case2 unit =>
      rw [lineFeed_of_toNat unit (List.mem_singleton.mp member)]
      exact List.mem_singleton_self _
  | case3 high low rest pair ih =>
      rcases List.mem_cons.mp member with point | later
      · omega
      · exact List.mem_cons_of_mem _ (List.mem_cons_of_mem _ (ih later))
  | case4 high low rest alone ih =>
      rcases List.mem_cons.mp member with first | later
      · rw [lineFeed_of_toNat high first]
        exact List.mem_cons_self
      · exact List.mem_cons_of_mem _ (ih later)

theorem lineFeed_mem_pointUnits (point : ℕ) (member : lineFeed ∈ pointUnits point) :
    point = 0x0A := by
  have small : ∀ value < 0x10000, lineFeed = UInt16.ofNat value → value = 0x0A := by
    intro value bound same
    have numbers := congrArg UInt16.toNat same
    rw [UInt16.toNat_ofNat_of_lt' bound] at numbers
    exact numbers.symm
  unfold pointUnits at member
  split at member
  next bound => exact small point bound (List.mem_singleton.mp member)
  next =>
    rcases List.mem_cons.mp member with high | low
    · have := small _ (by omega) high
      omega
    · have := small _ (by omega) (List.mem_singleton.mp low)
      omega

theorem lineFeed_mem_lowerFrom (before points : List ℕ)
    (member : 0x0A ∈ unicode.lowerFrom before points) : 0x0A ∈ points := by
  induction points generalizing before with
  | nil => exact member
  | cons point rest ih =>
      rw [lowerFrom, List.mem_append] at member
      rcases member with first | later
      · split at first
        · cases List.mem_singleton.mp first
        · exact List.mem_cons.mpr (Or.inl (unicode.feeds point first).symm)
      · exact List.mem_cons_of_mem _ (ih _ later)

theorem lineFeed_not_mem_toLowerCase (text : Utf16) (absent : lineFeed ∉ text) :
    lineFeed ∉ unicode.toLowerCase text := by
  intro member
  obtain ⟨point, among, unit⟩ := List.mem_flatMap.mp member
  rw [lineFeed_mem_pointUnits point unit] at among
  exact absent (lineFeed_mem_codePoints text (unicode.lineFeed_mem_lowerFrom [] _ among))

/-- The tables on the ASCII characters; the others are left as they are. -/
def ascii : UnicodeCase where
  lowercase := fun point => [if 0x41 ≤ point ∧ point ≤ 0x5A then point + 0x20 else point]
  cased := fun point => (0x41 ≤ point && point ≤ 0x5A) || (0x61 ≤ point && point ≤ 0x7A)
  caseIgnorable := fun point => point ∈ [0x27, 0x2E, 0x3A, 0x5E, 0x60]
  feeds := by
    intro point member
    have same := List.mem_singleton.mp member
    split at same <;> omega

end UnicodeCase

section Lines

variable (separator : UInt16)

theorem line_split (line other rest more : Utf16) (clean : separator ∉ line)
    (plain : separator ∉ other) (same : line ++ separator :: rest = other ++ separator :: more) :
    line = other ∧ rest = more := by
  rcases List.append_eq_append_iff.mp same with ⟨middle, longer, tail⟩ | ⟨middle, longer, tail⟩
  · cases middle with
    | nil => exact ⟨by simpa using longer.symm, (List.cons.inj tail).2⟩
    | cons unit others =>
        obtain ⟨rfl, _⟩ := List.cons.inj tail
        exact absurd (by simp [longer]) plain
  · cases middle with
    | nil => exact ⟨by simpa using longer, (List.cons.inj tail).2.symm⟩
    | cons unit others =>
        obtain ⟨rfl, _⟩ := List.cons.inj tail
        exact absurd (by simp [longer]) clean

theorem join_cons (line : Utf16) (rest : List Utf16) (more : rest ≠ []) :
    join [separator] (line :: rest) = line ++ separator :: join [separator] rest := by
  obtain ⟨next, others, rfl⟩ := List.exists_cons_of_ne_nil more
  simp [join, List.intercalate]

theorem marked_ne_line (marker text line rest : Utf16) (plain : separator ∉ marker)
    (unmarked : ¬ marker <+: line) : marker ++ text ≠ line ++ separator :: rest := by
  intro same
  have whole : marker <+: line ++ separator :: rest := by
    rw [← same]
    exact List.prefix_append _ _
  rcases Nat.lt_or_ge line.length marker.length with longer | shorter
  · have within : line ++ [separator] <+: marker := by
      have head : line ++ [separator] <+: line ++ separator :: rest := ⟨rest, by simp⟩
      have fits : (line ++ [separator]).length ≤ marker.length := by
        simpa [Nat.succ_le_iff] using longer
      exact List.prefix_of_prefix_length_le head whole fits
    exact plain (within.subset (by simp))
  · exact unmarked (List.prefix_of_prefix_length_le whole (List.prefix_append _ _) shorter)

/-- Lines can be read back from the joined text, and what follows the marker too. -/
theorem join_marked_inj (marker : Utf16) (lines others : List Utf16) (text final : Utf16)
    (plain : separator ∉ marker)
    (each : ∀ line ∈ lines, separator ∉ line ∧ ¬ marker <+: line)
    (every : ∀ line ∈ others, separator ∉ line ∧ ¬ marker <+: line) :
    join [separator] (lines ++ [marker ++ text]) = join [separator] (others ++ [marker ++ final]) ↔
      lines = others ∧ text = final := by
  have alone : ∀ last : Utf16, join [separator] [last] = last := by
    intro last
    simp [join, List.intercalate]
  constructor
  · intro same
    induction lines generalizing others with
    | nil =>
        cases others with
        | nil =>
            rw [List.nil_append, List.nil_append, alone, alone] at same
            exact ⟨rfl, List.append_cancel_left same⟩
        | cons line rest =>
            rw [List.nil_append, alone, List.cons_append, join_cons _ _ _ (by simp)] at same
            exact absurd same
              (marked_ne_line _ _ _ _ _ plain (every line List.mem_cons_self).2)
    | cons first rest ih =>
        obtain ⟨clean, unmarked⟩ := each first List.mem_cons_self
        rw [List.cons_append, join_cons _ _ _ (by simp)] at same
        cases others with
        | nil =>
            rw [List.nil_append, alone] at same
            exact absurd same.symm (marked_ne_line _ _ _ _ _ plain unmarked)
        | cons line remaining =>
            rw [List.cons_append, join_cons _ _ _ (by simp)] at same
            obtain ⟨rfl, tail⟩ :=
              line_split _ _ _ _ _ clean (every line List.mem_cons_self).1 same
            obtain ⟨rfl, closing⟩ := ih remaining
              (fun line member => each line (List.mem_cons_of_mem _ member))
              (fun line member => every line (List.mem_cons_of_mem _ member)) tail
            exact ⟨rfl, closing⟩
  · rintro ⟨rfl, rfl⟩
    rfl

end Lines

end Js
