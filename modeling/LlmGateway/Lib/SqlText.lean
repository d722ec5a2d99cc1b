import LlmGateway.Lib.Numerals

/-!
SQL text read unit by unit. A string literal holds what stands between its quotes,
with each doubled quote for one; a NUL ends the text for SQLite and is refused.
Refused as well is what no statement read here needs: quoted names, blobs,
parameters and the operators but `=` and the minus sign.
-/

namespace Sql

open Js

inductive Keyword where
  | insert
  | into
  | values
  | update
  | set
  | «where»
  | null
  deriving DecidableEq, Repr

inductive Token where
  | keyword (word : Keyword)
  | name (word : Utf16)
  | text (value : Utf16)
  | number (printed : Utf16)
  | leftParen
  | rightParen
  | comma
  | equals
  | minus
  | semicolon
  deriving DecidableEq, Repr

/-- How far a numeral is read: `12`, `12.5`, and the parts of `12.5e+3`. -/
inductive Stage where
  | whole
  | fraction
  | mark
  | sign
  | exponent
  deriving DecidableEq, Repr

/-- What the units read so far may still become. -/
inductive State where
  | between
  | word (read : Utf16)
  | numeral (stage : Stage) (read : Utf16)
  | literal (read : Utf16)
  /-- In a literal after a quote, which ends it unless another one follows. -/
  | closing (read : Utf16)
  | dash
  | lineComment
  | slash
  | blockComment
  | star
  deriving DecidableEq, Repr

section Units

def apostrophe : UInt16 := 0x27

def point : UInt16 := 0x2E

def isSpace (unit : UInt16) : Bool :=
  unit == 0x20 || unit == 0x09 || unit == 0x0A || unit == 0x0C || unit == 0x0D

def isLower (unit : UInt16) : Bool := 0x61 ≤ unit && unit ≤ 0x7A

/-- Letters, the underscore and all that is not ASCII. -/
def startsWord (unit : UInt16) : Bool :=
  isLower unit || (0x41 ≤ unit && unit ≤ 0x5A) || unit == 0x5F || 0x80 ≤ unit

def inWord (unit : UInt16) : Bool := startsWord unit || decimalDigit unit || unit == 0x24

def upper (word : Utf16) : Utf16 := word.map fun unit => if isLower unit then unit - 0x20 else unit

def keywords : List (Utf16 × Keyword) :=
  [(units "INSERT", .insert), (units "INTO", .into), (units "VALUES", .values),
    (units "UPDATE", .update), (units "SET", .set), (units "WHERE", .where), (units "NULL", .null)]

/-- Keywords are the same in either case. -/
def wordToken (word : Utf16) : Token :=
  match keywords.lookup (upper word) with
  | some keyword => .keyword keyword
  | none => .name word

end Units

section Lexer

def start (unit : UInt16) : Option (List Token × State) :=
  if isSpace unit then some ([], .between)
  else if unit = apostrophe then some ([], .literal [])
  else if startsWord unit then some ([], .word [unit])
  else if decimalDigit unit then some ([], .numeral .whole [unit])
  else if unit = 0x28 then some ([.leftParen], .between)
  else if unit = 0x29 then some ([.rightParen], .between)
  else if unit = 0x2C then some ([.comma], .between)
  else if unit = 0x3D then some ([.equals], .between)
  else if unit = 0x3B then some ([.semicolon], .between)
  else if unit = 0x2D then some ([], .dash)
  else if unit = 0x2F then some ([], .slash)
  else none

def Stage.complete : Stage → Bool
  | .whole | .fraction | .exponent => true
  | .mark | .sign => false

def Stage.next (stage : Stage) (unit : UInt16) : Option Stage :=
  let isMark := unit = 0x65 ∨ unit = 0x45
  match stage with
  | .whole =>
      if decimalDigit unit then some .whole
      else if unit = point then some .fraction
      else if isMark then some .mark
      else none
  | .fraction => if decimalDigit unit then some .fraction else if isMark then some .mark else none
  | .mark =>
      if decimalDigit unit then some .exponent
      else if unit = 0x2B ∨ unit = 0x2D then some .sign
      else none
  | .sign => if decimalDigit unit then some .exponent else none
  | .exponent => if decimalDigit unit then some .exponent else none

/-- A token that ends where the next one starts. -/
def ends (token : Token) (reading : Option (List Token × State)) : Option (List Token × State) :=
  reading.map fun (later, state) => (token :: later, state)

def step : State → UInt16 → Option (List Token × State)
  | .between, unit => start unit
  | .word read, unit =>
      if inWord unit then some ([], .word (read ++ [unit]))
      else if unit = apostrophe then none
      else ends (wordToken read) (start unit)
  | .numeral stage read, unit =>
      match stage.next unit with
      | some stage => some ([], .numeral stage (read ++ [unit]))
      | none =>
          if stage.complete && !inWord unit then ends (.number read) (start unit) else none
  | .literal read, unit =>
      if unit = apostrophe then some ([], .closing read)
      else if unit = 0 then none
      else some ([], .literal (read ++ [unit]))
  | .closing read, unit =>
      if unit = apostrophe then some ([], .literal (read ++ [apostrophe]))
      else ends (.text read) (start unit)
  | .dash, unit => if unit = 0x2D then some ([], .lineComment) else ends .minus (start unit)
  | .lineComment, unit =>
      if unit = 0 then none
      else if unit = 0x0A then some ([], .between)
      else some ([], .lineComment)
  | .slash, unit => if unit = 0x2A then some ([], .blockComment) else none
  | .blockComment, unit =>
      if unit = 0 then none
      else if unit = 0x2A then some ([], .star)
      else some ([], .blockComment)
  | .star, unit =>
      if unit = 0 then none
      else if unit = 0x2F then some ([], .between)
      else if unit = 0x2A then some ([], .star)
      else some ([], .blockComment)

def scan : State → Utf16 → Option (List Token × State)
  | state, [] => some ([], state)
  | state, unit :: rest =>
      (step state unit).bind fun (now, next) =>
        (scan next rest).map fun (later, last) => (now ++ later, last)

/-- The end of the text ends a token, but no literal. A block comment may be open. -/
def finish : State → Option (List Token)
  | .between | .lineComment | .blockComment | .star => some []
  | .word read => some [wordToken read]
  | .numeral stage read => if stage.complete then some [.number read] else none
  | .closing read => some [.text read]
  | .dash => some [.minus]
  | .literal _ | .slash => none

def lexFrom (state : State) (text : Utf16) : Option (List Token) :=
  (scan state text).bind fun (tokens, last) => (finish last).map (tokens ++ ·)

def lex (text : Utf16) : Option (List Token) := lexFrom .between text

end Lexer

section Statements

inductive Operand where
  | text (value : Utf16)
  | number (negative : Bool) (printed : Utf16)
  | name (negative : Bool) (word : Utf16)
  | null
  deriving DecidableEq, Repr

/-- An `INSERT` of one row and an `UPDATE` of the rows that have a value. -/
inductive Statement where
  | insert (table : Utf16) (row : List (Utf16 × Operand))
  | update (table : Utf16) (assigned : List (Utf16 × Operand)) (condition : Utf16 × Operand)
  deriving DecidableEq, Repr

def operand : List Token → Option Operand
  | [.text value] => some (.text value)
  | [.number printed] => some (.number false printed)
  | [.minus, .number printed] => some (.number true printed)
  | [.name word] => some (.name false word)
  | [.minus, .name word] => some (.name true word)
  | [.keyword .null] => some .null
  | _ => none

def column : List Token → Option Utf16
  | [.name word] => some word
  | _ => none

def assignment : List Token → Option (Utf16 × Operand)
  | .name word :: .equals :: value => (operand value).map fun value => (word, value)
  | _ => none

def listUpTo {Item : Type} (token : Token) (item : List Token → Option Item)
    (tokens : List Token) : Option (List Item × List Token) :=
  match tokens.span (· ≠ token) with
  | (_, []) => none
  | (items, _ :: rest) => ((items.splitOn .comma).mapM item).map fun items => (items, rest)

def statement : List Token → Option Statement
  | .keyword .insert :: .keyword .into :: .name table :: .leftParen :: tokens => do
      let (columns, tokens) ← listUpTo .rightParen column tokens
      match tokens with
      | .keyword .values :: .leftParen :: tokens => do
          let (values, rest) ← listUpTo .rightParen operand tokens
          if rest = [] ∧ columns.length = values.length then
            some (.insert table (columns.zip values))
          else none
      | _ => none
  | .keyword .update :: .name table :: .keyword .set :: tokens => do
      let (assigned, tokens) ← listUpTo (.keyword .where) assignment tokens
      let condition ← assignment tokens
      some (.update table assigned condition)
  | _ => none

/-- The statements between the semicolons, empty ones left out. -/
def statements (tokens : List Token) : Option (List Statement) :=
  ((tokens.splitOn .semicolon).filter fun piece => piece ≠ []).mapM statement

def read (text : Utf16) : Option (List Statement) := (lex text).bind statements

end Statements

/-- A doubled quote stays in its literal; a single one lets a second statement in. -/
example : read (units "UPDATE t SET a = 'it''s' WHERE b = ''; UPDATE t SET c = -1 WHERE d = NULL") =
    some [.update (units "t") [(units "a", .text (units "it's"))] (units "b", .text []),
      .update (units "t") [(units "c", .number true (units "1"))] (units "d", .null)] := by
  decide +kernel

section Composition

variable (state next : State) (text rest : Utf16) (tokens : List Token)

theorem scan_append (read : scan state text = some (tokens, next)) :
    scan state (text ++ rest) =
      (scan next rest).map fun (later, last) => (tokens ++ later, last) := by
  induction text generalizing state tokens with
  | nil =>
      cases read
      simp
  | cons unit text ih =>
      obtain ⟨⟨now, middle⟩, stepped, read⟩ := Option.bind_eq_some_iff.mp read
      obtain ⟨⟨later, last⟩, scanned, same⟩ := Option.map_eq_some_iff.mp read
      cases same
      rw [List.cons_append, scan, stepped, Option.bind_some]
      dsimp only
      rw [ih middle later scanned, Option.map_map]
      simp only [Function.comp_def, List.append_assoc]

theorem lexFrom_append (read : scan state text = some (tokens, next)) :
    lexFrom state (text ++ rest) = (lexFrom next rest).map (tokens ++ ·) := by
  unfold lexFrom
  rw [scan_append state next text rest tokens read, Option.bind_map, Option.map_bind]
  refine Option.bind_congr fun reading _ => ?_
  rw [Function.comp_apply, Function.comp_apply, Option.map_map]
  exact congrArg (Option.map · _) (funext fun later => List.append_assoc tokens _ later)

theorem lexFrom_ends (token : Token) (last : finish state = some [token])
    (apart : ∀ unit ∈ rest.head?, step state unit = ends token (start unit)) :
    lexFrom state rest = (lexFrom .between rest).map (token :: ·) := by
  cases rest with
  | nil =>
      change (finish state).map (List.append []) = (some [token])
      rw [last]
      rfl
  | cons unit rest =>
      have stepped : step state unit = ends token (start unit) := apart unit rfl
      unfold lexFrom
      simp only [scan, stepped, ends]
      change _ = Option.map _ (((start unit).bind _).bind _)
      cases start unit with
      | none => rfl
      | some reading =>
          simp only [Option.map_some, Option.bind_some]
          cases scan reading.2 rest with
          | none => rfl
          | some scanned => simp [Option.map_map, Function.comp_def]

end Composition

theorem scan_trans {state next last : State} {text rest : Utf16} {tokens later : List Token}
    (read : scan state text = some (tokens, next)) (readOn : scan next rest = some (later, last)) :
    scan state (text ++ rest) = some (tokens ++ later, last) := by
  rw [scan_append state next text rest tokens read, readOn]
  rfl

section Literals

/-- A value as it stands in a literal: each quote twice. -/
def doubled (value : Utf16) : Utf16 :=
  value.flatMap fun unit => if unit = apostrophe then [apostrophe, apostrophe] else [unit]

variable (value : Utf16)

theorem scan_doubled (read : Utf16) (clean : 0 ∉ value) :
    scan (.literal read) (doubled value) = some ([], .literal (read ++ value)) := by
  induction value generalizing read with
  | nil => simp [doubled, scan]
  | cons unit value ih =>
      have visible := List.ne_of_not_mem_cons clean
      have later := ih (read ++ [unit]) (List.not_mem_of_not_mem_cons clean)
      rw [List.append_assoc, List.singleton_append] at later
      unfold doubled at later ⊢
      rw [List.flatMap_cons]
      by_cases isQuote : unit = apostrophe
      · subst isQuote
        rw [if_pos rfl]
        simp only [List.cons_append, List.nil_append, scan, step, ↓reduceIte, Option.bind_some,
          later, Option.map_some]
      · rw [if_neg isQuote]
        simp only [List.cons_append, List.nil_append, scan, step, isQuote, visible.symm,
          ↓reduceIte, Option.bind_some, later, Option.map_some]

/-- A value between quotes is one token with that value, whatever is in it. What
follows the second quote shows that it ends the literal. -/
theorem scan_literal (after : Utf16) (tokens : List Token) (next : State) (clean : 0 ∉ value)
    (ended : scan (.literal value) after = some (tokens, next)) :
    scan (.literal []) (doubled value ++ after) = some (tokens, next) :=
  scan_trans (scan_doubled value [] clean) ended

end Literals

section Numerals

/-- A numeral as JavaScript prints one without its sign: the fraction may be
empty, and an exponent has a sign of its own. -/
structure Numeral where
  whole : List (Fin 10)
  fraction : List (Fin 10)
  exponent : Option (Bool × List (Fin 10))
  whole_occupied : whole ≠ []
  exponent_occupied : ∀ written ∈ exponent, written.2 ≠ []

def fractionText : List (Fin 10) → Utf16
  | [] => []
  | values => point :: digits values

def exponentSign (negative : Bool) : UInt16 := if negative then 0x2D else 0x2B

def exponentText : Option (Bool × List (Fin 10)) → Utf16
  | none => []
  | some (negative, values) => 0x65 :: exponentSign negative :: digits values

def Numeral.text (numeral : Numeral) : Utf16 :=
  digits numeral.whole ++ (fractionText numeral.fraction ++ exponentText numeral.exponent)

theorem start_digit : ∀ value : Fin 10,
    start (digit value) = some ([], .numeral .whole [digit value]) := by decide

theorem next_digit (stage : Stage) (complete : stage.complete = true) (value : Fin 10) :
    stage.next (digit value) = some stage := by
  cases stage with
  | whole => exact if_pos ((digit_plain value).2.1)
  | fraction => exact if_pos ((digit_plain value).2.1)
  | exponent => exact if_pos ((digit_plain value).2.1)
  | mark => cases complete
  | sign => cases complete

theorem next_eq_none (stage : Stage) (complete : stage.complete = true) (unit : UInt16)
    (outside : inWord unit = false) (other : unit ≠ point) : stage.next unit = none := by
  have noDigit : decimalDigit unit = false := by
    simp only [inWord, Bool.or_eq_false_iff] at outside
    exact outside.1.2
  have noMark : ¬(unit = 0x65 ∨ unit = 0x45) := by
    rintro (rfl | rfl) <;> exact absurd outside (by decide)
  cases stage with
  | whole => simp [Stage.next, noDigit, other, noMark]
  | fraction => simp [Stage.next, noDigit, noMark]
  | exponent => simp [Stage.next, noDigit]
  | mark => cases complete
  | sign => cases complete

theorem step_numeral {stage last : Stage} {unit : UInt16} (read : Utf16)
    (goesOn : stage.next unit = some last) :
    step (.numeral stage read) unit = some ([], .numeral last (read ++ [unit])) := by
  simp only [step, goesOn]

theorem scan_digits (stage : Stage) (complete : stage.complete = true) (read : Utf16)
    (values : List (Fin 10)) :
    scan (.numeral stage read) (digits values) =
      some ([], .numeral stage (read ++ digits values)) := by
  unfold digits
  induction values generalizing read with
  | nil => simp [scan]
  | cons value values ih =>
      rw [List.map_cons, scan, step_numeral read (next_digit stage complete value),
        Option.bind_some]
      dsimp only
      rw [ih, Option.map_some, List.append_assoc, List.singleton_append, List.nil_append]

theorem scan_whole (values : List (Fin 10)) (occupied : values ≠ []) :
    scan .between (digits values) = some ([], .numeral .whole (digits values)) := by
  obtain ⟨value, rest, rfl⟩ := List.exists_cons_of_ne_nil occupied
  have later := scan_digits .whole rfl [digit value] rest
  unfold digits at later ⊢
  rw [List.map_cons, scan, step, start_digit, Option.bind_some]
  dsimp only
  rw [later]
  rfl

theorem scan_fraction (read : Utf16) (values : List (Fin 10)) :
    ∃ stage, (stage = .whole ∨ stage = .fraction) ∧
      scan (.numeral .whole read) (fractionText values) =
        some ([], .numeral stage (read ++ fractionText values)) := by
  rcases values with _ | ⟨value, values⟩
  · exact ⟨.whole, Or.inl rfl, by simp [fractionText, scan]⟩
  · have pointed : scan (.numeral .whole read) [point] =
        some ([], .numeral .fraction (read ++ [point])) := rfl
    have later := scan_trans pointed (scan_digits .fraction rfl _ (value :: values))
    rw [List.append_assoc] at later
    exact ⟨.fraction, Or.inr rfl, later⟩

theorem scan_exponent (stage : Stage) (early : stage = .whole ∨ stage = .fraction) (read : Utf16)
    (exponent : Option (Bool × List (Fin 10))) (occupied : ∀ written ∈ exponent, written.2 ≠ []) :
    ∃ last : Stage, last.complete = true ∧
      scan (.numeral stage read) (exponentText exponent) =
        some ([], .numeral last (read ++ exponentText exponent)) := by
  rcases exponent with _ | ⟨negative, values⟩
  · refine ⟨stage, ?_, by simp [exponentText, scan]⟩
    rcases early with rfl | rfl <;> rfl
  · obtain ⟨value, rest, rfl⟩ : ∃ value rest, values = value :: rest :=
      List.exists_cons_of_ne_nil (occupied _ rfl)
    have marked : stage.next 0x65 = some .mark := by
      rcases early with rfl | rfl <;> rfl
    have signed : Stage.mark.next (exponentSign negative) = some .sign := by
      cases negative <;> rfl
    have begun : Stage.sign.next (digit value) = some .exponent := if_pos ((digit_plain value).2.1)
    have opened : scan (.numeral stage read) [0x65, exponentSign negative, digit value] =
        some ([], .numeral .exponent (read ++ [0x65, exponentSign negative, digit value])) := by
      simp [scan, step_numeral _ marked, step_numeral _ signed, step_numeral _ begun]
    have later := scan_trans opened (scan_digits .exponent rfl _ rest)
    rw [List.append_assoc] at later
    exact ⟨.exponent, rfl, later⟩

theorem scan_numeral (numeral : Numeral) :
    ∃ stage : Stage, stage.complete = true ∧
      scan .between numeral.text = some ([], .numeral stage numeral.text) := by
  have whole := scan_whole numeral.whole numeral.whole_occupied
  obtain ⟨stage, early, fraction⟩ := scan_fraction (digits numeral.whole) numeral.fraction
  obtain ⟨last, complete, exponent⟩ :=
    scan_exponent stage early (digits numeral.whole ++ fractionText numeral.fraction)
      numeral.exponent numeral.exponent_occupied
  refine ⟨last, complete, ?_⟩
  unfold Numeral.text
  have scanned := scan_trans whole (scan_trans fraction exponent)
  rw [List.append_assoc] at scanned
  exact scanned

theorem lexFrom_numeral (numeral : Numeral) (rest : Utf16)
    (apart : ∀ unit ∈ rest.head?, inWord unit = false ∧ unit ≠ point) :
    lexFrom .between (numeral.text ++ rest) =
      (lexFrom .between rest).map (Token.number numeral.text :: ·) := by
  obtain ⟨stage, complete, scanned⟩ := scan_numeral numeral
  rw [lexFrom_append _ _ _ _ _ scanned,
    lexFrom_ends (.numeral stage numeral.text) rest (.number numeral.text) (if_pos complete),
    Option.map_map]
  · rfl
  · intro unit first
    obtain ⟨outside, other⟩ := apart unit first
    simp [step, next_eq_none stage complete unit outside other, complete, outside]

theorem Numeral.head?_text (numeral : Numeral) :
    ∃ value, numeral.text.head? = some (digit value) := by
  obtain ⟨value, rest, whole⟩ := List.exists_cons_of_ne_nil numeral.whole_occupied
  refine ⟨value, ?_⟩
  unfold Numeral.text
  rw [whole]
  rfl

theorem lexFrom_minus (rest : Utf16) (apart : rest.head? ≠ some 0x2D) :
    lexFrom .between (0x2D :: rest) = (lexFrom .between rest).map (Token.minus :: ·) := by
  have dashed : scan .between [0x2D] = some ([], .dash) := rfl
  have later := lexFrom_append _ _ [0x2D] rest _ dashed
  rw [List.singleton_append] at later
  have ended := lexFrom_ends .dash rest .minus rfl fun unit first => by
    refine if_neg fun isDash => apart ?_
    rw [← isDash]
    exact first
  rw [later, ended, Option.map_map]
  rfl

end Numerals

end Sql
