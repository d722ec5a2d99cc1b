import LlmGateway.Lib.SqlText

/-!
The statements that `admin-reset-cli` prints for an operator to paste: values in
single quotes with their own quotes doubled, and the rate limit as the number
prints.
-/

namespace LlmGateway.Admin

open Js Sql

/-- `s.replace(/'/g, "''")`. -/
def sqlQuote (s : Utf16) : Utf16 :=
  s.flatMap fun unit => if unit = apostrophe then [apostrophe, apostrophe] else [unit]

/-- A number of the runtime, as far as `String` tells it. -/
inductive Number where
  | nan
  | infinity (negative : Bool)
  | finite (negative : Bool) (printed : Numeral)

def signText (negative : Bool) : Utf16 := if negative then [0x2D] else []

def Number.text : Number → Utf16
  | .nan => units "NaN"
  | .infinity negative => signText negative ++ units "Infinity"
  | .finite negative printed => signText negative ++ printed.text

structure ResetOptions where
  clientId : Utf16
  stored : Utf16
  keyPrefix : Utf16

structure CreateOptions where
  id : Utf16
  name : Utf16
  scopes : Utf16
  rpm : Number
  stored : Utf16
  keyPrefix : Utf16

def buildResetSql (opts : ResetOptions) : Utf16 :=
  units "UPDATE clients SET " ++
  (units "api_key_hash = '" ++ sqlQuote opts.stored ++ units "', ") ++
  (units "api_key_prefix = '" ++ sqlQuote opts.keyPrefix ++ units "', ") ++
  units "last_used_at = NULL " ++
  (units "WHERE id = '" ++ sqlQuote opts.clientId ++ units "'")

def buildCreateSql (opts : CreateOptions) : Utf16 :=
  units ("INSERT INTO clients " ++
    "(id, name, api_key_hash, api_key_prefix, scopes, rate_limit_rpm) VALUES (") ++
  (units "'" ++ sqlQuote opts.id ++ units "', ") ++
  (units "'" ++ sqlQuote opts.name ++ units "', ") ++
  (units "'" ++ sqlQuote opts.stored ++ units "', ") ++
  (units "'" ++ sqlQuote opts.keyPrefix ++ units "', ") ++
  (units "'" ++ sqlQuote opts.scopes ++ units "', ") ++
  opts.rpm.text ++
  units ")"

def Number.operand : Number → Operand
  | .nan => .name false (units "NaN")
  | .infinity negative => .name negative (units "Infinity")
  | .finite negative printed => .number negative printed.text

def signTokens (negative : Bool) : List Token := if negative then [.minus] else []

def Number.tokens : Number → List Token
  | .nan => [.name (units "NaN")]
  | .infinity negative => signTokens negative ++ [.name (units "Infinity")]
  | .finite negative printed => signTokens negative ++ [.number printed.text]

def insertTokens : List Token :=
  [.keyword .insert, .keyword .into, .name (units "clients"), .leftParen,
    .name (units "id"), .comma, .name (units "name"), .comma,
    .name (units "api_key_hash"), .comma, .name (units "api_key_prefix"), .comma,
    .name (units "scopes"), .comma, .name (units "rate_limit_rpm"), .rightParen,
    .keyword .values, .leftParen]

def createTokens (opts : CreateOptions) : List Token :=
  insertTokens ++
    [.text opts.id, .comma, .text opts.name, .comma, .text opts.stored, .comma,
      .text opts.keyPrefix, .comma, .text opts.scopes, .comma] ++
    (opts.rpm.tokens ++ [.rightParen])

section Reading

theorem sqlQuote_eq (s : Utf16) : sqlQuote s = doubled s := rfl

theorem scan_value (opening after value : Utf16) (before later : List Token) (next : State)
    (clean : 0 ∉ value) (opened : scan .between opening = some (before, .literal []))
    (ended : scan (.literal value) after = some (later, next)) :
    scan .between (opening ++ sqlQuote value ++ after) = some (before ++ later, next) := by
  rw [sqlQuote_eq, List.append_assoc]
  exact scan_trans opened (scan_literal value after later next clean ended)

theorem scan_listed (opening value : Utf16) (before : List Token) (clean : 0 ∉ value)
    (opened : scan .between opening = some (before, .literal [])) :
    scan .between (opening ++ sqlQuote value ++ units "', ") =
      some (before ++ [.text value, .comma], .between) :=
  scan_value _ _ _ _ _ _ clean opened rfl

theorem lexFrom_number (number : Number) :
    lexFrom .between (number.text ++ units ")") = some (number.tokens ++ [.rightParen]) := by
  cases number with
  | nan => decide +kernel
  | infinity negative => cases negative <;> decide +kernel
  | finite negative printed =>
      have plain := lexFrom_numeral printed (units ")") fun unit first => by
        obtain rfl : 0x29 = unit := Option.some.inj first
        decide
      cases negative with
      | false => exact plain
      | true =>
          obtain ⟨first, head⟩ := printed.head?_text
          have other : (printed.text ++ units ")").head? ≠ some 0x2D := by
            rw [List.head?_append, head, Option.some_or]
            exact fun same => (Js.digit_plain first).2.2.1 (Option.some.inj same)
          have signed := lexFrom_minus (printed.text ++ units ")") other
          rw [plain] at signed
          exact signed

theorem lex_buildResetSql (opts : ResetOptions) (stored : 0 ∉ opts.stored)
    (keyPrefix : 0 ∉ opts.keyPrefix) (clientId : 0 ∉ opts.clientId) :
    lex (buildResetSql opts) = some
      [.keyword .update, .name (units "clients"), .keyword .set,
        .name (units "api_key_hash"), .equals, .text opts.stored, .comma,
        .name (units "api_key_prefix"), .equals, .text opts.keyPrefix, .comma,
        .name (units "last_used_at"), .equals, .keyword .null,
        .keyword .where, .name (units "id"), .equals, .text opts.clientId] := by
  have opened : scan .between (units "UPDATE clients SET ") =
      some ([.keyword .update, .name (units "clients"), .keyword .set], .between) := by
    decide +kernel
  have hash := scan_listed (units "api_key_hash = '") opts.stored
    [.name (units "api_key_hash"), .equals] stored (by decide +kernel)
  have keyPrefix := scan_listed (units "api_key_prefix = '") opts.keyPrefix
    [.name (units "api_key_prefix"), .equals] keyPrefix (by decide +kernel)
  have lastUsed : scan .between (units "last_used_at = NULL ") =
      some ([.name (units "last_used_at"), .equals, .keyword .null], .between) := by
    decide +kernel
  have condition : scan .between (units "WHERE id = '" ++ sqlQuote opts.clientId ++ units "'") =
      some ([.keyword .where, .name (units "id"), .equals], .closing opts.clientId) :=
    scan_value _ _ _ [.keyword .where, .name (units "id"), .equals] [] _ clientId
      (by decide +kernel) rfl
  have whole :=
    scan_trans (scan_trans (scan_trans (scan_trans opened hash) keyPrefix) lastUsed) condition
  unfold lex lexFrom buildResetSql
  rw [whole]
  rfl

theorem lex_buildCreateSql (opts : CreateOptions) (id : 0 ∉ opts.id) (name : 0 ∉ opts.name)
    (stored : 0 ∉ opts.stored) (keyPrefix : 0 ∉ opts.keyPrefix) (scopes : 0 ∉ opts.scopes) :
    lex (buildCreateSql opts) = some (createTokens opts) := by
  have opened : scan .between (units ("INSERT INTO clients " ++
      "(id, name, api_key_hash, api_key_prefix, scopes, rate_limit_rpm) VALUES (")) =
      some (insertTokens, .between) := by
    decide +kernel
  have listed := fun (value : Utf16) (clean : 0 ∉ value) =>
    scan_listed (units "'") value [] clean (by decide +kernel)
  have withId := scan_trans opened (listed opts.id id)
  have withName := scan_trans withId (listed opts.name name)
  have withHash := scan_trans withName (listed opts.stored stored)
  have withPrefix := scan_trans withHash (listed opts.keyPrefix keyPrefix)
  have withScopes := scan_trans withPrefix (listed opts.scopes scopes)
  unfold lex buildCreateSql
  rw [List.append_assoc _ opts.rpm.text, lexFrom_append _ _ _ _ _ withScopes,
    lexFrom_number opts.rpm]
  rfl

end Reading

def createdRow (opts : CreateOptions) : List (Utf16 × Operand) :=
  [(units "id", .text opts.id), (units "name", .text opts.name),
    (units "api_key_hash", .text opts.stored), (units "api_key_prefix", .text opts.keyPrefix),
    (units "scopes", .text opts.scopes), (units "rate_limit_rpm", opts.rpm.operand)]

def resetRow (opts : ResetOptions) : List (Utf16 × Operand) :=
  [(units "api_key_hash", .text opts.stored), (units "api_key_prefix", .text opts.keyPrefix),
    (units "last_used_at", .null)]

theorem statements_created (opts : CreateOptions) :
    statements (createTokens opts) = some [.insert (units "clients") (createdRow opts)] := by
  unfold createTokens createdRow
  rcases opts.rpm with _ | negative | ⟨negative, printed⟩
  · rfl
  · cases negative <;> rfl
  · cases negative <;> rfl

/-- Whatever the values hold but a NUL, each statement is one, and reads back as the
values in their columns. -/
theorem reset_sql_reads_back (create : CreateOptions) (reset : ResetOptions)
    (creating : ∀ value ∈ [create.id, create.name, create.stored, create.keyPrefix, create.scopes],
      0 ∉ value)
    (resetting : ∀ value ∈ [reset.stored, reset.keyPrefix, reset.clientId], 0 ∉ value) :
    read (buildCreateSql create) = some [.insert (units "clients") (createdRow create)] ∧
      read (buildResetSql reset) =
        some [.update (units "clients") (resetRow reset)
          (units "id", .text reset.clientId)] := by
  simp only [List.forall_mem_cons] at creating resetting
  obtain ⟨id, name, stored, keyPrefix, scopes, _⟩ := creating
  obtain ⟨resetStored, resetPrefix, clientId, _⟩ := resetting
  unfold Sql.read
  rw [lex_buildCreateSql create id name stored keyPrefix scopes,
    lex_buildResetSql reset resetStored resetPrefix clientId]
  exact ⟨statements_created create, rfl⟩

/-- Quotes that would end a literal, a semicolon, a comment, a backslash and a line
feed. -/
theorem reset_sql_reads_back_odd_values :
    read (buildCreateSql
        { id := units "odd'id"
          name := units "'); DROP TABLE clients; --"
          scopes := units "''\\'\n"
          rpm := .finite false ⟨[3, 0, 0], [], none, by decide, by decide⟩
          stored := units "hmac$x"
          keyPrefix := [] }) =
      some [.insert (units "clients")
        [(units "id", .text (units "odd'id")),
          (units "name", .text (units "'); DROP TABLE clients; --")),
          (units "api_key_hash", .text (units "hmac$x")), (units "api_key_prefix", .text []),
          (units "scopes", .text (units "''\\'\n")),
          (units "rate_limit_rpm", .number false (units "300"))]] ∧
      read (buildResetSql
        { clientId := units "' OR ''='"
          stored := units "hmac$x"
          keyPrefix := units "sk-abc'/" }) =
        some [.update (units "clients")
          [(units "api_key_hash", .text (units "hmac$x")),
            (units "api_key_prefix", .text (units "sk-abc'/")), (units "last_used_at", .null)]
          (units "id", .text (units "' OR ''='"))] :=
  reset_sql_reads_back _ _ (by decide +kernel) (by decide +kernel)

end LlmGateway.Admin
