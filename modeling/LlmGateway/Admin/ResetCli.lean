import LlmGateway.Admin.ResetSql
import LlmGateway.Auth.PrefixScan
import LlmGateway.Lib.SqlRows

/-!
`admin-reset-cli` from its arguments to the key it prints and the statement that
the operator runs, and what that statement does to the `clients` table of
`0004_clients.sql`.
-/

namespace LlmGateway.Admin

open Auth Hex Js Quota Sql

structure ParsedArgs where
  positional : List String
  help : Bool
  reset : Option String
  create : Bool
  id : Option String
  name : Option String
  /-- As exact as a double holds it. -/
  rpm : Option ℤ
  scopes : Option String
  plain : Option String

namespace ParsedArgs

def initial : ParsedArgs where
  positional := []
  help := false
  reset := none
  create := false
  id := none
  name := none
  rpm := none
  scopes := none
  plain := none

def withValue (out : ParsedArgs) (flag : String) (value : Option String) : Option ParsedArgs :=
  if flag = "--reset" then some { out with reset := value }
  else if flag = "--id" then some { out with id := value }
  else if flag = "--name" then some { out with name := value }
  else if flag = "--rpm" then some { out with rpm := value.bind fun text => parseInt (units text) }
  else if flag = "--scopes" then some { out with scopes := value }
  else if flag = "--plain" then some { out with plain := value }
  else none

def withoutValue (out : ParsedArgs) (flag : String) : ParsedArgs :=
  if flag = "--help" ∨ flag = "-h" then { out with help := true }
  else if flag = "--create" then { out with create := true }
  else { out with positional := out.positional ++ [flag] }

def readFrom (out : ParsedArgs) : List String → ParsedArgs
  | [] => out
  | [flag] => (out.withValue flag none).getD (out.withoutValue flag)
  | flag :: value :: rest =>
      match out.withValue flag (some value) with
      | some next => readFrom next rest
      | none => readFrom (out.withoutValue flag) (value :: rest)

end ParsedArgs

def parseArgs (argv : List String) : ParsedArgs := ParsedArgs.initial.readFrom argv

def defaultScopesText : String := "chat.read,chat.write"

def pepperMinLength : ℕ := 32

/-- What the script throws: a `CliError`, or the error of `hashApiKey`. -/
inductive Thrown where
  | cli (code : ℕ) (message : String)
  | hash (message : String)
  deriving DecidableEq

structure Credentials where
  plain : String
  keyPrefix : String
  stored : String

/-- `fresh` is the key that is generated when none is given. -/
def generateCredentials (crypto : Crypto) (plain : Option String) (pepper fresh : String) :
    Except Thrown Credentials :=
  if utf16Length pepper < pepperMinLength then
    .error (.cli 2 ("API_KEY_PEPPER must be set and at least 32 chars " ++
      "(generate with \x60openssl rand -hex 32\x60)."))
  else
    match hashApiKey crypto (plain.getD fresh) pepper with
    | .error message => .error (.hash message)
    | .ok stored =>
        .ok { plain := plain.getD fresh, keyPrefix := extractPrefix (plain.getD fresh), stored }

inductive Kind where
  | reset
  | create
  deriving DecidableEq

structure AdminResetOutput where
  kind : Kind
  clientId : String
  plain : String
  stored : String
  keyPrefix : String
  sql : Utf16
  deriving DecidableEq

inductive Built where
  | help
  | nothing
  | output (output : AdminResetOutput)
  deriving DecidableEq

def natural (value : ℕ) : Numeral where
  whole := decimal value
  fraction := []
  exponent := none
  whole_occupied := decimal_ne_nil value
  exponent_occupied := by
    intro written none
    cases none

def whole (value : ℤ) : Admin.Number := .finite (value < 0) (natural value.natAbs)

def isBlank (text : String) : Bool := (trim (units text)).isEmpty

def truthy (text : Option String) : Option String := text.filter (· ≠ "")

def outputOf (args : ParsedArgs) (credentials : Credentials) : Built :=
  match truthy args.reset, truthy args.id with
  | some clientId, _ => .output
      { kind := .reset
        clientId := clientId
        plain := credentials.plain
        stored := credentials.stored
        keyPrefix := credentials.keyPrefix
        sql := buildResetSql
          { clientId := units clientId
            stored := units credentials.stored
            keyPrefix := units credentials.keyPrefix } }
  | none, some clientId => .output
      { kind := .create
        clientId := clientId
        plain := credentials.plain
        stored := credentials.stored
        keyPrefix := credentials.keyPrefix
        sql := buildCreateSql
          { id := units clientId
            name := units (args.name.getD clientId)
            scopes := units (args.scopes.getD defaultScopesText)
            rpm := whole (args.rpm.getD 60)
            stored := units credentials.stored
            keyPrefix := units credentials.keyPrefix } }
  | none, none => .nothing

def buildOutput (crypto : Crypto) (args : ParsedArgs) (pepper fresh : String) :
    Except Thrown Built :=
  if args.help = true ∨ (truthy args.reset = none ∧ args.create = false) then .ok .help
  else if args.create = true ∧ truthy args.id = none then .ok .nothing
  else if args.plain.any isBlank then .error (.cli 2 "--plain requires a non-empty key.")
  else (generateCredentials crypto args.plain pepper fresh).map (outputOf args)

section Table

/-- The columns of `clients`. -/
inductive ClientColumn where
  | id
  | name
  | apiKeyHash
  | apiKeyPrefix
  | scopes
  | rateLimitRpm
  | rateLimitTpm
  | createdAt
  | lastUsedAt
  | revokedAt
  deriving DecidableEq

def clientColumns : List ClientColumn :=
  [.id, .name, .apiKeyHash, .apiKeyPrefix, .scopes, .rateLimitRpm, .rateLimitTpm, .createdAt,
    .lastUsedAt, .revokedAt]

def ClientColumn.text : ClientColumn → Utf16
  | .id => units "id"
  | .name => units "name"
  | .apiKeyHash => units "api_key_hash"
  | .apiKeyPrefix => units "api_key_prefix"
  | .scopes => units "scopes"
  | .rateLimitRpm => units "rate_limit_rpm"
  | .rateLimitTpm => units "rate_limit_tpm"
  | .createdAt => units "created_at"
  | .lastUsedAt => units "last_used_at"
  | .revokedAt => units "revoked_at"

/-- `nowSeconds` is what `unixepoch()` returns. -/
def ClientColumn.default (nowSeconds : ℤ) : ClientColumn → Cell
  | .scopes => .text (units defaultScopesText)
  | .rateLimitRpm => .integer 60
  | .createdAt => .integer nowSeconds
  | _ => .null

def isText : Cell → Bool
  | .text _ => true
  | _ => false

def isInteger : Cell → Bool
  | .integer _ => true
  | _ => false

def isPositive : Cell → Bool
  | .integer value => 0 < value
  | _ => false

/-- The types, `NOT NULL` and `CHECK` of the columns; a primary key may be NULL. -/
def ClientColumn.check : ClientColumn → Cell → Bool
  | .id, cell => cell = .null ∨ isText cell
  | .name, cell | .apiKeyHash, cell | .apiKeyPrefix, cell | .scopes, cell => isText cell
  | .rateLimitRpm, cell => isPositive cell
  | .rateLimitTpm, cell => cell = .null ∨ isPositive cell
  | .createdAt, cell => isInteger cell
  | .lastUsedAt, cell | .revokedAt, cell => cell = .null ∨ isInteger cell

def clientsSchema (nowSeconds : ℤ) : Schema :=
  Schema.of ClientColumn.text clientColumns (units "clients") .id (ClientColumn.default nowSeconds)
    ClientColumn.check

def optionalCell (value : Option ℤ) : Cell := value.elim .null .integer

def cellOf (row : ClientRow) : ClientColumn → Cell
  | .id => .text (units row.id.text)
  | .name => .text (units row.name)
  | .apiKeyHash => .text (units row.apiKeyHash)
  | .apiKeyPrefix => .text (units row.apiKeyPrefix)
  | .scopes => .text (units row.scopes)
  | .rateLimitRpm => .integer row.rateLimitRpm
  | .rateLimitTpm => optionalCell row.rateLimitTpm
  | .createdAt => .integer row.createdAt
  | .lastUsedAt => optionalCell row.lastUsedAt
  | .revokedAt => optionalCell row.revokedAt

def storedRow (row : ClientRow) : Row := rowOf ClientColumn.text (cellOf row) clientColumns

theorem mem_clientColumns (column : ClientColumn) : column ∈ clientColumns := by
  cases column <;> decide

theorem text_injective : Function.Injective ClientColumn.text := by
  have apart : ∀ left ∈ clientColumns, ∀ right ∈ clientColumns,
      left.text = right.text → left = right := by decide +kernel
  exact fun left right => apart left (mem_clientColumns left) right (mem_clientColumns right)

theorem admits_storedRow (nowSeconds : ℤ) (row : ClientRow) :
    (clientsSchema nowSeconds).admits (storedRow row) = true := by
  refine (admits_rowOf _ _ _ _ _ _ _ text_injective).trans (List.all_eq_true.mpr ?_)
  intro column _
  have positive := row.rpmPositive
  have tpm := row.tpmPositive
  cases column with
  | rateLimitRpm => simpa [ClientColumn.check, cellOf, isPositive] using positive
  | rateLimitTpm =>
      cases limit : row.rateLimitTpm with
      | none => simp [ClientColumn.check, cellOf, optionalCell, limit]
      | some value =>
          simpa [ClientColumn.check, cellOf, optionalCell, limit, isPositive] using tpm value limit
  | lastUsedAt =>
      cases used : row.lastUsedAt <;>
        simp [ClientColumn.check, cellOf, optionalCell, used, isInteger]
  | revokedAt =>
      cases revoked : row.revokedAt <;>
        simp [ClientColumn.check, cellOf, optionalCell, revoked, isInteger]
  | id | name | apiKeyHash | apiKeyPrefix | scopes | createdAt =>
      simp [ClientColumn.check, cellOf, isText, isInteger]

theorem column_known (nowSeconds : ℤ) (column : ClientColumn) :
    column.text ∈ (clientsSchema nowSeconds).names :=
  mem_names_of _ _ _ _ _ _ column (mem_clientColumns column)

theorem lookup_storedRow (row : ClientRow) (column : ClientColumn) :
    (storedRow row).lookup column.text = some (cellOf row column) :=
  lookup_rowOf _ _ _ text_injective column (mem_clientColumns column)

theorem lookup_id (row : ClientRow) (id : ClientId) :
    (storedRow row).lookup (units "id") = some (.text (units id.text)) ↔ row.id = id := by
  rw [show units "id" = ClientColumn.text .id from rfl, lookup_storedRow]
  constructor
  · intro same
    have texts : row.id.text = id.text :=
      units_injective (Cell.text.inj (Option.some.inj same))
    cases row_id : row.id
    cases id
    rw [row_id] at texts
    cases texts
    rfl
  · rintro rfl
    rfl

end Table

def resetKey (table : ClientTable) (id : ClientId) (apiKeyHash apiKeyPrefix : String) :
    ClientTable :=
  table.updateRow id (fun row =>
    { row with apiKeyHash := apiKeyHash, apiKeyPrefix := apiKeyPrefix, lastUsedAt := none })
    fun _ => rfl

section Execution

variable (table : ClientTable) (nowSeconds : ℤ) (id : ClientId) (apiKeyHash apiKeyPrefix : String)

def resetCell : ClientColumn → Cell
  | .apiKeyHash => .text (units apiKeyHash)
  | .apiKeyPrefix => .text (units apiKeyPrefix)
  | _ => .null

theorem execute_reset :
    (clientsSchema nowSeconds).execute (table.rows.map storedRow)
        (.update (units "clients")
          (resetRow
            { clientId := units id.text
              stored := units apiKeyHash
              keyPrefix := units apiKeyPrefix })
          (units "id", .text (units id.text))) =
      some ((resetKey table id apiKeyHash apiKeyPrefix).rows.map storedRow) := by
  refine execute_update (clientsSchema nowSeconds) storedRow table.rows (fun row => row.id = id) _
    _ (rowOf ClientColumn.text (resetCell apiKeyHash apiKeyPrefix)
      [.apiKeyHash, .apiKeyPrefix, .lastUsedAt]) _ _ (.text (units id.text)) ?_ ?_ rfl rfl
    (by simp) (fun row _ => lookup_id row id) ?_ (admits_storedRow nowSeconds)
  · intro field member
    have listed : field.1 ∈ ([.apiKeyHash, .apiKeyPrefix, .lastUsedAt] : List ClientColumn).map
        ClientColumn.text := List.mem_map_of_mem member
    obtain ⟨column, among, named⟩ := List.mem_map.mp listed
    rw [← named]
    refine ⟨column_known nowSeconds column, fun same => ?_⟩
    have keyed : column = .id := text_injective same
    rw [keyed] at among
    revert among
    decide
  · exact column_known nowSeconds .id
  · intro row _ _
    apply assign_rowOf
    intro column _
    by_cases among : column ∈ ([.apiKeyHash, .apiKeyPrefix, .lastUsedAt] : List ClientColumn)
    · rw [lookup_rowOf _ _ _ text_injective column among]
      simp only [List.mem_cons, List.not_mem_nil, or_false] at among
      rcases among with rfl | rfl | rfl <;> rfl
    · rw [lookup_rowOf_none _ _ _ text_injective column among]
      cases column <;> first | rfl | simp at among

variable (crypto : Crypto) (pepper plain name scopes : String) (rpm : ℤ)

def createdColumns : List ClientColumn :=
  [.id, .name, .apiKeyHash, .apiKeyPrefix, .scopes, .rateLimitRpm]

def createOptions : CreateOptions where
  id := units id.text
  name := units name
  scopes := units scopes
  rpm := whole rpm
  stored := units apiKeyHash
  keyPrefix := units apiKeyPrefix

def createdCell : ClientColumn → Cell
  | .id => .text (units id.text)
  | .name => .text (units name)
  | .apiKeyHash => .text (units apiKeyHash)
  | .apiKeyPrefix => .text (units apiKeyPrefix)
  | .scopes => .text (units scopes)
  | .rateLimitRpm => .integer rpm
  | _ => .null

theorem whole_cell (small : rpm.natAbs < 10 ^ 18) : (whole rpm).operand.cell = some (.integer rpm) := by
  have text : (natural rpm.natAbs).text = digits (decimal rpm.natAbs) := by
    simp [natural, Numeral.text, fractionText, exponentText]
  unfold whole Number.operand Operand.cell
  dsimp only
  rw [text, integerOf_decimal rpm.natAbs small, Option.map_some]
  congr 2
  by_cases negative : rpm < 0
  · rw [decide_eq_true negative, if_pos rfl]
    omega
  · rw [decide_eq_false negative, if_neg Bool.false_ne_true]
    omega

theorem created_cells (small : rpm.natAbs < 10 ^ 18) :
    cellsOf (createdRow (createOptions id apiKeyHash apiKeyPrefix name scopes rpm)) =
      some (rowOf ClientColumn.text (createdCell id apiKeyHash apiKeyPrefix name scopes rpm)
        createdColumns) := by
  have number := whole_cell rpm small
  simp only [cellsOf, createdRow, createOptions, List.mapM_cons, List.mapM_nil, number]
  rfl

def insertedCell : ClientColumn → Cell
  | .rateLimitTpm | .lastUsedAt | .revokedAt => .null
  | .createdAt => .integer nowSeconds
  | column => createdCell id apiKeyHash apiKeyPrefix name scopes rpm column

theorem assign_created :
    assign (rowOf ClientColumn.text (createdCell id apiKeyHash apiKeyPrefix name scopes rpm)
        createdColumns) (clientsSchema nowSeconds).blank =
      rowOf ClientColumn.text (insertedCell nowSeconds id apiKeyHash apiKeyPrefix name scopes rpm)
        clientColumns := by
  rw [clientsSchema, blank_of]
  apply assign_rowOf
  intro column _
  by_cases among : column ∈ createdColumns
  · rw [lookup_rowOf _ _ _ text_injective column among]
    cases column <;> first | rfl | simp [createdColumns] at among
  · rw [lookup_rowOf_none _ _ _ text_injective column among]
    cases column <;> first | rfl | simp [createdColumns] at among

theorem positive_absent : ∀ tpm, (none : Option ℤ) = some tpm → 0 < tpm := by
  intro tpm none
  cases none

def createdClient (positive : 0 < rpm) : ClientRow where
  id := id
  name := name
  apiKeyHash := apiKeyHash
  apiKeyPrefix := apiKeyPrefix
  scopes := scopes
  rateLimitRpm := rpm
  rateLimitTpm := none
  createdAt := nowSeconds
  lastUsedAt := none
  revokedAt := none
  rpmPositive := positive
  tpmPositive := positive_absent

theorem storedRow_createdClient (positive : 0 < rpm) :
    rowOf ClientColumn.text (insertedCell nowSeconds id apiKeyHash apiKeyPrefix name scopes rpm)
        clientColumns =
      storedRow (createdClient nowSeconds id apiKeyHash apiKeyPrefix name scopes rpm positive) := by
  refine congrArg (rowOf ClientColumn.text · clientColumns) (funext fun column => ?_)
  cases column <;> rfl

theorem keyFree_iff (row : ClientRow) :
    (clientsSchema nowSeconds).keyFree (table.rows.map storedRow) (storedRow row) = true ↔
      row.id ∉ table.rows.map ClientRow.id := by
  unfold Schema.keyFree
  change decide ((storedRow row).lookup (ClientColumn.text .id) = some .null ∨
    ∀ other ∈ table.rows.map storedRow, other.lookup (ClientColumn.text .id) ≠
      (storedRow row).lookup (ClientColumn.text .id)) = true ↔ _
  rw [decide_eq_true_iff, lookup_storedRow]
  constructor
  · rintro (none | free) taken
    · cases none
    · obtain ⟨other, member, same⟩ := List.mem_map.mp taken
      exact free (storedRow other) (List.mem_map_of_mem member) ((lookup_id other row.id).mpr same)
  · intro free
    refine Or.inr fun other member same => ?_
    obtain ⟨client, listed, rfl⟩ := List.mem_map.mp member
    exact free (List.mem_map.mpr ⟨client, listed, (lookup_id client row.id).mp same⟩)

/-- What `ClientService` would be asked to insert; its scopes are one text. -/
def createInput : ClientInput where
  id := id
  name := name
  scopes := some [scopes]
  rateLimitRpm := some rpm
  rateLimitTpm := none

theorem execute_create (small : rpm.natAbs < 10 ^ 18)
    (hashed : hashApiKey crypto plain pepper = .ok apiKeyHash) :
    (clientsSchema nowSeconds).execute (table.rows.map storedRow)
        (.insert (units "clients")
          (createdRow (createOptions id apiKeyHash (extractPrefix plain) name scopes rpm))) =
      (ClientService.insert crypto pepper table (createInput id name scopes rpm) plain
        nowSeconds).toOption.map fun after => after.rows.map storedRow := by
  have cells := created_cells id apiKeyHash (extractPrefix plain) name scopes rpm small
  have assigned := assign_created nowSeconds id apiKeyHash (extractPrefix plain) name scopes rpm
  have joined : joinScopes [scopes] = scopes := by simp [joinScopes]
  unfold ClientService.insert
  rw [hashed]
  simp only [createInput, Option.getD_some, joined]
  have refused : (clientsSchema nowSeconds).admits
        (assign (rowOf ClientColumn.text
          (createdCell id apiKeyHash (extractPrefix plain) name scopes rpm) createdColumns)
          (clientsSchema nowSeconds).blank) = false ∨
      (clientsSchema nowSeconds).keyFree (table.rows.map storedRow)
        (assign (rowOf ClientColumn.text
          (createdCell id apiKeyHash (extractPrefix plain) name scopes rpm) createdColumns)
          (clientsSchema nowSeconds).blank) = false →
      (clientsSchema nowSeconds).execute (table.rows.map storedRow)
        (.insert (units "clients")
          (createdRow (createOptions id apiKeyHash (extractPrefix plain) name scopes rpm))) = none :=
    execute_insert_refused (clientsSchema nowSeconds) _ _ _ cells
  rw [assigned] at refused
  by_cases positive : 0 < rpm
  · rw [dif_pos ⟨positive, fun _ none => nomatch none⟩]
    have written := storedRow_createdClient nowSeconds id apiKeyHash (extractPrefix plain) name
      scopes rpm positive
    generalize new : createdClient nowSeconds id apiKeyHash (extractPrefix plain) name scopes rpm
      positive = row at written
    have free := keyFree_iff table nowSeconds row
    rw [written] at refused assigned
    change _ = ((table.insert (createdClient nowSeconds id apiKeyHash (extractPrefix plain) name
      scopes rpm positive)).toOption).map _
    rw [new, ClientTable.insert]
    by_cases taken : row.id ∈ table.rows.map ClientRow.id
    · rw [dif_pos taken]
      refine refused (Or.inr (Bool.eq_false_iff.mpr fun unused => free.mp unused taken))
    · rw [dif_neg taken]
      refine execute_insert (clientsSchema nowSeconds) storedRow table.rows row _ _ ?_ cells
        assigned (admits_storedRow nowSeconds row) (free.mpr taken)
      intro field member
      have listed : field.1 ∈ createdColumns.map ClientColumn.text :=
        List.mem_map_of_mem member
      obtain ⟨column, _, named⟩ := List.mem_map.mp listed
      rw [← named]
      exact column_known nowSeconds column
  · rw [dif_neg fun both => positive both.1]
    refine refused (Or.inl ?_)
    rw [clientsSchema, admits_rowOf _ _ _ _ _ _ _ text_injective]
    refine List.all_eq_false.mpr ⟨.rateLimitRpm, mem_clientColumns _, ?_⟩
    simpa [ClientColumn.check, insertedCell, createdCell, isPositive] using positive

end Execution

section Clean

theorem zero_not_mem_units (text : String) (clean : '\x00' ∉ text.toList) : 0 ∉ units text := by
  intro member
  obtain ⟨number, among, zero⟩ := List.mem_map.mp member
  have multiple : number % 65536 = 0 := by
    have same := congrArg UInt16.toNat zero
    rwa [UInt16.toNat_ofNat'] at same
  obtain ⟨char, listed, written⟩ := List.mem_flatMap.mp among
  split at written
  · rename_i small
    have same := List.mem_singleton.mp written
    have code : char.toNat = 0 := by omega
    have first : char = '\x00' := Char.ext (UInt32.toNat_inj.mp code)
    exact clean (first ▸ listed)
  · have bound : char.toNat < 0x110000 := by
      rcases char.valid with low | ⟨_, high⟩
      · exact Nat.lt_trans low (by decide)
      · exact high
    -- Neither half of a pair is a multiple of 65536.
    rcases List.mem_cons.mp written with first | rest
    · omega
    · have second := List.mem_singleton.mp rest
      omega

theorem encode_clean (bytes : List Byte) : '\x00' ∉ encode bytes := by
  intro member
  obtain ⟨byte, _, written⟩ := List.mem_flatMap.mp member
  have plain : ∀ digit : Fin 16, Js.hexDigit digit ≠ '\x00' := by decide +kernel
  rcases List.mem_cons.mp written with first | rest
  · exact plain _ first.symm
  · exact plain _ (List.mem_singleton.mp rest).symm

theorem hashText_clean (digest : List Byte) : '\x00' ∉ (hashText digest).toList := by
  unfold hashText
  rw [String.toList_append, String.toList_ofList]
  intro member
  rcases List.mem_append.mp member with word | digits
  · revert word
    decide
  · rw [String.toList_ofList] at digits
    exact encode_clean digest digits

theorem sliceUnits_clean (room : ℕ) (chars : List Char) (clean : '\x00' ∉ chars) :
    '\x00' ∉ sliceUnits room chars := by
  induction chars generalizing room with
  | nil => simp [sliceUnits]
  | cons char rest ih =>
      have first := List.ne_of_not_mem_cons clean
      have later := fun room => ih room (List.not_mem_of_not_mem_cons clean)
      cases room with
      | zero => exact List.not_mem_nil
      | succ room =>
          rw [sliceUnits]
          split_ifs
          · exact List.not_mem_cons_of_ne_of_not_mem first (later room)
          · decide
          · exact List.not_mem_cons_of_ne_of_not_mem first (later _)

theorem extractPrefix_clean (key : String) (clean : '\x00' ∉ key.toList) :
    '\x00' ∉ (extractPrefix key).toList := by
  unfold extractPrefix
  split
  · exact clean
  · rw [String.toList_ofList]
    exact sliceUnits_clean _ _ clean

end Clean

end LlmGateway.Admin
