import LlmGateway.Admin.ResetCli

/-!
The escape hatch of an operator without a key: from the arguments of
`admin-reset-cli` to the client that gets in with the key it printed.
-/

namespace LlmGateway.Admin

open Auth Hex Js Quota Sql

/-- `randomBytes(32)` in hexadecimal behind `sk-`. -/
def generateApiKey (bytes : List Byte) : String := "sk-" ++ String.ofList (encode bytes)

/-- The client gets in with this key, when no other active one has its prefix,
and with no other key. -/
structure HandedOver (crypto : Crypto) (pepper : String) (after : ClientTable) (id : ClientId)
    (plain : String) : Prop where
  opens : ∀ row ∈ after.active, row.id = id →
    (∀ other ∈ after.active, other.apiKeyPrefix = extractPrefix plain → other = row) →
      ClientService.verifyApiKey crypto pepper after none plain = some (toClient row)
  only : ∀ key client, ClientService.verifyApiKey crypto pepper after none key = some client →
    client.id = id → crypto.hmac pepper key = crypto.hmac pepper plain

def afterwards (crypto : Crypto) (pepper : String) (table : ClientTable) (nowSeconds : ℤ)
    (args : ParsedArgs) (output : AdminResetOutput) (id : ClientId) : Option ClientTable :=
  match output.kind with
  | .reset => some (resetKey table id output.stored output.keyPrefix)
  | .create =>
      (ClientService.insert crypto pepper table
        (createInput id (args.name.getD output.clientId) (args.scopes.getD defaultScopesText)
          (args.rpm.getD 60)) output.plain nowSeconds).toOption

section Arguments

def ParsedArgs.texts (args : ParsedArgs) : List String :=
  [args.reset, args.id, args.name, args.scopes, args.plain].reduceOption

variable (args : ParsedArgs) (argv : List String)

theorem texts_withValue (flag : String) (value : Option String) (next : ParsedArgs)
    (taken : args.withValue flag value = some next) :
    ∀ text ∈ next.texts, text ∈ args.texts ∨ value = some text := by
  unfold ParsedArgs.withValue at taken
  intro text member
  unfold ParsedArgs.texts at member ⊢
  rw [List.reduceOption_mem_iff] at member ⊢
  split_ifs at taken <;> cases taken <;>
    simp only [List.mem_cons, List.not_mem_nil, or_false] at member ⊢ <;>
    grind

theorem texts_withoutValue (flag : String) : (args.withoutValue flag).texts = args.texts := by
  unfold ParsedArgs.withoutValue
  split_ifs <;> rfl

theorem texts_readFrom : ∀ text ∈ (args.readFrom argv).texts, text ∈ args.texts ∨ text ∈ argv := by
  fun_induction ParsedArgs.readFrom args argv with
  | case1 args => exact fun text member => Or.inl member
  | case2 args flag =>
      intro text member
      cases taken : args.withValue flag none with
      | none =>
          rw [taken, Option.getD_none, texts_withoutValue] at member
          exact Or.inl member
      | some next =>
          rw [taken] at member
          rcases texts_withValue args flag none next taken text member with old | given
          · exact Or.inl old
          · cases given
  | case3 args flag value rest next taken ih =>
      intro text member
      rcases ih text member with earlier | later
      · rcases texts_withValue args flag (some value) next taken text earlier with old | given
        · exact Or.inl old
        · cases given
          exact Or.inr (List.mem_cons_of_mem _ List.mem_cons_self)
      · exact Or.inr (List.mem_cons_of_mem _ (List.mem_cons_of_mem _ later))
  | case4 args flag value rest taken ih =>
      intro text member
      rcases ih text member with earlier | later
      · rw [texts_withoutValue] at earlier
        exact Or.inl earlier
      · exact Or.inr (List.mem_cons_of_mem _ later)

end Arguments

section Keys

variable (crypto : Crypto) (pepper : String) (table after : ClientTable) (id : ClientId)
  (plain : String)

/-- It is enough that the row of the client was written for the key. -/
theorem handedOver_of_issued
    (issued : ∀ row ∈ after.rows, row.id = id → Issued crypto pepper row plain) :
    HandedOver crypto pepper after id plain where
  opens := by
    intro row member mine alone
    have own := issued row ((mem_active after row).mp member).1 mine
    apply verifyApiKey_own crypto pepper after row plain own
    apply findActiveByPrefix_own after row member
    intro other present same
    exact alone other present (same.trans own.prefixed)
  only := by
    intro key client accepted mine
    obtain ⟨_, found, verified⟩ := verifyApiKey_cold crypto pepper after key client accepted
    obtain ⟨row, member, _, rfl⟩ := findActiveByPrefix_some after _ client found
    have own := issued row ((mem_active after row).mp member).1 mine
    exact ((verifyApiKey_iff crypto key plain pepper _ own.hashed).mp verified).2

variable (apiKeyHash : String) (hashed : hashApiKey crypto plain pepper = .ok apiKeyHash)
include hashed

theorem issued_resetKey :
    ∀ row ∈ (resetKey table id apiKeyHash (extractPrefix plain)).rows, row.id = id →
      Issued crypto pepper row plain := by
  intro row member mine
  obtain ⟨before, _, rfl⟩ := List.mem_map.mp member
  by_cases chosen : before.id = id
  · rw [if_pos chosen]
    exact ⟨hashed, rfl⟩
  · rw [if_neg chosen] at mine
    exact absurd mine chosen

theorem issued_insert (nowSeconds : ℤ) (input : ClientInput) (own : input.id = id)
    (inserted : (ClientService.insert crypto pepper table input plain nowSeconds).toOption =
      some after) :
    (∀ row ∈ after.rows, row.id = id → Issued crypto pepper row plain) ∧
      ∀ row ∈ table.rows, row ∈ after.rows := by
  unfold ClientService.insert at inserted
  rw [hashed] at inserted
  dsimp only at inserted
  split at inserted
  · unfold ClientTable.insert at inserted
    split at inserted
    · cases inserted
    · rename_i fresh
      cases inserted
      refine ⟨fun row member mine => ?_, fun row member => List.mem_append_left _ member⟩
      rcases List.mem_append.mp member with old | new
      · exact absurd (List.mem_map.mpr ⟨row, old, mine.trans own.symm⟩) fresh
      · rw [List.mem_singleton.mp new]
        exact ⟨hashed, rfl⟩
  · cases inserted

end Keys

section Reading

theorem read_reset (reset : ResetOptions) (stored : 0 ∉ reset.stored)
    (keyPrefix : 0 ∉ reset.keyPrefix) (clientId : 0 ∉ reset.clientId) :
    Sql.read (buildResetSql reset) =
      some [.update (units "clients") (resetRow reset) (units "id", .text reset.clientId)] := by
  rw [Sql.read, lex_buildResetSql reset stored keyPrefix clientId]
  rfl

theorem read_create (create : CreateOptions) (id : 0 ∉ create.id) (name : 0 ∉ create.name)
    (stored : 0 ∉ create.stored) (keyPrefix : 0 ∉ create.keyPrefix) (scopes : 0 ∉ create.scopes) :
    Sql.read (buildCreateSql create) =
      some [.insert (units "clients") (createdRow create)] := by
  rw [Sql.read, lex_buildCreateSql create id name stored keyPrefix scopes]
  exact statements_created create

end Reading

section Pipeline

variable (crypto : Crypto) (pepper fresh : String) (args : ParsedArgs)

theorem buildOutput_output (output : AdminResetOutput)
    (printed : buildOutput crypto args pepper fresh = .ok (.output output)) :
    ∃ credentials, generateCredentials crypto args.plain pepper fresh = .ok credentials ∧
      outputOf args credentials = .output output := by
  unfold buildOutput at printed
  split_ifs at printed
  · cases printed
  · cases printed
  · cases made : generateCredentials crypto args.plain pepper fresh with
    | error thrown =>
        rw [made] at printed
        cases printed
    | ok credentials =>
        rw [made] at printed
        exact ⟨credentials, rfl, Except.ok.inj printed⟩

theorem generateCredentials_ok (credentials : Credentials)
    (made : generateCredentials crypto args.plain pepper fresh = .ok credentials) :
    credentials.plain = args.plain.getD fresh ∧
      credentials.keyPrefix = extractPrefix credentials.plain ∧
      hashApiKey crypto credentials.plain pepper = .ok credentials.stored := by
  unfold generateCredentials at made
  split at made
  · cases made
  · split at made
    · cases made
    · rename_i hashed
      cases made
      exact ⟨rfl, rfl, hashed⟩

theorem clientId_of (text : Option String) (value : String) (found : truthy text = some value)
    (clean : '\x00' ∉ value.toList) : ∃ id : ClientId, id.text = value := by
  obtain ⟨_, nonempty⟩ := Option.filter_eq_some_iff.mp found
  exact ⟨⟨value, of_decide_eq_true nonempty, clean⟩, rfl⟩

theorem generateApiKey_clean (bytes : List Byte) : '\x00' ∉ (generateApiKey bytes).toList := by
  unfold generateApiKey
  rw [String.toList_append]
  intro member
  rcases List.mem_append.mp member with word | digits
  · revert word
    decide
  · rw [String.toList_ofList] at digits
    exact encode_clean bytes digits

theorem credentials_clean (bytes : List Byte) (credentials : Credentials)
    (made : generateCredentials crypto args.plain pepper (generateApiKey bytes) = .ok credentials)
    (clean : ∀ text ∈ args.texts, '\x00' ∉ text.toList) :
    0 ∉ units credentials.stored ∧ 0 ∉ units credentials.keyPrefix := by
  obtain ⟨plain, keyPrefix, hashed⟩ := generateCredentials_ok crypto pepper _ args credentials made
  have key : '\x00' ∉ credentials.plain.toList := by
    rw [plain]
    cases given : args.plain with
    | none => exact generateApiKey_clean bytes
    | some text =>
        refine clean text (List.reduceOption_mem_iff.mpr ?_)
        rw [given]
        simp
  constructor
  · rw [(hashApiKey_ok crypto _ pepper _ hashed).2.2]
    exact zero_not_mem_units _ (hashText_clean _)
  · rw [keyPrefix]
    exact zero_not_mem_units _ (extractPrefix_clean _ key)

end Pipeline

/-- What the script has printed can be pasted: the statement is read as one, it
leaves the table that the service would have written, whatever quotes the
arguments hold, and the printed key is from then on the key of the client. -/
theorem reset_handed_over (crypto : Crypto) (pepper : String) (argv : List String)
    (bytes : List Byte) (table : ClientTable) (nowSeconds : ℤ) (output : AdminResetOutput)
    (clean : ∀ argument ∈ argv, '\x00' ∉ argument.toList)
    (exact : ∀ rpm, (parseArgs argv).rpm = some rpm → rpm.natAbs < 2 ^ 53)
    (printed : buildOutput crypto (parseArgs argv) pepper (generateApiKey bytes) =
      .ok (.output output)) :
    ∃ id statement, id.text = output.clientId ∧ Sql.read output.sql = some [statement] ∧
      (clientsSchema nowSeconds).execute (table.rows.map storedRow) statement =
        (afterwards crypto pepper table nowSeconds (parseArgs argv) output id).map
          (fun after => after.rows.map storedRow) ∧
      ∀ after, afterwards crypto pepper table nowSeconds (parseArgs argv) output id = some after →
        HandedOver crypto pepper after id output.plain ∧
          ∀ row ∈ table.rows, row.id ≠ id → row ∈ after.rows := by
  have texts : ∀ text ∈ (parseArgs argv).texts, '\x00' ∉ text.toList := by
    intro text member
    rcases texts_readFrom ParsedArgs.initial argv text member with none | among
    · cases none
    · exact clean text among
  generalize parseArgs argv = args at *
  obtain ⟨credentials, made, built⟩ := buildOutput_output crypto pepper _ args output printed
  obtain ⟨stored, keyPrefix⟩ := credentials_clean crypto pepper args bytes credentials made texts
  obtain ⟨_, prefixed, hashed⟩ := generateCredentials_ok crypto pepper _ args credentials made
  have fromArgs : ∀ text value, text ∈ [args.reset, args.id, args.name, args.scopes, args.plain] →
      text = some value → '\x00' ∉ value.toList := by
    rintro _ value member rfl
    exact texts value (List.reduceOption_mem_iff.mpr member)
  unfold outputOf at built
  cases resets : truthy args.reset with
  | some clientId =>
      rw [resets] at built
      cases built
      have plainId := fromArgs args.reset clientId (by simp) (Option.filter_eq_some_iff.mp resets).1
      obtain ⟨id, rfl⟩ := clientId_of args.reset clientId resets plainId
      refine ⟨id, _, rfl, read_reset _ stored keyPrefix (zero_not_mem_units _ plainId),
        execute_reset table nowSeconds id credentials.stored credentials.keyPrefix, ?_⟩
      rintro after ⟨⟩
      rw [prefixed]
      refine ⟨handedOver_of_issued crypto pepper _ id _
        (issued_resetKey crypto pepper table id _ _ hashed), fun row member other => ?_⟩
      exact List.mem_map.mpr ⟨row, member, if_neg other⟩
  | none =>
      cases creates : truthy args.id with
      | none =>
          rw [resets, creates] at built
          cases built
      | some clientId =>
          rw [resets, creates] at built
          cases built
          have plainId := fromArgs args.id clientId (by simp)
            (Option.filter_eq_some_iff.mp creates).1
          obtain ⟨id, rfl⟩ := clientId_of args.id clientId creates plainId
          have plainName : '\x00' ∉ (args.name.getD id.text).toList := by
            cases named : args.name with
            | none => exact plainId
            | some name => exact fromArgs args.name name (by simp) named
          have plainScopes : '\x00' ∉ (args.scopes.getD defaultScopesText).toList := by
            cases listed : args.scopes with
            | none => decide
            | some scopes => exact fromArgs args.scopes scopes (by simp) listed
          have small : (args.rpm.getD 60).natAbs < 10 ^ 18 := by
            cases limited : args.rpm with
            | none => decide
            | some rpm => exact Nat.lt_trans (exact rpm limited) (by decide)
          have executed := execute_create table nowSeconds id credentials.stored crypto pepper
            credentials.plain (args.name.getD id.text) (args.scopes.getD defaultScopesText)
            (args.rpm.getD 60) small hashed
          rw [← prefixed] at executed
          refine ⟨id, _, rfl, read_create _ (zero_not_mem_units _ plainId)
            (zero_not_mem_units _ plainName) stored keyPrefix (zero_not_mem_units _ plainScopes),
            executed, ?_⟩
          intro after inserted
          obtain ⟨issued, kept⟩ := issued_insert crypto pepper table after id credentials.plain _
            hashed nowSeconds _ rfl inserted
          exact ⟨handedOver_of_issued crypto pepper after id _ issued,
            fun row member _ => kept row member⟩

section Example

def quotedArguments : List String :=
  ["--create", "--id", "o'brien", "--name", "'); DELETE FROM clients; --", "--rpm", "300"]

def zeroBytes : List Hex.Byte := Hex.decode (List.replicate 64 '0')

def quotedKey : String := generateApiKey zeroBytes

def quotedHash : String := hashText (exampleCrypto.hmac examplePepper quotedKey)

def quotedOutput : AdminResetOutput where
  kind := .create
  clientId := "o'brien"
  plain := quotedKey
  stored := quotedHash
  keyPrefix := extractPrefix quotedKey
  sql := units ("INSERT INTO clients (id, name, api_key_hash, api_key_prefix, scopes, " ++
    "rate_limit_rpm) VALUES ('o''brien', '''); DELETE FROM clients; --', '" ++ quotedHash ++
    "', 'sk-00000', 'chat.read,chat.write', 300)")

/-- A name that would delete every client, were it not quoted. -/
theorem reset_handed_over_quoted :
    ∃ id statement, id.text = "o'brien" ∧ Sql.read quotedOutput.sql = some [statement] ∧
      (clientsSchema 0).execute ((exampleTable thirdKey).rows.map storedRow) statement =
        (afterwards exampleCrypto examplePepper (exampleTable thirdKey) 0
          (parseArgs quotedArguments) quotedOutput id).map
          (fun after => after.rows.map storedRow) ∧
      ∀ after, afterwards exampleCrypto examplePepper (exampleTable thirdKey) 0
          (parseArgs quotedArguments) quotedOutput id = some after →
        HandedOver exampleCrypto examplePepper after id quotedKey ∧
          ∀ row ∈ (exampleTable thirdKey).rows, row.id ≠ id → row ∈ after.rows :=
  reset_handed_over exampleCrypto examplePepper quotedArguments zeroBytes
    (exampleTable thirdKey) 0 quotedOutput (by decide +kernel) (by decide +kernel)
    (by decide +kernel)

end Example

end LlmGateway.Admin
