import LlmGateway.Auth.Keys
import LlmGateway.Quota.Store

/-!
The `clients` table, the statements of `ClientRepository` and the synchronous
operations of `ClientService`. Rows stand in the order of their row ids, which
is the order in which the prefix index yields the rows of one prefix.
-/

namespace LlmGateway.Auth

open Quota

structure ClientRow where
  id : ClientId
  name : String
  apiKeyHash : String
  apiKeyPrefix : String
  /-- The scopes, separated by commas. -/
  scopes : String
  rateLimitRpm : ℤ
  rateLimitTpm : Option ℤ
  createdAt : ℤ
  lastUsedAt : Option ℤ
  revokedAt : Option ℤ
  rpmPositive : 0 < rateLimitRpm
  tpmPositive : ∀ tpm, rateLimitTpm = some tpm → 0 < tpm

structure Client where
  id : ClientId
  name : String
  apiKeyHash : String
  apiKeyPrefix : String
  scopes : List String
  rateLimitRpm : ℤ
  rateLimitTpm : Option ℤ
  createdAt : ℤ
  lastUsedAt : Option ℤ
  revoked : Bool
  deriving DecidableEq

def joinScopes (scopes : List String) : String := ",".intercalate scopes

def splitScopes (scopes : String) : List String :=
  ((scopes.toList.splitOn ',').filter (· ≠ [])).map String.ofList

def toClient (row : ClientRow) : Client where
  id := row.id
  name := row.name
  apiKeyHash := row.apiKeyHash
  apiKeyPrefix := row.apiKeyPrefix
  scopes := splitScopes row.scopes
  rateLimitRpm := row.rateLimitRpm
  rateLimitTpm := row.rateLimitTpm
  createdAt := row.createdAt
  lastUsedAt := row.lastUsedAt
  revoked := row.revokedAt.isSome

def ClientRow.active (row : ClientRow) : Bool := row.revokedAt.isNone

structure ClientTable where
  rows : List ClientRow
  unique : (rows.map ClientRow.id).Nodup

inductive ClientError where
  | notFound (id : ClientId)
  | revoked (id : ClientId)
  | noScope
  | rpmNotPositive
  | hash (message : String)
  /-- What SQLite throws for a key that exists or a CHECK that fails. -/
  | constraint
  deriving DecidableEq

namespace ClientTable

def empty : ClientTable where
  rows := []
  unique := List.nodup_nil

section Statements

variable (table : ClientTable)

def rowOf (id : ClientId) : Option ClientRow := table.rows.find? fun row => row.id = id

def findById (id : ClientId) : Option Client := (table.rowOf id).map toClient

/-- The first row of the query is taken, whether or not its hash will match. -/
def findActiveByPrefix (apiKeyPrefix : String) : Option Client :=
  (table.rows.find? fun row => row.apiKeyPrefix = apiKeyPrefix ∧ row.active = true).map toClient

def updateRow (id : ClientId) (change : ClientRow → ClientRow)
    (keepsId : ∀ row, (change row).id = row.id) : ClientTable where
  rows := table.rows.map fun row => if row.id = id then change row else row
  unique := by
    have same : (table.rows.map fun row => if row.id = id then change row else row).map
        ClientRow.id = table.rows.map ClientRow.id := by
      rw [List.map_map]
      apply List.map_congr_left
      intro row _
      change (if row.id = id then change row else row).id = row.id
      split
      · exact keepsId row
      · rfl
    rw [same]
    exact table.unique

def touchLastUsed (id : ClientId) (whenSeconds : ℤ) : ClientTable :=
  table.updateRow id (fun row => { row with lastUsedAt := some whenSeconds }) fun _ => rfl

def revoke (id : ClientId) (whenSeconds : ℤ) : ClientTable :=
  table.updateRow id (fun row => { row with revokedAt := some whenSeconds }) fun _ => rfl

def rotateKey (id : ClientId) (apiKeyHash apiKeyPrefix : String) : ClientTable :=
  table.updateRow id (fun row => { row with apiKeyHash := apiKeyHash, apiKeyPrefix := apiKeyPrefix })
    fun _ => rfl

def delete (id : ClientId) : ClientTable where
  rows := table.rows.filter fun row => row.id ≠ id
  unique := table.unique.sublist (List.filter_sublist.map _)

def insert (row : ClientRow) : Except ClientError ClientTable :=
  if fresh : row.id ∈ table.rows.map ClientRow.id then .error .constraint
  else .ok
    { rows := table.rows ++ [row]
      unique := by
        rw [List.map_append]
        exact List.nodup_append'.mpr ⟨table.unique, List.nodup_singleton _,
          fun id member here => fresh (List.mem_singleton.mp here ▸ member)⟩ }

end Statements

end ClientTable

structure ClientInput where
  id : ClientId
  name : String
  scopes : Option (List String)
  rateLimitRpm : Option ℤ
  rateLimitTpm : Option ℤ

/-- A field that is not given keeps its value; a `null` token limit clears it. -/
structure ClientFields where
  name : Option String
  scopes : Option (List String)
  rateLimitRpm : Option ℤ
  rateLimitTpm : Option (Option ℤ)

namespace ClientService

variable (crypto : Crypto) (pepper : String) (table : ClientTable)

/-- `insertWithPlaintext`, and `create` with the key it has generated. -/
def insert (input : ClientInput) (plaintext : String) (nowSeconds : ℤ) :
    Except ClientError ClientTable :=
  match hashApiKey crypto plaintext pepper with
  | .error message => .error (.hash message)
  | .ok apiKeyHash =>
      let rpm := input.rateLimitRpm.getD 60
      if checked : 0 < rpm ∧ ∀ tpm, input.rateLimitTpm = some tpm → 0 < tpm then
        table.insert
          { id := input.id
            name := input.name
            apiKeyHash := apiKeyHash
            apiKeyPrefix := extractPrefix plaintext
            scopes := joinScopes (input.scopes.getD ["chat.read", "chat.write"])
            rateLimitRpm := rpm
            rateLimitTpm := input.rateLimitTpm
            createdAt := nowSeconds
            lastUsedAt := none
            revokedAt := none
            rpmPositive := checked.1
            tpmPositive := checked.2 }
      else .error .constraint

def revoke (id : ClientId) (nowSeconds : ℤ) : ClientTable := table.revoke id nowSeconds

def update (id : ClientId) (fields : ClientFields) : Except ClientError ClientTable :=
  match table.findById id with
  | none => .error (.notFound id)
  | some existing =>
      let name := fields.name.getD existing.name
      let scopes := fields.scopes.getD existing.scopes
      let rpm := fields.rateLimitRpm.getD existing.rateLimitRpm
      let tpm := fields.rateLimitTpm.getD existing.rateLimitTpm
      if scopes = [] then .error .noScope
      else if positive : 0 < rpm then
        if checked : ∀ value, tpm = some value → 0 < value then
          .ok (table.updateRow id (fun row =>
            { row with
              name := name
              scopes := joinScopes scopes
              rateLimitRpm := rpm
              rateLimitTpm := tpm
              rpmPositive := positive
              tpmPositive := checked }) fun _ => rfl)
        else .error .constraint
      else .error .rpmNotPositive

/-- `plaintext` is the key that was generated for the rotation. -/
def rotateKey (id : ClientId) (plaintext : String) : Except ClientError ClientTable :=
  match table.rowOf id with
  | none => .error (.notFound id)
  | some existing =>
      if existing.active = false then .error (.revoked id)
      else match hashApiKey crypto plaintext pepper with
        | .error message => .error (.hash message)
        | .ok apiKeyHash =>
            -- The rewrite of the other columns only normalises the scopes.
            let rewritten := table.updateRow id (fun row =>
              { row with scopes := joinScopes (splitScopes existing.scopes) }) fun _ => rfl
            .ok (rewritten.rotateKey id apiKeyHash (extractPrefix plaintext))

def delete (id : ClientId) : ClientTable := table.delete id

/-- What `verifyApiKey` resolves to once the cache has answered. -/
def verifyApiKey (cached : Option Client) (plaintext : String) : Option Client :=
  if plaintext = "" then none
  else match cached with
    | some client => some client
    | none =>
        match table.findActiveByPrefix (extractPrefix plaintext) with
        | none => none
        | some candidate =>
            if Auth.verifyApiKey crypto plaintext candidate.apiKeyHash pepper then some candidate
            else none

end ClientService

end LlmGateway.Auth
