import LlmGateway.Auth.Clients

/-!
Who can authenticate past a cold cache. The lookup takes one active row of the
key's prefix and only then compares hashes, so of the clients that share a
prefix at most one gets in.
-/

namespace LlmGateway.Auth

open Quota

variable (crypto : Crypto) (pepper : String) (table : ClientTable) (key : ClientId → String)

def ClientTable.active (table : ClientTable) : List ClientRow := table.rows.filter ClientRow.active

structure Issued (row : ClientRow) (plaintext : String) : Prop where
  hashed : hashApiKey crypto plaintext pepper = .ok row.apiKeyHash
  prefixed : row.apiKeyPrefix = extractPrefix plaintext

/-- Every active client gets in with its own key, and is recognised as itself. -/
def EachAuthenticates : Prop :=
  ∀ row ∈ table.active,
    ClientService.verifyApiKey crypto pepper table none (key row.id) = some (toClient row)

section Rows

theorem mem_active (row : ClientRow) :
    row ∈ table.active ↔ row ∈ table.rows ∧ row.active = true := List.mem_filter

theorem row_eq_of_id (left right : ClientRow) (leftMember : left ∈ table.rows)
    (rightMember : right ∈ table.rows) (same : left.id = right.id) : left = right :=
  List.inj_on_of_nodup_map table.unique leftMember rightMember same

theorem nodup_active : table.active.Nodup := table.unique.of_map.filter _

theorem findActiveByPrefix_some (apiKeyPrefix : String) (candidate : Client)
    (found : table.findActiveByPrefix apiKeyPrefix = some candidate) :
    ∃ row ∈ table.active, row.apiKeyPrefix = apiKeyPrefix ∧ candidate = toClient row := by
  obtain ⟨row, first, rfl⟩ := Option.map_eq_some_iff.mp found
  have holds := List.find?_some first
  rw [decide_eq_true_iff] at holds
  exact ⟨row, (mem_active table row).mpr ⟨List.mem_of_find?_eq_some first, holds.2⟩, holds.1, rfl⟩

theorem findActiveByPrefix_own (row : ClientRow) (member : row ∈ table.active)
    (alone : ∀ other ∈ table.active, other.apiKeyPrefix = row.apiKeyPrefix → other = row) :
    table.findActiveByPrefix row.apiKeyPrefix = some (toClient row) := by
  obtain ⟨stored, active⟩ := (mem_active table row).mp member
  cases found : table.findActiveByPrefix row.apiKeyPrefix with
  | none =>
      have absent := Option.map_eq_none_iff.mp found
      rw [List.find?_eq_none] at absent
      exact absurd (decide_eq_true ⟨rfl, active⟩) (absent row stored)
  | some candidate =>
      obtain ⟨other, present, same, rfl⟩ := findActiveByPrefix_some table _ candidate found
      rw [alone other present same]

theorem verifyApiKey_cold (plaintext : String) (client : Client)
    (accepted : ClientService.verifyApiKey crypto pepper table none plaintext = some client) :
    plaintext ≠ "" ∧ table.findActiveByPrefix (extractPrefix plaintext) = some client ∧
      verifyApiKey crypto plaintext client.apiKeyHash pepper = true := by
  unfold ClientService.verifyApiKey at accepted
  split at accepted
  · cases accepted
  · rename_i nonempty
    dsimp only at accepted
    cases found : table.findActiveByPrefix (extractPrefix plaintext) with
    | none =>
        rw [found] at accepted
        cases accepted
    | some candidate =>
        rw [found] at accepted
        dsimp only at accepted
        split at accepted
        · rename_i verified
          cases accepted
          exact ⟨nonempty, rfl, verified⟩
        · cases accepted

theorem verifyApiKey_own (row : ClientRow) (plaintext : String)
    (issued : Issued crypto pepper row plaintext)
    (found : table.findActiveByPrefix row.apiKeyPrefix = some (toClient row)) :
    ClientService.verifyApiKey crypto pepper table none plaintext = some (toClient row) := by
  have nonempty := (hashApiKey_ok crypto plaintext pepper _ issued.hashed).1
  have verified : verifyApiKey crypto plaintext row.apiKeyHash pepper = true :=
    (verifyApiKey_iff crypto plaintext plaintext pepper _ issued.hashed).mpr ⟨nonempty, rfl⟩
  unfold ClientService.verifyApiKey
  rw [if_neg nonempty, ← issued.prefixed, found]
  exact if_pos verified

end Rows

/-- Past a cold cache every active client authenticates exactly when no two
active keys begin with the same eight characters. -/
theorem eachAuthenticates_iff
    (issued : ∀ row ∈ table.active, Issued crypto pepper row (key row.id)) :
    EachAuthenticates crypto pepper table key ↔
      (table.active.map fun row => extractPrefix (key row.id)).Nodup := by
  rw [List.nodup_map_iff_inj_on (nodup_active table)]
  constructor
  · intro authenticates left leftMember right rightMember shared
    have leftFound := (verifyApiKey_cold crypto pepper table _ _
      (authenticates left leftMember)).2.1
    have rightFound := (verifyApiKey_cold crypto pepper table _ _
      (authenticates right rightMember)).2.1
    -- Both keys have one candidate, and it is one client.
    rw [shared, rightFound] at leftFound
    have sameId : right.id = left.id := congrArg Client.id (Option.some.inj leftFound)
    exact row_eq_of_id table left right ((mem_active table left).mp leftMember).1
      ((mem_active table right).mp rightMember).1 sameId.symm
  · intro distinct row member
    apply verifyApiKey_own crypto pepper table row _ (issued row member)
    apply findActiveByPrefix_own table row member
    intro other present same
    rw [(issued other present).prefixed, (issued row member).prefixed] at same
    exact distinct other present row member same

section Example

def examplePepper : String := "0123456789abcdef0123456789abcdef"

def firstKey : String := "sk-a1b2c00000000000000000000000000000000000000000000000000000000000"

def secondKey : String := "sk-a1b2c11111111111111111111111111111111111111111111111111111111111"

def thirdKey : String := "sk-d4e5f11111111111111111111111111111111111111111111111111111111111"

/-- The digests of the three keys, as `node:crypto` gives them. -/
def exampleCrypto : Crypto where
  hmac := fun _ text =>
    if text = firstKey then [133, 147, 179, 133, 180, 74, 29, 149, 81, 165, 219, 157, 126, 57, 164,
      181, 47, 81, 91, 58, 179, 118, 213, 216, 98, 201, 16, 135, 188, 112, 216, 153]
    else if text = secondKey then [128, 103, 50, 36, 17, 45, 247, 160, 214, 173, 95, 149, 89, 131,
      203, 255, 20, 229, 192, 112, 91, 210, 4, 44, 75, 133, 98, 32, 244, 90, 112, 100]
    else if text = thirdKey then [135, 136, 97, 234, 69, 162, 21, 87, 62, 114, 144, 5, 200, 83, 231,
      33, 47, 108, 243, 152, 212, 214, 40, 226, 119, 61, 42, 55, 75, 78, 0, 160]
    else List.replicate 32 0
  sha256 := fun text =>
    if text = firstKey then [15, 114, 145, 172, 4, 193, 63, 159, 237, 124, 234, 124, 177, 198, 118,
      229, 232, 44, 138, 147, 159, 216, 224, 229, 186, 62, 22, 33, 213, 156, 46, 97]
    else if text = secondKey then [159, 115, 119, 87, 7, 201, 1, 237, 116, 69, 142, 24, 73, 184,
      210, 177, 179, 111, 213, 134, 177, 142, 64, 156, 122, 124, 152, 133, 244, 38, 139, 168]
    else if text = thirdKey then [140, 104, 13, 128, 239, 189, 155, 83, 120, 111, 62, 183, 64, 103,
      222, 99, 134, 196, 46, 242, 51, 132, 145, 192, 149, 124, 117, 37, 7, 31, 171, 142]
    else List.replicate 32 0
  length_hmac := by
    intro pepper text
    split_ifs <;> rfl
  length_sha256 := by
    intro text
    split_ifs <;> rfl

def clientOne : ClientId where
  text := "one"
  nonempty := by decide
  noNul := by decide

def clientTwo : ClientId where
  text := "two"
  nonempty := by decide
  noNul := by decide

def exampleRow (id : ClientId) (plaintext : String) : ClientRow where
  id := id
  name := id.text
  apiKeyHash := hashText (exampleCrypto.hmac examplePepper plaintext)
  apiKeyPrefix := extractPrefix plaintext
  scopes := "chat.read,chat.write"
  rateLimitRpm := 60
  rateLimitTpm := none
  createdAt := 0
  lastUsedAt := none
  revokedAt := none
  rpmPositive := by decide
  tpmPositive := by
    intro tpm none
    cases none

def exampleTable (second : String) : ClientTable where
  rows := [exampleRow clientOne firstKey, exampleRow clientTwo second]
  unique := by
    change [clientOne, clientTwo].Nodup
    decide

def exampleKeys (second : String) (id : ClientId) : String :=
  if id = clientOne then firstKey else second

theorem exampleKeys_one (second : String) : exampleKeys second clientOne = firstKey := if_pos rfl

theorem exampleKeys_two (second : String) : exampleKeys second clientTwo = second :=
  if_neg (by decide)

theorem mem_exampleTable (second : String) (row : ClientRow)
    (member : row ∈ (exampleTable second).active) :
    row = exampleRow clientOne firstKey ∨ row = exampleRow clientTwo second := by
  rcases List.mem_cons.mp ((mem_active _ row).mp member).1 with first | rest
  · exact Or.inl first
  · exact Or.inr (List.mem_singleton.mp rest)

theorem example_issued (second : String) (nonempty : second ≠ "") :
    ∀ row ∈ (exampleTable second).active,
      Issued exampleCrypto examplePepper row (exampleKeys second row.id) := by
  have long : ¬ Js.utf16Length examplePepper < 32 := by decide +kernel
  have issued : ∀ id plaintext, plaintext ≠ "" →
      Issued exampleCrypto examplePepper (exampleRow id plaintext) plaintext := by
    intro id plaintext given
    exact ⟨by rw [hashApiKey, if_neg given, if_neg long]; rfl, rfl⟩
  intro row member
  rcases mem_exampleTable second row member with rfl | rfl
  · change Issued _ _ _ (exampleKeys second clientOne)
    rw [exampleKeys_one]
    exact issued clientOne firstKey (by decide +kernel)
  · change Issued _ _ _ (exampleKeys second clientTwo)
    rw [exampleKeys_two]
    exact issued clientTwo second nonempty

theorem eachAuthenticates_apart :
    EachAuthenticates exampleCrypto examplePepper (exampleTable thirdKey) (exampleKeys thirdKey) :=
  (eachAuthenticates_iff exampleCrypto examplePepper (exampleTable thirdKey) (exampleKeys thirdKey)
    (example_issued thirdKey (by decide +kernel))).mpr (by decide +kernel)

/-- The second client shares the prefix of the first and cannot get in, though
neither their keys nor their digests are the same. -/
theorem shared_prefix_locked_out :
    ¬ ∀ (crypto : Crypto) (pepper : String) (table : ClientTable) (key : ClientId → String),
      (∀ row ∈ table.active, Issued crypto pepper row (key row.id)) →
      (∀ left ∈ table.active, ∀ right ∈ table.active, left ≠ right →
        key left.id ≠ key right.id ∧
          crypto.hmac pepper (key left.id) ≠ crypto.hmac pepper (key right.id)) →
      EachAuthenticates crypto pepper table key := by
  intro claimed
  have different : exampleKeys secondKey clientOne ≠ exampleKeys secondKey clientTwo ∧
      exampleCrypto.hmac examplePepper (exampleKeys secondKey clientOne) ≠
        exampleCrypto.hmac examplePepper (exampleKeys secondKey clientTwo) := by
    decide +kernel
  have authenticates := claimed exampleCrypto examplePepper (exampleTable secondKey)
    (exampleKeys secondKey) (example_issued secondKey (by decide +kernel)) (by
      intro left leftMember right rightMember apart
      rcases mem_exampleTable secondKey left leftMember with rfl | rfl <;>
        rcases mem_exampleTable secondKey right rightMember with rfl | rfl
      · exact absurd rfl apart
      · exact different
      · exact ⟨different.1.symm, different.2.symm⟩
      · exact absurd rfl apart)
  have second := authenticates (exampleRow clientTwo secondKey)
    ((mem_active _ _).mpr ⟨List.mem_cons_of_mem _ (List.mem_singleton.mpr rfl), rfl⟩)
  have found := (verifyApiKey_cold _ _ _ _ _ second).2.1
  have candidate : (exampleTable secondKey).findActiveByPrefix
      (extractPrefix (exampleKeys secondKey clientTwo)) =
        some (toClient (exampleRow clientOne firstKey)) := by
    decide +kernel
  have same := Option.some.inj (candidate.symm.trans found)
  exact absurd (congrArg Client.id same) (by decide)

end Example

end LlmGateway.Auth
