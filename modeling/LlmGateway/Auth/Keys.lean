import LlmGateway.Lib.Hex

/-!
How an API key is stored and checked: `api-key-hash.util.ts`. A stored hash is
the word `hmac`, a dollar sign and the digest in hexadecimal; what a digest is
comes from outside.
-/

namespace LlmGateway.Auth

open Hex

/-- The two digests of `node:crypto`, of 32 bytes each. -/
structure Crypto where
  /-- HMAC-SHA256 of a text under a pepper. -/
  hmac : String → String → List Byte
  sha256 : String → List Byte
  length_hmac : ∀ pepper text, (hmac pepper text).length = 32
  length_sha256 : ∀ text, (sha256 text).length = 32

variable (crypto : Crypto)

/-- The characters that begin within the first `room` UTF-16 units. A
character that the cut splits leaves half of itself, which is written to a
database or to Redis as the replacement character. -/
def sliceUnits : ℕ → List Char → List Char
  | _, [] => []
  | 0, _ => []
  | room + 1, char :: rest =>
      if char.toNat < 0x10000 then char :: sliceUnits room rest
      else if room = 0 then ['\uFFFD']
      else char :: sliceUnits (room - 1) rest

def prefixLength : ℕ := 8

def extractPrefix (key : String) : String :=
  if Js.utf16Length key ≤ prefixLength then key
  else String.ofList (sliceUnits prefixLength key.toList)

def hashText (digest : List Byte) : String := "hmac$" ++ String.ofList (encode digest)

def hashApiKey (plaintext pepper : String) : Except String String :=
  if plaintext = "" then .error "api-key hash: plaintext must be non-empty"
  else if Js.utf16Length pepper < 32 then
    .error "api-key hash: pepper must be non-empty (>=32 chars)"
  else .ok (hashText (crypto.hmac pepper plaintext))

def verifyApiKey (plaintext stored pepper : String) : Bool :=
  if plaintext = "" ∨ stored = "" then false
  else if Js.utf16Length pepper < 32 then false
  else
    match stored.toList.splitOn '$' with
    | [algo, hashHex] =>
        -- Another algorithm is a legacy row.
        if algo ≠ "hmac".toList ∨ hashHex = [] then false
        else
          let expected := decode hashHex
          if expected = [] then false
          else
            let derived := crypto.hmac pepper plaintext
            if derived.length ≠ expected.length then false else derived = expected
    | _ => false

section Hashes

variable (plaintext key pepper stored : String)

theorem hashApiKey_ok (hashed : hashApiKey crypto key pepper = .ok stored) :
    key ≠ "" ∧ 32 ≤ Js.utf16Length pepper ∧ stored = hashText (crypto.hmac pepper key) := by
  unfold hashApiKey at hashed
  split at hashed
  · cases hashed
  · rename_i nonempty
    split at hashed
    · cases hashed
    · rename_i long
      cases hashed
      exact ⟨nonempty, Nat.le_of_not_lt long, rfl⟩

theorem splitOn_hashText (digest : List Byte) :
    (hashText digest).toList.splitOn '$' = ["hmac".toList, encode digest] := by
  have text : (hashText digest).toList = "hmac".toList ++ '$' :: encode digest := by
    simp [hashText]
  rw [text, List.splitOn_append_cons_self_of_not_mem (by decide),
    List.splitOn_eq_singleton (dollar_not_mem_encode digest)]

theorem hashText_ne_empty (digest : List Byte) : hashText digest ≠ "" := by
  intro empty
  have text := congrArg String.toList empty
  rw [hashText, String.toList_append] at text
  cases text

theorem verifyApiKey_iff (hashed : hashApiKey crypto key pepper = .ok stored) :
    verifyApiKey crypto plaintext stored pepper = true ↔
      plaintext ≠ "" ∧ crypto.hmac pepper plaintext = crypto.hmac pepper key := by
  obtain ⟨_, long, rfl⟩ := hashApiKey_ok crypto key pepper stored hashed
  have bytes := crypto.length_hmac pepper key
  have written : encode (crypto.hmac pepper key) ≠ [] := by
    intro none
    have short := length_encode (crypto.hmac pepper key)
    rw [none, bytes] at short
    cases short
  have some_bytes : crypto.hmac pepper key ≠ [] := by
    intro none
    rw [none] at bytes
    cases bytes
  unfold verifyApiKey
  by_cases empty : plaintext = ""
  · rw [if_pos (Or.inl empty)]
    exact iff_of_false Bool.false_ne_true fun both => both.1 empty
  · rw [if_neg (not_or.mpr ⟨empty, hashText_ne_empty _⟩), if_neg (Nat.not_lt.mpr long),
      splitOn_hashText, and_iff_right empty]
    simp only [decode_encode]
    rw [if_neg (not_or.mpr ⟨not_not.mpr rfl, written⟩), if_neg some_bytes,
      if_neg (not_not.mpr ((crypto.length_hmac pepper plaintext).trans bytes.symm)),
      decide_eq_true_iff]

end Hashes

end LlmGateway.Auth
