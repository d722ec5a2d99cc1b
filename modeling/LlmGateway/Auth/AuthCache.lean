import Mathlib.Data.List.AList
import LlmGateway.Auth.Clients

/-!
`verifyApiKey` with the Redis cache before it. A call waits for Redis and then
runs to its end, its cache write is sent and not waited for, and the operations
on clients fall anywhere between. Time passes between steps, in milliseconds.
-/

namespace LlmGateway.Auth

open Hex Quota

/-- A value in Redis. When the row was read is kept for the observer. -/
structure CacheEntry where
  client : Client
  readAt : ℕ
  writtenAt : ℕ

structure CacheWrite where
  plaintext : String
  client : Client
  readAt : ℕ

inductive Stage where
  | asking
  /-- What the GET found when it took effect. -/
  | answered (cached : Option CacheEntry) (readAt : ℕ)

structure Verification where
  plaintext : String
  stage : Stage

/-- A call that has returned a client. The lookup is the GET on a hit and the
row read on a miss; `storedAt` is when the SET behind a hit took effect. -/
structure Success where
  plaintext : String
  client : Client
  lookedUpAt : ℕ
  storedAt : Option ℕ

structure AuthService where
  now : ℕ
  table : ClientTable
  cache : AList fun _ : String => CacheEntry
  writes : List CacheWrite
  calls : List Verification
  lastTouchedAt : AList fun _ : ClientId => ℕ
  successes : List Success

inductive AuthEvent where
  | tick (ms : ℕ)
  | verify (plaintext : String)
  | redisRead (index : ℕ)
  | redisReadFails (index : ℕ)
  | resume (index : ℕ) (touchFails : Bool)
  /-- The SET takes effect; a resent one may do so again. -/
  | redisWrite (index : ℕ)
  | settleWrite (index : ℕ)
  | expire (key : String)
  | insert (input : ClientInput) (plaintext : String)
  | revoke (id : ClientId)
  | rotate (id : ClientId) (plaintext : String)
  | update (id : ClientId) (fields : ClientFields)
  | delete (id : ClientId)

/-- `TTL_SECONDS` and `TOUCH_THROTTLE_MS`. -/
def ttlMs : ℕ := 300 * 1000

def touchThrottleMs : ℕ := 60000

namespace AuthService

def boot (table : ClientTable) (now : ℕ) : AuthService where
  now := now
  table := table
  cache := ∅
  writes := []
  calls := []
  lastTouchedAt := ∅
  successes := []

variable (crypto : Crypto) (pepper : String) (service : AuthService)

def cacheKey (plaintext : String) : String :=
  "ak:v1:" ++ extractPrefix plaintext ++ ":" ++ String.ofList (encode (crypto.sha256 plaintext))

def live (key : String) : Option CacheEntry :=
  (service.cache.lookup key).filter fun entry => service.now ≤ entry.writtenAt + ttlMs

def answer (index : ℕ) (plaintext : String) (cached : Option CacheEntry) : AuthService :=
  let call : Verification := { plaintext, stage := .answered cached service.now }
  { service with calls := service.calls.set index call }

def touchLastUsedIfStale (id : ClientId) (touchFails : Bool) : AuthService :=
  if service.now - (service.lastTouchedAt.lookup id).getD 0 < touchThrottleMs then service
  else if touchFails then { service with lastTouchedAt := service.lastTouchedAt.erase id }
  else
    { service with
      lastTouchedAt := service.lastTouchedAt.insert id service.now
      table := service.table.touchLastUsed id (service.now / 1000) }

def finish (index : ℕ) : AuthService :=
  { service with calls := service.calls.eraseIdx index }

def succeed (success : Success) : AuthService :=
  { service with successes := service.successes ++ [success] }

def send (write : CacheWrite) : AuthService :=
  { service with writes := service.writes ++ [write] }

/-- The rest of `verifyApiKey` behind its await. -/
def resume (index : ℕ) (touchFails : Bool) (plaintext : String) (cached : Option CacheEntry)
    (readAt : ℕ) : AuthService :=
  match ClientService.verifyApiKey crypto pepper service.table (cached.map CacheEntry.client)
      plaintext with
  | none => service.finish index
  | some client =>
      let touched := (service.finish index).touchLastUsedIfStale client.id touchFails
      match cached with
      | some entry => touched.succeed
          { plaintext, client, lookedUpAt := readAt, storedAt := some entry.writtenAt }
      | none =>
          (touched.send { plaintext, client, readAt := service.now }).succeed
            { plaintext, client, lookedUpAt := service.now, storedAt := none }

/-- An operation that throws leaves the table as it was. -/
def administer (outcome : Except ClientError ClientTable) : AuthService :=
  match outcome with
  | .ok table => { service with table := table }
  | .error _ => service

def step (service : AuthService) : AuthEvent → AuthService
  | .tick ms => { service with now := service.now + ms }
  | .verify plaintext =>
      if plaintext = "" then service
      else { service with calls := service.calls ++ [{ plaintext, stage := .asking }] }
  | .redisRead index =>
      match service.calls[index]? with
      | some ⟨plaintext, .asking⟩ =>
          service.answer index plaintext (service.live (cacheKey crypto plaintext))
      | _ => service
  | .redisReadFails index =>
      match service.calls[index]? with
      | some ⟨plaintext, .asking⟩ => service.answer index plaintext none
      | _ => service
  | .resume index touchFails =>
      match service.calls[index]? with
      | some ⟨plaintext, .answered cached readAt⟩ =>
          service.resume crypto pepper index touchFails plaintext cached readAt
      | _ => service
  | .redisWrite index =>
      match service.writes[index]? with
      | some write =>
          let entry : CacheEntry :=
            { client := write.client, readAt := write.readAt, writtenAt := service.now }
          { service with cache := service.cache.insert (cacheKey crypto write.plaintext) entry }
      | none => service
  | .settleWrite index => { service with writes := service.writes.eraseIdx index }
  | .expire key => { service with cache := service.cache.erase key }
  | .insert input plaintext =>
      service.administer (ClientService.insert crypto pepper service.table input plaintext
        (service.now / 1000))
  | .revoke id =>
      { service with table := ClientService.revoke service.table id (service.now / 1000) }
  | .rotate id plaintext =>
      service.administer (ClientService.rotateKey crypto pepper service.table id plaintext)
  | .update id fields => service.administer (ClientService.update service.table id fields)
  | .delete id => { service with table := ClientService.delete service.table id }

end AuthService

end LlmGateway.Auth
