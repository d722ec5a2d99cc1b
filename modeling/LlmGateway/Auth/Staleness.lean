import LlmGateway.Auth.AuthCache
import LlmGateway.Auth.PrefixScan
import LlmGateway.Lib.Runs

/-!
How long a revoked key keeps working. Whatever the cache holds was read from
the table while the key was good, so a success trails that moment by the time
the cache write took and by no more than the life of an entry.
-/

namespace LlmGateway.Auth

open Hex Quota Runs

variable (crypto : Crypto) (pepper : String)

def HoldsKey (row : ClientRow) (plaintext : String) : Prop :=
  ∃ hashHex, row.apiKeyHash.toList.splitOn '$' = ["hmac".toList, hashHex] ∧
    decode hashHex = crypto.hmac pepper plaintext

def KeyActive (table : ClientTable) (id : ClientId) (plaintext : String) : Prop :=
  ∃ row ∈ table.active, row.id = id ∧ HoldsKey crypto pepper row plaintext

def presented (events : List AuthEvent) : List String :=
  events.filterMap fun event =>
    match event with
    | .verify plaintext => some plaintext
    | _ => none

def CollisionFree (keys : List String) : Prop :=
  ∀ left ∈ keys, ∀ right ∈ keys, crypto.sha256 left = crypto.sha256 right → left = right

section Checking

theorem verifyApiKey_digest (plaintext stored : String)
    (verified : verifyApiKey crypto plaintext stored pepper = true) :
    ∃ hashHex, stored.toList.splitOn '$' = ["hmac".toList, hashHex] ∧
      decode hashHex = crypto.hmac pepper plaintext := by
  unfold verifyApiKey at verified
  split at verified
  · cases verified
  split at verified
  · cases verified
  split at verified
  · rename_i algo hashHex parts
    split at verified
    · cases verified
    · rename_i known
      dsimp only at verified
      split at verified
      · cases verified
      split at verified
      · cases verified
      · rw [not_or, not_not] at known
        rw [known.1] at parts
        exact ⟨hashHex, parts, (of_decide_eq_true verified).symm⟩
  · cases verified

theorem keyActive_of_cold (table : ClientTable) (plaintext : String) (client : Client)
    (accepted : ClientService.verifyApiKey crypto pepper table none plaintext = some client) :
    KeyActive crypto pepper table client.id plaintext := by
  obtain ⟨_, found, verified⟩ := verifyApiKey_cold crypto pepper table plaintext client accepted
  obtain ⟨row, member, _, rfl⟩ := findActiveByPrefix_some table _ client found
  exact ⟨row, member, rfl, verifyApiKey_digest crypto pepper plaintext _ verified⟩

theorem verifyApiKey_hit (table : ClientTable) (plaintext : String) (entry client : Client)
    (accepted : ClientService.verifyApiKey crypto pepper table (some entry) plaintext =
      some client) : client = entry := by
  unfold ClientService.verifyApiKey at accepted
  split at accepted
  · cases accepted
  · cases accepted
    rfl

theorem cacheKey_digest (left right : String)
    (same : AuthService.cacheKey crypto left = AuthService.cacheKey crypto right) :
    crypto.sha256 left = crypto.sha256 right := by
  have lengths : (encode (crypto.sha256 left)).length = (encode (crypto.sha256 right)).length := by
    rw [length_encode, length_encode, crypto.length_sha256, crypto.length_sha256]
  have texts := congrArg String.toList same
  simp only [AuthService.cacheKey, String.toList_append, String.toList_ofList] at texts
  have digests := (List.append_inj' texts lengths).2
  rw [← decode_encode (crypto.sha256 left), digests, decode_encode]

end Checking

namespace AuthService

section Histories

variable (start : AuthService)

/-- At some instant of the run the row of this client was active with this
key's hash, and the clock said `readAt`. -/
def Seen (events : List AuthEvent) (plaintext : String) (client : Client) (readAt : ℕ) : Prop :=
  ∃ before, before <+: events ∧ (run (step crypto pepper) start before).now = readAt ∧
    KeyActive crypto pepper (run (step crypto pepper) start before).table client.id plaintext

/-- At `storedAt` the run wrote this client, read at `readAt`, to the cache. -/
def Stored (events : List AuthEvent) (plaintext : String) (client : Client)
    (readAt storedAt : ℕ) : Prop :=
  ∃ before index, before ++ [.redisWrite index] <+: events ∧
    (run (step crypto pepper) start before).now = storedAt ∧
    (run (step crypto pepper) start before).writes[index]? = some ⟨plaintext, client, readAt⟩

/-- The key of a success was good at an instant `s`: on a miss that is the
lookup itself; on a hit the lookup trails `s` by at most the life of an entry
and the delay of the write that stored it. -/
def Justified (events : List AuthEvent) (success : Success) : Prop :=
  ∃ s, Seen crypto pepper start events success.plaintext success.client s ∧
    s ≤ success.lookedUpAt ∧
    match success.storedAt with
    | none => success.lookedUpAt = s
    | some storedAt =>
        Stored crypto pepper start events success.plaintext success.client s storedAt ∧
        s ≤ storedAt ∧ success.lookedUpAt - s ≤ ttlMs + (storedAt - s)

structure EntrySound (events : List AuthEvent) (plaintext : String) (entry : CacheEntry) : Prop where
  seen : Seen crypto pepper start events plaintext entry.client entry.readAt
  stored : Stored crypto pepper start events plaintext entry.client entry.readAt entry.writtenAt
  ordered : entry.readAt ≤ entry.writtenAt

/-- Everything on its way to a success was read while its key was good. -/
structure Sound (events : List AuthEvent) (service : AuthService) : Prop where
  asked : ∀ call ∈ service.calls, call.plaintext ∈ presented events
  answered : ∀ call ∈ service.calls, ∀ entry readAt,
    call.stage = .answered (some entry) readAt →
      EntrySound crypto pepper start events call.plaintext entry ∧
        entry.writtenAt ≤ readAt ∧ readAt ≤ entry.writtenAt + ttlMs
  sent : ∀ write ∈ service.writes, write.plaintext ∈ presented events ∧
    Seen crypto pepper start events write.plaintext write.client write.readAt ∧
    write.readAt ≤ service.now
  cached : ∀ key entry, service.cache.lookup key = some entry →
    ∃ plaintext ∈ presented events, cacheKey crypto plaintext = key ∧
      EntrySound crypto pepper start events plaintext entry ∧ entry.writtenAt ≤ service.now
  succeeded : ∀ success ∈ service.successes, Justified crypto pepper start events success

variable (before : List AuthEvent) (event : AuthEvent)

theorem seen_mono (plaintext : String) (client : Client) (readAt : ℕ)
    (seen : Seen crypto pepper start before plaintext client readAt) :
    Seen crypto pepper start (before ++ [event]) plaintext client readAt := by
  obtain ⟨moment, isPrefix, there⟩ := seen
  exact ⟨moment, isPrefix.trans (List.prefix_append _ _), there⟩

theorem stored_mono (plaintext : String) (client : Client) (readAt storedAt : ℕ)
    (stored : Stored crypto pepper start before plaintext client readAt storedAt) :
    Stored crypto pepper start (before ++ [event]) plaintext client readAt storedAt := by
  obtain ⟨moment, index, isPrefix, there⟩ := stored
  exact ⟨moment, index, isPrefix.trans (List.prefix_append _ _), there⟩

theorem entrySound_mono (plaintext : String) (entry : CacheEntry)
    (sound : EntrySound crypto pepper start before plaintext entry) :
    EntrySound crypto pepper start (before ++ [event]) plaintext entry :=
  ⟨seen_mono crypto pepper start before event _ _ _ sound.seen,
    stored_mono crypto pepper start before event _ _ _ _ sound.stored, sound.ordered⟩

theorem justified_mono (success : Success)
    (justified : Justified crypto pepper start before success) :
    Justified crypto pepper start (before ++ [event]) success := by
  obtain ⟨s, seen, earlier, bound⟩ := justified
  refine ⟨s, seen_mono crypto pepper start before event _ _ _ seen, earlier, ?_⟩
  cases stored : success.storedAt with
  | none =>
      rw [stored] at bound
      exact bound
  | some storedAt =>
      rw [stored] at bound
      exact ⟨stored_mono crypto pepper start before event _ _ _ _ bound.1, bound.2⟩

theorem presented_mono (plaintext : String) (member : plaintext ∈ presented before) :
    plaintext ∈ presented (before ++ [event]) := by
  unfold presented
  rw [List.filterMap_append]
  exact List.mem_append_left _ member

theorem sound_mono (service next : AuthService)
    (sound : Sound crypto pepper start before service)
    (calls : ∀ call ∈ next.calls, call ∈ service.calls)
    (writes : ∀ write ∈ next.writes, write ∈ service.writes)
    (cache : ∀ key entry, next.cache.lookup key = some entry →
      service.cache.lookup key = some entry)
    (successes : next.successes = service.successes) (later : service.now ≤ next.now) :
    Sound crypto pepper start (before ++ [event]) next := by
  constructor
  · intro call member
    exact presented_mono before event _ (sound.asked call (calls call member))
  · intro call member entry readAt stage
    obtain ⟨known, within⟩ := sound.answered call (calls call member) entry readAt stage
    exact ⟨entrySound_mono crypto pepper start before event _ _ known, within⟩
  · intro write member
    obtain ⟨asked, seen, sent⟩ := sound.sent write (writes write member)
    exact ⟨presented_mono before event _ asked, seen_mono crypto pepper start before event _ _ _ seen,
      sent.trans later⟩
  · intro key entry found
    obtain ⟨plaintext, asked, same, known, written⟩ := sound.cached key entry (cache key entry found)
    exact ⟨plaintext, presented_mono before event _ asked, same,
      entrySound_mono crypto pepper start before event _ _ known, written.trans later⟩
  · intro success member
    rw [successes] at member
    exact justified_mono crypto pepper start before event success (sound.succeeded success member)

theorem sound_ask (service : AuthService) (plaintext : String)
    (sound : Sound crypto pepper start before service) (asked : plaintext ∈ presented before) :
    Sound crypto pepper start before
      { service with calls := service.calls ++ [{ plaintext, stage := .asking }] } := by
  refine ⟨?_, ?_, sound.sent, sound.cached, sound.succeeded⟩
  · intro call member
    rcases List.mem_append.mp member with old | new
    · exact sound.asked call old
    · cases List.mem_singleton.mp new
      exact asked
  · intro call member entry readAt stage
    rcases List.mem_append.mp member with old | new
    · exact sound.answered call old entry readAt stage
    · cases List.mem_singleton.mp new
      cases stage

/-- What a GET finds was stored under this very key, unless digests collide. -/
theorem live_sound (service : AuthService) (plaintext : String) (entry : CacheEntry)
    (sound : Sound crypto pepper start before service)
    (free : CollisionFree crypto (presented before)) (asked : plaintext ∈ presented before)
    (found : service.live (cacheKey crypto plaintext) = some entry) :
    EntrySound crypto pepper start before plaintext entry ∧
      entry.writtenAt ≤ service.now ∧ service.now ≤ entry.writtenAt + ttlMs := by
  obtain ⟨held, alive⟩ := Option.filter_eq_some_iff.mp found
  obtain ⟨other, known, same, entrySound, written⟩ := sound.cached _ entry held
  have digest := free other known plaintext asked (cacheKey_digest crypto other plaintext same)
  subst digest
  exact ⟨entrySound, written, of_decide_eq_true alive⟩

theorem sound_answer (service : AuthService) (index : ℕ) (plaintext : String)
    (cached : Option CacheEntry) (sound : Sound crypto pepper start before service)
    (asked : plaintext ∈ presented before)
    (live : ∀ entry, cached = some entry →
      EntrySound crypto pepper start before plaintext entry ∧
        entry.writtenAt ≤ service.now ∧ service.now ≤ entry.writtenAt + ttlMs) :
    Sound crypto pepper start before (service.answer index plaintext cached) := by
  refine ⟨?_, ?_, sound.sent, sound.cached, sound.succeeded⟩
  · intro call member
    rcases List.mem_or_eq_of_mem_set member with old | new
    · exact sound.asked call old
    · rw [new]
      exact asked
  · intro call member entry readAt stage
    rcases List.mem_or_eq_of_mem_set member with old | new
    · exact sound.answered call old entry readAt stage
    · rw [new] at stage ⊢
      cases stage
      exact live entry rfl

theorem sound_touch (service : AuthService) (id : ClientId) (touchFails : Bool)
    (sound : Sound crypto pepper start before service) :
    Sound crypto pepper start before (service.touchLastUsedIfStale id touchFails) := by
  unfold touchLastUsedIfStale
  split
  · exact sound
  · split
    · exact ⟨sound.asked, sound.answered, sound.sent, sound.cached, sound.succeeded⟩
    · exact ⟨sound.asked, sound.answered, sound.sent, sound.cached, sound.succeeded⟩

theorem sound_finish (service : AuthService) (index : ℕ)
    (sound : Sound crypto pepper start before service) :
    Sound crypto pepper start before (service.finish index) :=
  ⟨fun call member => sound.asked call (List.mem_of_mem_eraseIdx member),
    fun call member => sound.answered call (List.mem_of_mem_eraseIdx member),
    sound.sent, sound.cached, sound.succeeded⟩

theorem sound_succeed (service : AuthService) (success : Success)
    (sound : Sound crypto pepper start before service)
    (justified : Justified crypto pepper start before success) :
    Sound crypto pepper start before (service.succeed success) := by
  refine ⟨sound.asked, sound.answered, sound.sent, sound.cached, ?_⟩
  intro other member
  rcases List.mem_append.mp member with old | new
  · exact sound.succeeded other old
  · rw [List.mem_singleton.mp new]
    exact justified

theorem sound_send (service : AuthService) (write : CacheWrite)
    (sound : Sound crypto pepper start before service) (asked : write.plaintext ∈ presented before)
    (seen : Seen crypto pepper start before write.plaintext write.client write.readAt)
    (sent : write.readAt ≤ service.now) :
    Sound crypto pepper start before (service.send write) := by
  refine ⟨sound.asked, sound.answered, ?_, sound.cached, sound.succeeded⟩
  intro other member
  rcases List.mem_append.mp member with old | new
  · exact sound.sent other old
  · rw [List.mem_singleton.mp new]
    exact ⟨asked, seen, sent⟩

theorem touch_now (service : AuthService) (id : ClientId) (touchFails : Bool) :
    (service.touchLastUsedIfStale id touchFails).now = service.now := by
  unfold touchLastUsedIfStale
  split_ifs <;> rfl

theorem sound_resume (index : ℕ) (touchFails : Bool) (plaintext : String)
    (cached : Option CacheEntry) (readAt : ℕ)
    (sound : Sound crypto pepper start before (run (step crypto pepper) start before))
    (waiting : (run (step crypto pepper) start before).calls[index]? =
      some ⟨plaintext, .answered cached readAt⟩) :
    Sound crypto pepper start before
      ((run (step crypto pepper) start before).resume crypto pepper index touchFails plaintext
        cached readAt) := by
  have member := List.mem_of_getElem? waiting
  have asked := sound.asked _ member
  have finished := sound_finish crypto pepper start before _ index sound
  unfold resume
  cases accepted : ClientService.verifyApiKey crypto pepper
      (run (step crypto pepper) start before).table (cached.map CacheEntry.client) plaintext with
  | none => exact finished
  | some client =>
      have touched := sound_touch crypto pepper start before _ client.id touchFails finished
      cases cached with
      | some entry =>
          obtain ⟨known, written, alive⟩ := sound.answered _ member entry readAt rfl
          have same := verifyApiKey_hit crypto pepper _ plaintext entry.client client accepted
          subst same
          apply sound_succeed crypto pepper start before _ _ touched
          have ordered := known.ordered
          refine ⟨entry.readAt, known.seen, ordered.trans written, known.stored, ordered, ?_⟩
          change readAt - entry.readAt ≤ ttlMs + (entry.writtenAt - entry.readAt)
          omega
      | none =>
          have seen : Seen crypto pepper start before plaintext client
              (run (step crypto pepper) start before).now :=
            ⟨before, List.prefix_rfl, rfl, keyActive_of_cold crypto pepper _ plaintext client accepted⟩
          have sent := sound_send crypto pepper start before _
            ⟨plaintext, client, (run (step crypto pepper) start before).now⟩ touched asked seen
            (by rw [touch_now]; exact le_refl _)
          exact sound_succeed crypto pepper start before _ _ sent ⟨_, seen, le_refl _, rfl⟩

theorem sound_write (index : ℕ) (write : CacheWrite)
    (sound : Sound crypto pepper start before (run (step crypto pepper) start before))
    (sent : (run (step crypto pepper) start before).writes[index]? = some write) :
    Sound crypto pepper start (before ++ [.redisWrite index])
      (step crypto pepper (run (step crypto pepper) start before) (.redisWrite index)) := by
  obtain ⟨asked, seen, earlier⟩ := sound.sent write (List.mem_of_getElem? sent)
  have kept := sound_mono crypto pepper start before (.redisWrite index) _ _ sound
    (fun _ member => member) (fun _ member => member) (fun _ _ found => found) rfl (le_refl _)
  rw [step, sent]
  refine ⟨kept.asked, kept.answered, kept.sent, ?_, kept.succeeded⟩
  intro key entry found
  by_cases same : key = cacheKey crypto write.plaintext
  · subst same
    rw [AList.lookup_insert] at found
    cases found
    refine ⟨write.plaintext, presented_mono before _ _ asked, rfl, ⟨?_, ?_, earlier⟩, le_refl _⟩
    · exact seen_mono crypto pepper start before _ _ _ _ seen
    · exact ⟨before, index, List.prefix_rfl, rfl, sent⟩
  · rw [AList.lookup_insert_ne same] at found
    exact kept.cached key entry found

theorem sound_same (next : AuthService)
    (sound : Sound crypto pepper start before (run (step crypto pepper) start before))
    (calls : next.calls = (run (step crypto pepper) start before).calls)
    (writes : next.writes = (run (step crypto pepper) start before).writes)
    (cache : next.cache = (run (step crypto pepper) start before).cache)
    (successes : next.successes = (run (step crypto pepper) start before).successes)
    (later : (run (step crypto pepper) start before).now ≤ next.now) :
    Sound crypto pepper start (before ++ [event]) next :=
  sound_mono crypto pepper start before event _ next sound (calls ▸ fun _ member => member)
    (writes ▸ fun _ member => member) (cache ▸ fun _ _ found => found) successes later

theorem sound_administer (outcome : Except ClientError ClientTable)
    (sound : Sound crypto pepper start before (run (step crypto pepper) start before)) :
    Sound crypto pepper start (before ++ [event])
      ((run (step crypto pepper) start before).administer outcome) := by
  cases outcome with
  | ok table =>
      exact sound_same crypto pepper start before event _ sound rfl rfl rfl rfl (le_refl _)
  | error error =>
      exact sound_same crypto pepper start before event _ sound rfl rfl rfl rfl (le_refl _)

theorem sound_read (index : ℕ) (plaintext : String)
    (sound : Sound crypto pepper start before (run (step crypto pepper) start before))
    (free : CollisionFree crypto (presented before))
    (waiting : (run (step crypto pepper) start before).calls[index]? =
      some ⟨plaintext, .asking⟩) :
    Sound crypto pepper start (before ++ [event])
      ((run (step crypto pepper) start before).answer index plaintext
        ((run (step crypto pepper) start before).live (cacheKey crypto plaintext))) := by
  have idle := sound_same crypto pepper start before event _ sound rfl rfl rfl rfl (le_refl _)
  have member := List.mem_of_getElem? waiting
  have asked := sound.asked _ member
  apply sound_answer crypto pepper start _ _ index plaintext _ idle (idle.asked _ member)
  intro entry found
  obtain ⟨known, within⟩ :=
    live_sound crypto pepper start before _ plaintext entry sound free asked found
  exact ⟨entrySound_mono crypto pepper start before _ _ _ known, within⟩

theorem sound_expire (key : String)
    (sound : Sound crypto pepper start before (run (step crypto pepper) start before)) :
    Sound crypto pepper start (before ++ [.expire key])
      (step crypto pepper (run (step crypto pepper) start before) (.expire key)) := by
  refine sound_mono crypto pepper start before _ _ _ sound (fun _ member => member)
    (fun _ member => member) ?_ rfl (le_refl _)
  intro other entry found
  by_cases erased : other = key
  · subst erased
    rw [step, AList.lookup_erase] at found
    cases found
  · exact (AList.lookup_erase_ne erased).symm.trans found

theorem sound_step
    (sound : Sound crypto pepper start before (run (step crypto pepper) start before))
    (free : CollisionFree crypto (presented before)) :
    Sound crypto pepper start (before ++ [event])
      (step crypto pepper (run (step crypto pepper) start before) event) := by
  have same := fun next => sound_same crypto pepper start before event next sound
  have idle := same _ rfl rfl rfl rfl (le_refl _)
  have operated := fun outcome => sound_administer crypto pepper start before event outcome sound
  cases event with
  | tick ms => exact same _ rfl rfl rfl rfl (Nat.le_add_right _ _)
  | verify plaintext =>
      rw [step]
      split
      · exact idle
      · apply sound_ask crypto pepper start _ _ plaintext idle
        simp [presented]
  | redisRead index =>
      rw [step]
      split
      · rename_i plaintext waiting
        exact sound_read crypto pepper start before _ index plaintext sound free waiting
      · exact idle
  | redisReadFails index =>
      rw [step]
      split
      · rename_i plaintext waiting
        apply sound_answer crypto pepper start _ _ index plaintext none idle
          (idle.asked _ (List.mem_of_getElem? waiting))
        intro entry none
        cases none
      · exact idle
  | resume index touchFails =>
      rw [step]
      split
      · rename_i plaintext cached readAt waiting
        have resumed := sound_resume crypto pepper start before index touchFails plaintext cached
          readAt sound waiting
        exact sound_mono crypto pepper start before _ _ _ resumed (fun _ member => member)
          (fun _ member => member) (fun _ _ found => found) rfl (le_refl _)
      · exact idle
  | redisWrite index =>
      cases sent : (run (step crypto pepper) start before).writes[index]? with
      | none =>
          rw [step, sent]
          exact idle
      | some write => exact sound_write crypto pepper start before index write sound sent
  | settleWrite index =>
      exact sound_mono crypto pepper start before _ _ _ sound (fun _ member => member)
        (fun _ member => List.mem_of_mem_eraseIdx member) (fun _ _ found => found) rfl (le_refl _)
  | expire key => exact sound_expire crypto pepper start before key sound
  | insert input plaintext => exact operated _
  | revoke id => exact same _ rfl rfl rfl rfl (le_refl _)
  | rotate id plaintext => exact operated _
  | update id fields => exact operated _
  | delete id => exact same _ rfl rfl rfl rfl (le_refl _)

theorem collisionFree_prefix
    (free : CollisionFree crypto (presented (before ++ [event]))) :
    CollisionFree crypto (presented before) := by
  intro left leftMember right rightMember same
  exact free left (presented_mono before event left leftMember) right
    (presented_mono before event right rightMember) same

theorem boot_sound (table : ClientTable) (now : ℕ) :
    Sound crypto pepper start [] (boot table now) := by
  refine ⟨?_, ?_, ?_, ?_, ?_⟩
  · intro call member
    cases member
  · intro call member
    cases member
  · intro write member
    cases member
  · intro key entry found
    rw [boot, AList.lookup_empty] at found
    cases found
  · intro success member
    cases member

end Histories

/-- A GET, and a call that the cache has let in, leave the cache as it is and
send no write. -/
def LifetimeKept (service : AuthService) (event : AuthEvent) : Prop :=
  let next := step crypto pepper service event
  match event with
  | .redisRead _ => next.cache = service.cache ∧ next.writes = service.writes
  | .resume index _ => ∀ plaintext entry readAt,
      service.calls[index]? = some ⟨plaintext, .answered (some entry) readAt⟩ →
      next.cache = service.cache ∧ next.writes = service.writes
  | _ => True

theorem touch_cache (service : AuthService) (id : ClientId) (touchFails : Bool) :
    (service.touchLastUsedIfStale id touchFails).cache = service.cache ∧
      (service.touchLastUsedIfStale id touchFails).writes = service.writes := by
  unfold touchLastUsedIfStale
  split_ifs <;> exact ⟨rfl, rfl⟩

theorem lifetimeKept (service : AuthService) (event : AuthEvent) :
    LifetimeKept crypto pepper service event := by
  cases event with
  | redisRead index =>
      change (step crypto pepper service (.redisRead index)).cache = _ ∧ _
      rw [step]
      split <;> exact ⟨rfl, rfl⟩
  | resume index touchFails =>
      intro plaintext entry readAt waiting
      rw [step, waiting]
      dsimp only
      unfold resume
      cases ClientService.verifyApiKey crypto pepper service.table
          ((some entry).map CacheEntry.client) plaintext with
      | none => exact ⟨rfl, rfl⟩
      | some client => exact touch_cache (service.finish index) client.id touchFails
  | _ => trivial

/-- In every run from a cold cache a key that gets in was good at most the life
of an entry, and the delay of the write that stored it, before its lookup; and
no hit extends the life of an entry. -/
theorem staleness_bounded (table : ClientTable) (now : ℕ) (events : List AuthEvent)
    (free : CollisionFree crypto (presented events)) :
    (∀ success ∈ (run (step crypto pepper) (boot table now) events).successes,
        Justified crypto pepper (boot table now) events success) ∧
      Guarded (step crypto pepper) (LifetimeKept crypto pepper) (boot table now) events := by
  constructor
  · have sound := run_history (step crypto pepper)
      (fun events service => CollisionFree crypto (presented events) →
        Sound crypto pepper (boot table now) events service) (boot table now)
      (fun _ => boot_sound crypto pepper _ table now)
      (fun before event ih free =>
        have earlier := collisionFree_prefix crypto before event free
        sound_step crypto pepper _ before event (ih earlier) earlier)
      events free
    exact sound.succeeded
  · exact guarded_of_invariant _ (fun _ => True) _ (fun _ _ _ => trivial)
      (fun service event _ => lifetimeKept crypto pepper service event) _ events trivial

section Example

def revokedRun : List AuthEvent :=
  [.verify firstKey, .redisRead 0, .resume 0 false, .tick 20, .redisWrite 0, .settleWrite 0,
    .revoke clientOne, .tick 1000, .verify firstKey, .redisRead 0, .resume 0 false]

theorem revokedRun_bounded :
    (run (step exampleCrypto examplePepper) (boot (exampleTable thirdKey) 0)
        revokedRun).successes.map Success.storedAt = [none, some 20] ∧
      ∀ success ∈ (run (step exampleCrypto examplePepper) (boot (exampleTable thirdKey) 0)
        revokedRun).successes,
        Justified exampleCrypto examplePepper (boot (exampleTable thirdKey) 0) revokedRun
          success := by
  have free : CollisionFree exampleCrypto (presented revokedRun) := by
    have keys : ∀ key ∈ presented revokedRun, key = firstKey := by
      simp [presented, revokedRun]
    intro left leftMember right rightMember _
    rw [keys left leftMember, keys right rightMember]
  exact ⟨by decide +kernel,
    (staleness_bounded exampleCrypto examplePepper (exampleTable thirdKey) 0 revokedRun free).1⟩

end Example

end AuthService

end LlmGateway.Auth
