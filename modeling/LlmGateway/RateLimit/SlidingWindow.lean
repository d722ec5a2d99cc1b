import LlmGateway.Lib.Runs
import LlmGateway.Lib.ScoredSet

/-!
`RedisRateLimiterService.allowRequest` for one client. Each command to Redis
takes effect on its own, and the commands of the calls in flight interleave in
any order. Every call brings its own reading of the clock.
-/

namespace LlmGateway.RateLimit

open Runs ScoredSets

structure RateLimitResult where
  allowed : Bool
  current : ℕ
  limit : ℕ
  retryAfterMs : Option ℤ
  deriving DecidableEq, Repr

/-- The command a call has sent, or the result it is about to return. -/
inductive Stage where
  | pruning
  | counting
  | adding (current : ℕ)
  | expiring (current : ℕ)
  | settled (result : RateLimitResult)
  deriving DecidableEq, Repr

structure Call where
  nowMs : ℤ
  /-- The member of its entry: the time and random characters. -/
  member : String
  stage : Stage
  deriving DecidableEq, Repr

structure Limiter where
  /-- A runner was injected. -/
  wired : Bool
  limit : ℕ
  window : ScoredSet
  calls : List Call

inductive Event where
  | allowRequest (nowMs : ℤ) (member : String)
  /-- The command a call has sent takes effect, and the call goes on. -/
  | command (index : ℕ)
  /-- The command is answered by an error, before or after its effect. -/
  | fail (index : ℕ) (tookEffect : Bool)
  | return_ (index : ℕ)
  /-- The key reaches its time to live. -/
  | expireKey

def windowMs : ℤ := 60000

def failOpen (limit : ℕ) : RateLimitResult where
  allowed := true
  current := 0
  limit := limit
  retryAfterMs := none

/-- The stub never finds a score. -/
def readOldestScore (_ : ScoredSet) : Option ℤ := none

def denied (limit : ℕ) (window : ScoredSet) (nowMs : ℤ) : RateLimitResult where
  allowed := false
  current := window.zcard
  limit := limit
  -- A score of zero is falsy.
  retryAfterMs := some (((readOldestScore window).filter (· ≠ 0)).elim windowMs fun oldestMs =>
    max 0 (oldestMs + windowMs - nowMs))

namespace Call

def isAdding (call : Call) : Bool :=
  match call.stage with
  | .adding _ => true
  | _ => false

def effect (call : Call) (window : ScoredSet) : ScoredSet :=
  match call.stage with
  | .pruning => window.zremrangebyscore 0 (call.nowMs - windowMs - 1)
  | .adding _ => window.zadd call.nowMs call.member
  | .counting | .expiring _ | .settled _ => window

def next (limit : ℕ) (window : ScoredSet) (call : Call) : Stage :=
  match call.stage with
  | .pruning => .counting
  | .counting =>
      if limit ≤ window.zcard then .settled (denied limit window call.nowMs)
      else .adding window.zcard
  | .adding current => .expiring current
  | .expiring current => .settled
      { allowed := true, current := current + 1, limit := limit, retryAfterMs := none }
  | .settled result => .settled result

def failed (limit : ℕ) (call : Call) : Stage :=
  match call.stage with
  | .settled result => .settled result
  | _ => .settled (failOpen limit)

end Call

namespace Limiter

def boot (wired : Bool) (limit : ℕ) : Limiter where
  wired := wired
  limit := limit
  window := .empty
  calls := []

variable (limiter : Limiter)

/-- The call at `index` moves on, over this set. -/
def advance (index : ℕ) (call : Call) (stage : Stage) (window : ScoredSet) : Limiter :=
  { limiter with window := window, calls := limiter.calls.set index { call with stage := stage } }

def step (limiter : Limiter) : Event → Limiter
  | .allowRequest nowMs member =>
      let stage : Stage := if limiter.wired then .pruning else .settled (failOpen limiter.limit)
      { limiter with calls := limiter.calls ++ [{ nowMs, member, stage }] }
  | .command index =>
      match limiter.calls[index]? with
      | none => limiter
      | some call =>
          limiter.advance index call (call.next limiter.limit limiter.window)
            (call.effect limiter.window)
  | .fail index tookEffect =>
      match limiter.calls[index]? with
      | none => limiter
      | some call =>
          limiter.advance index call (call.failed limiter.limit)
            (if tookEffect then call.effect limiter.window else limiter.window)
  | .return_ index =>
      match limiter.calls[index]? with
      | some ⟨_, _, .settled _⟩ => { limiter with calls := limiter.calls.eraseIdx index }
      | _ => limiter
  | .expireKey => { limiter with window := .empty }

def passing : ℕ := limiter.calls.countP Call.isAdding

/-- The set and the calls about to add to it stay below the bound together. -/
structure Bounded (limit k : ℕ) (limiter : Limiter) : Prop where
  fixed : limiter.limit = limit
  total : limiter.window.zcard + limiter.passing ≤ limit + k - 1

section Steps

variable (limit k index : ℕ) (call : Call) (stage : Stage) (window : ScoredSet)

def share (stage : Stage) : ℕ :=
  match stage with
  | .adding _ => 1
  | _ => 0

theorem share_eq (call : Call) : (if call.isAdding = true then 1 else 0) = share call.stage := by
  unfold Call.isAdding
  cases call.stage <;> rfl

theorem passing_advance (found : limiter.calls[index]? = some call) :
    (limiter.advance index call stage window).passing + share call.stage =
      limiter.passing + share stage := by
  obtain ⟨inside, here⟩ := List.getElem?_eq_some_iff.mp found
  have counted := List.countP_set (p := Call.isAdding) (a := { call with stage := stage }) inside
  rw [here, share_eq, share_eq] at counted
  have present : share call.stage ≤ limiter.passing := by
    rw [← share_eq]
    split
    · rename_i adding
      exact List.countP_pos_iff.mpr ⟨call, List.mem_of_getElem? found, adding⟩
    · exact Nat.zero_le _
  change (limiter.calls.set index { call with stage := stage }).countP Call.isAdding + _ = _
  rw [counted]
  unfold passing at present ⊢
  dsimp only
  omega

theorem zcard_effect_le : (call.effect window).zcard ≤ window.zcard + share call.stage := by
  unfold Call.effect
  cases call.stage with
  | pruning => exact ScoredSet.zcard_zremrangebyscore_le _ _ _
  | adding current => exact ScoredSet.zcard_zadd_le _ _ _
  | counting | expiring current | settled result => exact le_refl _

theorem bounded_leave (bounded : Bounded limit k limiter)
    (found : limiter.calls[index]? = some call) (quiet : share stage = 0)
    (size : window.zcard ≤ limiter.window.zcard + share call.stage) :
    Bounded limit k (limiter.advance index call stage window) := by
  refine ⟨bounded.fixed, ?_⟩
  have moved := passing_advance limiter index call stage window found
  have total := bounded.total
  change window.zcard + _ ≤ _
  omega

theorem bounded_pass (bounded : Bounded limit k limiter)
    (below : limiter.window.zcard < limit) (inFlight : limiter.calls.length ≤ k) :
    Bounded limit k (limiter.advance index call stage limiter.window) := by
  refine ⟨bounded.fixed, ?_⟩
  have passing : (limiter.advance index call stage limiter.window).passing ≤
      (limiter.advance index call stage limiter.window).calls.length := List.countP_le_length
  have same : (limiter.advance index call stage limiter.window).calls.length =
      limiter.calls.length := List.length_set
  change limiter.window.zcard + _ ≤ _
  omega

theorem bounded_command (bounded : Bounded limit k limiter)
    (found : limiter.calls[index]? = some call) (inFlight : limiter.calls.length ≤ k) :
    Bounded limit k (limiter.advance index call (call.next limiter.limit limiter.window)
      (call.effect limiter.window)) := by
  have size := zcard_effect_le call limiter.window
  have leaves : share (call.next limiter.limit limiter.window) = 0 →
      Bounded limit k (limiter.advance index call (call.next limiter.limit limiter.window)
        (call.effect limiter.window)) :=
    fun quiet => bounded_leave limiter limit k index call _ _ bounded found quiet size
  cases at_ : call.stage with
  | counting =>
      by_cases full : limiter.limit ≤ limiter.window.zcard
      · apply leaves
        rw [Call.next, at_]
        simp only [if_pos full, share]
      · have untouched : call.effect limiter.window = limiter.window := by
          rw [Call.effect, at_]
        rw [untouched]
        rw [bounded.fixed] at full
        exact bounded_pass limiter limit k index call _ bounded (Nat.lt_of_not_le full)
          inFlight
  | pruning | adding current | expiring current | settled result =>
      apply leaves
      rw [Call.next, at_]
      rfl

theorem bounded_fail (tookEffect : Bool) (bounded : Bounded limit k limiter)
    (found : limiter.calls[index]? = some call) :
    Bounded limit k (limiter.advance index call (call.failed limiter.limit)
      (if tookEffect then call.effect limiter.window else limiter.window)) := by
  apply bounded_leave limiter limit k index call _ _ bounded found
  · unfold Call.failed
    cases call.stage <;> rfl
  · split
    · exact zcard_effect_le call limiter.window
    · exact Nat.le_add_right _ _

theorem bounded_step (event : Event) (bounded : Bounded limit k limiter)
    (inFlight : limiter.calls.length ≤ k) : Bounded limit k (limiter.step event) := by
  have total := bounded.total
  cases event with
  | allowRequest nowMs member =>
      refine ⟨bounded.fixed, ?_⟩
      have fresh : (limiter.step (.allowRequest nowMs member)).passing = limiter.passing := by
        unfold step passing
        rw [List.countP_append]
        cases limiter.wired <;> rfl
      change limiter.window.zcard + (limiter.step (.allowRequest nowMs member)).passing ≤ _
      rwa [fresh]
  | command index =>
      rw [step]
      cases found : limiter.calls[index]? with
      | none => exact bounded
      | some call => exact bounded_command limiter limit k index call bounded found inFlight
  | fail index tookEffect =>
      rw [step]
      cases found : limiter.calls[index]? with
      | none => exact bounded
      | some call => exact bounded_fail limiter limit k index call tookEffect bounded found
  | return_ index =>
      rw [step]
      split
      · refine ⟨bounded.fixed, ?_⟩
        have fewer : (limiter.calls.eraseIdx index).countP Call.isAdding ≤ limiter.passing :=
          (List.eraseIdx_sublist _ _).countP_le
        change limiter.window.zcard + (limiter.calls.eraseIdx index).countP Call.isAdding ≤ _
        omega
      · exact bounded
  | expireKey =>
      refine ⟨bounded.fixed, ?_⟩
      change 0 + limiter.passing ≤ _
      omega

theorem boot_bounded (wired : Bool) : Bounded limit k (boot wired limit) :=
  ⟨rfl, Nat.zero_le _⟩

end Steps

/-- With at most `k` calls in flight throughout, the set never holds more than
`limit + k - 1` entries, and with one call at a time never more than the limit. -/
theorem overshoot_bounded (wired : Bool) (limit k : ℕ) (events : List Event)
    (inFlight : Always step (fun limiter => limiter.calls.length ≤ k) (boot wired limit) events) :
    Always step (fun limiter => limiter.window.zcard ≤ limit + k - 1) (boot wired limit) events ∧
      (k = 1 →
        Always step (fun limiter => limiter.window.zcard ≤ limit) (boot wired limit) events) := by
  have guarded := guarded_of_always step (fun limiter => limiter.calls.length ≤ k)
    (fun limiter _ => limiter.calls.length ≤ k) (fun _ _ busy => busy) _ events inFlight
  have bounded := always_of_guarded step (Bounded limit k) _
    (fun limiter event bounded busy => bounded_step limiter limit k event bounded busy)
    _ events (boot_bounded limit k wired) guarded
  have size : ∀ before, before <+: events →
      (run step (boot wired limit) before).window.zcard ≤ limit + k - 1 := by
    intro before isPrefix
    have total := ((always_iff step _ _ events).mp bounded before isPrefix).total
    omega
  constructor
  · exact (always_iff step _ _ events).mpr size
  · rintro rfl
    exact (always_iff step _ _ events).mpr size

section Example

def crossing : List Event :=
  [.allowRequest 0 "0:a", .allowRequest 0 "0:b", .command 0, .command 1, .command 0, .command 1,
    .command 0, .command 1]

theorem crossing_bounded :
    (run step (boot true 1) crossing).window.zcard = 2 ∧
      Always step (fun limiter => limiter.window.zcard ≤ 1 + 2 - 1) (boot true 1) crossing :=
  ⟨by decide +kernel, (overshoot_bounded true 1 2 crossing (by decide +kernel)).1⟩

end Example

end Limiter

end LlmGateway.RateLimit
