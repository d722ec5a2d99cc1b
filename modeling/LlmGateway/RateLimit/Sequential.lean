import LlmGateway.Lib.ExpiringSet
import LlmGateway.RateLimit.SlidingWindow

/-!
Calls of `allowRequest` that do not overlap, over the key with its time to
live. A call reads the clock once; its commands reach Redis later, and Redis
expires the key by its own time.
-/

namespace LlmGateway.RateLimit

open Runs ScoredSets

structure TimedCall where
  nowMs : ℤ
  limitRpm : ℕ
  member : String
  prunedAt : ℤ
  countedAt : ℤ
  addedAt : ℤ
  expiredAt : ℤ
  deriving DecidableEq, Repr

/-- `Math.ceil(WINDOW_MS / 1000) + 5`. -/
def ttlSeconds : ℤ := -(-windowMs / 1000) + 5

def allowRequest (key : ExpiringSet) (call : TimedCall) : RateLimitResult × ExpiringSet :=
  let windowStart := call.nowMs - windowMs
  let pruned := (key.live call.prunedAt).zremrangebyscore 0 (windowStart - 1)
  let counted := pruned.live call.countedAt
  let current := counted.set.zcard
  if call.limitRpm ≤ current then (denied call.limitRpm counted.set call.nowMs, counted)
  else
    let added := (counted.live call.addedAt).zadd call.nowMs call.member
    let kept := (added.live call.expiredAt).expire (call.expiredAt + ttlSeconds * 1000)
    ({ allowed := true, current := current + 1, limit := call.limitRpm, retryAfterMs := none },
      kept)

/-- The key after some calls, and the calls that were allowed. -/
structure History where
  key : ExpiringSet
  admitted : List TimedCall

namespace History

def initial : History where
  key := .missing
  admitted := []

def step (history : History) (call : TimedCall) : History where
  key := (allowRequest history.key call).2
  admitted :=
    if (allowRequest history.key call).1.allowed then history.admitted ++ [call]
    else history.admitted

end History

def historyOf (calls : List TimedCall) : History := run History.step .initial calls

section Interleaving

def Reaches (before after : Limiter) : Prop := ∃ events, run Limiter.step before events = after

theorem Reaches.trans (before middle after : Limiter) (first : Reaches before middle)
    (second : Reaches middle after) : Reaches before after := by
  obtain ⟨opening, rfl⟩ := first
  obtain ⟨closing, rfl⟩ := second
  exact ⟨opening ++ closing, run_append _ _ _ _⟩

variable (limit : ℕ) (key : ExpiringSet)

theorem reaches_command (time : ℤ) (call : Call) :
    Reaches ⟨true, limit, key.set, [call]⟩
      ⟨true, limit, call.effect (key.live time).set,
        [{ call with stage := call.next limit (key.live time).set }]⟩ := by
  refine ⟨if key.expiresAt.any (· ≤ time) then [.expireKey, .command 0] else [.command 0], ?_⟩
  unfold ExpiringSet.live
  split <;> rfl

theorem zremrangebyscore_scored (low high : ℤ) :
    (key.zremrangebyscore low high).set = key.set.zremrangebyscore low high := by
  have entries := ExpiringSet.zremrangebyscore_set key low high
  cases left : (key.zremrangebyscore low high).set
  cases right : key.set.zremrangebyscore low high
  rw [left, right] at entries
  cases entries
  rfl

theorem expire_scored (deadline : ℤ) : (key.expire deadline).set = key.set := by
  unfold ExpiringSet.expire
  split <;> rfl

/-- A call that runs alone is one interleaving of the commands of calls in
flight, with the key expiring between them. -/
theorem allowRequest_reached (call : TimedCall) :
    Reaches ⟨true, call.limitRpm, key.set, []⟩
      ⟨true, call.limitRpm, (allowRequest key call).2.set,
        [⟨call.nowMs, call.member, .settled (allowRequest key call).1⟩]⟩ := by
  have sent : Reaches ⟨true, call.limitRpm, key.set, []⟩
      ⟨true, call.limitRpm, key.set, [⟨call.nowMs, call.member, .pruning⟩]⟩ :=
    ⟨[.allowRequest call.nowMs call.member], rfl⟩
  have prunes := reaches_command call.limitRpm key call.prunedAt ⟨call.nowMs, call.member, .pruning⟩
  have counts := reaches_command call.limitRpm
    ((key.live call.prunedAt).zremrangebyscore 0 (call.nowMs - windowMs - 1)) call.countedAt
    ⟨call.nowMs, call.member, .counting⟩
  rw [zremrangebyscore_scored] at counts
  have counted := (sent.trans _ _ _ prunes).trans _ _ _ counts
  generalize found : (((key.live call.prunedAt).zremrangebyscore 0
    (call.nowMs - windowMs - 1)).live call.countedAt) = current at counted
  simp only [allowRequest, found]
  by_cases full : call.limitRpm ≤ current.set.zcard
  · simpa only [Call.next, Call.effect, full, ↓reduceIte] using counted
  · have adds := reaches_command call.limitRpm current call.addedAt
      ⟨call.nowMs, call.member, .adding current.set.zcard⟩
    have expires := reaches_command call.limitRpm
      ((current.live call.addedAt).zadd call.nowMs call.member) call.expiredAt
      ⟨call.nowMs, call.member, .expiring current.set.zcard⟩
    simp only [Call.next, Call.effect, full, ↓reduceIte] at counted adds expires ⊢
    rw [expire_scored]
    exact (counted.trans _ _ _ adds).trans _ _ _ expires

end Interleaving

def results : ExpiringSet → List TimedCall → List RateLimitResult
  | _, [] => []
  | key, call :: rest => (allowRequest key call).1 :: results (allowRequest key call).2 rest

/-- The timestamp lies in the window that ends at `nowMs`, both ends included. -/
def inWindow (nowMs : ℤ) (call : TimedCall) : Bool :=
  nowMs - windowMs ≤ call.nowMs ∧ call.nowMs ≤ nowMs

def windowCount (admitted : List TimedCall) (nowMs : ℤ) : ℕ :=
  (admitted.filter (inWindow nowMs)).length

def verdict (admitted : List TimedCall) (call : TimedCall) : RateLimitResult :=
  if windowCount admitted call.nowMs < call.limitRpm then
    { allowed := true, current := windowCount admitted call.nowMs + 1
      limit := call.limitRpm, retryAfterMs := none }
  else
    { allowed := false, current := windowCount admitted call.nowMs
      limit := call.limitRpm, retryAfterMs := some windowMs }

def verdicts : List TimedCall → List TimedCall → List RateLimitResult
  | _, [] => []
  | admitted, call :: rest =>
      verdict admitted call ::
        verdicts (if (verdict admitted call).allowed then admitted ++ [call] else admitted) rest

/-- Each command takes effect less than five seconds after the clock was read. -/
structure Prompt (call : TimedCall) : Prop where
  pruned : call.nowMs ≤ call.prunedAt ∧ call.prunedAt < call.nowMs + 5000
  counted : call.nowMs ≤ call.countedAt ∧ call.countedAt < call.nowMs + 5000
  added : call.nowMs ≤ call.addedAt ∧ call.addedAt < call.nowMs + 5000
  expired : call.nowMs ≤ call.expiredAt ∧ call.expiredAt < call.nowMs + 5000

structure Sequential (calls : List TimedCall) : Prop where
  prompt : ∀ call ∈ calls, Prompt call
  natural : ∀ call ∈ calls, 0 ≤ call.nowMs
  ordered : (calls.map TimedCall.nowMs).Pairwise (· ≤ ·)
  unique : (calls.map TimedCall.member).Nodup

section Orders

variable (calls earlier later : List TimedCall) (call : TimedCall)

theorem Sequential.sublist (sequential : Sequential calls) (part : earlier.Sublist calls) :
    Sequential earlier where
  prompt := fun call member => sequential.prompt call (part.subset member)
  natural := fun call member => sequential.natural call (part.subset member)
  ordered := sequential.ordered.sublist (part.map _)
  unique := sequential.unique.sublist (part.map _)

theorem Sequential.last (sequential : Sequential (earlier ++ [call])) :
    (∀ old ∈ earlier, old.nowMs ≤ call.nowMs) ∧ ∀ old ∈ earlier, old.member ≠ call.member := by
  have ordered := sequential.ordered
  have unique := sequential.unique
  rw [List.map_append, List.map_singleton] at ordered unique
  constructor
  · intro old member
    exact (List.pairwise_append.mp ordered).2.2 _ (List.mem_map_of_mem member) _
      (List.mem_singleton_self _)
  · intro old member same
    have apart := (List.nodup_append.mp unique).2.2 _ (List.mem_map_of_mem member) _
      (List.mem_singleton_self _)
    exact apart same

end Orders

/-- The key holds the allowed calls that the last window still reached, and does
not expire while one of them can be asked for. -/
structure Holds (history : History) (nowMs : ℤ) : Prop where
  entries : history.key.set.entries =
    (history.admitted.filter fun call => nowMs - windowMs ≤ call.nowMs).map
      fun call => (call.member, call.nowMs)
  past : ∀ call ∈ history.admitted, 0 ≤ call.nowMs ∧ call.nowMs ≤ nowMs
  deadline : ∀ call ∈ history.admitted, history.key.SteadyUntil (call.nowMs + ttlSeconds * 1000)

theorem initial_holds (nowMs : ℤ) : Holds .initial nowMs where
  entries := rfl
  past := by
    intro call member
    cases member
  deadline := by
    intro call member
    cases member

section Call

variable (history : History) (nowMs : ℤ) (call : TimedCall) (holds : Holds history nowMs)
  (ordered : nowMs ≤ call.nowMs)

include holds in
theorem live_entries (time : ℤ) (early : time < call.nowMs + 5000) :
    ∀ old ∈ history.admitted, call.nowMs - windowMs ≤ old.nowMs →
      history.key.live time = history.key := by
  intro old member reached
  have steady := holds.deadline old member
  apply ExpiringSet.live_of_steady steady
  have ttl : ttlSeconds * 1000 = 65000 := by decide
  have window : windowMs = 60000 := rfl
  omega

def pruned (key : ExpiringSet) (call : TimedCall) : ExpiringSet :=
  (key.live call.prunedAt).zremrangebyscore 0 (call.nowMs - windowMs - 1)

include holds ordered

theorem pruned_entries (prompt : Prompt call) :
    (pruned history.key call).set.entries =
      (history.admitted.filter fun old => call.nowMs - windowMs ≤ old.nowMs).map
        fun old => (old.member, old.nowMs) := by
  rw [pruned, ExpiringSet.zremrangebyscore_set]
  by_cases reached : ∃ old ∈ history.admitted, call.nowMs - windowMs ≤ old.nowMs
  · obtain ⟨old, member, inside⟩ := reached
    rw [live_entries history nowMs call holds call.prunedAt prompt.pruned.2 old member inside]
    simp only [ScoredSet.zremrangebyscore, holds.entries]
    rw [List.filter_map, List.filter_filter]
    congr 1
    apply List.filter_congr
    intro other listed
    have natural := (holds.past other listed).1
    simp only [Function.comp_apply, natural, true_and]
    rw [← Bool.decide_and]
    apply decide_eq_decide.mpr
    omega
  · -- Nothing is left to keep, whether the key is still there or not.
    have gone : ∀ old ∈ history.admitted, ¬call.nowMs - windowMs ≤ old.nowMs :=
      fun old member inside => reached ⟨old, member, inside⟩
    have none : (history.admitted.filter fun old => call.nowMs - windowMs ≤ old.nowMs) = [] := by
      apply List.filter_eq_nil_iff.mpr
      intro old member
      simpa using gone old member
    rw [none, List.map_nil]
    rcases ExpiringSet.live_cases history.key call.prunedAt with same | ⟨dropped, _⟩
    · rw [same]
      apply List.filter_eq_nil_iff.mpr
      rw [holds.entries]
      intro entry listed
      obtain ⟨old, kept, rfl⟩ := List.mem_map.mp listed
      have member := (List.mem_filter.mp kept).1
      have natural := (holds.past old member).1
      have early := gone old member
      simp only [natural, true_and, decide_not, Bool.not_eq_eq_eq_not, Bool.not_true,
        decide_eq_false_iff_not, not_not]
      omega
    · rw [dropped]
      rfl

theorem pruned_zcard (prompt : Prompt call) :
    (pruned history.key call).set.zcard = windowCount history.admitted call.nowMs := by
  rw [ScoredSet.zcard, pruned_entries history nowMs call holds ordered prompt, List.length_map,
    windowCount]
  congr 1
  apply List.filter_congr
  intro old member
  have past := (holds.past old member).2
  apply decide_eq_decide.mpr
  omega

/-- No command of the call after its prune finds the key expired. -/
theorem pruned_steady (prompt : Prompt call) :
    (pruned history.key call).SteadyUntil (call.nowMs + 5000) := by
  apply ExpiringSet.zremrangebyscore_steady
  intro filled
  have entries := pruned_entries history nowMs call holds ordered prompt
  rw [pruned, ExpiringSet.zremrangebyscore_set] at entries
  obtain ⟨entry, listed⟩ := List.exists_mem_of_length_pos (Nat.pos_of_ne_zero filled)
  rw [entries] at listed
  obtain ⟨old, kept, _⟩ := List.mem_map.mp listed
  obtain ⟨member, reached⟩ := List.mem_filter.mp kept
  rw [decide_eq_true_eq] at reached
  rw [live_entries history nowMs call holds call.prunedAt prompt.pruned.2 old member reached]
  intro deadline held
  have steady := holds.deadline old member deadline held
  have ttl : ttlSeconds * 1000 = 65000 := by decide
  have window : windowMs = 60000 := rfl
  omega

/-- The commands of the call see one set, and the count decides. -/
theorem allowRequest_eq (prompt : Prompt call) :
    allowRequest history.key call =
      if windowCount history.admitted call.nowMs < call.limitRpm then
        (verdict history.admitted call,
          ((pruned history.key call).zadd call.nowMs call.member).expire
            (call.expiredAt + ttlSeconds * 1000))
      else (verdict history.admitted call, pruned history.key call) := by
  have steady := pruned_steady history nowMs call holds ordered prompt
  have counted : (pruned history.key call).live call.countedAt = pruned history.key call :=
    ExpiringSet.live_of_steady steady _ prompt.counted.2
  have added : (pruned history.key call).live call.addedAt = pruned history.key call :=
    ExpiringSet.live_of_steady steady _ prompt.added.2
  have written : ((pruned history.key call).zadd call.nowMs call.member).SteadyUntil
      (call.nowMs + 5000) := steady
  have kept : ((pruned history.key call).zadd call.nowMs call.member).live call.expiredAt =
      (pruned history.key call).zadd call.nowMs call.member :=
    ExpiringSet.live_of_steady written _ prompt.expired.2
  have size := pruned_zcard history nowMs call holds ordered prompt
  unfold pruned at counted added kept size ⊢
  simp only [allowRequest, counted, added, kept, size, verdict, denied, readOldestScore]
  split
  next full => rw [if_neg (Nat.not_lt.mpr full), if_neg (Nat.not_lt.mpr full)]; rfl
  next room => rw [if_pos (Nat.lt_of_not_le room), if_pos (Nat.lt_of_not_le room)]

theorem step_verdict (prompt : Prompt call) :
    (allowRequest history.key call).1 = verdict history.admitted call := by
  rw [allowRequest_eq history nowMs call holds ordered prompt]
  split <;> rfl

theorem admitted_holds (prompt : Prompt call) (natural : 0 ≤ call.nowMs)
    (fresh : ∀ old ∈ history.admitted, old.member ≠ call.member)
    (room : windowCount history.admitted call.nowMs < call.limitRpm) :
    Holds (history.step call) call.nowMs ∧
      (history.step call).admitted = history.admitted ++ [call] := by
  have entries := pruned_entries history nowMs call holds ordered prompt
  have answer := step_verdict history nowMs call holds ordered prompt
  have key := allowRequest_eq history nowMs call holds ordered prompt
  rw [if_pos room] at key
  have admits : (verdict history.admitted call).allowed = true := by
    rw [verdict, if_pos room]
  have admitted : (history.step call).admitted = history.admitted ++ [call] := by
    simp [History.step, answer, admits]
  have past : ∀ old ∈ history.admitted ++ [call], 0 ≤ old.nowMs ∧ old.nowMs ≤ call.nowMs := by
    intro old member
    rcases List.mem_append.mp member with earlier | last
    · exact ⟨(holds.past old earlier).1, (holds.past old earlier).2.trans ordered⟩
    · rw [List.mem_singleton.mp last]
      exact ⟨natural, le_refl _⟩
  have others : ((pruned history.key call).set.entries.filter
      fun entry => entry.1 ≠ call.member) = (pruned history.key call).set.entries := by
    apply List.filter_eq_self.mpr
    intro entry listed
    rw [entries] at listed
    obtain ⟨old, kept, rfl⟩ := List.mem_map.mp listed
    simpa using fresh old (List.mem_filter.mp kept).1
  have added : ((pruned history.key call).zadd call.nowMs call.member).set.entries =
      (pruned history.key call).set.entries ++ [(call.member, call.nowMs)] := by
    simp only [ExpiringSet.zadd, ScoredSet.zadd, others]
  have filled : ((pruned history.key call).zadd call.nowMs call.member).set.zcard ≠ 0 := by
    simp [ScoredSet.zcard, added]
  have stored : (history.step call).key =
      { (pruned history.key call).zadd call.nowMs call.member with
        expiresAt := some (call.expiredAt + ttlSeconds * 1000) } := by
    simp only [History.step, key, ExpiringSet.expire, filled, ↓reduceIte]
  have window : 0 ≤ windowMs := by decide
  refine ⟨⟨?_, ?_, ?_⟩, admitted⟩
  · rw [stored, admitted, List.filter_append, List.map_append, ← entries, added]
    simp [window]
  · rw [admitted]
    exact past
  · rw [admitted, stored]
    intro old member deadline held
    cases held
    have started := prompt.expired.1
    have before := (past old member).2
    omega

theorem refused_holds (prompt : Prompt call)
    (full : ¬windowCount history.admitted call.nowMs < call.limitRpm) :
    Holds (history.step call) call.nowMs ∧ (history.step call).admitted = history.admitted := by
  have answer := step_verdict history nowMs call holds ordered prompt
  have key := allowRequest_eq history nowMs call holds ordered prompt
  rw [if_neg full] at key
  have refuses : (verdict history.admitted call).allowed = false := by
    rw [verdict, if_neg full]
  have admitted : (history.step call).admitted = history.admitted := by
    simp [History.step, answer, refuses]
  have stored : (history.step call).key = pruned history.key call := by
    simp only [History.step, key]
  refine ⟨⟨?_, ?_, ?_⟩, admitted⟩
  · rw [stored, admitted]
    exact pruned_entries history nowMs call holds ordered prompt
  · rw [admitted]
    exact fun old member => ⟨(holds.past old member).1, (holds.past old member).2.trans ordered⟩
  · rw [admitted, stored]
    intro old member
    apply ExpiringSet.zremrangebyscore_steady
    intro _
    rcases ExpiringSet.live_cases history.key call.prunedAt with same | ⟨dropped, _⟩
    · rw [same]
      exact holds.deadline old member
    · rw [dropped]
      exact ExpiringSet.missing_steady _

theorem step_holds (prompt : Prompt call) (natural : 0 ≤ call.nowMs)
    (fresh : ∀ old ∈ history.admitted, old.member ≠ call.member) :
    Holds (history.step call) call.nowMs ∧
      (history.step call).admitted =
        if (verdict history.admitted call).allowed then history.admitted ++ [call]
        else history.admitted := by
  by_cases room : windowCount history.admitted call.nowMs < call.limitRpm
  · have admits : (verdict history.admitted call).allowed = true := by
      rw [verdict, if_pos room]
    rw [if_pos admits]
    exact admitted_holds history nowMs call holds ordered prompt natural fresh room
  · have refuses : (verdict history.admitted call).allowed = false := by
      rw [verdict, if_neg room]
    rw [refuses]
    exact refused_holds history nowMs call holds ordered prompt room

end Call

section Run

structure Follows (history : History) (nowMs : ℤ) (later : List TimedCall) : Prop where
  sequential : Sequential later
  after : ∀ call ∈ later, nowMs ≤ call.nowMs
  fresh : ∀ call ∈ later, ∀ old ∈ history.admitted, old.member ≠ call.member

variable (history : History) (nowMs : ℤ) (call : TimedCall) (later : List TimedCall)

/-- From any reachable history on, the code answers as an exact sliding window. -/
theorem results_eq_verdicts (holds : Holds history nowMs)
    (follows : Follows history nowMs later) :
    results history.key later = verdicts history.admitted later := by
  induction later generalizing history nowMs with
  | nil => rfl
  | cons call rest ih =>
      have prompt := follows.sequential.prompt call List.mem_cons_self
      have natural := follows.sequential.natural call List.mem_cons_self
      have ordered := follows.after call List.mem_cons_self
      have fresh := follows.fresh call List.mem_cons_self
      have sorted := List.pairwise_cons.mp follows.sequential.ordered
      have distinct := List.nodup_cons.mp follows.sequential.unique
      obtain ⟨next, admitted⟩ := step_holds history nowMs call holds ordered prompt natural fresh
      have tail : Follows (history.step call) call.nowMs rest := by
        refine ⟨follows.sequential.sublist _ _ (List.sublist_cons_self call rest), ?_, ?_⟩
        · intro other member
          exact sorted.1 _ (List.mem_map_of_mem member)
        · intro other member old held
          rw [admitted] at held
          have known : old ∈ history.admitted ∨ old = call := by
            split at held
            · simpa using held
            · exact Or.inl held
          rcases known with earlier | rfl
          · exact follows.fresh other (List.mem_cons_of_mem _ member) old earlier
          · intro same
            rw [same] at distinct
            exact distinct.1 (List.mem_map_of_mem member)
      have rest_eq := ih (history.step call) call.nowMs next tail
      rw [results, verdicts, step_verdict history nowMs call holds ordered prompt, ← admitted,
        ← rest_eq]
      rfl

theorem historyOf_snoc (calls : List TimedCall) :
    historyOf (calls ++ [call]) = (historyOf calls).step call := by
  rw [historyOf, run_append]
  rfl

theorem admitted_subset (calls : List TimedCall) :
    ∀ old ∈ (historyOf calls).admitted, old ∈ calls := by
  induction calls using List.reverseRecOn with
  | nil =>
      intro old member
      cases member
  | append_singleton earlier call ih =>
      intro old member
      rw [historyOf_snoc, History.step] at member
      have known : old ∈ (historyOf earlier).admitted ∨ old = call := by
        dsimp only at member
        split at member
        · simpa using member
        · exact Or.inl member
      rw [List.mem_append, List.mem_singleton]
      exact known.imp_left (ih old)

theorem historyOf_holds (calls : List TimedCall) (sequential : Sequential calls) :
    ∃ nowMs, Holds (historyOf calls) nowMs ∧ (nowMs = 0 ∨ ∃ old ∈ calls, old.nowMs = nowMs) := by
  induction calls using List.reverseRecOn with
  | nil => exact ⟨0, initial_holds 0, Or.inl rfl⟩
  | append_singleton earlier call ih =>
      have last : call ∈ earlier ++ [call] := by simp
      obtain ⟨ordered, fresh⟩ := sequential.last
      obtain ⟨nowMs, holds, reached⟩ := ih (sequential.sublist _ _ (List.sublist_append_left _ _))
      have natural := sequential.natural call last
      have after : nowMs ≤ call.nowMs := by
        rcases reached with rfl | ⟨old, member, rfl⟩
        · exact natural
        · exact ordered old member
      rw [historyOf_snoc]
      exact ⟨call.nowMs, (step_holds _ nowMs call holds after (sequential.prompt call last) natural
        fun old admitted => fresh old (admitted_subset earlier old admitted)).1,
        Or.inr ⟨call, last, rfl⟩⟩

theorem historyOf_follows (earlier later : List TimedCall)
    (sequential : Sequential (earlier ++ later)) :
    ∃ nowMs, Holds (historyOf earlier) nowMs ∧ Follows (historyOf earlier) nowMs later := by
  obtain ⟨nowMs, holds, reached⟩ := historyOf_holds earlier
    (sequential.sublist _ _ (List.sublist_append_left _ _))
  have ordered := sequential.ordered
  have unique := sequential.unique
  rw [List.map_append] at ordered unique
  refine ⟨nowMs, holds, sequential.sublist _ _ (List.sublist_append_right _ _), ?_, ?_⟩
  · intro call member
    rcases reached with rfl | ⟨old, made, rfl⟩
    · exact sequential.natural call (List.mem_append_right _ member)
    · exact (List.pairwise_append.mp ordered).2.2 _ (List.mem_map_of_mem made) _
        (List.mem_map_of_mem member)
  · intro call member old admitted
    exact (List.nodup_append.mp unique).2.2 _
      (List.mem_map_of_mem (admitted_subset earlier old admitted)) _ (List.mem_map_of_mem member)

end Run

structure ExactWindow (calls : List TimedCall) : Prop where
  decides : ∀ earlier call later, calls = earlier ++ call :: later →
    ((allowRequest (historyOf earlier).key call).1.allowed = true ↔
      windowCount (historyOf earlier).admitted call.nowMs < call.limitRpm)
  /-- At whatever time a command of the call takes effect, no entry in its
  window has expired. -/
  keeps : ∀ earlier call later, calls = earlier ++ call :: later →
    ∀ old ∈ (historyOf earlier).admitted, inWindow call.nowMs old = true →
      ∀ time < call.nowMs + 5000,
        (old.member, old.nowMs) ∈ ((historyOf earlier).key.live time).set.entries
  /-- Without a denied call the later ones return the same. -/
  ignores : ∀ earlier refused later, calls = earlier ++ refused :: later →
    (allowRequest (historyOf earlier).key refused).1.allowed = false →
      results (historyOf (earlier ++ [refused])).key later = results (historyOf earlier).key later

section Exact

variable (earlier later : List TimedCall) (call : TimedCall)
  (sequential : Sequential (earlier ++ call :: later))
include sequential

theorem decides_of_sequential :
    (allowRequest (historyOf earlier).key call).1.allowed = true ↔
      windowCount (historyOf earlier).admitted call.nowMs < call.limitRpm := by
  obtain ⟨nowMs, holds, follows⟩ := historyOf_follows earlier (call :: later) sequential
  rw [step_verdict _ nowMs call holds (follows.after call List.mem_cons_self)
    (follows.sequential.prompt call List.mem_cons_self), verdict]
  split <;> simp_all

theorem keeps_of_sequential (old : TimedCall) (admitted : old ∈ (historyOf earlier).admitted)
    (inside : inWindow call.nowMs old = true) (time : ℤ) (early : time < call.nowMs + 5000) :
    (old.member, old.nowMs) ∈ ((historyOf earlier).key.live time).set.entries := by
  obtain ⟨nowMs, holds, follows⟩ := historyOf_follows earlier (call :: later) sequential
  have ordered := follows.after call List.mem_cons_self
  rw [inWindow, decide_eq_true_eq] at inside
  rw [live_entries _ nowMs call holds time early old admitted inside.1, holds.entries]
  refine List.mem_map.mpr ⟨old, List.mem_filter.mpr ⟨admitted, ?_⟩, rfl⟩
  rw [decide_eq_true_eq]
  omega

theorem ignores_of_sequential
    (denied : (allowRequest (historyOf earlier).key call).1.allowed = false) :
    results (historyOf (earlier ++ [call])).key later = results (historyOf earlier).key later := by
  have without : Sequential (earlier ++ later) :=
    sequential.sublist _ _ ((List.sublist_cons_self call later).append_left earlier)
  have split : Sequential ((earlier ++ [call]) ++ later) := by
    rwa [List.append_assoc, List.singleton_append]
  obtain ⟨before, holdsBefore, followsBefore⟩ := historyOf_follows earlier later without
  obtain ⟨after, holdsAfter, followsAfter⟩ := historyOf_follows (earlier ++ [call]) later split
  have same : (historyOf (earlier ++ [call])).admitted = (historyOf earlier).admitted := by
    rw [historyOf_snoc]
    simp [History.step, denied]
  rw [results_eq_verdicts _ after later holdsAfter followsAfter, same,
    results_eq_verdicts _ before later holdsBefore followsBefore]

end Exact

/-- The window of sequential calls is exact, whatever their limits. -/
theorem sliding_window_exact (calls : List TimedCall) (sequential : Sequential calls) :
    ExactWindow calls where
  decides := by
    rintro earlier call later rfl
    exact decides_of_sequential earlier later call sequential
  keeps := by
    rintro earlier call later rfl old admitted inside time early
    exact keeps_of_sequential earlier later call sequential old admitted inside time early
  ignores := by
    rintro earlier refused later rfl denied
    exact ignores_of_sequential earlier later refused sequential denied

section Witness

def instantCall (nowMs : ℤ) (limitRpm : ℕ) (member : String) : TimedCall where
  nowMs := nowMs
  limitRpm := limitRpm
  member := member
  prunedAt := nowMs
  countedAt := nowMs
  addedAt := nowMs
  expiredAt := nowMs

theorem instantCall_prompt (nowMs : ℤ) (limitRpm : ℕ) (member : String) :
    Prompt (instantCall nowMs limitRpm member) := by
  constructor <;> exact ⟨le_refl _, lt_add_of_pos_right _ (by decide)⟩

theorem instantCalls_sequential (items : List (ℤ × ℕ × String))
    (natural : ∀ item ∈ items, 0 ≤ item.1) (ordered : (items.map Prod.fst).Pairwise (· ≤ ·))
    (unique : (items.map fun item => item.2.2).Nodup) :
    Sequential (items.map fun item => instantCall item.1 item.2.1 item.2.2) where
  prompt := by
    intro call member
    obtain ⟨item, _, rfl⟩ := List.mem_map.mp member
    exact instantCall_prompt _ _ _
  natural := by
    intro call member
    obtain ⟨item, listed, rfl⟩ := List.mem_map.mp member
    exact natural item listed
  ordered := by
    rw [List.map_map]
    exact ordered
  unique := by
    rw [List.map_map]
    exact unique

theorem sliding_window_exact_three :
    ExactWindow [instantCall 0 1 "0:a", instantCall 30000 1 "30000:b",
      instantCall 60001 1 "60001:c"] :=
  sliding_window_exact _ (instantCalls_sequential
    [(0, 1, "0:a"), (30000, 1, "30000:b"), (60001, 1, "60001:c")] (by decide) (by decide)
    (by decide))

/-- A score below zero is never pruned, and a call whose commands are late
finds the key expired. -/
theorem negative_and_late_calls_differ :
    ¬ExactWindow [instantCall (-62000) 1 "a", instantCall 0 1 "b"] ∧
      ¬ExactWindow [instantCall 0 1 "a", ⟨60000, 1, "b", 65001, 65001, 65001, 65001⟩] := by
  constructor
  · intro exact
    have decided := exact.decides [instantCall (-62000) 1 "a"] (instantCall 0 1 "b") [] rfl
    revert decided
    decide +kernel
  · intro exact
    have decided := exact.decides [instantCall 0 1 "a"]
      ⟨60000, 1, "b", 65001, 65001, 65001, 65001⟩ [] rfl
    revert decided
    decide +kernel

end Witness

end LlmGateway.RateLimit
