import LlmGateway.Routing.Orders
import LlmGateway.Routing.Service

/-!
Runs of `route` calls over one cursor. A call reads and advances the cursor
before its first `await`, so calls that overlap are a sequence in the order in
which they start; whatever happens to them afterwards is in their surroundings.
-/

namespace LlmGateway.Routing.Service

open Providers CircuitBreaker

variable {Result : Type}

structure RouteCall (Result : Type) where
  model : String
  strategyFor : String → RoutingStrategyKind
  weightRows : String → List (ℕ × ℤ)
  chain : Except ResolveError (List ResolvedModel)
  policy : CircuitBreakerPolicy
  breaker : Breaker
  around : Surroundings Result
  random : ℚ

def RouteCall.run (call : RouteCall Result) (cursor : RoundRobinCursor) :
    RouteRun Result × RoundRobinCursor :=
  route call.policy call.around call.model ⟨call.strategyFor, call.weightRows, cursor⟩ call.random
    call.breaker call.chain

def RouteRun.start (run : RouteRun Result) : Option ℕ := run.visits.head?.map Visit.position

def startsOf (model : String) : RoundRobinCursor → List (RouteCall Result) → List (Option ℕ)
  | _, [] => []
  | cursor, call :: rest =>
      let step := call.run cursor
      if call.model = model then step.1.start :: startsOf model step.2 rest
      else startsOf model step.2 rest

def RotatesOver (model : String) (n : ℕ) (call : RouteCall Result) : Prop :=
  call.model = model →
    call.strategyFor model = .roundRobin ∧ ∃ chain, call.chain = .ok chain ∧ chain.length = n

section Cursor

def counter (cursor : RoundRobinCursor) (key : String) : ℕ := (cursor.cursors.lookup key).getD 0

variable (cursor : RoundRobinCursor) (key : String) (n : ℕ) (positive : 0 < n)

include positive in
theorem next_index : (cursor.next key n).1 = counter cursor key % n := by
  have some : n ≠ 0 := positive.ne'
  simp [RoundRobinCursor.next, some, counter]

include positive in
theorem next_counter : counter (cursor.next key n).2 key = counter cursor key + 1 := by
  have some : n ≠ 0 := positive.ne'
  simp [RoundRobinCursor.next, some, counter]

theorem next_counter_other (other : String) (different : other ≠ key) :
    counter (cursor.next key n).2 other = counter cursor other := by
  unfold RoundRobinCursor.next counter
  split
  · rfl
  · rw [AList.lookup_insert_ne different]

end Cursor

section Call

variable (call : RouteCall Result) (cursor : RoundRobinCursor) (model : String)

theorem run_counter_other (other : call.model ≠ model) :
    counter (call.run cursor).2 model = counter cursor model := by
  unfold RouteCall.run
  cases call.chain with
  | error error => rfl
  | ok chain =>
      cases chain with
      | nil => rfl
      | cons first rest =>
          simp only [route, Router.advanced]
          split
          · exact next_counter_other cursor call.model _ model other.symm
          · rfl

theorem walkOrder_start (policy : CircuitBreakerPolicy) (around : Surroundings Result)
    (chain : List ResolvedModel) (position : ℕ) (rest : List ℕ) (attempts : List RouteAttempt)
    (breaker : Breaker) (inside : position < chain.length) :
    (walkOrder policy around model chain (position :: rest) attempts breaker).start =
      some position := by
  have found : chain[position]? = some chain[position] := List.getElem?_eq_getElem inside
  obtain ⟨here, _, _⟩ := tryPosition_frame policy around attempts.length position chain[position]
    breaker
  simp only [walkOrder, found]
  split <;> simp [RouteRun.start, here]

variable (n : ℕ) (positive : 0 < n)
include positive

/-- What a call of the model does: it starts at its counter and counts on. A
chain of one model leaves the counter, which then makes no difference. -/
theorem run_rotates (mine : call.model = model) (rotates : RotatesOver model n call) :
    (call.run cursor).1.start = some (counter cursor model % n) ∧
      counter (call.run cursor).2 model % n = (counter cursor model + 1) % n := by
  obtain ⟨roundRobin, chain, resolves, length⟩ := rotates mine
  subst length
  have index := next_index cursor model chain.length positive
  have inside := cursor.next_lt model chain.length positive
  obtain ⟨first, rest, filled⟩ := List.exists_cons_of_length_pos positive
  have ran : call.run cursor =
      route call.policy call.around model ⟨call.strategyFor, call.weightRows, cursor⟩ call.random
        call.breaker (.ok chain) := by
    rw [RouteCall.run, mine, resolves]
  constructor
  · have order : (Router.order ⟨call.strategyFor, call.weightRows, cursor⟩ call.random model
        chain).head? = some (counter cursor model % chain.length) := by
      simp only [Router.order, roundRobin, pickOrder_roundRobin]
      rw [rotate_head _ _ inside, index]
    obtain ⟨others, starts⟩ := List.head?_eq_some_iff.mp order
    rw [ran, route_eq_walkOrder, starts]
    exact walkOrder_start model _ _ chain _ others [] _ (Nat.mod_lt _ positive)
  · have left : (call.run cursor).2 =
        Router.advanced ⟨call.strategyFor, call.weightRows, cursor⟩ model chain := by
      rw [ran, filled]
      rfl
    rw [left]
    by_cases many : 2 ≤ chain.length
    · simp only [Router.advanced, roundRobin, advancesCursor, many, and_self, decide_true,
        ↓reduceIte]
      rw [next_counter cursor model chain.length positive]
    · have single : chain.length = 1 := by omega
      rw [single, Nat.mod_one, Nat.mod_one]

end Call

section Run

variable (model : String) (n : ℕ) (positive : 0 < n)
include positive

theorem startsOf_eq (cursor : RoundRobinCursor) (calls : List (RouteCall Result))
    (rotates : ∀ call ∈ calls, RotatesOver model n call) :
    startsOf model cursor calls =
      (List.range (calls.filter fun call => call.model = model).length).map
        fun i => some ((counter cursor model + i) % n) := by
  induction calls generalizing cursor with
  | nil => rfl
  | cons call rest ih =>
      have tail := ih (call.run cursor).2 fun later member =>
        rotates later (List.mem_cons_of_mem _ member)
      by_cases mine : call.model = model
      · obtain ⟨start, counted⟩ := run_rotates call cursor model n positive mine
          (rotates call List.mem_cons_self)
        simp only [startsOf, mine, ↓reduceIte, List.filter_cons, decide_true, List.length_cons,
          List.range_succ_eq_map, List.map_cons, List.map_map]
        rw [start, tail, Nat.add_zero]
        congr 1
        apply List.map_congr_left
        intro i _
        have step : (counter (call.run cursor).2 model + i) % n =
            (counter cursor model + (i + 1)) % n := by
          rw [Nat.add_mod, counted, ← Nat.add_mod, Nat.add_assoc, Nat.add_comm 1 i]
        simp only [Function.comp_apply, Nat.succ_eq_add_one, step]
      · simp only [startsOf, mine, ↓reduceIte, List.filter_cons, decide_false, Bool.false_eq_true]
        rw [tail, run_counter_other call cursor model mine]

theorem window_starts (cursor : RoundRobinCursor) (calls : List (RouteCall Result)) (first : ℕ)
    (rotates : ∀ call ∈ calls, RotatesOver model n call)
    (inside : first + n ≤ (calls.filter fun call => call.model = model).length) :
    ((startsOf model cursor calls).drop first).take n =
      (walkForwardFrom (counter cursor model + first) n).map some := by
  rw [startsOf_eq model n positive cursor calls rotates, ← List.map_drop, ← List.map_take,
    walkForwardFrom, List.map_map]
  apply List.ext_getElem
  · simp
    omega
  · intro i _ _
    simp [Nat.add_assoc]

end Run

/-- Any `n` consecutive calls for a model whose chain keeps its length start
once at each position, from any state of the cursor and in any interleaving
with calls for other models. -/
theorem round_robin_fair (model : String) (n : ℕ) (positive : 0 < n) (cursor : RoundRobinCursor)
    (calls : List (RouteCall Result)) (rotates : ∀ call ∈ calls, RotatesOver model n call)
    (first : ℕ) (inside : first + n ≤ (calls.filter fun call => call.model = model).length) :
    (((startsOf model cursor calls).drop first).take n).Perm ((List.range n).map some) := by
  rw [window_starts model n positive cursor calls first rotates inside]
  exact (walkForwardFrom_perm _ n).map some

section Witness

def qwen : ResolvedModel where
  requestedAs := "fast"
  providerId := "nan"
  modelKey := "qwen"
  upstreamModel := some "qwen3.6"
  apiKey := "key"
  baseURL := "https://api.nan.builders/v1"
  maxTokens := none
  disableThinking := false
  supportsStream := true
  timeoutMs := 120000
  priority := 0

def fastCall (model : String) (chain : Except ResolveError (List ResolvedModel)) :
    RouteCall Unit where
  model := model
  strategyFor := fun _ => .roundRobin
  weightRows := fun _ => []
  chain := chain
  policy := ⟨5, 30000, 2⟩
  breaker := .initial
  around :=
    { executor := fun _ _ => .returns ()
      clock := fun _ => ⟨0, 0, 0, 0, 0⟩
      meanwhile := fun _ breaker => breaker }
  random := 0

/-- Two calls for `fast` with a failing one for another model between them. -/
theorem round_robin_fair_fast :
    (((startsOf "fast" .initial [fastCall "fast" (.ok [qwen, qwen]),
      fastCall "slow" (.error .modelNameRequired), fastCall "fast" (.ok [qwen, qwen])]).drop
        0).take 2).Perm ((List.range 2).map some) := by
  apply round_robin_fair "fast" 2 (by decide)
  · intro call member mine
    simp only [List.mem_cons, List.not_mem_nil, or_false] at member
    rcases member with rfl | rfl | rfl
    · exact ⟨rfl, _, rfl, rfl⟩
    · exact absurd mine (by decide)
    · exact ⟨rfl, _, rfl, rfl⟩
  · decide

end Witness

end LlmGateway.Routing.Service
