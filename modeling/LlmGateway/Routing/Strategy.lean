import Mathlib.Data.List.Rotate
import Mathlib.Algebra.BigOperators.Group.List.Basic
import Mathlib.Algebra.Order.Floor.Semiring
import LlmGateway.Lib.JsValue
import LlmGateway.Providers.Registry

/-!
`pickOrder`: the strategy of an alias turned into an order of chain indices.
What `Math.random()` returns is an argument, and so is the state of the
round-robin cursor, which only one strategy advances.
-/

namespace LlmGateway.Routing

open Providers

inductive RoutingStrategyKind where
  | primary
  | roundRobin
  | fallback
  | weighted
  | priorityGrouped
  deriving DecidableEq, Repr

/-- `RoundRobinCursor`: one counter for each requested model. -/
structure RoundRobinCursor where
  cursors : AList fun _ : String => ℕ

namespace RoundRobinCursor

def initial : RoundRobinCursor where
  cursors := ∅

def next (cursor : RoundRobinCursor) (key : String) (length : ℕ) : ℕ × RoundRobinCursor :=
  if length = 0 then (0, cursor)
  else
    let current := (cursor.cursors.lookup key).getD 0
    ((current % length + length) % length, ⟨cursor.cursors.insert key (current + 1)⟩)

end RoundRobinCursor

/-- Walk forward from `start`, wrapping at the end. -/
def walkForwardFrom (start n : ℕ) : List ℕ :=
  (List.range n).map fun i => (start + i) % n

/-- Positions without a finite positive weight count as 1. -/
def effectiveWeight (weights : Option (List Js.Number)) (i : ℕ) : ℚ :=
  match weights.bind (·[i]?) with
  | some (.finite w) => if 0 < w then w else 1
  | some .nan => 1
  | some (.infinite _) => 1
  | none => 1

def sampleFrom (target : ℚ) : ℚ → ℕ → List ℚ → Option ℕ
  | _, _, [] => none
  | acc, i, weight :: rest =>
      if target < acc + weight then some i else sampleFrom target (acc + weight) (i + 1) rest

def sampleWeightedIndex (weights : Option (List Js.Number)) (n : ℕ) (random : ℚ) : ℕ :=
  let effective := (List.range n).map (effectiveWeight weights)
  let total := effective.sum
  if total ≤ 0 then ⌊random * n⌋₊
  else (sampleFrom (random * total) 0 0 effective).getD (n - 1)

/-- The comparison of `'priority-grouped'`: priority first, then position. -/
def priorityBefore (left right : ResolvedModel × ℕ) : Prop :=
  left.1.priority < right.1.priority ∨
    (left.1.priority = right.1.priority ∧ left.2 ≤ right.2)

instance : DecidableRel priorityBefore :=
  fun _ _ => inferInstanceAs (Decidable (_ ∨ _))

/-- `cursorNext` is the index the cursor would return. -/
def pickOrder (strategy : RoutingStrategyKind) (chain : List ResolvedModel) (cursorNext : ℕ)
    (weights : Option (List Js.Number)) (random : ℚ) : List ℕ :=
  let n := chain.length
  if n = 0 then []
  else if n = 1 then [0]
  else match strategy with
    | .roundRobin => walkForwardFrom cursorNext n
    | .weighted => walkForwardFrom (sampleWeightedIndex weights n random) n
    | .priorityGrouped => (chain.zipIdx.insertionSort priorityBefore).map Prod.snd
    | .primary => List.range n
    | .fallback => List.range n

/-- `pickOrder` calls the closure over the cursor for round-robin only, and only
where there is a choice. -/
def advancesCursor (strategy : RoutingStrategyKind) (chain : List ResolvedModel) : Bool :=
  strategy = .roundRobin ∧ 2 ≤ chain.length

theorem walkForwardFrom_eq_rotate (start n : ℕ) :
    walkForwardFrom start n = (List.range n).rotate start := by
  apply List.ext_getElem
  · simp [walkForwardFrom]
  · intro i inside _
    simp [walkForwardFrom, List.getElem_rotate, Nat.add_comm]

theorem walkForwardFrom_perm (start n : ℕ) : (walkForwardFrom start n).Perm (List.range n) := by
  rw [walkForwardFrom_eq_rotate]
  exact List.rotate_perm _ _

theorem positions_eq_range (chain : List ResolvedModel) :
    chain.zipIdx.map Prod.snd = List.range chain.length := by
  simp [List.zipIdx_map_snd, List.range_eq_range']

theorem pickOrder_perm (strategy : RoutingStrategyKind) (chain : List ResolvedModel)
    (cursorNext : ℕ) (weights : Option (List Js.Number)) (random : ℚ) :
    (pickOrder strategy chain cursorNext weights random).Perm (List.range chain.length) := by
  unfold pickOrder
  by_cases empty : chain.length = 0
  · simp [empty]
  by_cases single : chain.length = 1
  · simp [single]
  simp only [empty, single, ↓reduceIte]
  cases strategy with
  | primary => exact List.Perm.refl _
  | fallback => exact List.Perm.refl _
  | roundRobin => exact walkForwardFrom_perm _ _
  | weighted => exact walkForwardFrom_perm _ _
  | priorityGrouped =>
      rw [← positions_eq_range]
      exact (List.perm_insertionSort priorityBefore chain.zipIdx).map Prod.snd

end LlmGateway.Routing
