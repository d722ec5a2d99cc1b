import Mathlib.Algebra.Order.BigOperators.Group.List
import LlmGateway.Routing.Strategy

/-!
The order `pickOrder` makes of a chain: what each strategy does with all the
positions, not only that it visits each of them once.
-/

namespace LlmGateway.Routing

open Providers

def priorityAt (chain : List ResolvedModel) (position : ℕ) : ℤ :=
  chain[position]?.elim 0 ResolvedModel.priority

def TriedBefore (chain : List ResolvedModel) (left right : ℕ) : Prop :=
  priorityAt chain left < priorityAt chain right ∨
    (priorityAt chain left = priorityAt chain right ∧ left < right)

theorem RoundRobinCursor.next_lt (cursor : RoundRobinCursor) (key : String) (n : ℕ)
    (positive : 0 < n) : (cursor.next key n).1 < n := by
  have some : n ≠ 0 := by omega
  simp only [RoundRobinCursor.next, some, ↓reduceIte]
  exact Nat.mod_lt _ positive

theorem sampleFrom_lt (target acc : ℚ) (first : ℕ) (weights : List ℚ) (i : ℕ)
    (sampled : sampleFrom target acc first weights = some i) : i < first + weights.length := by
  induction weights generalizing acc first with
  | nil => cases sampled
  | cons weight rest ih =>
      rw [sampleFrom] at sampled
      rw [List.length_cons]
      split at sampled
      · cases sampled
        omega
      · have later := ih _ _ sampled
        omega

theorem effectiveWeight_pos (weights : Option (List Js.Number)) (i : ℕ) :
    0 < effectiveWeight weights i := by
  unfold effectiveWeight
  split
  next w _ =>
    split
    next positive => exact positive
    next => exact one_pos
  all_goals exact one_pos

theorem totalWeight_pos (weights : Option (List Js.Number)) (n : ℕ) (positive : 0 < n) :
    0 < ((List.range n).map (effectiveWeight weights)).sum := by
  apply List.sum_pos
  · intro weight member
    obtain ⟨i, _, rfl⟩ := List.mem_map.mp member
    exact effectiveWeight_pos weights i
  · simpa using positive.ne'

theorem sampleWeightedIndex_lt (weights : Option (List Js.Number)) (n : ℕ) (random : ℚ)
    (positive : 0 < n) : sampleWeightedIndex weights n random < n := by
  have total := totalWeight_pos weights n positive
  simp only [sampleWeightedIndex, total.not_ge, ↓reduceIte]
  cases sampled : sampleFrom _ 0 0 ((List.range n).map (effectiveWeight weights)) with
  | none =>
      rw [Option.getD_none]
      omega
  | some i => simpa using sampleFrom_lt _ _ _ _ i sampled

theorem walkForwardFrom_head (start n : ℕ) (inside : start < n) :
    (walkForwardFrom start n).head? = some start := by
  rw [walkForwardFrom_eq_rotate, List.head?_rotate (by simpa using inside)]
  exact List.getElem?_range inside

section Priorities

variable (chain : List ResolvedModel)

instance priorityBefore_total : Std.Total priorityBefore where
  total := by
    intro left right
    unfold priorityBefore
    omega

instance priorityBefore_trans : IsTrans (ResolvedModel × ℕ) priorityBefore where
  trans := by
    intro first second third before after
    unfold priorityBefore at *
    omega

theorem priorityAt_of_mem (item : ResolvedModel × ℕ) (member : item ∈ chain.zipIdx) :
    priorityAt chain item.2 = item.1.priority := by
  have found : chain[item.2]? = some item.1 := by
    simpa using List.mem_zipIdx_iff_getElem?.mp member
  rw [priorityAt, found]
  rfl

theorem grouped_sorted :
    ((chain.zipIdx.insertionSort priorityBefore).map Prod.snd).Pairwise (TriedBefore chain) := by
  have sorted := List.pairwise_insertionSort priorityBefore chain.zipIdx
  have distinct : ((chain.zipIdx.insertionSort priorityBefore).map Prod.snd).Nodup := by
    have perm := (List.perm_insertionSort priorityBefore chain.zipIdx).map Prod.snd
    rw [positions_eq_range] at perm
    exact perm.nodup_iff.mpr List.nodup_range
  rw [List.pairwise_map]
  apply (sorted.and (List.pairwise_map.mp distinct)).imp_of_mem
  intro left right inLeft inRight before
  obtain ⟨before, different⟩ := before
  have leftAt := priorityAt_of_mem chain left ((List.mem_insertionSort _).mp inLeft)
  have rightAt := priorityAt_of_mem chain right ((List.mem_insertionSort _).mp inRight)
  unfold TriedBefore
  rw [leftAt, rightAt]
  rcases before with lower | ⟨same, earlier⟩
  · exact Or.inl lower
  · exact Or.inr ⟨same, lt_of_le_of_ne earlier different⟩

end Priorities

/-- What each strategy makes of the positions of a chain. -/
structure CompleteOrder (strategy : RoutingStrategyKind) (chain : List ResolvedModel)
    (cursorNext : ℕ) (weights : Option (List Js.Number)) (random : ℚ) (order : List ℕ) :
    Prop where
  permutation : order.Perm (List.range chain.length)
  chainOrder : strategy = .primary ∨ strategy = .fallback → order = List.range chain.length
  roundRobin : strategy = .roundRobin →
    order = (List.range chain.length).rotate cursorNext ∧
      (chain ≠ [] → order.head? = some cursorNext)
  weighted : strategy = .weighted →
    order = (List.range chain.length).rotate (sampleWeightedIndex weights chain.length random) ∧
      (chain ≠ [] → order.head? = some (sampleWeightedIndex weights chain.length random))
  grouped : strategy = .priorityGrouped → order.Pairwise (TriedBefore chain)

section Orders

variable (chain : List ResolvedModel) (cursorNext : ℕ) (weights : Option (List Js.Number))
  (random : ℚ)

theorem pickOrder_short (strategy : RoutingStrategyKind) (short : chain.length ≤ 1) :
    pickOrder strategy chain cursorNext weights random = List.range chain.length := by
  unfold pickOrder
  by_cases empty : chain.length = 0
  · simp [empty]
  · have single : chain.length = 1 := by omega
    simp [single]

theorem range_rotate_short (n start : ℕ) (short : n ≤ 1) :
    (List.range n).rotate start = List.range n := by
  by_cases empty : n = 0
  · simp [empty]
  · have single : n = 1 := by omega
    rw [single]
    exact List.rotate_singleton 0 start

theorem pickOrder_chainOrder (strategy : RoutingStrategyKind)
    (plain : strategy = .primary ∨ strategy = .fallback) :
    pickOrder strategy chain cursorNext weights random = List.range chain.length := by
  by_cases short : chain.length ≤ 1
  · exact pickOrder_short chain cursorNext weights random strategy short
  · have some : chain.length ≠ 0 := by omega
    have many : chain.length ≠ 1 := by omega
    rcases plain with rfl | rfl <;> simp [pickOrder, some, many]

theorem pickOrder_rotated (strategy : RoutingStrategyKind) (start : ℕ)
    (walks : chain.length ≠ 0 → chain.length ≠ 1 →
      pickOrder strategy chain cursorNext weights random = walkForwardFrom start chain.length) :
    pickOrder strategy chain cursorNext weights random =
      (List.range chain.length).rotate start := by
  by_cases short : chain.length ≤ 1
  · rw [pickOrder_short chain cursorNext weights random _ short, range_rotate_short _ _ short]
  · rw [walks (by omega) (by omega)]
    exact walkForwardFrom_eq_rotate start chain.length

theorem pickOrder_roundRobin :
    pickOrder .roundRobin chain cursorNext weights random =
      (List.range chain.length).rotate cursorNext := by
  apply pickOrder_rotated
  intro some many
  simp only [pickOrder, some, many, ↓reduceIte]

theorem pickOrder_weighted :
    pickOrder .weighted chain cursorNext weights random =
      (List.range chain.length).rotate (sampleWeightedIndex weights chain.length random) := by
  apply pickOrder_rotated
  intro some many
  simp only [pickOrder, some, many, ↓reduceIte]

theorem pickOrder_grouped :
    (pickOrder .priorityGrouped chain cursorNext weights random).Pairwise (TriedBefore chain) := by
  by_cases short : chain.length ≤ 1
  · rw [pickOrder_short chain cursorNext weights random _ short]
    by_cases empty : chain.length = 0
    · simp [empty]
    · have single : chain.length = 1 := by omega
      simp [single]
  · have some : chain.length ≠ 0 := by omega
    have many : chain.length ≠ 1 := by omega
    simp only [pickOrder, some, many, ↓reduceIte]
    exact grouped_sorted chain

theorem rotate_head (n start : ℕ) (inside : start < n) :
    ((List.range n).rotate start).head? = some start := by
  rw [← walkForwardFrom_eq_rotate]
  exact walkForwardFrom_head start n inside

end Orders

/-- Every strategy orders the whole chain as it promises, for every state of
the cursor, all weights and every draw. -/
theorem pickOrder_complete (strategy : RoutingStrategyKind) (chain : List ResolvedModel)
    (cursor : RoundRobinCursor) (model : String) (weights : Option (List Js.Number))
    (random : ℚ) :
    CompleteOrder strategy chain (cursor.next model chain.length).1 weights random
      (pickOrder strategy chain (cursor.next model chain.length).1 weights random) where
  permutation := pickOrder_perm strategy chain _ weights random
  chainOrder := pickOrder_chainOrder chain _ weights random strategy
  roundRobin := by
    rintro rfl
    have order := pickOrder_roundRobin chain (cursor.next model chain.length).1 weights random
    refine ⟨order, fun filled => ?_⟩
    rw [order]
    exact rotate_head _ _ (cursor.next_lt model _ (List.length_pos_iff.mpr filled))
  weighted := by
    rintro rfl
    have order := pickOrder_weighted chain (cursor.next model chain.length).1 weights random
    refine ⟨order, fun filled => ?_⟩
    rw [order]
    exact rotate_head _ _ (sampleWeightedIndex_lt weights _ random (List.length_pos_iff.mpr filled))
  grouped := by
    rintro rfl
    exact pickOrder_grouped chain _ weights random

end LlmGateway.Routing
