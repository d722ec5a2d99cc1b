import LlmGateway.Lib.Sampling
import LlmGateway.Routing.Tables

/-!
`sampleWeightedIndex` draws in proportion to the weights, and the weights it is
given are the stored ones, each at its position.
-/

namespace LlmGateway.Routing

open Providers Service

/-- The `effective` array of `sampleWeightedIndex`. -/
def effectiveWeights (weights : Option (List Js.Number)) (n : ℕ) : List ℚ :=
  (List.range n).map (effectiveWeight weights)

/-- What `acc` holds before position `i`; the total at the length of the chain. -/
def weightBefore (weights : Option (List Js.Number)) (i : ℕ) : ℚ :=
  ((List.range i).map (effectiveWeight weights)).sum

def realDraws (weights : Option (List Js.Number)) (n i : ℕ) : Set ℝ :=
  {random | 0 ≤ random ∧ random < 1 ∧
    Sampling.draw ((effectiveWeights weights n).map (↑)) random = i}

section Walk

variable (weights : Option (List Js.Number)) (n : ℕ)

theorem effectiveWeights_pos : ∀ weight ∈ effectiveWeights weights n, 0 < weight := by
  intro weight member
  obtain ⟨i, _, rfl⟩ := List.mem_map.mp member
  exact effectiveWeight_pos weights i

@[simp] theorem effectiveWeights_length : (effectiveWeights weights n).length = n := by
  simp [effectiveWeights]

theorem before_effectiveWeights (i : ℕ) (inside : i ≤ n) :
    Sampling.before (effectiveWeights weights n) i = weightBefore weights i := by
  rw [Sampling.before, effectiveWeights, ← List.map_take, List.take_range,
    Nat.min_eq_left inside, weightBefore]

theorem sampleFrom_eq_pick (target acc : ℚ) (first : ℕ) (effective : List ℚ) :
    sampleFrom target acc first effective = Sampling.pick target acc first effective := by
  induction effective generalizing acc first with
  | nil => rfl
  | cons weight rest ih => rw [sampleFrom, Sampling.pick, ih]

theorem owns_iff (target : ℚ) (i : ℕ) :
    (i < n ∧ Sampling.Owns (effectiveWeights weights n) target i) ↔
      i < n ∧ weightBefore weights i ≤ target ∧ target < weightBefore weights (i + 1) := by
  refine and_congr_right fun inside => ?_
  rw [Sampling.Owns, before_effectiveWeights weights n i inside.le,
    before_effectiveWeights weights n (i + 1) inside]

variable (positive : 0 < n)
include positive

theorem sampleWeightedIndex_eq_draw (random : ℚ) :
    sampleWeightedIndex weights n random = Sampling.draw (effectiveWeights weights n) random := by
  have total := totalWeight_pos weights n positive
  simp only [sampleWeightedIndex, total.not_ge, ↓reduceIte, sampleFrom_eq_pick]
  rw [Sampling.draw, effectiveWeights_length]
  rfl

theorem mem_realDraws (random : ℚ) (i : ℕ) :
    (random : ℝ) ∈ realDraws weights n i ↔
      0 ≤ random ∧ random < 1 ∧ sampleWeightedIndex weights n random = i := by
  rw [realDraws, Set.mem_ofPred_eq, Sampling.draw_cast,
    sampleWeightedIndex_eq_draw weights n positive]
  norm_cast

end Walk

/-- Each index is drawn by its share of the unit interval. -/
structure Proportional (weights : Option (List Js.Number)) (n : ℕ) : Prop where
  /-- The sampled index is the only one that owns the target. -/
  owner : ∀ random : ℚ, 0 ≤ random → random < 1 → ∀ i,
    sampleWeightedIndex weights n random = i ↔
      i < n ∧ weightBefore weights i ≤ random * weightBefore weights n ∧
        random * weightBefore weights n < weightBefore weights (i + 1)
  draws : ∀ i < n,
    {random : ℚ | 0 ≤ random ∧ random < 1 ∧ sampleWeightedIndex weights n random = i} =
      Set.Ico (weightBefore weights i / weightBefore weights n)
        (weightBefore weights (i + 1) / weightBefore weights n)
  share : ∀ i < n, weightBefore weights (i + 1) / weightBefore weights n -
    weightBefore weights i / weightBefore weights n =
      effectiveWeight weights i / weightBefore weights n
  /-- On the rational draws `realDraws` is the code. -/
  extends_code : ∀ (random : ℚ) (i : ℕ), (random : ℝ) ∈ realDraws weights n i ↔
    0 ≤ random ∧ random < 1 ∧ sampleWeightedIndex weights n random = i
  measure : ∀ i < n, MeasureTheory.volume (realDraws weights n i) =
    ENNReal.ofReal ((effectiveWeight weights i / weightBefore weights n : ℚ) : ℝ)

section Shares

variable (weights : Option (List Js.Number)) (n : ℕ)

theorem weightBefore_succ (i : ℕ) :
    weightBefore weights (i + 1) = weightBefore weights i + effectiveWeight weights i := by
  simp [weightBefore, List.range_succ]

variable (positive : 0 < n)
include positive

theorem sampled_owner (random : ℚ) (low : 0 ≤ random) (high : random < 1) (i : ℕ) :
    sampleWeightedIndex weights n random = i ↔
      i < n ∧ weightBefore weights i ≤ random * weightBefore weights n ∧
        random * weightBefore weights n < weightBefore weights (i + 1) := by
  have total : 0 < (effectiveWeights weights n).sum := totalWeight_pos weights n positive
  have drawn := Sampling.draw_eq_iff _ (effectiveWeights_pos weights n) random low high total i
  rw [← owns_iff weights n, sampleWeightedIndex_eq_draw weights n positive]
  constructor
  · intro sampled
    have inside := sampleWeightedIndex_lt weights n random positive
    rw [sampleWeightedIndex_eq_draw weights n positive, sampled] at inside
    exact ⟨inside, drawn.mp sampled⟩
  · intro owns
    exact drawn.mpr owns.2

theorem sampled_draws (i : ℕ) (inside : i < n) :
    {random : ℚ | 0 ≤ random ∧ random < 1 ∧ sampleWeightedIndex weights n random = i} =
      Set.Ico (weightBefore weights i / weightBefore weights n)
        (weightBefore weights (i + 1) / weightBefore weights n) := by
  have interval := Sampling.draws_eq_Ico _ (effectiveWeights_pos weights n) i
    (by rwa [effectiveWeights_length])
  rw [before_effectiveWeights weights n i inside.le,
    before_effectiveWeights weights n (i + 1) inside] at interval
  simp only [sampleWeightedIndex_eq_draw weights n positive]
  exact interval

omit positive in
theorem volume_realDraws (i : ℕ) (inside : i < n) :
    MeasureTheory.volume (realDraws weights n i) =
      ENNReal.ofReal ((effectiveWeight weights i / weightBefore weights n : ℚ) : ℝ) := by
  have real : ∀ weight ∈ (effectiveWeights weights n).map ((↑) : ℚ → ℝ), 0 < weight := by
    intro weight member
    obtain ⟨rational, listed, rfl⟩ := List.mem_map.mp member
    exact_mod_cast effectiveWeights_pos weights n rational listed
  have chance := Sampling.volume_draws _ real i (by simpa using inside)
  rw [realDraws, chance]
  congr 1
  rw [Rat.cast_div]
  congr 1
  · simp [effectiveWeights]
  · rw [weightBefore, Rat.cast_list_sum]
    rfl

end Shares

/-- What `route` hands to the sampler for an alias. -/
structure AliasSampling (tables : RoutingTables) (aliasKey : String) (chain : List ResolvedModel)
    (router : Router) : Prop where
  unset : (∀ position, tables.weights.lookup (aliasKey, position) = none) →
    router.aliasWeightsFor aliasKey chain.length = none
  supplied : (∃ position weight, tables.weights.lookup (aliasKey, position) = some weight) →
    ∃ weights, router.aliasWeightsFor aliasKey chain.length = some weights ∧
      tables.Supplied aliasKey chain.length weights
  counted : ∀ position < chain.length,
    effectiveWeight (router.aliasWeightsFor aliasKey chain.length) position =
      tables.weightAt aliasKey position
  starts : router.strategyFor aliasKey = .weighted → chain ≠ [] → ∀ random,
    (router.order random aliasKey chain).head? = some
      (sampleWeightedIndex (router.aliasWeightsFor aliasKey chain.length) chain.length random)

theorem aliasSampling (tables : RoutingTables) (cursor : RoundRobinCursor) (aliasKey : String)
    (chain : List ResolvedModel) :
    AliasSampling tables aliasKey chain (tables.routingService cursor) where
  unset := tables.aliasWeightsFor_none cursor aliasKey chain.length
  supplied := by
    rintro ⟨position, weight, stored⟩
    exact tables.aliasWeightsFor_supplied cursor aliasKey chain.length position weight stored
  counted := tables.effectiveWeight_aliasWeightsFor cursor aliasKey chain.length
  starts := by
    intro weighted filled random
    have inside := sampleWeightedIndex_lt
      ((tables.routingService cursor).aliasWeightsFor aliasKey chain.length) _ random
      (List.length_pos_iff.mpr filled)
    rw [Router.order, weighted, pickOrder_weighted]
    exact rotate_head _ _ inside

/-- Weighted sampling is proportional to the weights, and an alias is sampled
by its stored weights. -/
theorem weighted_sampling_proportional (n : ℕ) (positive : 0 < n) :
    (∀ weights, Proportional weights n) ∧
      ∀ (tables : RoutingTables) (cursor : RoundRobinCursor) (aliasKey : String)
        (chain : List ResolvedModel), chain.length = n →
        AliasSampling tables aliasKey chain (tables.routingService cursor) := by
  constructor
  · intro weights
    constructor
    · exact sampled_owner weights n positive
    · exact sampled_draws weights n positive
    · intro i _
      rw [weightBefore_succ]
      ring
    · exact mem_realDraws weights n positive
    · exact volume_realDraws weights n
  · intro tables cursor aliasKey chain _
    exact aliasSampling tables cursor aliasKey chain

/-- Two positions, the second with an invalid weight: three quarters of the
draws start at the first. -/
theorem weighted_sampling_proportional_two :
    0 < 2 ∧ MeasureTheory.volume (realDraws (some [.finite 3, .nan]) 2 0) =
      ENNReal.ofReal ((3 / 4 : ℚ) : ℝ) := by
  refine ⟨by decide, ?_⟩
  have proportional := (weighted_sampling_proportional 2 (by decide)).1 (some [.finite 3, .nan])
  have share : effectiveWeight (some [.finite 3, .nan]) 0 /
      weightBefore (some [.finite 3, .nan]) 2 = 3 / 4 := by
    decide +kernel
  rw [proportional.measure 0 (by decide), share]

end LlmGateway.Routing
