import Mathlib.Algebra.BigOperators.Group.List.Basic
import Mathlib.Algebra.Order.Field.Basic
import Mathlib.MeasureTheory.Measure.Lebesgue.Basic

/-!
Sampling an index by walking cumulative weights: the first index whose
accumulated weight exceeds the target. Index `i` owns the targets from the
weight before it up to the weight after it.
-/

namespace Sampling

section Walk

variable {K : Type*} [Field K]

/-- The weight of the indices before `i`. -/
def before (weights : List K) (i : ℕ) : K := (weights.take i).sum

@[simp] theorem before_zero (weights : List K) : before weights 0 = 0 := by
  simp [before]

@[simp] theorem before_cons_succ (weight : K) (rest : List K) (i : ℕ) :
    before (weight :: rest) (i + 1) = weight + before rest i := by
  simp [before]

theorem before_length (weights : List K) : before weights weights.length = weights.sum := by
  simp [before]

theorem before_succ (weights : List K) (i : ℕ) (inside : i < weights.length) :
    before weights (i + 1) = before weights i + weights[i] := by
  rw [before, before, List.sum_take_succ weights i inside]

variable [LinearOrder K]

def pick (target : K) : K → ℕ → List K → Option ℕ
  | _, _, [] => none
  | acc, i, weight :: rest =>
      if target < acc + weight then some i else pick target (acc + weight) (i + 1) rest

/-- The index drawn by a number of `[0, 1)`; the last index if the walk ends. -/
def draw (weights : List K) (random : K) : ℕ :=
  (pick (random * weights.sum) 0 0 weights).getD (weights.length - 1)

/-- Index `i` owns the target. -/
def Owns (weights : List K) (target : K) (i : ℕ) : Prop :=
  before weights i ≤ target ∧ target < before weights (i + 1)

variable [IsStrictOrderedRing K] (weights : List K)

theorem before_mono (positive : ∀ weight ∈ weights, 0 < weight) {i j : ℕ} (le : i ≤ j) :
    before weights i ≤ before weights j := by
  induction le with
  | refl => exact le_refl _
  | @step j _ ih =>
      by_cases inside : j < weights.length
      · rw [before_succ weights j inside]
        have gain := positive _ (List.getElem_mem inside)
        linarith
      · have past : weights.take (j + 1) = weights.take j := by
          rw [List.take_of_length_le (by omega), List.take_of_length_le (by omega)]
        simpa only [before, past] using ih

theorem owns_unique (positive : ∀ weight ∈ weights, 0 < weight) (target : K) (i j : ℕ)
    (left : Owns weights target i) (right : Owns weights target j) : i = j := by
  by_contra different
  rcases Nat.lt_or_gt_of_ne different with less | greater
  · have gap := before_mono weights positive (Nat.succ_le_of_lt less)
    exact absurd (left.2.trans_le gap) right.1.not_gt
  · have gap := before_mono weights positive (Nat.succ_le_of_lt greater)
    exact absurd (right.2.trans_le gap) left.1.not_gt

theorem pick_owner (target acc : K) (first : ℕ) (reached : acc ≤ target)
    (reaches : target < acc + weights.sum) :
    ∃ i < weights.length, pick target acc first weights = some (first + i) ∧
      Owns weights (target - acc) i := by
  induction weights generalizing acc first with
  | nil =>
      rw [List.sum_nil, add_zero] at reaches
      exact absurd reaches reached.not_gt
  | cons weight rest ih =>
      rw [pick]
      by_cases here : target < acc + weight
      · refine ⟨0, Nat.succ_pos _, by rw [if_pos here, Nat.add_zero], ?_⟩
        constructor
        · rw [before_zero]
          linarith
        · rw [before_cons_succ, before_zero]
          linarith
      · rw [List.sum_cons, ← add_assoc] at reaches
        obtain ⟨i, inside, picked, low, high⟩ := ih (acc + weight) (first + 1) (not_lt.mp here)
          reaches
        refine ⟨i + 1, Nat.succ_lt_succ inside, ?_, ?_⟩
        · rw [if_neg here, picked]
          congr 1
          omega
        · constructor
          · rw [before_cons_succ]
            linarith
          · rw [before_cons_succ]
            linarith

section Draws

variable (positive : ∀ weight ∈ weights, 0 < weight) (random : K) (low : 0 ≤ random)
  (high : random < 1)
include low high

theorem draw_owner (total : 0 < weights.sum) :
    draw weights random < weights.length ∧
      Owns weights (random * weights.sum) (draw weights random) := by
  have reached : (0 : K) ≤ random * weights.sum := mul_nonneg low total.le
  have reaches : random * weights.sum < 0 + weights.sum := by
    rw [zero_add]
    exact mul_lt_of_lt_one_left total high
  obtain ⟨i, inside, picked, owns⟩ := pick_owner weights _ 0 0 reached reaches
  have drawn : draw weights random = i := by
    rw [draw, picked, Nat.zero_add, Option.getD_some]
  rw [drawn]
  rw [sub_zero] at owns
  exact ⟨inside, owns⟩

include positive

theorem draw_eq_iff (total : 0 < weights.sum) (i : ℕ) :
    draw weights random = i ↔ Owns weights (random * weights.sum) i := by
  obtain ⟨_, owner⟩ := draw_owner weights random low high total
  constructor
  · rintro rfl
    exact owner
  · intro owns
    exact owns_unique weights positive _ _ _ owner owns

end Draws

theorem draws_eq_Ico (positive : ∀ weight ∈ weights, 0 < weight) (i : ℕ)
    (inside : i < weights.length) :
    {random : K | 0 ≤ random ∧ random < 1 ∧ draw weights random = i} =
      Set.Ico (before weights i / weights.sum) (before weights (i + 1) / weights.sum) := by
  have total : 0 < weights.sum := by
    apply List.sum_pos _ positive
    rintro rfl
    exact absurd inside (Nat.not_lt_zero i)
  have start : 0 ≤ before weights i := by
    rw [← before_zero weights]
    exact before_mono weights positive (Nat.zero_le i)
  have stop : before weights (i + 1) ≤ weights.sum := by
    rw [← before_length]
    exact before_mono weights positive inside
  ext random
  rw [Set.mem_Ico, div_le_iff₀ total, lt_div_iff₀ total]
  constructor
  · rintro ⟨low, high, drawn⟩
    exact (draw_eq_iff weights positive random low high total i).mp drawn
  · intro owns
    have low : 0 ≤ random := by
      by_contra negative
      have below := mul_neg_of_neg_of_pos (not_le.mp negative) total
      exact absurd (start.trans owns.1) below.not_ge
    have high : random < 1 := by
      by_contra large
      have above := mul_le_mul_of_nonneg_right (not_lt.mp large) total.le
      rw [one_mul] at above
      exact absurd (stop.trans above) owns.2.not_ge
    exact ⟨low, high, (draw_eq_iff weights positive random low high total i).mpr owns⟩

end Walk

section Cast

variable (weights : List ℚ)

theorem pick_cast (target acc : ℚ) (first : ℕ) :
    pick (target : ℝ) (acc : ℝ) first (weights.map (↑)) = pick target acc first weights := by
  induction weights generalizing acc first with
  | nil => rfl
  | cons weight rest ih =>
      rw [List.map_cons, pick, pick, ← Rat.cast_add, ih]
      simp only [Rat.cast_lt]

theorem draw_cast (random : ℚ) : draw (weights.map ((↑) : ℚ → ℝ)) random = draw weights random := by
  have total : (weights.map ((↑) : ℚ → ℝ)).sum = (weights.sum : ℝ) := by
    simp [Rat.cast_list_sum]
  have picked := pick_cast weights (random * weights.sum) 0 0
  rw [Rat.cast_mul, Rat.cast_zero] at picked
  rw [draw, draw, total, picked, List.length_map]

end Cast

/-- The chance of an index is its share of the total. -/
theorem volume_draws (weights : List ℝ) (positive : ∀ weight ∈ weights, 0 < weight) (i : ℕ)
    (inside : i < weights.length) :
    MeasureTheory.volume {random : ℝ | 0 ≤ random ∧ random < 1 ∧ draw weights random = i} =
      ENNReal.ofReal (weights[i] / weights.sum) := by
  rw [draws_eq_Ico weights positive i inside, Real.volume_Ico, before_succ weights i inside]
  congr 1
  ring

end Sampling
