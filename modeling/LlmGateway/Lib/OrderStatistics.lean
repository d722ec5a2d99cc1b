import Mathlib.Data.List.Count
import Mathlib.Data.List.Sort
import Mathlib.Order.Defs.LinearOrder

/-!
The value of a rank in a list, whatever the order of the list: fewer values than
the rank are below it, and at least that many are not above it.
-/

namespace OrderStatistics

variable {Value : Type} [LinearOrder Value]

structure HasRank (values : List Value) (rank : ℕ) (value : Value) : Prop where
  among : value ∈ values
  below : values.countP (· < value) < rank
  reached : rank ≤ values.countP (· ≤ value)

section Ranks

variable (values : List Value) (rank higher : ℕ) (value other : Value)

theorem rank_mono (low : HasRank values rank value) (high : HasRank values higher other)
    (ordered : rank ≤ higher) : value ≤ other := by
  by_contra smaller
  have counted : values.countP (· ≤ other) ≤ values.countP (· < value) := by
    refine List.countP_mono_left fun entry _ within => ?_
    exact decide_eq_true ((of_decide_eq_true within).trans_lt (not_le.mp smaller))
  have reached := high.reached
  have below := low.below
  omega

theorem rank_perm (others : List Value) (same : values.Perm others)
    (ranked : HasRank values rank value) : HasRank others rank value where
  among := same.subset ranked.among
  below := by
    rw [← same.countP_eq]
    exact ranked.below
  reached := by
    rw [← same.countP_eq]
    exact ranked.reached

theorem rank_first (first : HasRank values 1 value) (entry : Value) (member : entry ∈ values) :
    value ≤ entry := by
  have none : values.countP (· < value) = 0 := Nat.lt_one_iff.mp first.below
  have above := List.countP_eq_zero.mp none entry member
  exact not_lt.mp fun smaller => above (decide_eq_true smaller)

theorem rank_last (last : HasRank values values.length value) (entry : Value)
    (member : entry ∈ values) : entry ≤ value := by
  have all : values.countP (· ≤ value) = values.length :=
    le_antisymm List.countP_le_length last.reached
  exact of_decide_eq_true (List.countP_eq_length.mp all entry member)

theorem rank_sorted (before after : List Value)
    (sorted : (before ++ value :: after).Pairwise (· ≤ ·)) :
    HasRank (before ++ value :: after) (before.length + 1) value := by
  obtain ⟨_, tail, across⟩ := List.pairwise_append.mp sorted
  obtain ⟨above, _⟩ := List.pairwise_cons.mp tail
  refine ⟨by simp, ?_, ?_⟩
  · have none : (value :: after).countP (· < value) = 0 := by
      refine List.countP_eq_zero.mpr fun entry member smaller => ?_
      rcases List.mem_cons.mp member with rfl | later
      · exact lt_irrefl entry (of_decide_eq_true smaller)
      · exact not_lt.mpr (above entry later) (of_decide_eq_true smaller)
    rw [List.countP_append, none]
    exact Nat.lt_succ_of_le List.countP_le_length
  · have all : before.countP (· ≤ value) = before.length :=
      List.countP_eq_length.mpr fun entry member =>
        decide_eq_true (across entry member value List.mem_cons_self)
    rw [List.countP_append, all, List.countP_cons_of_pos (by simp)]
    omega

theorem rank_getElem? (sorted : values.Pairwise (· ≤ ·)) (index : ℕ)
    (found : values[index]? = some value) : HasRank values (index + 1) value := by
  obtain ⟨inside, here⟩ := List.getElem?_eq_some_iff.mp found
  have split : values.take index ++ value :: values.drop (index + 1) = values := by
    rw [← here, ← List.drop_eq_getElem_cons inside, List.take_append_drop]
  have ranked := rank_sorted value (values.take index) (values.drop (index + 1))
    (by rw [split]; exact sorted)
  rw [split, List.length_take_of_le inside.le] at ranked
  exact ranked

end Ranks

end OrderStatistics
