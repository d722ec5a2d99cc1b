import Mathlib.Data.List.Nodup
import Mathlib.Algebra.Order.Ring.Int

/-!
Sorted sets of a key-value server: members with a score, each member once. Only
the sizes matter here, so the order by score is not kept.
-/

namespace ScoredSets

structure ScoredSet where
  entries : List (String × ℤ)
  distinct : (entries.map Prod.fst).Nodup

namespace ScoredSet

def empty : ScoredSet where
  entries := []
  distinct := List.nodup_nil

variable (set : ScoredSet)

def zcard : ℕ := set.entries.length

/-- A member that is there already gets the new score. -/
def zadd (score : ℤ) (member : String) : ScoredSet where
  entries := set.entries.filter (fun entry => entry.1 ≠ member) ++ [(member, score)]
  distinct := by
    rw [List.map_append, List.nodup_append']
    refine ⟨set.distinct.sublist (List.filter_sublist.map _), List.nodup_singleton _, ?_⟩
    intro other kept same
    obtain ⟨entry, inside, rfl⟩ := List.mem_map.mp kept
    have different := (List.mem_filter.mp inside).2
    rw [List.mem_singleton.mp same] at different
    simp at different

def zremrangebyscore (low high : ℤ) : ScoredSet where
  entries := set.entries.filter fun entry => ¬ (low ≤ entry.2 ∧ entry.2 ≤ high)
  distinct := set.distinct.sublist (List.filter_sublist.map _)

theorem zcard_zadd_le (score : ℤ) (member : String) :
    (set.zadd score member).zcard ≤ set.zcard + 1 := by
  have kept := List.length_filter_le (fun entry : String × ℤ => decide (entry.1 ≠ member))
    set.entries
  unfold zcard zadd
  rw [List.length_append, List.length_singleton]
  exact Nat.succ_le_succ kept

theorem zcard_zremrangebyscore_le (low high : ℤ) :
    (set.zremrangebyscore low high).zcard ≤ set.zcard :=
  List.length_filter_le _ _

end ScoredSet

end ScoredSets
