import Mathlib.Algebra.BigOperators.Group.List.Lemmas
import Mathlib.Algebra.GroupWithZero.Nat
import Mathlib.Data.List.Dedup

/-!
Rows grouped by a key: one bucket for each key that occurs, holding the rows of
that key. Whatever is summed over the rows is summed over the buckets.
-/

namespace Grouping

variable {Row Key Value : Type} [DecidableEq Key] (key : Row → Key)

def bucket (rows : List Row) (name : Key) : List Row := rows.filter fun row => key row = name

def keys (rows : List Row) : List Key := (rows.map key).dedup

/-- `GROUP BY key`, with `aggregate` over the rows of each group. -/
def groupBy (aggregate : List Row → Value) (rows : List Row) : List (Key × Value) :=
  (keys key rows).map fun name => (name, aggregate (bucket key rows name))

theorem keys_groupBy (aggregate : List Row → Value) (rows : List Row) :
    (groupBy key aggregate rows).map Prod.fst = keys key rows := by
  unfold groupBy
  rw [List.map_map]
  exact List.map_id _

theorem groupBy_nodup (aggregate : List Row → Value) (rows : List Row) :
    ((groupBy key aggregate rows).map Prod.fst).Nodup := by
  rw [keys_groupBy]
  exact List.nodup_dedup _

theorem mem_groupBy (aggregate : List Row → Value) (rows : List Row) (group : Key × Value)
    (member : group ∈ groupBy key aggregate rows) :
    group.2 = aggregate (bucket key rows group.1) ∧ ∃ row ∈ rows, key row = group.1 := by
  obtain ⟨name, among, rfl⟩ := List.mem_map.mp member
  exact ⟨rfl, List.mem_map.mp (List.mem_dedup.mp among)⟩

section Sums

variable {Amount : Type} [AddCommMonoid Amount] (amount : Row → Amount)

theorem sum_bucket_cons (names : List Key) (row : Row) (rows : List Row) (distinct : names.Nodup)
    (named : key row ∈ names) :
    (names.map fun name => ((bucket key (row :: rows) name).map amount).sum).sum =
      amount row + (names.map fun name => ((bucket key rows name).map amount).sum).sum := by
  induction names with
  | nil => cases named
  | cons name others ih =>
      obtain ⟨fresh, distinct⟩ := List.nodup_cons.mp distinct
      by_cases here : key row = name
      · have elsewhere : others.map (fun name => ((bucket key (row :: rows) name).map amount).sum) =
            others.map fun name => ((bucket key rows name).map amount).sum := by
          refine List.map_congr_left fun other member => ?_
          have apart : key row ≠ other := by
            rintro rfl
            exact fresh (here ▸ member)
          unfold bucket
          rw [List.filter_cons_of_neg (by simpa using apart)]
        rw [List.map_cons, List.map_cons, List.sum_cons, List.sum_cons, elsewhere, bucket,
          List.filter_cons_of_pos (by simpa using here), List.map_cons, List.sum_cons, add_assoc]
        rfl
      · have later : key row ∈ others := (List.mem_cons.mp named).resolve_left here
        rw [List.map_cons, List.map_cons, List.sum_cons, List.sum_cons, ih distinct later, bucket,
          List.filter_cons_of_neg (by simpa using here), add_left_comm]
        rfl

theorem sum_buckets (names : List Key) (rows : List Row) (distinct : names.Nodup)
    (named : ∀ row ∈ rows, key row ∈ names) :
    (names.map fun name => ((bucket key rows name).map amount).sum).sum =
      (rows.map amount).sum := by
  induction rows with
  | nil => simp [bucket]
  | cons row rest ih =>
      obtain ⟨first, later⟩ := List.forall_mem_cons.mp named
      rw [sum_bucket_cons key amount names row rest distinct first, ih later, List.map_cons,
        List.sum_cons]

theorem sum_groupBy (aggregate : List Row → Value) (read : Value → Amount)
    (sums : ∀ rows, read (aggregate rows) = (rows.map amount).sum) (rows : List Row) :
    ((groupBy key aggregate rows).map fun group => read group.2).sum = (rows.map amount).sum := by
  have each : (groupBy key aggregate rows).map (fun group => read group.2) =
      (keys key rows).map fun name => ((bucket key rows name).map amount).sum := by
    unfold groupBy
    rw [List.map_map]
    exact List.map_congr_left fun name _ => sums _
  rw [each]
  refine sum_buckets key amount _ rows (List.nodup_dedup _) fun row member => ?_
  exact List.mem_dedup.mpr (List.mem_map_of_mem member)

end Sums

section Partitions

/-- The groups of the rows, one for each key that occurs, with all rows of that
key in their order. -/
structure Partition (rows : List Row) (groups : List (Key × List Row)) : Prop where
  distinct : (groups.map Prod.fst).Nodup
  content : ∀ group ∈ groups, group.2 = bucket key rows group.1
  occupied : ∀ group ∈ groups, group.2 ≠ []
  whole : (groups.map Prod.snd).flatten.Perm rows

theorem bucket_append (rows others : List Row) (name : Key) :
    bucket key (rows ++ others) name = bucket key rows name ++ bucket key others name :=
  List.filter_append ..

theorem bucket_self (row : Row) : bucket key [row] (key row) = [row] := by
  simp [bucket]

theorem bucket_of_ne (row : Row) (name : Key) (other : key row ≠ name) :
    bucket key [row] name = [] := by
  simp [bucket, other]

theorem Partition.bucket_absent (rows : List Row) (groups : List (Key × List Row))
    (partition : Partition key rows groups) (name : Key)
    (absent : name ∉ groups.map Prod.fst) : bucket key rows name = [] := by
  refine List.filter_eq_nil_iff.mpr fun row member named => absent ?_
  obtain ⟨entries, among, inside⟩ := List.mem_flatten.mp (partition.whole.symm.subset member)
  obtain ⟨group, listed, rfl⟩ := List.mem_map.mp among
  rw [partition.content group listed] at inside
  have same : key row = group.1 := of_decide_eq_true (List.mem_filter.mp inside).2
  rw [← of_decide_eq_true named, same]
  exact List.mem_map_of_mem listed

theorem Partition.sum_countP (rows : List Row) (groups : List (Key × List Row))
    (partition : Partition key rows groups) (counts : Row → Bool) :
    (groups.map fun group => group.2.countP counts).sum = rows.countP counts := by
  rw [← partition.whole.countP_eq, List.countP_flatten, List.map_map]
  rfl

end Partitions

end Grouping
