import LlmGateway.Lib.Grouping
import LlmGateway.Lib.OrderStatistics
import LlmGateway.Observability.RequestLog

/-!
`MetricsService`: the rows of a window, their totals and the same counts with
latency percentiles for each requested model. The percentiles are the values of
the nearest ranks. Quotients are exact, as is the product under `Math.ceil`.
-/

namespace LlmGateway.Observability.Metrics

open OrderStatistics

inductive MetricsWindow where
  | hour
  | day
  | week
  deriving DecidableEq, Repr

def windowSeconds : MetricsWindow → ℤ
  | .hour => 3600
  | .day => 86400
  | .week => 604800

/-- Five numbers, or what the source finds in their places. -/
structure LatencyStats (Value : Type) where
  p50 : Value
  p95 : Value
  p99 : Value
  min : Value
  max : Value
  deriving DecidableEq, Repr

structure ModelSummary where
  model : String
  requests : ℕ
  errors : ℕ
  errorRate : ℚ
  latencyMs : LatencyStats (Option ℚ)
  deriving DecidableEq, Repr

structure MetricsTotals where
  requests : ℕ
  errors : ℕ
  errorRate : ℚ
  deriving DecidableEq, Repr

structure MetricsSummary where
  window : MetricsWindow
  since : ℤ
  «until» : ℤ
  totals : MetricsTotals
  models : List ModelSummary
  deriving DecidableEq, Repr

structure RawRow where
  requestedAt : ℤ
  modelRequested : String
  resolvedProvider : Option String
  resolvedModel : Option String
  latencyMs : ℚ
  status : RequestLogStatus
  deriving DecidableEq, Repr

def isErrorStatus (status : RequestLogStatus) : Bool := status = .error || status = .circuitOpen

def isErrorRow (row : RawRow) : Bool := isErrorStatus row.status

def errorRate (requests errors : ℕ) : ℚ := if requests = 0 then 0 else errors / requests

def computeTotals (rows : List RawRow) : MetricsTotals :=
  let requests := rows.length
  let errors := (rows.filter isErrorRow).length
  { requests, errors, errorRate := errorRate requests errors }

section Latencies

/-- `list[index]`, which is `undefined` outside the list. -/
def elementAt (list : List ℚ) (index : ℤ) : Option ℚ :=
  if index < 0 then none else list[index.toNat]?

/-- `Math.min(n - 1, Math.ceil(q * n) - 1)`. -/
def percentileIndex (n : ℕ) (q : ℚ) : ℤ := min ((n : ℤ) - 1) (⌈q * n⌉ - 1)

def computeLatencyStats (sortedAsc : List ℚ) : LatencyStats (Option ℚ) :=
  let n := sortedAsc.length
  let pick := fun q => elementAt sortedAsc (percentileIndex n q)
  { p50 := pick (1 / 2)
    p95 := pick (19 / 20)
    p99 := pick (99 / 100)
    min := elementAt sortedAsc 0
    max := elementAt sortedAsc (n - 1) }

/-- `sort((a, b) => a - b)`. -/
def sortAscending (latencies : List ℚ) : List ℚ := latencies.insertionSort (· ≤ ·)

end Latencies

/-- The fields of a `ModelSummary` but its name. -/
structure Aggregate where
  requests : ℕ
  errors : ℕ
  errorRate : ℚ
  latencyMs : LatencyStats (Option ℚ)

def aggregate (rows : List RawRow) : Aggregate :=
  let latencies := sortAscending (rows.map RawRow.latencyMs)
  let requests := rows.length
  let errors := (rows.filter isErrorRow).length
  { requests, errors
    errorRate := errorRate requests errors
    latencyMs := if latencies.length ≠ 0 then computeLatencyStats latencies
      else ⟨some 0, some 0, some 0, some 0, some 0⟩ }

section GroupBy

variable {Row Key Value : Type} [DecidableEq Key]

/-- `groups.get(key).push(row)`, after `groups.set(key, [])` for a new key; a `Map`
keeps its keys in the order they came in. -/
def pushRow (key : Key) (row : Row) : List (Key × List Row) → List (Key × List Row)
  | [] => [(key, [row])]
  | (name, group) :: rest =>
      if name = key then (name, group ++ [row]) :: rest
      else (name, group) :: pushRow key row rest

def groupsOfRows (keyFn : Row → Key) (rows : List Row) : List (Key × List Row) :=
  rows.foldl (fun groups row => pushRow (keyFn row) row groups) []

def groupBy (rows : List Row) (keyFn : Row → Key) (reduce : Key → List Row → Value) : List Value :=
  (groupsOfRows keyFn rows).map fun group => reduce group.1 group.2

end GroupBy

def modelSummary (model : String) (group : List RawRow) : ModelSummary :=
  let aggregated := aggregate group
  { model
    requests := aggregated.requests
    errors := aggregated.errors
    errorRate := aggregated.errorRate
    latencyMs := aggregated.latencyMs }

/-- `localeCompare` is the comparison of the runtime, here as "not after". -/
def orderByName (localeCompare : String → String → Bool) (models : List ModelSummary) :
    List ModelSummary :=
  models.insertionSort fun a b => localeCompare a.model b.model

/-- The rows from `since` to `until`, in the order of their instants. -/
def rowsBetween (since «until» : ℤ) (table : List RawRow) : List RawRow :=
  (table.filter fun row => since ≤ row.requestedAt && row.requestedAt ≤ «until»).insertionSort
    fun a b => a.requestedAt ≤ b.requestedAt

/-- `summary`; the three windows are all that its type admits. -/
def metricsSummary (localeCompare : String → String → Bool) (table : List RawRow)
    (window : MetricsWindow) (nowSeconds : ℤ) : MetricsSummary :=
  let since := nowSeconds - windowSeconds window
  let rows := rowsBetween since nowSeconds table
  { window, since
    «until» := nowSeconds
    totals := computeTotals rows
    models := orderByName localeCompare (groupBy rows RawRow.modelRequested modelSummary) }

/-- The value of the rank that holds at least the share `q` of the values: the
nearest-rank percentile. -/
def NearestRank (latencies : List ℚ) (q value : ℚ) : Prop :=
  HasRank latencies ⌈q * latencies.length⌉₊ value

structure Percentiles (latencies : List ℚ) (stats : LatencyStats ℚ) : Prop where
  p50 : NearestRank latencies (1 / 2) stats.p50
  p95 : NearestRank latencies (19 / 20) stats.p95
  p99 : NearestRank latencies (99 / 100) stats.p99
  min : HasRank latencies 1 stats.min
  max : HasRank latencies latencies.length stats.max
  bounds : ∀ latency ∈ latencies, stats.min ≤ latency ∧ latency ≤ stats.max
  ordered : stats.min ≤ stats.p50 ∧ stats.p50 ≤ stats.p95 ∧ stats.p95 ≤ stats.p99 ∧
    stats.p99 ≤ stats.max

def Ranked (latencies : List ℚ) (stats : LatencyStats (Option ℚ)) : Prop :=
  ∃ numbers : LatencyStats ℚ, Percentiles latencies numbers ∧
    stats = ⟨some numbers.p50, some numbers.p95, some numbers.p99, some numbers.min,
      some numbers.max⟩

section Percentiles

variable (latencies : List ℚ)

theorem sortAscending_perm : (sortAscending latencies).Perm latencies :=
  List.perm_insertionSort _ latencies

theorem elementAt_rank (rank : ℕ) (positive : 0 < rank) (within : rank ≤ latencies.length) :
    ∃ value, elementAt (sortAscending latencies) ((rank : ℤ) - 1) = some value ∧
      HasRank latencies rank value := by
  obtain ⟨index, rfl⟩ := Nat.exists_eq_succ_of_ne_zero positive.ne'
  have inside : index < (sortAscending latencies).length := by
    rw [(sortAscending_perm latencies).length_eq]
    exact within
  have sorted : (sortAscending latencies).Pairwise (· ≤ ·) := List.pairwise_insertionSort _ _
  have found := List.getElem?_eq_getElem inside
  refine ⟨_, ?_, rank_perm _ _ _ latencies (sortAscending_perm latencies)
    (rank_getElem? _ _ sorted index found)⟩
  have place : ((index.succ : ℕ) : ℤ) - 1 = index := by omega
  rw [elementAt, place, if_neg (by omega), Int.toNat_natCast]
  exact found

theorem rank_within (n : ℕ) (q : ℚ) (occupied : 0 < n) (positive : 0 < q) (within : q ≤ 1) :
    0 < ⌈q * n⌉₊ ∧ ⌈q * n⌉₊ ≤ n := by
  have size : (0 : ℚ) < n := Nat.cast_pos.mpr occupied
  refine ⟨Nat.ceil_pos.mpr (mul_pos positive size), Nat.ceil_le.mpr ?_⟩
  exact mul_le_of_le_one_left size.le within

theorem percentileIndex_eq (n : ℕ) (q : ℚ) (occupied : 0 < n) (positive : 0 < q)
    (within : q ≤ 1) : percentileIndex n q = (⌈q * n⌉₊ : ℤ) - 1 := by
  obtain ⟨_, last⟩ := rank_within n q occupied positive within
  have exact_ : (⌈q * n⌉₊ : ℤ) = ⌈q * n⌉ :=
    Int.natCast_ceil_eq_ceil (mul_nonneg positive.le (Nat.cast_nonneg n))
  rw [percentileIndex, ← exact_]
  omega

theorem percentileIndex_within (n : ℕ) (q : ℚ) (occupied : 0 < n) (positive : 0 < q)
    (within : q ≤ 1) : 0 ≤ percentileIndex n q ∧ percentileIndex n q < n := by
  obtain ⟨first, last⟩ := rank_within n q occupied positive within
  rw [percentileIndex_eq n q occupied positive within]
  omega

theorem nearestRank_mono (q higher value other : ℚ) (low : NearestRank latencies q value)
    (high : NearestRank latencies higher other) (ordered : q ≤ higher) : value ≤ other := by
  refine rank_mono latencies _ _ value other low high (Nat.ceil_mono ?_)
  exact mul_le_mul_of_nonneg_right ordered (Nat.cast_nonneg _)

variable (occupied : 0 < latencies.length)
include occupied

theorem pick_nearestRank (q : ℚ) (positive : 0 < q) (within : q ≤ 1) :
    ∃ value, elementAt (sortAscending latencies)
        (percentileIndex (sortAscending latencies).length q) = some value ∧
      NearestRank latencies q value := by
  obtain ⟨first, last⟩ := rank_within latencies.length q occupied positive within
  rw [(sortAscending_perm latencies).length_eq,
    percentileIndex_eq latencies.length q occupied positive within]
  exact elementAt_rank latencies _ first last

theorem computeLatencyStats_ranked :
    Ranked latencies (computeLatencyStats (sortAscending latencies)) := by
  obtain ⟨p50, found50, rank50⟩ :=
    pick_nearestRank latencies occupied (1 / 2) (by norm_num) (by norm_num)
  obtain ⟨p95, found95, rank95⟩ :=
    pick_nearestRank latencies occupied (19 / 20) (by norm_num) (by norm_num)
  obtain ⟨p99, found99, rank99⟩ :=
    pick_nearestRank latencies occupied (99 / 100) (by norm_num) (by norm_num)
  obtain ⟨min, foundMin, rankMin⟩ := elementAt_rank latencies 1 Nat.one_pos occupied
  obtain ⟨max, foundMax, rankMax⟩ :=
    elementAt_rank latencies latencies.length occupied (le_refl _)
  have least := rank_first latencies min rankMin
  have greatest := rank_last latencies max rankMax
  refine ⟨⟨p50, p95, p99, min, max⟩, ?_, ?_⟩
  · exact {
      p50 := rank50
      p95 := rank95
      p99 := rank99
      min := rankMin
      max := rankMax
      bounds := fun latency member => ⟨least latency member, greatest latency member⟩
      ordered := ⟨least p50 rank50.among,
        nearestRank_mono latencies _ _ _ _ rank50 rank95 (by norm_num),
        nearestRank_mono latencies _ _ _ _ rank95 rank99 (by norm_num),
        greatest p99 rank99.among⟩ }
  · rw [← (sortAscending_perm latencies).length_eq] at foundMax
    unfold computeLatencyStats
    dsimp only
    rw [found50, found95, found99, foundMax]
    exact congrArg (LatencyStats.mk _ _ _ · _) foundMin

end Percentiles

section Partition

open Grouping

variable {Row Key : Type} [DecidableEq Key]

section Push

variable (name : Key) (row : Row) (groups : List (Key × List Row))

theorem keys_pushRow : (pushRow name row groups).map Prod.fst =
    if name ∈ groups.map Prod.fst then groups.map Prod.fst else groups.map Prod.fst ++ [name] := by
  induction groups with
  | nil => rfl
  | cons group rest ih =>
      unfold pushRow
      by_cases here : group.1 = name
      · rw [if_pos here, if_pos (by simp [here])]
        rfl
      · have other : name ≠ group.1 := fun same => here same.symm
        simp only [if_neg here, List.map_cons, ih]
        by_cases later : name ∈ rest.map Prod.fst
        · rw [if_pos later, if_pos (List.mem_cons_of_mem _ later)]
        · rw [if_neg later, if_neg (List.not_mem_cons_of_ne_of_not_mem other later)]
          rfl

theorem flatten_pushRow :
    ((pushRow name row groups).map Prod.snd).flatten.Perm
      ((groups.map Prod.snd).flatten ++ [row]) := by
  induction groups with
  | nil => exact List.Perm.refl _
  | cons group rest ih =>
      unfold pushRow
      split
      · -- the row goes to the end of this group, before the rows of the later ones
        simp only [List.map_cons, List.flatten_cons, List.append_assoc]
        exact List.perm_append_comm.append_left group.2
      · simp only [List.map_cons, List.flatten_cons, List.append_assoc]
        exact ih.append_left group.2

theorem mem_pushRow (distinct : (groups.map Prod.fst).Nodup) (group : Key × List Row)
    (member : group ∈ pushRow name row groups) :
    group ∈ groups ∧ group.1 ≠ name ∨
      ∃ before, group = (name, before ++ [row]) ∧
        ((name, before) ∈ groups ∨ before = [] ∧ name ∉ groups.map Prod.fst) := by
  induction groups with
  | nil =>
      obtain rfl := List.mem_singleton.mp member
      exact Or.inr ⟨[], rfl, Or.inr ⟨rfl, List.not_mem_nil⟩⟩
  | cons first rest ih =>
      obtain ⟨fresh, distinct⟩ := List.nodup_cons.mp distinct
      unfold pushRow at member
      by_cases here : first.1 = name
      · rw [if_pos here] at member
        rcases List.mem_cons.mp member with rfl | later
        · refine Or.inr ⟨first.2, by rw [here], Or.inl ?_⟩
          rw [← here]
          exact List.mem_cons_self
        · refine Or.inl ⟨List.mem_cons_of_mem _ later, fun same => fresh ?_⟩
          rw [here, ← same]
          exact List.mem_map_of_mem later
      · rw [if_neg here] at member
        rcases List.mem_cons.mp member with rfl | later
        · exact Or.inl ⟨List.mem_cons_self, here⟩
        · rcases ih distinct later with ⟨among, other⟩ | ⟨before, rfl, known | ⟨rfl, absent⟩⟩
          · exact Or.inl ⟨List.mem_cons_of_mem _ among, other⟩
          · exact Or.inr ⟨before, rfl, Or.inl (List.mem_cons_of_mem _ known)⟩
          · refine Or.inr ⟨[], rfl, Or.inr ⟨rfl, ?_⟩⟩
            exact List.not_mem_cons_of_ne_of_not_mem (fun same => here same.symm) absent

end Push

variable (keyFn : Row → Key)

theorem pushRow_partition (rows : List Row) (row : Row) (groups : List (Key × List Row))
    (partition : Partition keyFn rows groups) :
    Partition keyFn (rows ++ [row]) (pushRow (keyFn row) row groups) where
  distinct := by
    rw [keys_pushRow]
    split
    · exact partition.distinct
    · next absent =>
        exact List.nodup_append.mpr ⟨partition.distinct, List.nodup_singleton _,
          fun name member other single same => absent (by
            rw [← List.mem_singleton.mp single, ← same]
            exact member)⟩
  content := by
    intro group member
    rcases mem_pushRow _ _ _ partition.distinct group member with
      ⟨among, other⟩ | ⟨before, rfl, known | ⟨rfl, absent⟩⟩
    · rw [partition.content group among, bucket_append, bucket_of_ne keyFn row _ other.symm,
        List.append_nil]
    · rw [bucket_append, bucket_self, ← partition.content _ known]
    · rw [bucket_append, bucket_self, partition.bucket_absent keyFn rows groups _ absent]
  occupied := by
    intro group member
    rcases mem_pushRow _ _ _ partition.distinct group member with ⟨among, _⟩ | ⟨before, rfl, _⟩
    · exact partition.occupied group among
    · exact List.append_ne_nil_of_right_ne_nil _ (List.cons_ne_nil _ _)
  whole := (flatten_pushRow _ _ groups).trans (partition.whole.append_right [row])

/-- By induction on the rows: the groups that the loop leaves partition them. -/
theorem groupsOfRows_partition (rows : List Row) :
    Partition keyFn rows (groupsOfRows keyFn rows) := by
  induction rows using List.reverseRecOn with
  | nil =>
      exact {
        distinct := List.nodup_nil
        content := fun _ member => nomatch member
        occupied := fun _ member => nomatch member
        whole := List.Perm.refl _ }
  | append_singleton rows row ih =>
      have pushed := pushRow_partition keyFn rows row _ ih
      unfold groupsOfRows
      rw [List.foldl_concat]
      exact pushed

end Partition

/-- A summary against the rows of its window. -/
structure Accounted (rows : List RawRow) (summary : MetricsSummary) : Prop where
  /-- Each group is one entry, in whatever order. -/
  groups : ∃ groups, Grouping.Partition RawRow.modelRequested rows groups ∧
    summary.models.Perm (groups.map fun group => modelSummary group.1 group.2)
  counted : summary.totals.requests = rows.length ∧ summary.totals.errors = rows.countP isErrorRow
  requests : (summary.models.map ModelSummary.requests).sum = summary.totals.requests
  errors : (summary.models.map ModelSummary.errors).sum = summary.totals.errors
  latencies : ∀ entry ∈ summary.models,
    Ranked ((Grouping.bucket RawRow.modelRequested rows entry.model).map RawRow.latencyMs)
      entry.latencyMs

section Summary

theorem aggregate_ranked (rows : List RawRow) (occupied : rows ≠ []) :
    Ranked (rows.map RawRow.latencyMs) (aggregate rows).latencyMs := by
  have some : 0 < (rows.map RawRow.latencyMs).length := by
    rw [List.length_map]
    exact List.length_pos_of_ne_nil occupied
  have sorted : (sortAscending (rows.map RawRow.latencyMs)).length ≠ 0 := by
    rw [(sortAscending_perm _).length_eq]
    exact some.ne'
  unfold aggregate
  dsimp only
  rw [if_pos sorted]
  exact computeLatencyStats_ranked _ some

theorem accounted_of_perm (rows : List RawRow) (groups : List (String × List RawRow))
    (partition : Grouping.Partition RawRow.modelRequested rows groups) (summary : MetricsSummary)
    (totals : summary.totals = computeTotals rows)
    (ordered : summary.models.Perm (groups.map fun group => modelSummary group.1 group.2)) :
    Accounted rows summary where
  groups := ⟨groups, partition, ordered⟩
  counted := by
    rw [totals]
    exact ⟨rfl, List.countP_eq_length_filter.symm⟩
  requests := by
    have counted := partition.sum_countP _ rows groups fun _ => true
    simp only [List.countP_true] at counted
    rw [totals, (ordered.map _).sum_eq, List.map_map]
    exact counted
  errors := by
    have counted := partition.sum_countP _ rows groups isErrorRow
    rw [totals, (ordered.map _).sum_eq, List.map_map]
    simp only [List.countP_eq_length_filter] at counted
    exact counted
  latencies := by
    intro entry member
    obtain ⟨group, listed, rfl⟩ := List.mem_map.mp (ordered.subset member)
    have ranked := aggregate_ranked group.2 (partition.occupied group listed)
    rw [partition.content group listed] at ranked ⊢
    exact ranked

end Summary

/-- For every table and window the groups partition the rows of the window and
sum to its totals, each with its own percentiles; the index of a percentile is in
range, and the five numbers of a list are its order statistics. -/
theorem latency_metrics_consistent (localeCompare : String → String → Bool) :
    (∀ (table : List RawRow) (window : MetricsWindow) (nowSeconds : ℤ),
      let since := nowSeconds - windowSeconds window
      let rows := rowsBetween since nowSeconds table
      rows.Perm (table.filter fun row => since ≤ row.requestedAt ∧ row.requestedAt ≤ nowSeconds) ∧
        Accounted rows (metricsSummary localeCompare table window nowSeconds)) ∧
      (∀ (n : ℕ) (q : ℚ), 0 < n → 0 < q → q ≤ 1 →
        0 ≤ percentileIndex n q ∧ percentileIndex n q < n) ∧
      ∀ latencies : List ℚ, latencies ≠ [] →
        Ranked latencies (computeLatencyStats (sortAscending latencies)) := by
  refine ⟨fun table window nowSeconds => ⟨?_, ?_⟩, percentileIndex_within, ?_⟩
  · unfold rowsBetween
    simp only [Bool.decide_and]
    exact List.perm_insertionSort _ _
  · exact accounted_of_perm _ _ (groupsOfRows_partition _ _) _ rfl (List.perm_insertionSort _ _)
  · intro latencies occupied
    exact computeLatencyStats_ranked latencies (List.length_pos_of_ne_nil occupied)

/-- The 95th percentile of twenty-one, and three latencies out of order. -/
theorem latency_metrics_consistent_three :
    (0 ≤ percentileIndex 21 (19 / 20) ∧ percentileIndex 21 (19 / 20) < (21 : ℕ)) ∧
      Ranked [300, 100, 200] (computeLatencyStats (sortAscending [300, 100, 200])) :=
  have consistent := latency_metrics_consistent fun name other => decide (name ≤ other)
  ⟨consistent.2.1 21 (19 / 20) (by norm_num) (by norm_num) (by norm_num),
    consistent.2.2 [300, 100, 200] (by decide)⟩

/-- Twenty-one latencies: the eleventh, the twentieth and the last. -/
example : computeLatencyStats (sortAscending ((List.range 21).map fun i => (100 + i * 10 : ℕ))) =
    ⟨some 200, some 290, some 300, some 100, some 300⟩ := by decide +kernel

end LlmGateway.Observability.Metrics
