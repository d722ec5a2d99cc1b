import Mathlib.Data.Rat.Floor
import LlmGateway.Lib.Calendar
import LlmGateway.Lib.Grouping
import LlmGateway.Observability.RequestLog

/-!
The summaries of `RequestLogRepository`: totals, and the same rows by day, by
model and by client. The three views split the filtered rows, so their counts
add up to the totals. Sums are exact; one that overflows SQLite's integers is
outside the model.
-/

namespace LlmGateway.Observability

open Calendar Grouping

/-- The columns of `request_logs` that the summaries read. -/
structure SummaryRow where
  requestedAt : ℤ
  modelRequested : String
  resolvedProvider : Option String
  latencyMs : ℤ
  status : RequestLogStatus
  clientKey : Option String
  promptTokens : Option ℚ
  completionTokens : Option ℚ
  totalTokens : Option ℚ

structure SummaryFilters where
  model : Option String
  client : Option String
  provider : Option String

structure SummaryCountFields where
  requests : ℕ
  ok : ℕ
  errors : ℕ
  circuitOpen : ℕ
  totalTokens : ℚ
  avgLatencyMs : ℤ
  deriving DecidableEq

structure SummaryTotals extends SummaryCountFields where
  promptTokens : ℚ
  completionTokens : ℚ

/-- `column = value`, which no `NULL` meets; without a value there is no condition. -/
def matchesFilter (filter column : Option String) : Bool :=
  match filter with
  | none => true
  | some value => column = some value

/-- The shared `WHERE` clause. -/
def summaryWhere (fromTs toTs : ℤ) (filters : SummaryFilters) (row : SummaryRow) : Bool :=
  fromTs ≤ row.requestedAt && row.requestedAt ≤ toTs &&
    matchesFilter filters.model (some row.modelRequested) &&
    matchesFilter filters.client row.clientKey &&
    matchesFilter filters.provider row.resolvedProvider

/-- `SUM(CASE WHEN status = … THEN 1 ELSE 0 END)`. -/
def countStatus (status : RequestLogStatus) (rows : List SummaryRow) : ℕ :=
  (rows.map fun row => if row.status = status then 1 else 0).sum

/-- `COALESCE(SUM(column), 0)`; the sum passes over `NULL`. -/
def sumColumn (column : SummaryRow → Option ℚ) (rows : List SummaryRow) : ℚ :=
  (rows.map fun row => (column row).getD 0).sum

/-- `ROUND`, which takes halves away from zero. -/
def round (value : ℚ) : ℤ := if 0 ≤ value then ⌊value + 1 / 2⌋ else ⌈value - 1 / 2⌉

/-- `COALESCE(ROUND(AVG(latency_ms)), 0)`. -/
def avgLatencyMs (rows : List SummaryRow) : ℤ :=
  if rows = [] then 0 else round ((rows.map SummaryRow.latencyMs).sum / rows.length)

/-- The aggregates of one group as `toSummaryCounts` names them. -/
def summaryCounts (rows : List SummaryRow) : SummaryCountFields where
  requests := rows.length
  ok := countStatus .ok rows
  errors := countStatus .error rows
  circuitOpen := countStatus .circuitOpen rows
  totalTokens := sumColumn SummaryRow.totalTokens rows
  avgLatencyMs := avgLatencyMs rows

def pad (width : ℕ) (value : ℤ) : String :=
  String.ofList (List.leftpad width '0' (toString value).toList)

/-- `strftime('%Y-%m-%d', datetime(requested_at, 'unixepoch'))`; SQLite has no date
outside the years 0 to 9999. -/
def day (row : SummaryRow) : Option String :=
  if -62167219200 ≤ row.requestedAt ∧ row.requestedAt ≤ 253402300799 then
    let days := row.requestedAt / 86400
    let month := monthOfDay days
    some (pad 4 (month / 12) ++ "-" ++ pad 2 (month % 12 + 1) ++ "-" ++
      pad 2 (days - monthStart month + 1))
  else none

section Queries

variable (rows : List SummaryRow) (fromTs toTs : ℤ) (filters : SummaryFilters)

def selected : List SummaryRow := rows.filter (summaryWhere fromTs toTs filters)

def summaryTotals : SummaryTotals where
  toSummaryCountFields := summaryCounts (selected rows fromTs toTs filters)
  promptTokens := sumColumn SummaryRow.promptTokens (selected rows fromTs toTs filters)
  completionTokens := sumColumn SummaryRow.completionTokens (selected rows fromTs toTs filters)

/-- `ORDER BY day ASC`, with `NULL` before every text. -/
def dayBefore (left right : Option String × SummaryCountFields) : Bool :=
  match left.1, right.1 with
  | none, _ => true
  | some _, none => false
  | some first, some last => first ≤ last

def summaryByDay : List (Option String × SummaryCountFields) :=
  (groupBy day summaryCounts (selected rows fromTs toTs filters)).insertionSort
    fun left right => dayBefore left right = true

/-- `ORDER BY requests DESC`; equal counts may stand in any order. -/
def byRequests {Key : Type} (groups : List (Key × SummaryCountFields)) :
    List (Key × SummaryCountFields) :=
  groups.insertionSort fun left right => right.2.requests ≤ left.2.requests

def summaryByModel : List (String × SummaryCountFields) :=
  byRequests (groupBy SummaryRow.modelRequested summaryCounts (selected rows fromTs toTs filters))

/-- The rows without a client make one group, whose key is `null`. -/
def summaryByClient : List (Option String × SummaryCountFields) :=
  byRequests (groupBy SummaryRow.clientKey summaryCounts (selected rows fromTs toTs filters))

end Queries

/-- The buckets of a view against the rows it was made from. -/
structure Consistent {Key : Type} [DecidableEq Key] (key : SummaryRow → Key)
    (rows : List SummaryRow) (totals : SummaryCountFields)
    (view : List (Key × SummaryCountFields)) : Prop where
  requests : (view.map fun bucket => bucket.2.requests).sum = totals.requests
  ok : (view.map fun bucket => bucket.2.ok).sum = totals.ok
  errors : (view.map fun bucket => bucket.2.errors).sum = totals.errors
  circuitOpen : (view.map fun bucket => bucket.2.circuitOpen).sum = totals.circuitOpen
  totalTokens : (view.map fun bucket => bucket.2.totalTokens).sum = totals.totalTokens
  balanced : ∀ bucket ∈ view,
    bucket.2.requests = bucket.2.ok + bucket.2.errors + bucket.2.circuitOpen
  distinct : (view.map Prod.fst).Nodup
  /-- The bucket of a key counts the rows of that key, and each row is in one. -/
  content : ∀ bucket ∈ view, bucket.2 = summaryCounts (rows.filter fun row => key row = bucket.1)
  covers : ∀ row ∈ rows, ∃ bucket ∈ view, bucket.1 = key row

section Counts

variable (rows : List SummaryRow)

/-- The CHECK on `status` leaves no fourth kind of row. -/
theorem summaryCounts_balanced :
    (summaryCounts rows).requests =
      (summaryCounts rows).ok + (summaryCounts rows).errors + (summaryCounts rows).circuitOpen := by
  change rows.length = countStatus .ok rows + countStatus .error rows + countStatus .circuitOpen rows
  induction rows with
  | nil => rfl
  | cons row rest ih =>
      unfold countStatus at ih ⊢
      rw [List.length_cons, List.map_cons, List.map_cons, List.map_cons, List.sum_cons,
        List.sum_cons, List.sum_cons]
      cases row.status <;> simp only [reduceCtorEq, ↓reduceIte] <;> omega

variable {Key : Type} [DecidableEq Key] (key : SummaryRow → Key)

theorem sum_requests :
    ((groupBy key summaryCounts rows).map fun bucket => bucket.2.requests).sum = rows.length := by
  rw [sum_groupBy key (fun _ => 1) summaryCounts SummaryCountFields.requests
    (fun group => by simp [summaryCounts])]
  simp

theorem consistent_of_perm (view : List (Key × SummaryCountFields))
    (ordered : view.Perm (groupBy key summaryCounts rows)) :
    Consistent key rows (summaryCounts rows) view where
  requests := by
    rw [(ordered.map _).sum_eq]
    exact sum_requests rows key
  ok := by
    rw [(ordered.map _).sum_eq]
    exact sum_groupBy key _ summaryCounts SummaryCountFields.ok (fun _ => rfl) rows
  errors := by
    rw [(ordered.map _).sum_eq]
    exact sum_groupBy key _ summaryCounts SummaryCountFields.errors (fun _ => rfl) rows
  circuitOpen := by
    rw [(ordered.map _).sum_eq]
    exact sum_groupBy key _ summaryCounts SummaryCountFields.circuitOpen (fun _ => rfl) rows
  totalTokens := by
    rw [(ordered.map _).sum_eq]
    exact sum_groupBy key _ summaryCounts SummaryCountFields.totalTokens (fun _ => rfl) rows
  balanced := by
    intro bucket member
    rw [(mem_groupBy key summaryCounts rows bucket (ordered.subset member)).1]
    exact summaryCounts_balanced _
  distinct := (ordered.map Prod.fst).nodup_iff.mpr (groupBy_nodup key summaryCounts rows)
  content := by
    intro bucket member
    exact (mem_groupBy key summaryCounts rows bucket (ordered.subset member)).1
  covers := by
    intro row member
    refine ⟨_, ordered.symm.subset (List.mem_map.mpr ⟨key row, ?_, rfl⟩), rfl⟩
    exact List.mem_dedup.mpr (List.mem_map_of_mem member)

end Counts

/-- A leap day, and an instant past the last year of SQLite's calendar. -/
example : ([951782400, 951868799, -1, 253402300800].map fun requestedAt => day
    { requestedAt, modelRequested := "codex", resolvedProvider := none, latencyMs := 0, status := .ok
      clientKey := none, promptTokens := none, completionTokens := none, totalTokens := none }) =
    [some "2000-02-29", some "2000-02-29", some "1969-12-31", none] := by decide +kernel

/-- The views by day, by model and by client each split the rows of the totals. -/
theorem summaries_consistent (rows : List SummaryRow) (fromTs toTs : ℤ) (filters : SummaryFilters) :
    let rowsInRange := selected rows fromTs toTs filters
    let totals := (summaryTotals rows fromTs toTs filters).toSummaryCountFields
    Consistent day rowsInRange totals (summaryByDay rows fromTs toTs filters) ∧
      Consistent SummaryRow.modelRequested rowsInRange totals
        (summaryByModel rows fromTs toTs filters) ∧
      Consistent SummaryRow.clientKey rowsInRange totals
        (summaryByClient rows fromTs toTs filters) := by
  refine ⟨?_, ?_, ?_⟩
  · exact consistent_of_perm _ day _ (List.perm_insertionSort _ _)
  · exact consistent_of_perm _ SummaryRow.modelRequested _ (List.perm_insertionSort _ _)
  · exact consistent_of_perm _ SummaryRow.clientKey _ (List.perm_insertionSort _ _)

end LlmGateway.Observability
