import LlmGateway.Quota.Store

/-!
The `request_logs` table, the three writers of `RequestLogService`, and the
query that rebuilds the usage of a month from the rows.
-/

namespace LlmGateway.Observability

open Quota

inductive RequestLogStatus where
  | ok
  | error
  | circuitOpen
  deriving DecidableEq, Repr

structure RequestLogRow where
  /-- Unix seconds. -/
  requestedAt : ℤ
  modelRequested : String
  servedAlias : Option String
  resolvedProvider : Option String
  resolvedModel : Option String
  attempts : ℕ
  latencyMs : ℤ
  status : RequestLogStatus
  error : Option String
  clientKey : Option ClientId
  promptTokens : Option ℚ
  completionTokens : Option ℚ
  totalTokens : Option ℚ
  deriving DecidableEq

structure RecordSuccessArgs where
  requestedAt : ℤ
  requestedModel : String
  servedAlias : Option String
  resolvedProvider : String
  resolvedModel : Option String
  attempts : ℕ
  latencyMs : ℤ
  clientKey : Option ClientId
  promptTokens : Option ℚ
  completionTokens : Option ℚ
  totalTokens : Option ℚ

def successRow (args : RecordSuccessArgs) : RequestLogRow where
  requestedAt := args.requestedAt
  modelRequested := args.requestedModel
  servedAlias := args.servedAlias
  resolvedProvider := some args.resolvedProvider
  resolvedModel := args.resolvedModel
  attempts := args.attempts
  latencyMs := args.latencyMs
  status := .ok
  error := none
  clientKey := args.clientKey
  promptTokens := args.promptTokens
  completionTokens := args.completionTokens
  totalTokens := args.totalTokens

structure RecordFailureArgs where
  requestedAt : ℤ
  requestedModel : String
  servedAlias : Option String
  attempts : ℕ
  latencyMs : ℤ
  error : Js.Thrown
  clientKey : Option ClientId

/-- An `Error` or a string leaves its text; anything else leaves none. -/
def errorText : Js.Thrown → Option String
  | .error name message => some (name ++ ": " ++ message)
  | .text value => some value
  | .other _ => none

def failureRow (args : RecordFailureArgs) : RequestLogRow where
  requestedAt := args.requestedAt
  modelRequested := args.requestedModel
  servedAlias := args.servedAlias
  resolvedProvider := none
  resolvedModel := none
  attempts := args.attempts
  latencyMs := args.latencyMs
  status := if (errorText args.error).isSome then .error else .circuitOpen
  error := errorText args.error
  clientKey := args.clientKey
  promptTokens := none
  completionTokens := none
  totalTokens := none

structure RecordAttemptFailureArgs where
  requestedAt : ℤ
  requestedModel : String
  resolvedProvider : String
  resolvedModel : Option String
  durationMs : ℤ
  error : Option String
  circuitOpen : Bool
  clientKey : Option ClientId
  totalAttempts : ℕ

def attemptFailureRow (args : RecordAttemptFailureArgs) : RequestLogRow where
  requestedAt := args.requestedAt
  modelRequested := args.requestedModel
  servedAlias := none
  resolvedProvider := some args.resolvedProvider
  resolvedModel := args.resolvedModel
  attempts := args.totalAttempts
  latencyMs := args.durationMs
  -- An attempt the breaker refused is an error row too; only its text differs.
  status := .error
  error := match args.error with
    | some text => some text
    | none => if args.circuitOpen then some "Circuit breaker open" else none
  clientKey := args.clientKey
  promptTokens := none
  completionTokens := none
  totalTokens := none

/-- `COALESCE(served_alias, model_requested)`. -/
def RequestLogRow.aliasKey (row : RequestLogRow) : String :=
  row.servedAlias.getD row.modelRequested

/-- The group a row falls into; a row without a client falls into none. -/
def RequestLogRow.group (row : RequestLogRow) : Option QuotaKey :=
  row.clientKey.map fun clientId => (clientId, row.aliasKey)

def RequestLogRow.InGroup (row : RequestLogRow) (window : Window) (pair : QuotaKey) : Prop :=
  window.Contains row.requestedAt ∧ row.group = some pair

instance (row : RequestLogRow) (window : Window) (pair : QuotaKey) :
    Decidable (row.InGroup window pair) :=
  inferInstanceAs (Decidable (_ ∧ _))

/-- `COUNT(*)` of one group. -/
def countOf (rows : List RequestLogRow) (window : Window) (pair : QuotaKey) : ℕ :=
  (rows.map fun row => if row.InGroup window pair then 1 else 0).sum

/-- `SUM(COALESCE(total_tokens, 0))` of one group. -/
def sumOf (rows : List RequestLogRow) (window : Window) (pair : QuotaKey) : ℚ :=
  (rows.map fun row => if row.InGroup window pair then row.totalTokens.getD 0 else 0).sum

structure RequestLogUsageAggregate where
  clientId : ClientId
  aliasKey : String
  requests : ℕ
  tokens : ℚ
  deriving DecidableEq

def groupsOf (rows : List RequestLogRow) (window : Window) : List QuotaKey :=
  ((rows.filter fun row => window.Contains row.requestedAt).filterMap
    RequestLogRow.group).dedup

def keyOrder (left right : QuotaKey) : Prop :=
  left.1.text < right.1.text ∨ (left.1.text = right.1.text ∧ left.2 ≤ right.2)

instance (left right : QuotaKey) : Decidable (keyOrder left right) :=
  inferInstanceAs (Decidable (_ ∨ _))

def aggregateOf (rows : List RequestLogRow) (window : Window) (pair : QuotaKey) :
    RequestLogUsageAggregate where
  clientId := pair.1
  aliasKey := pair.2
  requests := countOf rows window pair
  tokens := sumOf rows window pair

def aggregateRequestLogUsage (rows : List RequestLogRow) (window : Window) :
    List RequestLogUsageAggregate :=
  ((groupsOf rows window).insertionSort keyOrder).map (aggregateOf rows window)

def attributed (rows : List RequestLogRow) (window : Window) (pair : QuotaKey) :
    Option RequestLogUsageAggregate :=
  (aggregateRequestLogUsage rows window).find? fun row => (row.clientId, row.aliasKey) = pair

def attributedTokens (rows : List RequestLogRow) (window : Window) (pair : QuotaKey) : ℚ :=
  ((attributed rows window pair).map RequestLogUsageAggregate.tokens).getD 0

def attributedRequests (rows : List RequestLogRow) (window : Window) (pair : QuotaKey) : ℕ :=
  ((attributed rows window pair).map RequestLogUsageAggregate.requests).getD 0

section Sums

variable (rows more : List RequestLogRow) (window : Window) (pair : QuotaKey)

theorem countOf_append :
    countOf (rows ++ more) window pair = countOf rows window pair + countOf more window pair := by
  simp [countOf]

theorem sumOf_append :
    sumOf (rows ++ more) window pair = sumOf rows window pair + sumOf more window pair := by
  simp [sumOf]

theorem mem_groupsOf :
    pair ∈ groupsOf rows window ↔ ∃ row ∈ rows, row.InGroup window pair := by
  simp only [groupsOf, List.mem_dedup, List.mem_filterMap, List.mem_filter, decide_eq_true_eq,
    RequestLogRow.InGroup]
  constructor
  · rintro ⟨row, ⟨member, inside⟩, grouped⟩
    exact ⟨row, member, inside, grouped⟩
  · rintro ⟨row, member, inside, grouped⟩
    exact ⟨row, ⟨member, inside⟩, grouped⟩

theorem absent_group (absent : pair ∉ groupsOf rows window) :
    countOf rows window pair = 0 ∧ sumOf rows window pair = 0 := by
  rw [mem_groupsOf] at absent
  push Not at absent
  constructor
  · apply List.sum_eq_zero
    intro value member
    obtain ⟨row, inside, rfl⟩ := List.mem_map.mp member
    exact if_neg (absent row inside)
  · apply List.sum_eq_zero
    intro value member
    obtain ⟨row, inside, rfl⟩ := List.mem_map.mp member
    exact if_neg (absent row inside)

theorem mem_aggregate (row : RequestLogUsageAggregate) :
    row ∈ aggregateRequestLogUsage rows window ↔
      (row.clientId, row.aliasKey) ∈ groupsOf rows window ∧
        row = aggregateOf rows window (row.clientId, row.aliasKey) := by
  rw [aggregateRequestLogUsage, List.mem_map]
  constructor
  · rintro ⟨grouped, member, rfl⟩
    exact ⟨(List.mem_insertionSort keyOrder).mp member, rfl⟩
  · rintro ⟨member, same⟩
    exact ⟨_, (List.mem_insertionSort keyOrder).mpr member, same.symm⟩

theorem attributed_eq :
    attributed rows window pair =
      if pair ∈ groupsOf rows window then some (aggregateOf rows window pair) else none := by
  cases found : attributed rows window pair with
  | none =>
      rw [attributed, List.find?_eq_none] at found
      -- No row was found, and every group has its row.
      rw [if_neg fun grouped => ?_]
      exact found (aggregateOf rows window pair)
        ((mem_aggregate rows window _).mpr ⟨grouped, rfl⟩) (decide_eq_true rfl)
  | some row =>
      have named : (row.clientId, row.aliasKey) = pair := by
        simpa using List.find?_some found
      obtain ⟨grouped, same⟩ :=
        (mem_aggregate rows window row).mp (List.mem_of_find?_eq_some found)
      rw [named] at grouped same
      rw [if_pos grouped, same]

theorem attributedTokens_eq : attributedTokens rows window pair = sumOf rows window pair := by
  rw [attributedTokens, attributed_eq]
  split
  · rfl
  · rename_i absent
    exact (absent_group rows window pair absent).2.symm

theorem attributedRequests_eq :
    attributedRequests rows window pair = countOf rows window pair := by
  rw [attributedRequests, attributed_eq]
  split
  · rfl
  · rename_i absent
    exact (absent_group rows window pair absent).1.symm

theorem sumOf_tokenless (tokenless : ∀ row ∈ rows, row.totalTokens = none) :
    sumOf rows window pair = 0 := by
  apply List.sum_eq_zero
  intro value member
  obtain ⟨row, inside, rfl⟩ := List.mem_map.mp member
  simp [tokenless row inside]

end Sums

end LlmGateway.Observability
