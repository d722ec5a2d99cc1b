import LlmGateway.Chat.Steps

/-!
The two ledgers of the usage: the counters of a pair, and the totals the
aggregation attributes to it. Each step moves either by what it served and by
nothing else, apart from the rows of what was not served.
-/

namespace LlmGateway.Chat

open Observability Providers Quota Routing Runs

def Metered (quotas : QuotaStore) (pair : QuotaKey) : Prop :=
  (quotas.getQuota pair.1 pair.2).isSome = true

instance (quotas : QuotaStore) (pair : QuotaKey) : Decidable (Metered quotas pair) :=
  inferInstanceAs (Decidable (_ = true))

def weigh {Weight : Type} [Zero Weight] (pair : QuotaKey) (month : ℤ) (value : Served → Weight) :
    Option Served → Weight
  | none => 0
  | some served => if served.label.CountsFor pair month then value served else 0

def Served.added (served : Served) : ℚ := normaliseTokens (.finite (served.charged.getD 0))

def Served.summed (served : Served) : ℚ := served.logged.getD 0

section Movement

variable (pair : QuotaKey) (month : ℤ)

theorem charges_iff (quotas : QuotaStore) (served : Served) (metered : Metered quotas pair) :
    quotas.Charges served.call.request.clientId served.call.target
        (served.call.requestedAt * 1000) pair.1 pair.2 (keyOf month) ↔
      served.label.CountsFor pair month := by
  unfold QuotaStore.Charges Label.CountsFor
  rw [periodKey_eq, keyOf_injective.eq_iff]
  constructor
  · rintro ⟨client, target, inMonth, _⟩
    exact ⟨inMonth, client, target⟩
  · rintro ⟨inMonth, client, target⟩
    exact ⟨client, target, inMonth, metered⟩

theorem countOf_labels (rows : List RequestLogRow) :
    countOf rows (monthWindow month) pair =
      (rows.map rowLabel).countP fun label => label.CountsFor pair month := by
  induction rows with
  | nil => rfl
  | cons row rest ih =>
      rw [show row :: rest = [row] ++ rest from rfl, countOf_append, ih, List.map_append,
        List.countP_append]
      congr 1
      simp [countOf, inGroup_iff, List.countP_cons]

variable {before after : World} {unserved : List Label} {served : Option Served}
  (wrote : Wrote before after unserved served)
include wrote

theorem Wrote.getQuota (clientId : ClientId) (aliasKey : String) :
    after.quotas.getQuota clientId aliasKey = before.quotas.getQuota clientId aliasKey := by
  rw [wrote.quotas]
  cases served with
  | none => rfl
  | some served => exact QuotaStore.getQuota_recordUsage ..

theorem Wrote.metered_iff : Metered after.quotas pair ↔ Metered before.quotas pair := by
  rw [Metered, Metered, wrote.getQuota]

theorem Wrote.tokens (metered : Metered before.quotas pair) :
    after.quotas.tokensOf pair.1 pair.2 (keyOf month) =
      before.quotas.tokensOf pair.1 pair.2 (keyOf month) +
        weigh pair month Served.added served := by
  rw [wrote.quotas]
  cases served with
  | none => exact (add_zero _).symm
  | some served =>
      simp only [Option.elim_some, QuotaStore.tokensOf_recordUsage,
        charges_iff pair month before.quotas served metered]
      rfl

theorem Wrote.requests (metered : Metered before.quotas pair) :
    after.quotas.requestsOf pair.1 pair.2 (keyOf month) =
      before.quotas.requestsOf pair.1 pair.2 (keyOf month) +
        weigh pair month (fun _ => 1) served := by
  rw [wrote.quotas]
  cases served with
  | none => rfl
  | some served =>
      simp only [Option.elim_some, QuotaStore.requestsOf_recordUsage,
        charges_iff pair month before.quotas served metered]
      rfl

theorem Wrote.sum :
    sumOf after.requestLogs (monthWindow month) pair =
      sumOf before.requestLogs (monthWindow month) pair +
        weigh pair month Served.summed served := by
  obtain ⟨failed, delivered, logs, tokenless, _, labels, totals⟩ := wrote.rows
  -- Rows of what was not served carry no tokens, which leaves the row of the call.
  rw [logs, sumOf_append, sumOf_append, sumOf_tokenless failed _ pair tokenless, zero_add]
  congr 1
  cases served with
  | none =>
      cases List.map_eq_nil_iff.mp labels
      rfl
  | some served =>
      obtain ⟨row, rfl, labelled⟩ := List.map_eq_singleton_iff.mp labels
      have total : row.totalTokens = served.logged := by simpa using totals
      simp only [sumOf, List.map_cons, List.map_nil, List.sum_cons, List.sum_nil, add_zero,
        inGroup_iff, labelled, total]
      rfl

theorem Wrote.count :
    countOf after.requestLogs (monthWindow month) pair =
      countOf before.requestLogs (monthWindow month) pair +
        ((unserved.countP fun label => label.CountsFor pair month) +
          weigh pair month (fun _ => 1) served) := by
  obtain ⟨failed, delivered, logs, _, unlabelled, labels, _⟩ := wrote.rows
  rw [logs, countOf_append, countOf_append, countOf_labels pair month failed, unlabelled,
    countOf_labels pair month delivered, labels]
  cases served with
  | none => rfl
  | some served => simp [weigh, List.countP_cons]

end Movement

def freshGateway (world : World) : Gateway where
  world := { world with
    faults := .none
    requestLogs := []
    quotas := { world.quotas with usage := ∅ } }
  routing := []
  streaming := []

namespace Gateway

theorem step_sound (gateway : Gateway) (event : Event) (sound : gateway.world.faults = .none) :
    (gateway.step event).world.faults = .none :=
  (step_wrote gateway event sound).faults.trans sound

theorem fresh_tokens (world : World) (pair : QuotaKey) (key : String) :
    (freshGateway world).world.quotas.tokensOf pair.1 pair.2 key = 0 := by
  simp [freshGateway, QuotaStore.tokensOf, QuotaStore.getUsage]

theorem fresh_requests (world : World) (pair : QuotaKey) (key : String) :
    (freshGateway world).world.quotas.requestsOf pair.1 pair.2 key = 0 := by
  simp [freshGateway, QuotaStore.requestsOf, QuotaStore.getUsage]

end Gateway

end LlmGateway.Chat
