import LlmGateway.Chat.Bookkeeping

/-!
The month a request is gated in and the month it is charged to. The gate takes
its own reading of the clock, after the one that dates the request, while the
accounting charges the month of the date, however much later it runs.
-/

namespace LlmGateway.Chat

open Effects Observability Providers Quota Routing

/-- One request and the worlds its three parts run in. Between the parts other
requests run, so the later worlds are arbitrary. -/
structure Lifetime where
  request : Request
  arrival : World
  walk : Walk CompletionResult
  settled : World
  calls : List ConsumerCall
  ended : World

def worldAfter {Value : Type} : EStateM.Result ChatError World Value → World
  | .ok _ world => world
  | .error _ world => world

@[simp] theorem worldAfter_ok {Value : Type} (value : Value) (world : World) :
    worldAfter (.ok value world : EStateM.Result ChatError World Value) = world := rfl

@[simp] theorem worldAfter_error {Value : Type} (thrown : ChatError) (world : World) :
    worldAfter (.error thrown world : EStateM.Result ChatError World Value) = world := rfl

def newConsulted (before after : World) : List UsageKey :=
  after.consulted.drop before.consulted.length

def newCharges (before after : World) : List UsageCall :=
  after.usageCalls.drop before.usageCalls.length

namespace Lifetime

def consulted (life : Lifetime) : List UsageKey :=
  newConsulted life.arrival (worldAfter (openCall life.request life.arrival))

def streamCharges (life : Lifetime) (streamed : Streamed) : List UsageCall :=
  match TeeStream.loggedAfter streamed.source life.calls with
  | none => []
  | some logged =>
      newCharges life.ended (worldAfter (settleStream streamed logged life.ended))

def answerCharges (life : Lifetime) (call : Call) : List UsageCall :=
  let answered := answer call life.walk life.settled
  newCharges life.settled (worldAfter answered) ++
    match answered with
    | .ok (.streaming streamed) _ => life.streamCharges streamed
    | _ => []

def charges (life : Lifetime) : List UsageCall :=
  match openCall life.request life.arrival with
  | .error _ _ => []
  | .ok call _ => life.answerCharges call

end Lifetime

section Parts

variable (request : Request) (world : World) (call : Call) (walk : Walk CompletionResult)

theorem newConsulted_append (before after : World) (entries : List UsageKey)
    (added : after.consulted = before.consulted ++ entries) :
    newConsulted before after = entries := by
  rw [newConsulted, added, List.drop_left]

theorem newCharges_append (before after : World) (entries : List UsageCall)
    (added : after.usageCalls = before.usageCalls ++ entries) :
    newCharges before after = entries := by
  rw [newCharges, added, List.drop_left]

theorem newCharges_same (before after : World) (same : after.usageCalls = before.usageCalls) :
    newCharges before after = [] :=
  newCharges_append before after [] (by rw [same, List.append_nil])

theorem consult_month (clientId : Option ClientId) (requestedAlias : String) :
    ∃ entries, (world.consult clientId requestedAlias).consulted = world.consulted ++ entries ∧
      ∀ key ∈ entries, key.2.2 = periodKey (world.clock world.readings) := by
  unfold World.consult
  split
  · exact ⟨[], (List.append_nil _).symm, fun _ member => absurd member List.not_mem_nil⟩
  · split
    · exact ⟨[], (List.append_nil _).symm, fun _ member => absurd member List.not_mem_nil⟩
    · refine ⟨_, rfl, fun key member => ?_⟩
      cases List.mem_singleton.mp member
      rfl

theorem openCall_consults :
    (worldAfter (openCall request world)).consulted = world.consulted ∨
      (worldAfter (openCall request world)).consulted =
        (world.opened.consult request.clientId request.body.model).consulted := by
  rcases openCall_cases request world with
    ⟨_, thrown, events, throws⟩ | ⟨detail, _, _, thrown, events, throws⟩ | ⟨target, _, _, returns⟩
  · rw [throws]
    exact Or.inl rfl
  · rw [throws]
    exact Or.inr rfl
  · rw [returns]
    exact Or.inr rfl

theorem consulted_month (life : Lifetime) (key : UsageKey) (consults : key ∈ life.consulted) :
    key.2.2 = periodKey (life.arrival.clock (life.arrival.readings + 1)) := by
  obtain ⟨entries, added, month⟩ :=
    consult_month life.arrival.opened life.request.clientId life.request.body.model
  rcases openCall_consults life.request life.arrival with none | some
  · rw [Lifetime.consulted, newConsulted_append _ _ [] (by rw [none, List.append_nil])] at consults
    cases consults
  · rw [Lifetime.consulted, newConsulted_append _ _ entries (by rw [some, added]; rfl)] at consults
    exact month key consults

theorem openCall_dated (value : Call) (after : World)
    (opens : openCall request world = .ok value after) :
    value.requestedAt = world.requestedAt := by
  rcases openCall_cases request world with
    ⟨_, thrown, events, throws⟩ | ⟨detail, _, _, thrown, events, throws⟩ | ⟨target, _, _, returns⟩
  · rw [throws] at opens
    cases opens
  · rw [throws] at opens
    cases opens
  · rw [returns] at opens
    cases opens
    rfl

/-- The accounting calls made before the return are dated by the request, and a
stream that is returned still belongs to the call it answers. -/
theorem answer_dated :
    (∀ charge ∈ newCharges world (worldAfter (answer call walk world)),
      charge.atMs = call.requestedAt * 1000) ∧
    ∀ streamed after, answer call walk world = .ok (.streaming streamed) after →
      streamed.call = call := by
  cases routed : routedBy call walk with
  | error error =>
      obtain ⟨thrown, events, throws, _⟩ := answer_failed call walk world error routed
      rw [throws, newCharges_same world _ (by rfl)]
      exact ⟨fun _ member => absurd member List.not_mem_nil, fun _ _ answers => by cases answers⟩
  | ok r =>
      cases result : r.result with
      | stream source =>
          -- Nothing is charged yet: the handlers of `logged` keep the call.
          rw [answer_stream call walk r world source routed result,
            newCharges_same world _ (by rfl)]
          refine ⟨fun _ member => absurd member List.not_mem_nil, fun _ _ answers => ?_⟩
          cases answers
          rfl
      | completion upstream =>
          by_cases clean : world.faults.recordSuccess = none ∧ world.faults.logRequest = none
          · obtain ⟨readings, events, answers⟩ :=
              answer_buffered call walk r world upstream routed result clean.1 clean.2
            rw [answers, newCharges_append world _ _ (by rfl)]
            refine ⟨fun charge member => ?_, fun _ _ streams => by cases streams⟩
            cases List.mem_singleton.mp member
            rfl
          · obtain ⟨thrown, after, written, error, throws, unaccounted, _⟩ :=
              answer_buffered_throws call walk r world upstream routed result
                (not_and_or.mp clean)
            rw [throws, worldAfter_error, newCharges_same _ _ unaccounted]
            exact ⟨fun _ member => absurd member List.not_mem_nil,
              fun _ _ streams => by cases streams⟩

theorem settleStream_charges (streamed : Streamed)
    (logged : Except Js.Thrown (List ChatCompletionChunk)) (charge : UsageCall)
    (charged : charge ∈ newCharges world (worldAfter (settleStream streamed logged world))) :
    charge.atMs = streamed.call.requestedAt * 1000 := by
  obtain ⟨after, tokens, written, settles, accounted, _⟩ := settleStream_spec streamed logged world
  rw [settles, worldAfter_ok, newCharges_append _ _ _ accounted] at charged
  cases List.mem_singleton.mp charged
  rfl

theorem charged_month (life : Lifetime) (charge : UsageCall) (charged : charge ∈ life.charges) :
    charge.atMs = life.arrival.clock life.arrival.readings / 1000 * 1000 := by
  unfold Lifetime.charges at charged
  cases opens : openCall life.request life.arrival with
  | error thrown after =>
      rw [opens] at charged
      cases charged
  | ok call after =>
      rw [opens] at charged
      have dated := openCall_dated life.request life.arrival call after opens
      change charge.atMs = life.arrival.requestedAt * 1000
      rw [← dated]
      rcases List.mem_append.mp charged with before | later
      · exact (answer_dated life.settled call life.walk).1 charge before
      -- Only a stream charges later, and then under the call it was handed out for.
      · cases answers : answer call life.walk life.settled with
        | error thrown between =>
            rw [answers] at later
            cases later
        | ok response between =>
            rw [answers] at later
            cases response with
            | buffered result => cases later
            | streaming streamed =>
                have same := (answer_dated life.settled call life.walk).2 streamed between answers
                simp only [Lifetime.streamCharges] at later
                cases reached : TeeStream.loggedAfter streamed.source life.calls with
                | none =>
                    rw [reached] at later
                    cases later
                | some logged =>
                    rw [reached] at later
                    rw [← same]
                    exact settleStream_charges life.ended streamed logged charge later

end Parts

/-- The month the gate consulted is the month that is charged exactly when no
month begins between the reading that dates the request and the gate's own. -/
theorem gate_month_charged_iff (life : Lifetime) (ordered : Monotone life.arrival.clock)
    (key : UsageKey) (consults : key ∈ life.consulted)
    (charge : UsageCall) (charged : charge ∈ life.charges) :
    key.2.2 = periodKey charge.atMs ↔
      ¬ ∃ month, life.arrival.clock life.arrival.readings < monthStartMs month ∧
        monthStartMs month ≤ life.arrival.clock (life.arrival.readings + 1) := by
  rw [consulted_month life key consults, charged_month life charge charged,
    ← utcMonth_eq_iff _ _ (ordered (Nat.le_succ _)), periodKey_eq, periodKey_eq,
    utcMonth_floor_second, keyOf_injective.eq_iff, eq_comm]

section Example

/-- A buffered request for `codex` under the given clock. -/
def meteredLife (clock : ℕ → ℤ) : Lifetime where
  request := exampleRequest
  arrival := { exampleWorld with clock := clock, quotas := QuotaStore.meteredStore }
  walk := answering (.completion exampleCompletion)
  settled := { exampleWorld with clock := clock, quotas := QuotaStore.meteredStore }
  calls := []
  ended := exampleWorld

theorem gate_month_charged_still :
    ("1970-01" : String) = periodKey 0 ↔
      ¬ ∃ month, (0 : ℤ) < monthStartMs month ∧ monthStartMs month ≤ 0 :=
  gate_month_charged_iff (meteredLife fun _ => 0) (fun _ _ _ => le_refl 0)
    (QuotaStore.exampleClient, "codex", "1970-01") (by decide +kernel)
    { clientId := some QuotaStore.exampleClient, servedAlias := "codex", tokens := .finite 7
      atMs := 0 } (by decide +kernel)

def newMonth (reading : ℕ) : ℤ := if reading = 0 then 2678399999 else 2678400000

theorem gate_reads_next_month :
    ¬ ∀ life : Lifetime, Monotone life.arrival.clock → ∀ key ∈ life.consulted,
      ∀ charge ∈ life.charges, key.2.2 = periodKey charge.atMs := by
  intro claimed
  have same := claimed (meteredLife newMonth)
    (by intro first last ordered; change newMonth first ≤ newMonth last; unfold newMonth; grind)
    (QuotaStore.exampleClient, "codex", "1970-02") (by decide +kernel)
    { clientId := some QuotaStore.exampleClient, servedAlias := "codex", tokens := .finite 7
      atMs := 2678399000 } (by decide +kernel)
  exact absurd same (by decide +kernel)

end Example

end LlmGateway.Chat
