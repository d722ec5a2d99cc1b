import LlmGateway.Chat.Bookkeeping
import LlmGateway.Chat.Ledger
import LlmGateway.Lib.Admission

/-!
How far the tokens of a month can pass the limit. The gate reads the counter
when a request arrives, the counter moves when the request has been served, and
nothing is reserved in between: any number of requests can be let in by the
last token.
-/

namespace LlmGateway.Chat

open Observability Providers Quota Routing Runs

def Call.label (call : Call) : Label where
  requestedAt := call.requestedAt
  clientKey := call.request.clientId
  aliasKey := call.target

namespace Gateway

def calls (gateway : Gateway) : List Call :=
  gateway.routing ++ gateway.streaming.map Streamed.call

def inFlight (pair : QuotaKey) (month : ℤ) (gateway : Gateway) : ℕ :=
  gateway.calls.countP fun call => call.label.CountsFor pair month

def used (pair : QuotaKey) (month : ℤ) (gateway : Gateway) : ℚ :=
  gateway.world.quotas.tokensOf pair.1 pair.2 (keyOf month)

/-- The pair has this limit, and no other alias of the client diverts to it. -/
structure Limited (pair : QuotaKey) (limit : ℤ) (gateway : Gateway) : Prop where
  row : ∃ quota ∈ gateway.world.quotas.getQuota pair.1 pair.2, quota.monthlyTokenLimit = limit
  undiverted : ∀ aliasKey, gateway.world.quotas.divertOf pair.1 aliasKey ≠ some pair.2
  faults : gateway.world.faults = .none

/-- The gate reads the month the request is dated in, what is served is charged
`charge` at most, and `cap` calls at most are in flight afterwards. -/
structure Bounded (pair : QuotaKey) (month : ℤ) (charge cap : ℕ) (gateway : Gateway)
    (event : Event) : Prop where
  sameMonth : utcMonth (gateway.world.clock (gateway.world.readings + 1)) =
    utcMonth (gateway.world.clock gateway.world.readings)
  charged : ∀ served ∈ gateway.served event, served.label.CountsFor pair month →
    served.added ≤ charge
  room : (gateway.step event).inFlight pair month ≤ cap

section Steps

variable (pair : QuotaKey) (month limit : ℤ) (charge cap : ℕ) (gateway : Gateway)

theorem Limited.metered (limited : gateway.Limited pair limit) :
    Metered gateway.world.quotas pair := by
  obtain ⟨quota, found, _⟩ := limited.row
  rw [Option.mem_def] at found
  rw [Metered, found]
  rfl

theorem limited_step (event : Event) (limited : gateway.Limited pair limit) :
    (gateway.step event).Limited pair limit := by
  have wrote := step_wrote gateway event limited.faults
  have rows : ∀ aliasKey, (gateway.step event).world.quotas.getQuota pair.1 aliasKey =
      gateway.world.quotas.getQuota pair.1 aliasKey := fun aliasKey => wrote.getQuota _ _
  constructor
  · rw [rows]
    exact limited.row
  · intro aliasKey
    rw [QuotaStore.divertOf, rows]
    exact limited.undiverted aliasKey
  · exact wrote.faults.trans limited.faults

theorem used_step (event : Event) (limited : gateway.Limited pair limit) :
    (gateway.step event).used pair month =
      gateway.used pair month + weigh pair month Served.added (gateway.served event) :=
  (step_wrote gateway event limited.faults).tokens pair month (limited.metered pair limit gateway)

theorem countP_eraseIdx {Item : Type} (items : List Item) (index : ℕ) (item : Item)
    (test : Item → Prop) [DecidablePred test] (found : items[index]? = some item) :
    (items.eraseIdx index).countP (fun item => test item) + (if test item then 1 else 0) =
      items.countP fun item => test item := by
  obtain ⟨bound, rfl⟩ := List.getElem?_eq_some_iff.mp found
  rw [← (List.getElem_cons_eraseIdx_perm bound).countP_eq, List.countP_cons]
  simp only [decide_eq_true_eq]

theorem admitted_below (request : Request) (target : String)
    (limited : gateway.Limited pair limit)
    (sameMonth : utcMonth (gateway.world.clock (gateway.world.readings + 1)) =
      utcMonth (gateway.world.clock gateway.world.readings))
    (gated : gateway.world.gate request = .ok target)
    (counts : (gateway.world.callFor request target).label.CountsFor pair month) :
    gateway.used pair month < limit := by
  obtain ⟨clientId, aliasKey⟩ := pair
  obtain ⟨inMonth, client, same⟩ := counts
  have dated : utcMonth (gateway.world.clock gateway.world.readings) = month := by
    rw [← utcMonth_floor_second]
    exact inMonth
  change request.clientId = some clientId at client
  change target = aliasKey at same
  subst same
  rw [World.gate, client] at gated
  -- A divert leads to no limited pair, so the gate looked at this counter.
  rcases QuotaStore.resolveTarget_ok _ _ _ _ _ gated with ⟨asked, below⟩ | ⟨_, diverts⟩
  · subst asked
    obtain ⟨quota, found, limits⟩ := limited.row
    have room := below quota found
    rw [periodKey_eq, sameMonth, dated, limits] at room
    exact room
  · exact absurd diverts (limited.undiverted _)

theorem arrive_moves (request : Request) (limited : gateway.Limited pair limit)
    (sameMonth : utcMonth (gateway.world.clock (gateway.world.readings + 1)) =
      utcMonth (gateway.world.clock gateway.world.readings)) :
    (gateway.arrive request).inFlight pair month = gateway.inFlight pair month ∨
      (gateway.used pair month < limit ∧
        (gateway.arrive request).inFlight pair month = gateway.inFlight pair month + 1) := by
  rcases openCall_cases request gateway.world with
    ⟨_, thrown, events, throws⟩ | ⟨detail, _, _, thrown, events, throws⟩ |
    ⟨target, _, gated, opens⟩
  · left
    simp only [arrive, throws, inFlight, calls]
  · left
    simp only [arrive, throws, inFlight, calls]
  · simp only [arrive, opens, inFlight, calls, List.countP_append, List.countP_singleton]
    by_cases counts : (gateway.world.callFor request target).label.CountsFor pair month
    · right
      refine ⟨admitted_below pair month limit gateway request target limited sameMonth gated
        counts, ?_⟩
      simp only [counts, decide_true, ↓reduceIte]
      omega
    · left
      simp only [counts, decide_false, Bool.false_eq_true, ↓reduceIte, add_zero]

def share (pair : QuotaKey) (month : ℤ) (call : Call) : ℕ :=
  if call.label.CountsFor pair month then 1 else 0

/-- `ended` is the call the step takes out of flight, and the only one it can serve. -/
structure Leaves (pair : QuotaKey) (month : ℤ) (gateway after : Gateway) (served : Option Served)
    (ended : Option Call) : Prop where
  inFlight : after.inFlight pair month + ended.elim 0 (share pair month) =
    gateway.inFlight pair month
  served : ∀ value ∈ served, ended = some value.call

theorem settleRoute_leaves (index : ℕ) (call : Call) (walk : Walk CompletionResult)
    (found : gateway.routing[index]? = some call) (sound : gateway.world.faults = .none) :
    ∃ ended, Leaves pair month gateway (gateway.settleRoute index call walk)
      (gateway.served (.routed index walk)) ended := by
  have erased := countP_eraseIdx gateway.routing index call
    (fun call => call.label.CountsFor pair month) found
  have leaves : ∀ after : Gateway, after.routing = gateway.routing.eraseIdx index →
      after.streaming = gateway.streaming →
      after.inFlight pair month + share pair month call = gateway.inFlight pair month := by
    intro after routing streaming
    simp only [inFlight, calls, routing, streaming, List.countP_append, share]
    omega
  simp only [served, found, Option.bind_some]
  cases routed : routedBy call walk with
  | error error =>
      obtain ⟨thrown, events, throws, _⟩ := answer_failed call walk gateway.world error routed
      refine ⟨some call, leaves _ ?_ ?_, fun value member => by cases member⟩ <;>
        simp only [settleRoute, throws]
  | ok r =>
      cases result : r.result with
      | stream source =>
          -- The call goes on as a stream, under the same label.
          have answers := answer_stream call walk r gateway.world source routed result
          refine ⟨none, ?_, fun value member => by simp [result] at member⟩
          simp only [settleRoute, answers, inFlight, calls, List.countP_append, List.map_append,
            List.map_cons, List.map_nil, List.countP_singleton, Option.elim_none, streamedOf,
            decide_eq_true_eq] at erased ⊢
          omega
      | completion upstream =>
          obtain ⟨readings, events, answers⟩ := answer_buffered call walk r gateway.world upstream
            routed result (by rw [sound]; rfl) (by rw [sound]; rfl)
          refine ⟨some call, leaves _ ?_ ?_, fun value member => ?_⟩
          · simp only [settleRoute, answers]
          · simp only [settleRoute, answers]
          · simp only [result, Option.mem_some_iff] at member
            rw [← member]

theorem endStream_leaves (index : ℕ) (streamed : Streamed)
    (logged : Except Js.Thrown (List ChatCompletionChunk))
    (found : gateway.streaming[index]? = some streamed) :
    (gateway.endStream index streamed logged).inFlight pair month +
      share pair month streamed.call = gateway.inFlight pair month := by
  obtain ⟨after, _, _, settles, _⟩ := settleStream_spec streamed logged gateway.world
  have erased := countP_eraseIdx gateway.streaming index streamed
    (fun streamed => streamed.call.label.CountsFor pair month) found
  simp only [endStream, settles, inFlight, calls, List.countP_append, List.countP_map, share]
  have same : ((fun call : Call => decide (call.label.CountsFor pair month)) ∘ Streamed.call) =
      fun streamed => decide (streamed.call.label.CountsFor pair month) := rfl
  rw [same]
  omega

theorem step_leaves (event : Event) (sound : gateway.world.faults = .none)
    (quiet : ∀ request, event ≠ .arrive request) :
    ∃ ended, Leaves pair month gateway (gateway.step event) (gateway.served event) ended := by
  cases event with
  | arrive request => exact absurd rfl (quiet request)
  | routed index walk =>
      cases found : gateway.routing[index]? with
      | none =>
          refine ⟨none, ?_, fun value member => by simp [served, found] at member⟩
          simp only [step, found, Option.elim_none, add_zero]
      | some call =>
          simp only [step, found]
          exact settleRoute_leaves pair month gateway index call walk found sound
  | consumed index calls =>
      cases found : gateway.streaming[index]? with
      | none =>
          refine ⟨none, ?_, fun value member => by simp [served, found] at member⟩
          simp only [step, found, Option.elim_none, add_zero]
      | some streamed =>
          simp only [step, served, found, Option.bind_some]
          cases reached : TeeStream.loggedAfter streamed.source calls with
          | none =>
              refine ⟨none, ?_, fun value member => by cases member⟩
              simp only [Option.elim_none, add_zero]
          | some logged =>
              refine ⟨some streamed.call,
                endStream_leaves pair month gateway index streamed logged found,
                fun value member => ?_⟩
              simp only [Option.map_some, Option.mem_some_iff] at member
              rw [← member]

def meter (pair : QuotaKey) (month : ℤ) : Admission.Meter Gateway ℚ where
  spent := used pair month
  pending := inFlight pair month

theorem leaves_moves (after : Gateway) (served : Option Served) (ended : Option Call)
    (leaves : Leaves pair month gateway after served ended)
    (moved : after.used pair month = gateway.used pair month + weigh pair month Served.added served)
    (charged : ∀ value ∈ served, value.label.CountsFor pair month → value.added ≤ charge) :
    Admission.Moves (meter pair month) limit charge gateway after := by
  have inFlight := leaves.inFlight
  cases served with
  | none => exact .idles (moved.trans (add_zero _)) (le_of_le_of_eq (Nat.le_add_right _ _) inFlight)
  | some value =>
      rw [leaves.served value rfl, Option.elim_some] at inFlight
      by_cases counts : value.label.CountsFor pair month
      · refine .settles ?_ (le_of_eq ?_)
        · rw [weigh, if_pos counts] at moved
          exact moved.trans_le (add_le_add_right (charged value rfl counts) _)
        · have labelled : value.call.label.CountsFor pair month := counts
          rwa [share, if_pos labelled] at inFlight
      · refine .idles ?_ (le_of_le_of_eq (Nat.le_add_right _ _) inFlight)
        rw [weigh, if_neg counts] at moved
        exact moved.trans (add_zero _)

theorem step_moves (event : Event) (limited : gateway.Limited pair limit)
    (bounded : Bounded pair month charge cap gateway event) :
    Admission.Moves (meter pair month) limit charge gateway (gateway.step event) := by
  have moved := used_step pair month limit gateway event limited
  cases event with
  | arrive request =>
      have same : (gateway.step (.arrive request)).used pair month = gateway.used pair month :=
        moved.trans (add_zero _)
      rcases arrive_moves pair month limit gateway request limited bounded.sameMonth with
        stays | ⟨below, enters⟩
      · exact .idles same (le_of_eq stays)
      · exact .admits below same enters
  | routed index walk =>
      obtain ⟨ended, leaves⟩ := step_leaves pair month gateway (.routed index walk) limited.faults
        (fun request same => by cases same)
      exact leaves_moves pair month limit charge gateway _ _ ended leaves moved bounded.charged
  | consumed index calls =>
      obtain ⟨ended, leaves⟩ := step_leaves pair month gateway (.consumed index calls)
        limited.faults (fun request same => by cases same)
      exact leaves_moves pair month limit charge gateway _ _ ended leaves moved bounded.charged

end Steps

section LastToken

variable (limit charge cap : ℕ)

def firstMonth : ℤ := utcMonth 0

def lastTokenQuota (aliasKey : String) : ClientAliasQuota aliasKey where
  monthlyTokenLimit := limit + 1
  divertAliasKey := none
  positive := by omega
  noSelfDivert := Option.some_ne_none aliasKey |>.symm

/-- `codex` has a limit of `limit + 1` tokens, of which one is left. -/
def lastToken : Gateway where
  world := { exampleWorld with
    quotas :=
      { quotas := (∅ : AList fun key : QuotaKey => ClientAliasQuota key.2)
          |>.insert (QuotaStore.exampleClient, "codex") (lastTokenQuota limit "codex")
        usage := (∅ : AList fun _ : UsageKey => ClientAliasUsage)
          |>.insert (QuotaStore.exampleClient, "codex", keyOf firstMonth)
            ⟨limit, 0, Nat.cast_nonneg limit⟩ } }
  routing := []
  streaming := []

def codexPair : QuotaKey := (QuotaStore.exampleClient, "codex")

def lastCall : Call where
  request := exampleRequest
  requestedAt := 0
  quotaOutcome := { servedAlias := "codex", divertedFrom := none }
  chain := exampleRegistry.resolveChain exampleEnvironment "codex"

def charging : Walk CompletionResult :=
  answering (.completion
    { id := "c1"
      usage := some { promptTokens := none, completionTokens := none, totalTokens := some charge } })

def crowd : List Event :=
  List.replicate cap (.arrive exampleRequest) ++ List.replicate cap (.routed 0 (charging charge))

/-- `waiting` calls are in flight and nothing has been charged. -/
structure Arriving (waiting : ℕ) (gateway : Gateway) : Prop where
  world : ∃ readings consulted, gateway.world =
    { (lastToken limit).world with readings := readings, consulted := consulted }
  routing : gateway.routing = List.replicate waiting lastCall
  streaming : gateway.streaming = []

theorem lastToken_used : (lastToken limit).used codexPair firstMonth = limit := by
  have stored : (lastToken limit).world.quotas.getUsage codexPair.1 codexPair.2
      (keyOf firstMonth) = some ⟨limit, 0, Nat.cast_nonneg limit⟩ := AList.lookup_insert _
  rw [used, QuotaStore.tokensOf, stored]

theorem lastToken_limited : (lastToken limit).Limited codexPair (limit + 1) where
  row := ⟨_, AList.lookup_insert _, rfl⟩
  undiverted := by
    intro aliasKey names
    obtain ⟨quota, found, diverts⟩ := Option.bind_eq_some_iff.mp names
    by_cases same : aliasKey = "codex"
    · subst same
      rw [show (lastToken limit).world.quotas.getQuota codexPair.1 "codex" = _ from
        AList.lookup_insert _] at found
      cases found
      cases diverts
    · have other : (lastToken limit).world.quotas.getQuota codexPair.1 aliasKey = none :=
        (AList.lookup_insert_ne (by simp [codexPair, same])).trans rfl
      rw [other] at found
      cases found
  faults := rfl

theorem lastToken_gate (readings : ℕ) (consulted : List UsageKey) :
    World.gate { (lastToken limit).world with readings := readings, consulted := consulted }
      exampleRequest = .ok "codex" := by
  refine QuotaStore.resolveTarget_below _ _ _ _ ?_
  intro quota found
  have used := lastToken_used limit
  obtain ⟨row, present, limits⟩ := (lastToken_limited limit).row
  cases found.symm.trans present
  change (lastToken limit).used codexPair firstMonth < _
  rw [used, limits]
  exact_mod_cast Nat.lt_succ_self limit

theorem lastToken_call (readings : ℕ) (consulted : List UsageKey) :
    World.callFor { (lastToken limit).world with readings := readings, consulted := consulted }
      exampleRequest "codex" = lastCall := rfl

theorem arrive_served (gateway : Gateway) (request : Request) (target : String)
    (permitted : gateway.world.permits request = true)
    (served : gateway.world.gate request = .ok target) :
    ∃ readings consulted, gateway.arrive request =
      { world := { gateway.world with readings := readings, consulted := consulted }
        routing := gateway.routing ++ [gateway.world.callFor request target]
        streaming := gateway.streaming } := by
  obtain ⟨readings, consulted, same⟩ :=
    consult_frame gateway.world.opened request.clientId request.body.model
  refine ⟨readings, consulted, ?_⟩
  rw [arrive, openCall_served request gateway.world target permitted served, same]
  rfl

theorem arriving_step (waiting : ℕ) (gateway : Gateway)
    (arriving : Arriving limit waiting gateway) :
    Arriving limit (waiting + 1) (gateway.step (.arrive exampleRequest)) := by
  obtain ⟨world, routing, streaming⟩ := gateway
  obtain ⟨⟨readings, consulted, rfl⟩, rfl, rfl⟩ := arriving
  obtain ⟨later, keys, arrives⟩ := arrive_served
    { world := { (lastToken limit).world with readings := readings, consulted := consulted }
      routing := List.replicate waiting lastCall
      streaming := [] } exampleRequest "codex" rfl (lastToken_gate limit readings consulted)
  rw [step, arrives, lastToken_call]
  exact ⟨⟨later, keys, rfl⟩, List.replicate_succ'.symm, rfl⟩

/-- `waiting` calls are in flight and `served` were charged. -/
structure Settling (limit charge served waiting : ℕ) (gateway : Gateway) : Prop where
  limited : gateway.Limited codexPair (limit + 1)
  clock : gateway.world.clock = fun _ => 0
  used : gateway.used codexPair firstMonth = limit + served * charge
  routing : gateway.routing = List.replicate waiting lastCall
  streaming : gateway.streaming = []

theorem charging_routed : ∃ r, routedBy lastCall (charging charge) = .ok r ∧
    r.result = .completion
      { id := "c1"
        usage := some
          { promptTokens := none, completionTokens := none, totalTokens := some charge } } :=
  ⟨_, rfl, rfl⟩

theorem lastCall_served (settled waiting : ℕ) (gateway : Gateway)
    (settling : Settling limit charge settled (waiting + 1) gateway) :
    gateway.served (.routed 0 (charging charge)) =
      some { call := lastCall, logged := some (charge : ℚ), charged := some (charge : ℚ) } := by
  obtain ⟨r, routed, result⟩ := charging_routed charge
  have first : gateway.routing[0]? = some lastCall := by
    rw [settling.routing]
    rfl
  simp only [served, first, Option.bind_some, routed, result]

theorem settling_step (settled waiting : ℕ) (gateway : Gateway)
    (settling : Settling limit charge settled (waiting + 1) gateway) :
    Settling limit charge (settled + 1) waiting (gateway.step (.routed 0 (charging charge))) := by
  obtain ⟨r, routed, result⟩ := charging_routed charge
  have first : gateway.routing[0]? = some lastCall := by
    rw [settling.routing]
    rfl
  obtain ⟨readings, events, answers⟩ := answer_buffered lastCall (charging charge) r gateway.world
    _ routed result (by rw [settling.limited.faults]; rfl) (by rw [settling.limited.faults]; rfl)
  have used := used_step codexPair firstMonth (limit + 1) gateway (.routed 0 (charging charge))
    settling.limited
  have limited := limited_step codexPair (limit + 1) gateway (.routed 0 (charging charge))
    settling.limited
  have settles : gateway.step (.routed 0 (charging charge)) =
      gateway.settleRoute 0 lastCall (charging charge) := by
    simp only [step, first]
  have serves := lastCall_served limit charge settled waiting gateway settling
  refine ⟨limited, ?_, ?_, ?_, ?_⟩
  · rw [settles, settleRoute, answers]
    exact settling.clock
  · rw [used, settling.used, serves, weigh, if_pos (by exact ⟨rfl, rfl, rfl⟩)]
    simp only [Served.added, Option.getD_some, normaliseTokens, Js.trunc_natCast, Int.toNat_natCast]
    push_cast
    ring
  · rw [settles, settleRoute, answers, settling.routing]
    rfl
  · rw [settles, settleRoute, answers]
    exact settling.streaming

theorem inFlight_le (pair : QuotaKey) (month : ℤ) (gateway : Gateway) :
    gateway.inFlight pair month ≤ gateway.routing.length + gateway.streaming.length := by
  refine (List.countP_le_length).trans (le_of_eq ?_)
  rw [calls, List.length_append, List.length_map]

theorem arriving_run (gateway : Gateway) (left waiting : ℕ)
    (arriving : Arriving limit waiting gateway) (room : waiting + left ≤ cap) :
    Guarded step (Bounded codexPair firstMonth charge cap) gateway
        (List.replicate left (.arrive exampleRequest)) ∧
      Arriving limit (waiting + left)
        (run step gateway (List.replicate left (.arrive exampleRequest))) := by
  induction left generalizing gateway waiting with
  | zero => exact ⟨trivial, arriving⟩
  | succ left ih =>
      have next := arriving_step limit waiting gateway arriving
      obtain ⟨guarded, ends⟩ := ih _ (waiting + 1) next (by omega)
      rw [List.replicate_succ]
      refine ⟨⟨⟨?_, fun _ member => (Option.not_mem_none _ member).elim, ?_⟩, guarded⟩, ?_⟩
      · obtain ⟨readings, consulted, world⟩ := arriving.world
        rw [world]
        rfl
      · refine (inFlight_le _ _ _).trans ?_
        rw [next.routing, next.streaming, List.length_replicate, List.length_nil]
        omega
      · rw [run, Nat.add_succ, ← Nat.succ_add]
        exact ends

theorem settling_run (gateway : Gateway) (left settled : ℕ)
    (settling : Settling limit charge settled left gateway) (room : left ≤ cap) :
    Guarded step (Bounded codexPair firstMonth charge cap) gateway
        (List.replicate left (.routed 0 (charging charge))) ∧
      Settling limit charge (settled + left) 0
        (run step gateway (List.replicate left (.routed 0 (charging charge)))) := by
  induction left generalizing gateway settled with
  | zero => exact ⟨trivial, settling⟩
  | succ left ih =>
      have next := settling_step limit charge settled left gateway settling
      obtain ⟨guarded, ends⟩ := ih _ (settled + 1) next (by omega)
      rw [List.replicate_succ]
      refine ⟨⟨⟨?_, fun value member _ => ?_, ?_⟩, guarded⟩, ?_⟩
      · rw [settling.clock]
      · rw [lastCall_served limit charge settled left gateway settling] at member
        cases member
        simp [Served.added, normaliseTokens]
      · refine (inFlight_le _ _ _).trans ?_
        rw [next.routing, next.streaming, List.length_replicate, List.length_nil]
        omega
      · rw [run, Nat.add_succ, ← Nat.succ_add]
        exact ends

theorem arriving_settling (gateway : Gateway) (arriving : Arriving limit cap gateway) :
    Settling limit charge 0 cap gateway := by
  obtain ⟨readings, consulted, world⟩ := arriving.world
  refine ⟨?_, ?_, ?_, arriving.routing, arriving.streaming⟩
  · have limited := lastToken_limited limit
    constructor
    · rw [world]
      exact limited.row
    · rw [world]
      exact limited.undiverted
    · rw [world]
      exact limited.faults
  · rw [world]
    rfl
  · have start := lastToken_used limit
    rw [used, world]
    rw [used] at start
    simpa using start

theorem crowd_run :
    Guarded step (Bounded codexPair firstMonth charge cap) (lastToken limit) (crowd charge cap) ∧
      (run step (lastToken limit) (crowd charge cap)).used codexPair firstMonth =
        limit + cap * charge := by
  have start : Arriving limit 0 (lastToken limit) := ⟨⟨0, [], rfl⟩, rfl, rfl⟩
  obtain ⟨arrivals, waiting⟩ := arriving_run limit charge cap _ cap 0 start (by omega)
  rw [Nat.zero_add] at waiting
  obtain ⟨settlements, settled⟩ := settling_run limit charge cap _ cap 0
    (arriving_settling limit charge cap _ waiting) (le_refl cap)
  refine ⟨(guarded_append step _ _ _ _).mpr ⟨arrivals, settlements⟩, ?_⟩
  rw [crowd, run_append, settled.used, Nat.zero_add]

theorem lastToken_room : (lastToken limit).used codexPair firstMonth < limit + 1 := by
  rw [lastToken_used]
  exact lt_add_one _

end LastToken

/-- While at most `cap` calls of the pair are in flight and none is charged more
than `charge`, its tokens of the month stay below the limit plus `cap` charges. -/
theorem used_below_limit_and_flight (pair : QuotaKey) (month limit : ℤ) (charge cap : ℕ)
    (gateway : Gateway) (events : List Event) (limited : gateway.Limited pair limit)
    (room : gateway.used pair month < limit) (quiet : gateway.inFlight pair month = 0)
    (bounded : Guarded step (Bounded pair month charge cap) gateway events) :
    Always step (fun gateway => gateway.used pair month < limit + cap * charge) gateway events := by
  have start : (meter pair month).Covered (limit : ℚ) (charge : ℚ) cap gateway := by
    change gateway.used pair month + gateway.inFlight pair month • (charge : ℚ) < _
    rw [quiet, zero_nsmul, add_zero]
    exact room.trans_le (le_add_of_nonneg_right (nsmul_nonneg (Nat.cast_nonneg charge) cap))
  have below := Admission.always_bounded (meter pair month) (limit : ℚ) (charge : ℚ) cap step
    (Bounded pair month charge cap) (Limited pair limit) (Nat.cast_nonneg charge)
    (fun state event => limited_step pair limit state event)
    (fun state event => step_moves pair month limit charge cap state event)
    (fun _ _ bounded => bounded.room) gateway events limited start bounded
  simp only [nsmul_eq_mul] at below
  exact below

theorem crowd_below_bound :
    Always step (fun gateway => gateway.used codexPair firstMonth < (10 : ℤ) + (3 : ℕ) * (7 : ℕ))
      (lastToken 9) (crowd 7 3) :=
  used_below_limit_and_flight codexPair firstMonth 10 7 3 (lastToken 9) (crowd 7 3)
    (lastToken_limited 9) ((lastToken_room 9).trans_eq (by norm_num)) rfl (crowd_run 9 7 3).1

/-- The bound is attained: for every limit, charge and number of calls in flight
some run spends all of it but one token. -/
theorem used_reaches_bound (limit charge cap : ℕ) :
    ∃ (pair : QuotaKey) (month : ℤ) (gateway : Gateway) (events : List Event),
      gateway.Limited pair (limit + 1) ∧ gateway.used pair month < limit + 1 ∧
      gateway.inFlight pair month = 0 ∧
      Guarded step (Bounded pair month charge cap) gateway events ∧
      (run step gateway events).used pair month = limit + cap * charge :=
  ⟨codexPair, firstMonth, lastToken limit, crowd charge cap, lastToken_limited limit,
    lastToken_room limit, rfl, crowd_run limit charge cap⟩

end Gateway

end LlmGateway.Chat
