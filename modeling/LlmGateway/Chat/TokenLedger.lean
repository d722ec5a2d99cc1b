import LlmGateway.Chat.Bookkeeping
import LlmGateway.Chat.Ledger

/-!
Agreement of the token counters with the request log. A counter holds whole,
non-negative amounts, a row holds what the upstream reported, and a stream that
its upstream aborts leaves a row without tokens for a charge that has some.
-/

namespace LlmGateway.Chat

open Observability Providers Quota Routing Runs

def Whole (total : Option ℚ) : Prop := ∃ count : ℕ, total.getD 0 = count

theorem normaliseTokens_eq_iff (value : ℚ) :
    (normaliseTokens (.finite value) : ℚ) = value ↔ ∃ count : ℕ, value = count := by
  constructor
  · intro same
    exact ⟨_, same.symm⟩
  · rintro ⟨count, rfl⟩
    simp [normaliseTokens]

def Call.Metered (quotas : QuotaStore) (call : Call) : Prop :=
  ∃ clientId, call.request.clientId = some clientId ∧ Chat.Metered quotas (clientId, call.target)

namespace Gateway

/-- The counters of every metered pair equal the attributed tokens, for every month. -/
def TokensAgree (gateway : Gateway) : Prop :=
  ∀ pair, Metered gateway.world.quotas pair → ∀ month,
    gateway.world.quotas.tokensOf pair.1 pair.2 (keyOf month) =
      attributedTokens gateway.world.requestLogs (monthWindow month) pair

/-- Reconciling any month, dry or not, leaves every token counter as it is. -/
def ReconcileKeepsTokens (gateway : Gateway) : Prop :=
  ∀ nowMs options month, FourDigitYear month →
    options.periodKey.getD (periodKey nowMs) = keyOf month →
    ∀ clientId aliasKey key,
      (reconcile gateway.world.quotas gateway.world.requestLogs nowMs options).2.tokensOf clientId
        aliasKey key = gateway.world.quotas.tokensOf clientId aliasKey key

/-- The upstream of every metered call reports a whole total or none, and
aborts no stream. -/
def ReportsWhole (gateway : Gateway) : Event → Prop
  | .arrive _ => True
  | .routed index walk => ∀ call r upstream, gateway.routing[index]? = some call →
      routedBy call walk = .ok r → r.result = .completion upstream →
      call.Metered gateway.world.quotas → Whole (upstream.usage.bind CompletionUsage.totalTokens)
  | .consumed index calls => ∀ streamed logged, gateway.streaming[index]? = some streamed →
      TeeStream.loggedAfter streamed.source calls = some logged →
      streamed.call.Metered gateway.world.quotas →
      ∃ chunks, logged = .ok chunks ∧ ∀ usage ∈ lastUsage chunks, Whole usage.totalTokens

section Steps

variable (gateway : Gateway)

theorem keepsTokens_of_agree (agree : gateway.TokensAgree) : gateway.ReconcileKeepsTokens := by
  intro nowMs options month year period clientId aliasKey key
  refine reconcile_keeps_tokens _ clientId aliasKey key _ nowMs options fun pair metered => ?_
  rw [period, utcMonthWindow_keyOf month year]
  exact agree pair metered month

def Balanced (gateway : Gateway) (event : Event) : Prop :=
  ∀ served, gateway.served event = some served → served.call.Metered gateway.world.quotas →
    served.added = served.summed

theorem step_tokens_iff (event : Event) (sound : gateway.world.faults = .none)
    (agree : gateway.TokensAgree) :
    (gateway.step event).TokensAgree ↔ gateway.Balanced event := by
  have wrote := step_wrote gateway event sound
  have moved : ∀ pair, Metered gateway.world.quotas pair → ∀ month,
      ((gateway.step event).world.quotas.tokensOf pair.1 pair.2 (keyOf month) =
        attributedTokens (gateway.step event).world.requestLogs (monthWindow month) pair ↔
      weigh pair month Served.added (gateway.served event) =
        weigh pair month Served.summed (gateway.served event)) := by
    intro pair metered month
    have start := agree pair metered month
    rw [attributedTokens_eq] at start ⊢
    rw [wrote.tokens pair month metered, wrote.sum pair month, start]
    exact add_right_inj _
  constructor
  · intro agrees served serves ⟨clientId, client, metered⟩
    have same := (moved (clientId, served.call.target) metered
      (utcMonth (served.call.requestedAt * 1000))).mp
        (agrees _ ((wrote.metered_iff _).mpr metered) _)
    -- The call counts for its own pair in the month it started.
    have counts : served.label.CountsFor (clientId, served.call.target)
        (utcMonth (served.call.requestedAt * 1000)) := ⟨rfl, client, rfl⟩
    simpa only [serves, weigh, if_pos counts] using same
  · intro balanced pair metered month
    have metered := (wrote.metered_iff pair).mp metered
    refine (moved pair metered month).mpr ?_
    cases serves : gateway.served event with
    | none => rfl
    | some served =>
        unfold weigh
        dsimp only
        split
        · rename_i counts
          exact balanced served serves ⟨pair.1, counts.2.1, by
            rw [show served.call.target = pair.2 from counts.2.2]
            exact metered⟩
        · rfl

theorem aborted_unbalanced (streamed : Streamed) (error : Js.Thrown) :
    (normaliseTokens (.finite ((chargedTokens streamed (.error error)).getD 0)) : ℚ) ≠
      ((loggedTokens streamed (.error error)).bind CompletionUsage.totalTokens).getD 0 := by
  -- The charge is the prompt estimate, at least one; the row has no total.
  have positive := estimate_prompt_pos [] streamed.call.messages
  simp only [chargedTokens, loggedTokens, promptEstimate, Option.getD_some, Option.bind_none,
    Option.getD_none, normaliseTokens, Js.trunc_natCast, Int.toNat_natCast, ne_eq,
    Nat.cast_eq_zero]
  omega

theorem whole_stream_iff (chunks : List ChatCompletionChunk) (messages : List Js.Json) :
    Whole (extractStreamTokens chunks messages).totalTokens ↔
      ∀ usage ∈ lastUsage chunks, Whole usage.totalTokens := by
  unfold extractStreamTokens
  cases reported : lastUsage chunks with
  | none => simp [Whole, TokenEstimate.toUsage]
  | some usage => simp

theorem balanced_iff (event : Event) : gateway.Balanced event ↔ gateway.ReportsWhole event := by
  cases event with
  | arrive request =>
      exact iff_of_true (fun served serves => by cases serves) trivial
  | routed index walk =>
      unfold Balanced ReportsWhole
      constructor
      · intro balanced call r upstream found routed result metered
        have same := balanced
          { call := call
            logged := upstream.usage.bind CompletionUsage.totalTokens
            charged := upstream.usage.bind CompletionUsage.totalTokens }
          (by simp only [served, found, Option.bind_some, routed, result]) metered
        exact (normaliseTokens_eq_iff _).mp same
      · intro whole served serves metered
        simp only [Gateway.served, Option.bind_eq_some_iff] at serves
        obtain ⟨call, found, serves⟩ := serves
        cases routed : routedBy call walk with
        | error error =>
            rw [routed] at serves
            cases serves
        | ok r =>
            cases result : r.result with
            | stream source => simp [routed, result] at serves
            | completion upstream =>
                simp only [routed, result, Option.some.injEq] at serves
                subst serves
                exact (normaliseTokens_eq_iff _).mpr
                  (whole call r upstream found routed result metered)
  | consumed index calls =>
      unfold Balanced ReportsWhole
      constructor
      · intro balanced streamed logged found reached metered
        have same := balanced
          { call := streamed.call
            logged := (loggedTokens streamed logged).bind CompletionUsage.totalTokens
            charged := chargedTokens streamed logged }
          (by simp only [served, found, Option.bind_some, reached, Option.map_some]) metered
        cases logged with
        | error error => exact absurd same (aborted_unbalanced streamed error)
        | ok chunks =>
            exact ⟨chunks, rfl, (whole_stream_iff chunks streamed.call.messages).mp
              ((normaliseTokens_eq_iff _).mp same)⟩
      · intro whole served serves metered
        simp only [Gateway.served, Option.bind_eq_some_iff, Option.map_eq_some_iff] at serves
        obtain ⟨streamed, found, logged, reached, rfl⟩ := serves
        obtain ⟨chunks, rfl, reported⟩ := whole streamed logged found reached metered
        exact (normaliseTokens_eq_iff _).mpr
          ((whole_stream_iff chunks streamed.call.messages).mpr reported)

end Steps

theorem fresh_tokensAgree (world : World) : (freshGateway world).TokensAgree := by
  intro pair _ month
  rw [fresh_tokens, attributedTokens_eq]
  rfl

/-- Along a run the counters agree with the log, and a reconciliation would
change none of them, exactly while metered upstreams report whole totals and
abort no stream. -/
theorem tokens_reconciled_iff (world : World) (events : List Event) :
    Always step (fun gateway => gateway.TokensAgree ∧ gateway.ReconcileKeepsTokens)
        (freshGateway world) events ↔
      Guarded step ReportsWhole (freshGateway world) events := by
  refine always_iff_guarded step (fun gateway => gateway.world.faults = .none) _ _ step_sound ?_
    _ events rfl ⟨fresh_tokensAgree world, keepsTokens_of_agree _ (fresh_tokensAgree world)⟩
  intro gateway event sound agree
  rw [← balanced_iff, ← step_tokens_iff gateway event sound agree.1]
  exact ⟨fun both => both.1, fun agrees => ⟨agrees, keepsTokens_of_agree _ agrees⟩⟩

section Example

def abortedSource : StreamSource where
  chunks := []
  ending := .fails (some (.error "Error" "terminated"))
  hasReturn := true

/-- Every call has settled, and the prompt estimate stands in the counter alone. -/
theorem aborted_stream_drifts :
    ¬ ∀ (world : World) (events : List Event),
      (run step (freshGateway world) events).routing = [] →
      (run step (freshGateway world) events).streaming = [] →
        (run step (freshGateway world) events).TokensAgree ∧
          (run step (freshGateway world) events).ReconcileKeepsTokens := by
  intro claimed
  have agree := (claimed { exampleWorld with quotas := QuotaStore.meteredStore }
    [.arrive exampleRequest, .routed 0 (answering (.stream abortedSource)), .consumed 0 [.next]]
    rfl rfl).1 (QuotaStore.exampleClient, "codex") (by decide +kernel) 23640
  exact absurd agree (by decide +kernel)

end Example

end Gateway

end LlmGateway.Chat
