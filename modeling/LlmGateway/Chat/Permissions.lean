import LlmGateway.Chat.Gateway
import LlmGateway.Chat.Models

/-!
Who reads the allowlist, and that no request writes it. The gate of a
completion and the listing of the models ask the same question of its rows.
-/

namespace LlmGateway.Chat

open Effects Observability Providers Quota Routing

section Frame

abbrev KeepsAccess {Value : Type} (program : Act Value) : Prop := Frames World.access program

theorem now_keeps : KeepsAccess World.now := by
  intro world
  constructor
  · intro value after returns
    cases returns
    rfl
  · intro error after throws
    cases throws

theorem nowSeconds_keeps : KeepsAccess World.nowSeconds :=
  frames_bind _ _ now_keeps fun _ => frames_pure _

theorem throwIf_keeps (fault : Option Js.Thrown) : KeepsAccess (World.throwIf fault) := by
  cases fault with
  | none => exact frames_pure _
  | some error => exact frames_throw _

theorem append_keeps (row : RequestLogRow) : KeepsAccess (World.append row) :=
  frames_modify _ fun _ => rfl

theorem logRequest_keeps (event : RequestLogEvent) : KeepsAccess (World.logRequest event) :=
  frames_bind _ _ frames_get fun _ =>
    frames_bind _ _ (throwIf_keeps _) fun _ => frames_modify _ fun _ => rfl

theorem recordSuccess_keeps (call : Call) (providerId resolvedModel : String) (attempts : ℕ)
    (tokens : Option CompletionUsage) :
    KeepsAccess (recordSuccess call providerId resolvedModel attempts tokens) := by
  refine frames_bind _ _ nowSeconds_keeps fun now => ?_
  refine frames_bind _ _ ?_ fun _ => logRequest_keeps _
  exact frames_bind _ _ frames_get fun _ =>
    frames_bind _ _ (throwIf_keeps _) fun _ => append_keeps _

theorem catching_keeps {Value : Type} (request : Request) (requestedAt : ℤ)
    (quota : Option QuotaOutcome) (body : Act Value) (keeps : KeepsAccess body) :
    KeepsAccess (catching request requestedAt quota body) := by
  refine frames_tryCatch _ _ keeps fun err => ?_
  refine frames_bind _ _ ?_ fun _ => frames_throw _
  exact frames_bind _ _ nowSeconds_keeps fun _ =>
    frames_bind _ _ (append_keeps _) fun _ => logRequest_keeps _

theorem accountUsage_keeps (call : Call) (tokens : Option ℚ) :
    KeepsAccess (accountUsage call tokens) := by
  refine frames_tryCatch _ _ ?_ fun _ => frames_pure _
  exact frames_bind _ _ (frames_modify _ fun _ => rfl) fun _ =>
    frames_bind _ _ frames_get fun _ =>
      frames_bind _ _ (throwIf_keeps _) fun _ => frames_modify _ fun _ => rfl

theorem resolveTarget_keeps (clientId : Option ClientId) (requestedAlias : String) :
    KeepsAccess (World.resolveTarget clientId requestedAlias) := by
  unfold World.resolveTarget
  cases clientId with
  | none => exact frames_pure _
  | some client =>
      refine frames_bind _ _ frames_get fun world => ?_
      split
      · exact frames_pure _
      · refine frames_bind _ _ now_keeps fun nowMs => ?_
        refine frames_bind _ _ (frames_modify _ fun _ => rfl) fun _ => ?_
        refine frames_bind _ _ frames_get fun world => ?_
        split
        · exact frames_pure _
        · exact frames_throw _

theorem openCall_keeps (request : Request) : KeepsAccess (openCall request) := by
  refine frames_bind _ _ nowSeconds_keeps fun requestedAt => ?_
  apply catching_keeps
  refine frames_bind _ _ ?_ fun _ => ?_
  · refine frames_bind _ _ frames_get fun world => ?_
    split
    · exact frames_pure _
    · exact frames_throw _
  · refine frames_bind _ _ (resolveTarget_keeps _ _) fun target => ?_
    exact frames_bind _ _ frames_get fun _ => frames_pure _

theorem recordFailedAttempts_keeps (call : Call) (totalAttempts : ℕ)
    (attempts : List RouteAttempt) :
    KeepsAccess (recordFailedAttempts call totalAttempts attempts) := by
  induction attempts with
  | nil => exact frames_pure _
  | cons attempt rest ih =>
      unfold recordFailedAttempts
      split
      · exact ih
      · exact frames_bind _ _ (append_keeps _) fun _ => ih

theorem answer_keeps (call : Call) (walk : Walk CompletionResult) :
    KeepsAccess (answer call walk) := by
  unfold answer
  apply catching_keeps
  refine frames_bind _ _ (frames_modify _ fun _ => rfl) fun _ => ?_
  split
  · exact frames_throw _
  · rename_i r _
    unfold finish
    refine frames_bind _ _ (recordFailedAttempts_keeps _ _ _) fun _ => ?_
    split
    · exact frames_bind _ _ (recordSuccess_keeps _ _ _ _ _) fun _ =>
        frames_bind _ _ (accountUsage_keeps _ _) fun _ => frames_pure _
    · exact frames_pure _

theorem settleStream_keeps (streamed : Streamed)
    (logged : Except Js.Thrown (List ChatCompletionChunk)) :
    KeepsAccess (settleStream streamed logged) := by
  refine frames_tryCatch _ _ ?_ fun _ => accountUsage_keeps _ _
  cases logged with
  | ok chunks => exact frames_bind _ _ (recordSuccess_keeps _ _ _ _ _) fun _ => accountUsage_keeps _ _
  | error error => exact frames_bind _ _ (recordSuccess_keeps _ _ _ _ _) fun _ =>
      accountUsage_keeps _ _

theorem Gateway.step_access (gateway : Gateway) (event : Event) :
    (gateway.step event).world.access = gateway.world.access := by
  cases event with
  | arrive request =>
      rw [step, arrive]
      cases opened : openCall request gateway.world with
      | ok call after => exact (openCall_keeps request gateway.world).1 call after opened
      | error error after => exact (openCall_keeps request gateway.world).2 error after opened
  | routed index walk =>
      rw [step]
      split
      · rfl
      · rename_i call _
        rw [settleRoute]
        cases answered : answer call walk gateway.world with
        | ok response after =>
            have kept := (answer_keeps call walk gateway.world).1 response after answered
            cases response <;> exact kept
        | error error after => exact (answer_keeps call walk gateway.world).2 error after answered
  | consumed index calls =>
      rw [step]
      split
      · rfl
      · rename_i streamed _
        split
        · rfl
        · rename_i logged _
          rw [endStream]
          cases settled : settleStream streamed logged gateway.world with
          | ok value after => exact (settleStream_keeps streamed logged gateway.world).1 _ after settled
          | error error after =>
              exact (settleStream_keeps streamed logged gateway.world).2 error after settled

end Frame

section Readers

def PassesGate (world : World) (request : Request) : Prop :=
  ∃ after, assertAliasPermitted request.clientId request.body.model world = .ok () after

theorem passesGate_iff (world : World) (request : Request) :
    PassesGate world request ↔
      isPermitted world.access request.clientId request.body.model = true := by
  unfold PassesGate assertAliasPermitted
  rw [get_bind]
  by_cases permitted : isPermitted world.access request.clientId request.body.model = true
  · rw [if_pos permitted]
    exact iff_of_true ⟨world, rfl⟩ permitted
  · rw [if_neg permitted]
    apply iff_of_false _ permitted
    rintro ⟨after, returns⟩
    cases returns

def Advertised (registry : ProviderRegistry) (environment : Environment) (name : String) : Prop :=
  name ∈ listedAliases registry ∧
    ∃ primary, ((registry.listAliases name).getD []).head? = some primary ∧
      Reachable registry environment primary

end Readers

end LlmGateway.Chat
