import LlmGateway.Chat.Outcomes
import LlmGateway.Lib.Runs

/-!
Any number of chat requests at once. Node runs one continuation at a time, so
a step is what one request does between two awaits, and the requests interleave
at their awaits in any order: before the routes settle, and while consumers
drain their streams.
-/

namespace LlmGateway.Chat

open Observability Providers Quota Routing

structure Gateway where
  world : World
  /-- The calls that await their route. -/
  routing : List Call
  /-- The streams that were handed out and have not ended. -/
  streaming : List Streamed

inductive Event where
  | arrive (request : Request)
  | routed (index : ℕ) (walk : Walk CompletionResult)
  | consumed (index : ℕ) (calls : List ConsumerCall)

namespace Gateway

def arrive (gateway : Gateway) (request : Request) : Gateway :=
  match openCall request gateway.world with
  | .ok call world => { gateway with world := world, routing := gateway.routing ++ [call] }
  | .error _ world => { gateway with world := world }

def settleRoute (gateway : Gateway) (index : ℕ) (call : Call) (walk : Walk CompletionResult) :
    Gateway :=
  let routing := gateway.routing.eraseIdx index
  match answer call walk gateway.world with
  | .ok (.buffered _) world => { gateway with world := world, routing := routing }
  | .ok (.streaming streamed) world =>
      { world := world, routing := routing, streaming := gateway.streaming ++ [streamed] }
  | .error _ world => { gateway with world := world, routing := routing }

def endStream (gateway : Gateway) (index : ℕ) (streamed : Streamed)
    (logged : Except Js.Thrown (List ChatCompletionChunk)) : Gateway :=
  let streaming := gateway.streaming.eraseIdx index
  match settleStream streamed logged gateway.world with
  | .ok _ world => { gateway with world := world, streaming := streaming }
  | .error _ world => { gateway with world := world, streaming := streaming }

def step (gateway : Gateway) : Event → Gateway
  | .arrive request => gateway.arrive request
  | .routed index walk =>
      match gateway.routing[index]? with
      | none => gateway
      | some call => gateway.settleRoute index call walk
  | .consumed index calls =>
      match gateway.streaming[index]? with
      | none => gateway
      | some streamed =>
          match TeeStream.loggedAfter streamed.source calls with
          | none => gateway
          | some logged => gateway.endStream index streamed logged

def newRows (before after : Gateway) : List RequestLogRow :=
  after.world.requestLogs.drop before.world.requestLogs.length

theorem newRows_append (before after : Gateway) (rows : List RequestLogRow)
    (written : after.world.requestLogs = before.world.requestLogs ++ rows) :
    newRows before after = rows := by
  rw [newRows, written, List.drop_left]

section Worlds

variable (gateway : Gateway) (index : ℕ) (call : Call) (walk : Walk CompletionResult)
  (request : Request)

theorem arrive_world (after : World) (value : Call)
    (opens : openCall request gateway.world = .ok value after) :
    (gateway.arrive request).world = after := by
  rw [arrive, opens]

theorem arrive_world_error (after : World) (thrown : ChatError)
    (throws : openCall request gateway.world = .error thrown after) :
    (gateway.arrive request).world = after := by
  rw [arrive, throws]

theorem settleRoute_world (after : World) (response : Response)
    (answers : answer call walk gateway.world = .ok response after) :
    (gateway.settleRoute index call walk).world = after := by
  rw [settleRoute, answers]
  cases response <;> rfl

theorem settleRoute_world_error (after : World) (thrown : ChatError)
    (throws : answer call walk gateway.world = .error thrown after) :
    (gateway.settleRoute index call walk).world = after := by
  rw [settleRoute, throws]

theorem endStream_world (streamed : Streamed)
    (logged : Except Js.Thrown (List ChatCompletionChunk)) (after : World)
    (settles : settleStream streamed logged gateway.world = .ok () after) :
    (gateway.endStream index streamed logged).world = after := by
  rw [endStream, settles]

end Worlds

end Gateway

end LlmGateway.Chat
