import LlmGateway.Access.Refusals
import LlmGateway.Lib.HttpReply

/-!
What the two streaming controllers share: the reply they open, the error frame
they close it with, and the buffered answers. The error frame changes the
status line only while nothing has been flushed.
-/

namespace LlmGateway.EventReply

open EventStream HttpReply Js Js.Literal Quota Refusals

/-- `JSON.stringify` inside a template, where no text prints as `undefined`. -/
def stringify (value : Value) : Utf16 := value.json.getD (units "undefined")

def openEventStream (served : ℕ) : Reply :=
  Reply.fresh served
    |>.setHeader "Content-Type" "text/event-stream"
    |>.setHeader "Cache-Control" "no-cache"
    |>.setHeader "Connection" "keep-alive"
    |>.setHeader "X-Accel-Buffering" "no"

def setHeaders (headers : List (String × String)) (reply : Reply) : Reply :=
  headers.foldl (fun reply header => reply.setHeader header.1 header.2) reply

def announce (statusCode : ℕ) (headers : List (String × String)) (reply : Reply) : Reply :=
  if reply.headersSent then reply
  else setHeaders headers (reply.setStatusCode statusCode)

def writeErrorFrame (statusCode : ℕ) (headers : List (String × String)) (texts : List Utf16)
    (reply : Reply) : Reply :=
  ((announce statusCode headers reply).writeAll texts).end

/-- `reply.header(..).send(value)`; the length header is left out. -/
def send (headers : List (String × String)) (value : Value) (reply : Reply) : Reply :=
  ((setHeaders headers reply).setHeader "content-type" "application/json; charset=utf-8"
    |>.write (stringify value)).end

/-- `Retry-After`, which only the quota sends. -/
def retryAfter (nowMs : ℤ) : Caught → List (String × String)
  | .quotaExhausted detail => [("Retry-After", toString (detail.retryAfterSeconds nowMs))]
  | _ => []

def openingHead (served : ℕ) (nowMs : ℤ) : Option Caught → Head
  | some (.quotaExhausted detail) =>
      (setHeaders (retryAfter nowMs (.quotaExhausted detail))
        ((openEventStream served).setStatusCode 429)).head
  | some (.aliasNotPermitted _) => ((openEventStream served).setStatusCode 403).head
  | some (.other _ _) => (openEventStream served).head
  | none => (openEventStream served).head

section Frames

variable (reply : Reply) (statusCode : ℕ) (headers : List (String × String)) (texts : List Utf16)

theorem setHeaders_frame (start : Reply) :
    (setHeaders headers start).written = start.written ∧
      (setHeaders headers start).sent = start.sent := by
  induction headers generalizing start with
  | nil => exact ⟨rfl, rfl⟩
  | cons header rest ih => exact ih (start.setHeader header.1 header.2)

theorem announce_written : (announce statusCode headers reply).written = reply.written := by
  unfold announce
  split
  · rfl
  · exact (setHeaders_frame headers _).1

@[simp] theorem writeErrorFrame_written :
    (writeErrorFrame statusCode headers texts reply).written = reply.written ++ texts := by
  change ((announce statusCode headers reply).writeAll texts).written = _
  rw [Reply.writeAll_written, announce_written]

theorem writeErrorFrame_sent :
    (writeErrorFrame statusCode headers texts reply).sent = some
      (reply.sent.getD (setHeaders headers (reply.setStatusCode statusCode)).head) := by
  change some (((announce statusCode headers reply).writeAll texts).sent.getD
    ((announce statusCode headers reply).writeAll texts).head) = _
  rw [Reply.writeAll_sent, Reply.writeAll_head]
  unfold announce Reply.headersSent
  cases out : reply.sent with
  | some head =>
      simp only [Option.isSome_some, ↓reduceIte, out, Option.getD_some]
      split <;> rfl
  | none =>
      have still := (setHeaders_frame headers (reply.setStatusCode statusCode)).2
      have closed : (setHeaders headers (reply.setStatusCode statusCode)).sent = none :=
        still.trans out
      simp only [Option.isSome_none, Bool.false_eq_true, ↓reduceIte, Option.getD_none]
      change some ((if texts = [] then (setHeaders headers (reply.setStatusCode statusCode)).sent
        else _).getD _) = _
      rw [closed]
      split <;> rfl

theorem end_sent (head : Head) (out : reply.sent = some head) : reply.end.sent = some head := by
  change some (reply.sent.getD reply.head) = _
  rw [out]
  rfl

theorem write_end_sent (text : Utf16) (head : Head) (out : reply.sent = some head) :
    (reply.write text).end.sent = some head := by
  refine end_sent _ head ?_
  change some (reply.sent.getD reply.head) = _
  rw [out]
  rfl

end Frames

/-- Whatever way the bytes travel, an event-stream reader gets these messages,
and no more will come. -/
structure Delivers (reply : Reply) (messages : List Message) : Prop where
  ended : reply.ended = true
  reads : ∀ packets : List Utf16, packets.flatten = reply.written.flatten →
    packets.foldl Reader.read (.between []) = .between messages

theorem delivers_of_frames (reply : Reply) (frames : List Frame)
    (clean : ∀ frame ∈ frames, frame.Clean)
    (written : reply.written.flatten = (frames.map Frame.wire).flatten)
    (ended : reply.ended = true) : Delivers reply (frames.map Frame.message) where
  ended := ended
  reads := fun packets cut => by
    rw [read_frames [] frames clean packets (cut.trans written), List.nil_append]

theorem stringify_unbroken (value : Value) (plain : PlainNumbers value) :
    Unbroken (stringify value) := by
  unfold stringify
  cases printed : value.json with
  | none => decide +kernel
  | some text => exact json_unbroken value plain text printed

end LlmGateway.EventReply
