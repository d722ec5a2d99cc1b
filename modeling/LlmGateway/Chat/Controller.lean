import LlmGateway.Access.EventReply

/-!
`ChatController.completions` on both of its transports. What `ChatService`
hands over is given: a result or an error, or the chunks of a stream (after
`toJSON`) and the error that cut it short, if one did.
-/

namespace LlmGateway.ChatController

open EventReply EventStream HttpReply Js Js.Literal Quota Refusals

/-- ``reply.raw.write(`data: ${text}\n\n`)``. -/
def dataText (text : Utf16) : Utf16 := units "data: " ++ text ++ units "\n\n"

def doneText : Utf16 := units "[DONE]"

def writeQuotaErrorFrame (nowMs : ℤ) (detail : QuotaExhaustedDetail) (reply : Reply) : Reply :=
  writeErrorFrame 429 (retryAfter nowMs (.quotaExhausted detail))
    [dataText (stringify (openAiQuotaErrorBody detail))] reply

def writeAliasForbiddenFrame (aliasKey : String) (reply : Reply) : Reply :=
  writeErrorFrame 403 [] [dataText (stringify (openAiAliasForbiddenBody aliasKey))] reply

/-- The branch of `body.stream`. -/
def streamCompletions (served : ℕ) (nowMs : ℤ) (chunks : List Value) (failure : Option Caught) :
    Reply :=
  let reply := (openEventStream served).writeAll
    (chunks.map fun chunk => dataText (stringify chunk))
  match failure with
  | none => (reply.write (dataText doneText)).end
  | some (.quotaExhausted detail) => writeQuotaErrorFrame nowMs detail reply
  | some (.aliasNotPermitted aliasKey) => writeAliasForbiddenFrame aliasKey reply
  | some (.other message plain) =>
      (reply.write (dataText (stringify (Caught.openAiBody (.other message plain))))).end

def bufferedCompletions (served : ℕ) (nowMs : ℤ) : Except Caught Value → Reply
  | .ok result => send [] result (Reply.fresh served)
  | .error (.quotaExhausted detail) =>
      (Reply.fresh served).setStatusCode 429
        |> send (retryAfter nowMs (.quotaExhausted detail)) (openAiQuotaErrorBody detail)
  | .error (.aliasNotPermitted aliasKey) =>
      (Reply.fresh served).setStatusCode 403 |> send [] (openAiAliasForbiddenBody aliasKey)
  | .error (.other message plain) =>
      (Reply.fresh served).setStatusCode 500
        |> send [] (Caught.openAiBody (.other message plain))

def lastText (failure : Option Caught) : Utf16 :=
  failure.elim doneText fun caught => stringify caught.openAiBody

def dataMessage (text : Utf16) : Message where
  type := units "message"
  data := text

def streamMessages (chunks : List Value) (failure : Option Caught) : List Message :=
  (chunks.map stringify ++ [lastText failure]).map dataMessage

section Streaming

variable (served : ℕ) (nowMs : ℤ) (chunks : List Value) (failure : Option Caught)

theorem dataText_wire (text : Utf16) : dataText text = Frame.wire { type := none, data := text } := by
  rw [dataText, Frame.wire, show units "\n\n" = [lineFeed] ++ [lineFeed] by decide +kernel,
    ← List.append_assoc]
  rfl

theorem stream_written :
    (streamCompletions served nowMs chunks failure).written =
      (chunks.map stringify ++ [lastText failure]).map dataText := by
  have opened : (openEventStream served).written = [] := rfl
  rw [List.map_append, List.map_map]
  rcases failure with _ | detail | aliasKey | ⟨message, plain⟩
  · change ((openEventStream served).writeAll _).written ++ _ = _
    rw [Reply.writeAll_written, opened]
    rfl
  · change (writeErrorFrame _ _ _ _).written = _
    rw [writeErrorFrame_written, Reply.writeAll_written, opened]
    rfl
  · change (writeErrorFrame _ _ _ _).written = _
    rw [writeErrorFrame_written, Reply.writeAll_written, opened]
    rfl
  · change ((openEventStream served).writeAll _).written ++ _ = _
    rw [Reply.writeAll_written, opened]
    rfl

theorem stream_ended : (streamCompletions served nowMs chunks failure).ended = true := by
  rcases failure with _ | detail | aliasKey | ⟨message, plain⟩ <;> rfl

theorem lastText_unbroken : Unbroken (lastText failure) := by
  cases failure with
  | none => decide +kernel
  | some caught => exact stringify_unbroken _ (Caught.openAiBody_plain caught)

theorem stream_delivers (values : ∀ chunk ∈ chunks, PlainNumbers chunk) :
    Delivers (streamCompletions served nowMs chunks failure)
      (streamMessages chunks failure) := by
  have clean : ∀ text ∈ chunks.map stringify ++ [lastText failure], Unbroken text := by
    intro text member
    rcases List.mem_append.mp member with streamed | last
    · obtain ⟨chunk, among, rfl⟩ := List.mem_map.mp streamed
      exact stringify_unbroken chunk (values chunk among)
    · rw [List.mem_singleton.mp last]
      exact lastText_unbroken failure
  have delivered := delivers_of_frames (streamCompletions served nowMs chunks failure)
    ((chunks.map stringify ++ [lastText failure]).map fun text => { type := none, data := text })
    (by
      intro frame member
      obtain ⟨text, among, rfl⟩ := List.mem_map.mp member
      exact ⟨clean text among, fun _ => (nomatch ·), fun _ => (nomatch ·)⟩)
    (by
      rw [stream_written, List.map_map]
      exact congrArg List.flatten (List.map_congr_left fun text _ => dataText_wire text))
    (stream_ended served nowMs chunks failure)
  rw [List.map_map] at delivered
  exact delivered

theorem stream_sent :
    (streamCompletions served nowMs chunks failure).sent = some
      (if chunks = [] then openingHead served nowMs failure else (openEventStream served).head) := by
  cases chunks with
  | nil => rcases failure with _ | detail | aliasKey | ⟨message, plain⟩ <;> rfl
  | cons chunk rest =>
      have out : ((openEventStream served).writeAll ((chunk :: rest).map fun chunk =>
          dataText (stringify chunk))).sent = some (openEventStream served).head := by
        rw [Reply.writeAll_sent, if_neg (by simp)]
        rfl
      rw [if_neg (List.cons_ne_nil chunk rest)]
      rcases failure with _ | detail | aliasKey | ⟨message, plain⟩
      · exact write_end_sent _ _ _ out
      · exact (writeErrorFrame_sent _ _ _ _).trans (by rw [out]; rfl)
      · exact (writeErrorFrame_sent _ _ _ _).trans (by rw [out]; rfl)
      · exact write_end_sent _ _ _ out

theorem object_not_done (fields : List (Utf16 × Value)) : stringify (.object fields) ≠ doneText := by
  intro same
  have first := congrArg List.head? same
  have brace : units "\x7b" = [0x7B] := by decide +kernel
  have bracket : doneText.head? = some 0x5B := by decide +kernel
  rw [stringify, Value.json, Option.getD_some, braces, brace, bracket] at first
  cases first

theorem done_mem_iff (objects : ∀ chunk ∈ chunks, ∃ fields, chunk = .object fields) :
    dataMessage doneText ∈ streamMessages chunks failure ↔ failure = none := by
  have same : ∀ text, dataMessage text = dataMessage doneText ↔ text = doneText :=
    fun text => ⟨congrArg Message.data, congrArg dataMessage⟩
  constructor
  · intro member
    obtain ⟨text, among, done⟩ := List.mem_map.mp member
    rw [same] at done
    subst done
    rcases List.mem_append.mp among with streamed | last
    · obtain ⟨chunk, sent, printed⟩ := List.mem_map.mp streamed
      obtain ⟨fields, rfl⟩ := objects chunk sent
      exact absurd printed (object_not_done fields)
    · cases failure with
      | none => rfl
      | some caught =>
          have printed := (List.mem_singleton.mp last).symm
          cases caught <;> exact absurd printed (object_not_done _)
  · rintro rfl
    exact List.mem_map.mpr ⟨doneText, List.mem_append_right _ (List.mem_singleton_self _), rfl⟩

end Streaming

/-- A client of a stream gets the chunks in order and behind them either
`[DONE]`, which tells that the stream is whole, or the error that cut it short.
Only a refusal before the first chunk has a status of its own. -/
theorem completions_stream (served : ℕ) (nowMs : ℤ) (chunks : List Value) (failure : Option Caught)
    (values : ∀ chunk ∈ chunks, PlainNumbers chunk ∧ ∃ fields, chunk = .object fields) :
    Delivers (streamCompletions served nowMs chunks failure) (streamMessages chunks failure) ∧
      (dataMessage doneText ∈ streamMessages chunks failure ↔ failure = none) ∧
      (streamCompletions served nowMs chunks failure).sent = some
        (if chunks = [] then openingHead served nowMs failure else (openEventStream served).head) :=
  ⟨stream_delivers served nowMs chunks failure (fun chunk member => (values chunk member).1),
    done_mem_iff chunks failure fun chunk member => (values chunk member).2,
    stream_sent served nowMs chunks failure⟩

def droppedChunk : Value := object [("id", text "c1"), ("choices", .array [])]

def hangUp : Caught := .other (text "socket hang up") trivial

theorem completions_stream_dropped :
    Delivers (streamCompletions 201 0 [droppedChunk] (some hangUp))
        (streamMessages [droppedChunk] (some hangUp)) ∧
      (dataMessage doneText ∈ streamMessages [droppedChunk] (some hangUp) ↔ some hangUp = none) ∧
      (streamCompletions 201 0 [droppedChunk] (some hangUp)).sent = some
        (if [droppedChunk] = [] then openingHead 201 0 (some hangUp) else (openEventStream 201).head) :=
  completions_stream 201 0 [droppedChunk] (some hangUp) fun chunk member => by
    cases List.mem_singleton.mp member
    exact ⟨⟨trivial, trivial, trivial⟩, _, rfl⟩

end LlmGateway.ChatController
