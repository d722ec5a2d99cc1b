import LlmGateway.Lib.JsDynamic

/-!
The response object of an HTTP server. The status line and the headers go out
with the first bytes of the body: what is set later does not reach the client.
-/

namespace HttpReply

open Js

structure Head where
  statusCode : ℕ
  headers : List (String × String)
  deriving DecidableEq

structure Reply where
  head : Head
  /-- The head as the client received it. -/
  sent : Option Head
  written : List Utf16
  ended : Bool
  deriving DecidableEq

namespace Reply

/-- The reply a handler gets: the framework has chosen a status for what is served. -/
def fresh (served : ℕ) : Reply where
  head := { statusCode := served, headers := [] }
  sent := none
  written := []
  ended := false

variable (reply : Reply)

def headersSent : Bool := reply.sent.isSome

def setStatusCode (statusCode : ℕ) : Reply :=
  { reply with head := { reply.head with statusCode := statusCode } }

def setHeader (name value : String) : Reply :=
  { reply with
    head := { reply.head with
      headers := reply.head.headers.filter (·.1 ≠ name) ++ [(name, value)] } }

/-- The first bytes take the head with them. -/
def flushHead : Reply := { reply with sent := some (reply.sent.getD reply.head) }

def write (text : Utf16) : Reply :=
  { reply.flushHead with written := reply.written ++ [text] }

def «end» : Reply := { reply.flushHead with ended := true }

section Headers

variable (name value : String)

def header (name : String) : Option String := reply.head.headers.lookup name

@[simp] theorem header_setStatusCode (statusCode : ℕ) :
    (reply.setStatusCode statusCode).header name = reply.header name := rfl

theorem lookup_filter_ne (headers : List (String × String)) :
    (headers.filter (·.1 ≠ name)).lookup name = none := by
  rw [List.lookup_eq_none_iff]
  intro entry member
  have other : entry.1 ≠ name := of_decide_eq_true (List.mem_filter.mp member).2
  exact bne_iff_ne.mpr (Ne.symm other)

theorem lookup_filter_other (headers : List (String × String)) (other : String)
    (different : other ≠ name) :
    (headers.filter (·.1 ≠ name)).lookup other = headers.lookup other := by
  induction headers with
  | nil => rfl
  | cons entry rest ih =>
      obtain ⟨key, held⟩ := entry
      by_cases same : key = name
      · have apart : (other == key) = false := beq_false_of_ne (same ▸ different)
        rw [List.filter_cons_of_neg (by simpa using same), ih, List.lookup_cons, apart]
      · rw [List.filter_cons_of_pos (by simpa using same), List.lookup_cons, List.lookup_cons, ih]

@[simp] theorem header_setHeader_self : (reply.setHeader name value).header name = some value := by
  change (reply.head.headers.filter (·.1 ≠ name) ++ [(name, value)]).lookup name = _
  rw [List.lookup_append, lookup_filter_ne, List.lookup_cons_self]
  rfl

theorem header_setHeader_ne (other : String) (different : other ≠ name) :
    (reply.setHeader name value).header other = reply.header other := by
  have apart : (other == name) = false := beq_false_of_ne different
  change (reply.head.headers.filter (·.1 ≠ name) ++ [(name, value)]).lookup other = _
  rw [List.lookup_append, lookup_filter_other _ _ _ different, List.lookup_cons, apart]
  exact Option.or_none

end Headers

def writeAll (texts : List Utf16) : Reply := texts.foldl write reply

@[simp] theorem writeAll_nil : reply.writeAll [] = reply := rfl

@[simp] theorem writeAll_head (texts : List Utf16) : (reply.writeAll texts).head = reply.head := by
  induction texts generalizing reply with
  | nil => rfl
  | cons text rest ih => exact ih (reply.write text)

@[simp] theorem writeAll_written (texts : List Utf16) :
    (reply.writeAll texts).written = reply.written ++ texts := by
  induction texts generalizing reply with
  | nil => exact (List.append_nil _).symm
  | cons text rest ih =>
      change ((reply.write text).writeAll rest).written = _
      rw [ih, write, List.append_assoc]
      rfl

@[simp] theorem writeAll_sent (texts : List Utf16) :
    (reply.writeAll texts).sent =
      if texts = [] then reply.sent else some (reply.sent.getD reply.head) := by
  induction texts generalizing reply with
  | nil => rfl
  | cons text rest ih =>
      change ((reply.write text).writeAll rest).sent = _
      rw [ih, if_neg (List.cons_ne_nil text rest)]
      split <;> rfl

end Reply

end HttpReply
