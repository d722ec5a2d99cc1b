import LlmGateway.Chat.World
import LlmGateway.Lib.EventStream
import LlmGateway.Lib.ObjectLiterals
import LlmGateway.Quota.Views

/-!
What a refused request is told: the bodies of the 429 of an exhausted quota and
of the 403 of an alias that is not permitted, in the shapes of both protocols,
and the body of any other failure.
-/

namespace LlmGateway.Refusals

open EventStream Js Js.Literal Quota

/-- `text.padStart(width, '0')` of the digits of a number. -/
def padStart (width : ℕ) (number : ℕ) : String :=
  String.ofList (List.replicate (width - (toString number).length) '0') ++ toString number

/-- The year of an ISO date: four digits, or a sign and six of them. -/
def isoYear (year : ℤ) : String :=
  if 0 ≤ year ∧ year ≤ 9999 then padStart 4 year.toNat
  else (if year < 0 then "-" else "+") ++ padStart 6 year.natAbs

/-- `new Date(ms).toISOString()` of an instant that `Date` can hold. -/
def toISOString (ms : ℤ) : String :=
  let day := ms / msPerDay
  let time := (ms % msPerDay).toNat
  isoYear (getUTCFullYear ms) ++ "-" ++ padStart 2 (getUTCMonth ms + 1).toNat ++ "-" ++
    padStart 2 (day - Calendar.monthStart (utcMonth ms) + 1).toNat ++ "T" ++
    padStart 2 (time / 3600000) ++ ":" ++ padStart 2 (time / 60000 % 60) ++ ":" ++
    padStart 2 (time / 1000 % 60) ++ "." ++ padStart 3 (time % 1000) ++ "Z"

example : toISOString 1709210096007 = "2024-02-29T12:34:56.007Z" := by decide +kernel

def quotaMessage (detail : QuotaExhaustedDetail) : String :=
  "Monthly token quota for alias \"" ++ detail.aliasKey ++ "\" is exhausted: " ++
    Chat.countText detail.used ++ " of " ++ toString detail.limit ++ " tokens used in " ++
    detail.periodKey ++ ". The quota resets at " ++ toISOString (detail.resetsAt * 1000) ++ "."

def openAiQuotaErrorBody (detail : QuotaExhaustedDetail) : Value :=
  object [("error", object
    [("message", text (quotaMessage detail)), ("type", text "insufficient_quota"),
      ("code", text "quota_exhausted"), ("alias", text detail.aliasKey),
      ("resets_at", integer detail.resetsAt)])]

def anthropicErrorBody (type : String) (message : Value) : Value :=
  object [("type", text "error"), ("error", object [("type", text type), ("message", message)])]

def anthropicQuotaErrorBody (detail : QuotaExhaustedDetail) : Value :=
  anthropicErrorBody "rate_limit_error" (text (quotaMessage detail))

def aliasForbiddenMessage (aliasKey : String) : String :=
  "Alias \"" ++ aliasKey ++ "\" is not permitted for this client. " ++
    "Ask the gateway operator to grant access to it."

def openAiAliasForbiddenBody (aliasKey : String) : Value :=
  object [("error", object
    [("message", text (aliasForbiddenMessage aliasKey)), ("type", text "permission_error"),
      ("code", text "alias_not_permitted"), ("alias", text aliasKey)])]

def anthropicAliasForbiddenBody (aliasKey : String) : Value :=
  anthropicErrorBody "permission_error" (text (aliasForbiddenMessage aliasKey))

/-- What a controller's `catch (err)` tells apart. -/
inductive Caught where
  | quotaExhausted (detail : QuotaExhaustedDetail)
  | aliasNotPermitted (aliasKey : String)
  /-- Any other error, with what `err?.message` reads. -/
  | other (message : Value) (plain : PlainNumbers message)

/-- `value || fallback`. -/
def orElse (value fallback : Value) : Value := if value.truthy then value else fallback

/-- `err?.message || 'upstream error'`. -/
def upstreamMessage (message : Value) : Value := orElse message (text "upstream error")

namespace Caught

def openAiBody : Caught → Value
  | .quotaExhausted detail => openAiQuotaErrorBody detail
  | .aliasNotPermitted aliasKey => openAiAliasForbiddenBody aliasKey
  | .other message _ => object [("error", object [("message", upstreamMessage message)])]

def anthropicBody : Caught → Value
  | .quotaExhausted detail => anthropicQuotaErrorBody detail
  | .aliasNotPermitted aliasKey => anthropicAliasForbiddenBody aliasKey
  | .other message _ => anthropicErrorBody "api_error" (upstreamMessage message)

theorem upstreamMessage_plain (message : Value) (plain : PlainNumbers message) :
    PlainNumbers (upstreamMessage message) := by
  unfold upstreamMessage orElse
  split
  · exact plain
  · trivial

theorem openAiBody_plain (caught : Caught) : PlainNumbers caught.openAiBody := by
  cases caught with
  | quotaExhausted detail =>
      exact ⟨⟨trivial, trivial, trivial, trivial, int_unbroken detail.resetsAt, trivial⟩, trivial⟩
  | aliasNotPermitted aliasKey =>
      exact ⟨⟨trivial, trivial, trivial, trivial, trivial⟩, trivial⟩
  | other message plain => exact ⟨⟨upstreamMessage_plain message plain, trivial⟩, trivial⟩

theorem anthropicBody_plain (caught : Caught) : PlainNumbers caught.anthropicBody := by
  cases caught with
  | quotaExhausted detail => exact ⟨trivial, ⟨trivial, trivial, trivial⟩, trivial⟩
  | aliasNotPermitted aliasKey => exact ⟨trivial, ⟨trivial, trivial, trivial⟩, trivial⟩
  | other message plain =>
      exact ⟨trivial, ⟨trivial, upstreamMessage_plain message plain, trivial⟩, trivial⟩

end Caught

end LlmGateway.Refusals
