import LlmGateway.Auth.Clients
import LlmGateway.Search.Provider

/-!
`SearchService` and the REST controller over it: the arguments a search may
have, the record every search leaves, and the answer, without the details of the
provider.
-/

namespace LlmGateway.Search

open Js Js.Literal

section Arguments

/-- `YYYY-MM-DDtoYYYY-MM-DD`, a digit where nothing is fixed. -/
def rangeShape : List (Option UInt16) :=
  "0000-00-00to0000-00-00".toList.map fun char =>
    if char = '0' then none else some (UInt16.ofNat char.toNat)

def fits (shape : Option UInt16) (unit : UInt16) : Bool :=
  match shape with
  | none => decimalDigit unit
  | some fixed => unit == fixed

/-- The pattern of `freshness`. -/
def isFreshness (text : Utf16) : Bool :=
  ["pd", "pw", "pm", "py"].any (fun window => text == units window) ||
    (text.length == rangeShape.length && (rangeShape.zipWith fits text).all id)

example : isFreshness (units "2026-01-01to2026-02-28") = true := by decide +kernel

structure SearchBody where
  query : Utf16
  count : Option ℕ
  freshness : Option Utf16
  fetchContent : Option Bool
  queryLength : 1 ≤ query.length ∧ query.length ≤ 500
  countRange : ∀ number ∈ count, 1 ≤ number ∧ number ≤ 20
  freshnessShape : ∀ text ∈ freshness, isFreshness text = true

def natural? : Value → Option ℕ
  | .number printed => match numberOf printed with
    | .finite value => if value.den = 1 ∧ 0 ≤ value then some value.num.toNat else none
    | _ => none
  | _ => none

/-- An optional field: `undefined` is accepted, and what `read` refuses is not. -/
def optionalField {α : Type} (read : Value → Option α) (value : Value) : Option (Option α) :=
  if value.defined then (read value).map some else some none

def boolean? : Value → Option Bool
  | .boolean value => some value
  | _ => none

def freshness? (value : Value) : Option Utf16 :=
  (string? value).filter fun text => isFreshness text

/-- `SearchBodySchema.safeParse`; the issues of a refusal are left out. -/
def searchBodySchema : Value → Option SearchBody
  | .object fields => do
      let field := fun name : String => (Value.object fields).member (units name)
      let query ← string? (field "query")
      let count ← optionalField natural? (field "count")
      let freshness ← optionalField freshness? (field "freshness")
      let fetchContent ← optionalField boolean? (field "fetch_content")
      if valid : (1 ≤ query.length ∧ query.length ≤ 500) ∧
          (∀ number ∈ count, 1 ≤ number ∧ number ≤ 20) ∧
          (∀ text ∈ freshness, isFreshness text = true) then
        some ⟨query, count, freshness, fetchContent, valid.1, valid.2.1, valid.2.2⟩
      else none
  | _ => none

def toOptions (body : SearchBody) : SearchOptions where
  query := body.query
  count := body.count
  freshness := body.freshness
  fetchContent := body.fetchContent

end Arguments

section Service

/-- What `recordSuccess` and `recordFailure` leave in the log and among the
events: the provider, the client, and the number of results or the error. -/
structure SearchRecord where
  providerId : String
  clientKey : Option Quota.ClientId
  outcome : Except SearchProviderError (ℕ × Bool)

/-- Every error of a search becomes a `SearchProviderError`. -/
def mapped : SearchFailure → SearchProviderError
  | .provider error => error
  | .other message => .unavailable message

def serve (providerId : String) (clientId : Option Quota.ClientId)
    (answer : Except SearchFailure SearchResponse) :
    Except SearchFailure SearchResponse × SearchRecord :=
  match answer with
  | .ok response =>
      (.ok response, { providerId := providerId, clientKey := clientId,
                       outcome := .ok (response.results.length, response.cached) })
  | .error failure =>
      (.error (.provider (mapped failure)),
        { providerId := providerId, clientKey := clientId, outcome := .error (mapped failure) })

/-- `SearchService.search` over the provider of the module. -/
def search (provider : HttpSearchProvider) (post : Value → ℕ → HttpOutcome) (body : SearchBody)
    (clientId : Option Quota.ClientId) : Except SearchFailure SearchResponse × SearchRecord :=
  serve provider.id clientId (provider.search post (toOptions body))

end Service

section Answers

def stripSource (response : SearchResponse) : SearchResponse :=
  { response with results := response.results.map fun result => { result with source := none } }

def resultValue (result : SearchResult) : Value :=
  .object (fieldsOf
    [("title", some (.string result.title)), ("url", some (.string result.url)),
      ("snippet", some (.string result.snippet)), ("content", result.content.map Value.string),
      ("source", result.source.map Value.string)])

def responseValue (response : SearchResponse) : Value :=
  object [("results", .array (response.results.map resultValue)),
    ("cached", .boolean response.cached)]

def searchErrorEnvelope (error : SearchProviderError) : Value :=
  object [("error", .object (fieldsOf
    [("message", some (.string error.message)), ("type", text error.code.name),
      ("code", text error.code.name),
      ("retryAfterMs", error.retryAfterMs.map natural)]))]

def searchErrorStatus (error : SearchProviderError) : ℕ :=
  match error.code with
  | .rateLimited => 429
  | .timeout => 504
  | .unavailable => 502

/-- `validateStatus`. -/
abbrev Succeeded (status : ℕ) : Prop := 200 ≤ status ∧ status < 300

/-- What the framework answers with when a handler sets no status. -/
structure SuccessStatus where
  code : ℕ
  success : Succeeded code

/-- An HTTP answer, with its `Retry-After` header. -/
structure SearchReply where
  status : ℕ
  retryAfter : Option String
  body : Value

/-- `Math.max(1, Math.ceil(ms / 1000))`. -/
def retrySeconds (ms : ℕ) : ℕ := max 1 ((ms + 999) / 1000)

def errorReply (error : SearchProviderError) : SearchReply where
  status := searchErrorStatus error
  retryAfter := if error.code = .rateLimited then
    error.retryAfterMs.map fun ms => toString (retrySeconds ms) else none
  body := searchErrorEnvelope error

/-- `SearchController.search` behind the validation of its body. -/
def searchReply (served : SuccessStatus) : Except SearchFailure SearchResponse → SearchReply
  | .ok response =>
      { status := served.code, retryAfter := none, body := responseValue (stripSource response) }
  | .error (.provider error) => errorReply error
  | .error (.other _) => errorReply (.unavailable (units "Search failed unexpectedly."))

end Answers

end LlmGateway.Search
