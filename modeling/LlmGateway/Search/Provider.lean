import LlmGateway.Lib.Numerals
import LlmGateway.Lib.ObjectLiterals

/-!
The search provider behind its HTTP interface: the request it posts, what it
makes of an answer, and how it names the ways a request can fail.
-/

namespace LlmGateway.Search

open Js Js.Literal

structure SearchOptions where
  query : Utf16
  count : Option ℕ
  freshness : Option Utf16
  fetchContent : Option Bool
  deriving DecidableEq

structure SearchResult where
  title : Utf16
  url : Utf16
  snippet : Utf16
  content : Option Utf16
  /-- A detail of the provider. -/
  source : Option Utf16
  deriving DecidableEq

structure SearchResponse where
  results : List SearchResult
  cached : Bool
  deriving DecidableEq

inductive SearchErrorCode where
  | unavailable
  | rateLimited
  | timeout
  deriving DecidableEq

def SearchErrorCode.name : SearchErrorCode → String
  | .unavailable => "search_unavailable"
  | .rateLimited => "search_rate_limited"
  | .timeout => "search_timeout"

structure SearchProviderError where
  message : Utf16
  code : SearchErrorCode
  retryAfterMs : Option ℕ
  deriving DecidableEq

def SearchProviderError.unavailable (message : Utf16) : SearchProviderError :=
  { message := message, code := .unavailable, retryAfterMs := none }

inductive SearchFailure where
  | provider (error : SearchProviderError)
  /-- Any other error, with its message. -/
  | other (message : Utf16)
  deriving DecidableEq

section Answers

/-- `typeof value === 'string'`. -/
def string? : Value → Option Utf16
  | .string text => some text
  | _ => none

def isTrue : Value → Bool
  | .boolean true => true
  | _ => false

def items : Value → List Value
  | .array items => items
  | _ => []

def nonEmpty (text : Option Utf16) : Option Utf16 := text.filter (· ≠ [])

/-- One entry of `results`; an entry without a usable `url` is skipped. -/
def normalizeResult (item : Value) : Option SearchResult :=
  let url := trim ((string? (item.member (units "url"))).getD [])
  if url = [] then none
  else some
    { title := (string? (item.member (units "title"))).getD []
      url := url
      snippet := (string? (item.member (units "snippet"))).getD []
      content := nonEmpty (string? (item.member (units "content")))
      source := nonEmpty (string? (item.member (units "source"))) }

/-- `typeof value === 'object'`, `null` apart. -/
def isObject : Value → Bool
  | .object _ | .array _ => true
  | _ => false

def normalizeResponse (data : Value) : Except SearchFailure SearchResponse :=
  if isObject data then .ok
    { results := (items (data.member (units "results"))).filterMap normalizeResult
      cached := isTrue (data.member (units "cached")) }
  else .error (.provider (.unavailable (units "Search provider returned an empty response.")))

end Answers

inductive HttpOutcome where
  /-- A status from 200 to 299. -/
  | ok (data : Value)
  /-- Another status, with the `Retry-After` header, the body and the client's message. -/
  | refused (status : ℕ) (retryAfter : Option Utf16) (data : Value) (message : Utf16)
  /-- An error of the client library without a response. -/
  | unanswered (code : String) (message : Utf16)
  /-- An error named `TimeoutError`. -/
  | timedOut
  | failed (message : Utf16)

structure HttpSearchProvider where
  id : String
  apiKeyEnv : Option String
  apiKey : Option String
  deriving DecidableEq

section Requests

def timeoutMs (opts : SearchOptions) : ℕ := if opts.fetchContent = some true then 120000 else 30000

def postBody (opts : SearchOptions) : Value :=
  .object (fieldsOf
    [("query", some (.string opts.query)), ("count", opts.count.map natural),
      ("freshness", opts.freshness.map Value.string),
      ("fetch_content", opts.fetchContent.map Value.boolean)])

/-- A whole number of milliseconds; a double holds it exactly up to `2 ^ 53`. -/
def parseRetryAfter (header : Option Utf16) : Option ℕ :=
  (header.bind parseInt).map fun seconds => seconds.toNat * 1000

def timeoutError (opts : SearchOptions) : SearchProviderError where
  message := units ("Search provider timed out after " ++ toString (timeoutMs opts) ++ "ms.")
  code := .timeout
  retryAfterMs := none

/-- The body of a refusal as a text; `String` may throw. -/
def detail (data : Value) (message : Utf16) : Except Thrown Utf16 :=
  match data with
  | .object fields => match fields.lookup (units "error") with
    | some error => .ok (error.json.getD (units "undefined"))
    | none => (Value.object fields).toText
  | data => if data.nullish then .ok message else data.toText

def thrownMessage : Thrown → Utf16
  | .error _ message => units message
  | .text value => units value
  | .other printed => units printed

def httpError (status : String) (detail : Utf16) : SearchFailure :=
  .provider (.unavailable (units ("Search provider error (HTTP " ++ status ++ "): ") ++ detail))

def mapError (opts : SearchOptions) : HttpOutcome → Except SearchFailure SearchResponse
  | .ok data => normalizeResponse data
  | .refused status retryAfter data message =>
      if status = 429 then .error (.provider
        { message := units
            "Search provider rate limit exceeded. Retry after the indicated time."
          code := .rateLimited
          retryAfterMs := parseRetryAfter retryAfter })
      else match detail data message with
        | .ok text => .error (httpError (toString status) text)
        | .error thrown => .error (.other (thrownMessage thrown))
  | .unanswered code message =>
      if code = "ECONNABORTED" ∨ code = "ETIMEDOUT" then .error (.provider (timeoutError opts))
      else .error (httpError "unknown" message)
  | .timedOut => .error (.provider (timeoutError opts))
  | .failed message => .error (.provider (.unavailable message))

/-- `post` is the client: the body and the timeout, and how it ends. -/
def HttpSearchProvider.search (provider : HttpSearchProvider) (post : Value → ℕ → HttpOutcome)
    (opts : SearchOptions) : Except SearchFailure SearchResponse :=
  if provider.apiKey.all (· = "") then .error (.provider (.unavailable (units
    ("Provider \"" ++ provider.id ++ "\" requires env var " ++
      provider.apiKeyEnv.getD "API key" ++ " but it is not set."))))
  else mapError opts (post (postBody opts) (timeoutMs opts))

end Requests

/-- A result as `normalizeResponse` makes them. -/
structure Normalized (result : SearchResult) : Prop where
  trimmed : trim result.url = result.url
  url : result.url ≠ []
  content : result.content ≠ some []
  source : result.source ≠ some []

theorem normalizeResult_normalized (item : Value) (result : SearchResult)
    (made : normalizeResult item = some result) : Normalized result := by
  have kept : ∀ text, nonEmpty text ≠ some [] := by
    intro text same
    have member := Option.filter_eq_some_iff.mp same
    simpa using member.2
  simp only [normalizeResult] at made
  split at made
  · cases made
  · rename_i usable
    cases made
    exact ⟨trim_trim _, usable, kept _, kept _⟩

theorem normalizeResponse_normalized (data : Value) (response : SearchResponse)
    (made : normalizeResponse data = .ok response) :
    ∀ result ∈ response.results, Normalized result := by
  unfold normalizeResponse at made
  split at made
  · cases made
    intro result member
    obtain ⟨item, _, same⟩ := List.mem_filterMap.mp member
    exact normalizeResult_normalized item result same
  · cases made

end LlmGateway.Search
