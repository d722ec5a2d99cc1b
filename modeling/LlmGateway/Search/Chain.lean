import LlmGateway.Search.Service

/-!
A gateway whose search provider is a gateway. The wire format of the provider is
the one the gateway serves, so any number of them can stand in a row: a search
comes back as from the last of them, and what is lost is the kind of a failure.
The guards of the gateways behind the first let the search through, and none of
the calls between them runs into its timeout.
-/

namespace LlmGateway.Search

open Js Js.Literal

def wire (reply : SearchReply) (message : Utf16) : HttpOutcome :=
  if Succeeded reply.status then .ok reply.body
  else .refused reply.status (reply.retryAfter.map units) reply.body message

/-- `POST /v1/search`; what the validation answers is left out of the body. -/
def gateway (served : SuccessStatus) (provider : HttpSearchProvider)
    (post : Value → ℕ → HttpOutcome) (raw : Value) : SearchReply :=
  match searchBodySchema raw with
  | some body => searchReply served (search provider post body none).1
  | none => { status := 400, retryAfter := none, body := .undefined }

/-- The answer of the first of a row of gateways, each behind the one before it. -/
def answer (served : SuccessStatus) (message : Utf16) (post : Value → ℕ → HttpOutcome) :
    List HttpSearchProvider → HttpSearchProvider → Value → SearchReply
  | [], last => gateway served last post
  | provider :: rest, last =>
      gateway served provider fun body _ => wire (answer served message post rest last body) message

def exactMs : ℕ := 2 ^ 53 / 1000 * 1000

/-- No `Retry-After` of the upstream is beyond them. -/
def Exact (post : Value → ℕ → HttpOutcome) : Prop :=
  ∀ body timeoutMs status header data message,
    post body timeoutMs = .refused status header data message →
      ∀ ms ∈ parseRetryAfter header, ms ≤ exactMs

/-- How the answer of the first of them follows from that of the last. -/
structure Relayed (served : SuccessStatus) (front : List HttpSearchProvider)
    (first last : SearchReply) : Prop where
  succeeded : last.status = served.code → first = last
  limited : last.status = 429 → first.status = 429 ∧ first.retryAfter = last.retryAfter
  failed : last.status ≠ served.code → last.status ≠ 429 →
    first.status = if front = [] then last.status else 502
  /-- The numbers stay those of the doubles that the gateways count with. -/
  exact : ∀ ms ∈ parseRetryAfter (first.retryAfter.map units), ms ≤ exactMs

section Options

variable (body : SearchBody)

theorem natural?_natural (number : ℕ) : natural? (natural number) = some number := by
  have read : numberOf (units (toString number)) = .finite number := numberOf_natural number
  simp only [natural?, natural, read, Rat.den_natCast, Nat.cast_nonneg, and_self, if_true,
    Rat.num_natCast, Int.toNat_natCast]

/-- The request a provider posts is valid for a gateway, and means the same search. -/
theorem schema_postBody : searchBodySchema (postBody (toOptions body)) = some body := by
  have read : ∀ name, Distinct name ["query", "count", "freshness", "fetch_content"] → _ :=
    fun name distinct => member_fieldsOf
      [("query", some (.string body.query)), ("count", body.count.map natural),
        ("freshness", body.freshness.map Value.string),
        ("fetch_content", body.fetchContent.map Value.boolean)] name _ rfl distinct
  have query := read "query" (by decide +kernel)
  have count := read "count" (by decide +kernel)
  have freshness := read "freshness" (by decide +kernel)
  have fetchContent := read "fetch_content" (by decide +kernel)
  have counted : optionalField natural?
      ((body.count.map natural).getD .undefined) = some body.count := by
    cases body.count with
    | none => rfl
    | some number => exact congrArg (Option.map some) (natural?_natural number)
  have fresh : optionalField freshness? ((body.freshness.map Value.string).getD .undefined) =
      some body.freshness := by
    have shape := body.freshnessShape
    cases held : body.freshness with
    | none => rfl
    | some text => simp [optionalField, Value.defined, freshness?, string?, shape text held]
  have fetched : optionalField boolean? ((body.fetchContent.map Value.boolean).getD .undefined) =
      some body.fetchContent := by
    cases body.fetchContent <;> rfl
  simp only [searchBodySchema, postBody, toOptions, query, count, freshness, fetchContent]
  change (optionalField natural? ((body.count.map natural).getD .undefined)).bind _ = _
  rw [counted, Option.bind_some]
  change (optionalField freshness? ((body.freshness.map Value.string).getD .undefined)).bind _ = _
  rw [fresh, Option.bind_some]
  change (optionalField boolean? ((body.fetchContent.map Value.boolean).getD .undefined)).bind _ = _
  rw [fetched, Option.bind_some]
  exact dif_pos ⟨body.queryLength, body.countRange, body.freshnessShape⟩

end Options

section Results

theorem normalizeResult_value (result : SearchResult) (normalized : Normalized result) :
    normalizeResult (resultValue result) = some result := by
  have read : ∀ name, Distinct name ["title", "url", "snippet", "content", "source"] → _ :=
    fun name distinct => member_fieldsOf
      [("title", some (.string result.title)), ("url", some (.string result.url)),
        ("snippet", some (.string result.snippet)), ("content", result.content.map Value.string),
        ("source", result.source.map Value.string)] name _ rfl distinct
  have title : (resultValue result).member (units "title") = .string result.title :=
    read "title" (by decide +kernel)
  have url : (resultValue result).member (units "url") = .string result.url :=
    read "url" (by decide +kernel)
  have snippet : (resultValue result).member (units "snippet") = .string result.snippet :=
    read "snippet" (by decide +kernel)
  have content : (resultValue result).member (units "content") =
      (result.content.map Value.string).getD .undefined := read "content" (by decide +kernel)
  have source : (resultValue result).member (units "source") =
      (result.source.map Value.string).getD .undefined := read "source" (by decide +kernel)
  have words : ∀ text : Utf16, string? (.string text) = some text := fun _ => rfl
  have kept : ∀ text : Option Utf16, text ≠ some [] →
      nonEmpty (string? ((text.map Value.string).getD .undefined)) = text := by
    intro text filled
    cases text with
    | none => rfl
    | some units => exact Option.filter_eq_some_iff.mpr ⟨rfl, by simpa using filled⟩
  simp only [normalizeResult, title, url, snippet, content, source, words, Option.getD_some,
    normalized.trimmed, normalized.url, if_false, kept _ normalized.content,
    kept _ normalized.source]

theorem normalizeResponse_value (response : SearchResponse)
    (normalized : ∀ result ∈ response.results, Normalized result) :
    normalizeResponse (responseValue response) = .ok response := by
  have results : (responseValue response).member (units "results") =
      .array (response.results.map resultValue) :=
    member_object _ "results" ["results", "cached"] rfl (by decide +kernel)
  have cached : (responseValue response).member (units "cached") = .boolean response.cached :=
    member_object _ "cached" ["results", "cached"] rfl (by decide +kernel)
  have read : (response.results.map resultValue).filterMap normalizeResult = response.results := by
    rw [List.filterMap_map]
    have same : ∀ result ∈ response.results,
        (normalizeResult ∘ resultValue) result = some result := fun result member =>
      normalizeResult_value result (normalized result member)
    rw [List.filterMap_congr same, List.filterMap_some]
  have object : isObject (responseValue response) = true := rfl
  rw [normalizeResponse, if_pos object, results, cached, items, read]
  obtain ⟨_, fromCache⟩ := response
  cases fromCache <;> rfl

theorem stripSource_normalized (response : SearchResponse)
    (normalized : ∀ result ∈ response.results, Normalized result) :
    ∀ result ∈ (stripSource response).results, Normalized result := by
  intro result member
  obtain ⟨whole, among, rfl⟩ := List.mem_map.mp member
  have held := normalized whole among
  exact ⟨held.trimmed, held.url, held.content, by simp⟩

theorem stripSource_again (response : SearchResponse) :
    stripSource (stripSource response) = stripSource response := by
  simp [stripSource]

end Results

section Hops

variable (served : SuccessStatus) (message : Utf16) (provider : HttpSearchProvider)
  (post : Value → ℕ → HttpOutcome) (raw : Value) (body : SearchBody)

inductive Answers : SearchReply → Prop where
  | results (response : SearchResponse)
      (normalized : ∀ result ∈ response.results, Normalized result) :
      Answers (searchReply served (.ok response))
  | error (error : SearchProviderError) : Answers (errorReply error)

theorem gateway_valid (accepted : searchBodySchema raw = some body) :
    gateway served provider post raw =
      searchReply served (search provider post body none).1 := by
  rw [gateway, accepted]

theorem mapError_normalized (opts : SearchOptions) (outcome : HttpOutcome)
    (response : SearchResponse) (answered : mapError opts outcome = .ok response) :
    ∀ result ∈ response.results, Normalized result := by
  unfold mapError at answered
  split at answered
  · exact normalizeResponse_normalized _ response answered
  · split at answered
    · cases answered
    · split at answered <;> cases answered
  · split at answered <;> cases answered
  · cases answered
  · cases answered

theorem gateway_answers (accepted : searchBodySchema raw = some body) :
    Answers served (gateway served provider post raw) := by
  rw [gateway_valid served provider post raw body accepted, search]
  cases found : provider.search post (toOptions body) with
  | error failure => exact .error (mapped failure)
  | ok response =>
      refine .results response ?_
      unfold HttpSearchProvider.search at found
      split at found
      · cases found
      · exact mapError_normalized _ _ response found

theorem answer_answers (front : List HttpSearchProvider) (last : HttpSearchProvider)
    (accepted : searchBodySchema raw = some body) :
    Answers served (answer served message post front last raw) := by
  cases front with
  | nil => exact gateway_answers served last post raw body accepted
  | cons provider rest => exact gateway_answers served provider _ raw body accepted

theorem answer_same (front : List HttpSearchProvider) (last : HttpSearchProvider) (other : Value)
    (same : searchBodySchema other = searchBodySchema raw) :
    answer served message post front last other = answer served message post front last raw := by
  cases front with
  | nil => rw [answer, gateway, same, gateway]
  | cons provider rest => rw [answer, gateway, same, gateway]

theorem answer_cons (front : List HttpSearchProvider) (last : HttpSearchProvider)
    (keyed : provider.apiKey.all (· = "") = false) (accepted : searchBodySchema raw = some body) :
    answer served message post (provider :: front) last raw =
      searchReply served (serve provider.id none
        (mapError (toOptions body) (wire (answer served message post front last raw) message))).1 := by
  rw [answer, gateway_valid served provider _ raw body accepted, search,
    HttpSearchProvider.search, keyed,
    answer_same served message post raw front last (postBody (toOptions body))
      ((schema_postBody body).trans accepted.symm)]
  rfl

theorem results_pass (opts : SearchOptions) (response : SearchResponse)
    (normalized : ∀ result ∈ response.results, Normalized result) :
    searchReply served (serve provider.id none
      (mapError opts (wire (searchReply served (.ok response)) message))).1 =
        searchReply served (.ok response) := by
  have wired : wire (searchReply served (.ok response)) message =
      .ok (responseValue (stripSource response)) := if_pos served.success
  rw [wired, mapError, normalizeResponse_value _ (stripSource_normalized response normalized),
    serve, searchReply, stripSource_again]
  rfl

theorem searchErrorStatus_other (error : SearchProviderError) (other : error.code ≠ .rateLimited) :
    searchErrorStatus error = 502 ∨ searchErrorStatus error = 504 := by
  unfold searchErrorStatus
  cases held : error.code with
  | rateLimited => exact absurd held other
  | timeout => exact Or.inr rfl
  | unavailable => exact Or.inl rfl

theorem mapError_error (opts : SearchOptions) (error : SearchProviderError)
    (other : error.code ≠ .rateLimited) :
    ∃ text, mapError opts (wire (errorReply error) message) =
      .error (httpError (toString (searchErrorStatus error)) text) := by
  have status := searchErrorStatus_other error other
  have refused : wire (errorReply error) message = .refused (searchErrorStatus error)
      ((errorReply error).retryAfter.map units) (searchErrorEnvelope error) message := by
    refine if_neg fun within => ?_
    have bound : searchErrorStatus error < 300 := within.2
    omega
  obtain ⟨text, read⟩ : ∃ text, detail (searchErrorEnvelope error) message = .ok text :=
    ⟨_, by rw [searchErrorEnvelope, object, detail, List.map_cons, List.lookup_cons_self]⟩
  refine ⟨text, ?_⟩
  rw [refused, mapError, if_neg (by omega), read]

/-- A limited answer keeps its status and its `Retry-After` on the way. -/
theorem mapError_limited (opts : SearchOptions) (error : SearchProviderError)
    (limited : error.code = .rateLimited) :
    mapError opts (wire (errorReply error) message) = .error (.provider
      { message := units "Search provider rate limit exceeded. Retry after the indicated time."
        code := .rateLimited
        retryAfterMs := error.retryAfterMs.map fun ms => retrySeconds ms * 1000 }) := by
  have status : searchErrorStatus error = 429 := by rw [searchErrorStatus, limited]
  have refused : wire (errorReply error) message = .refused 429
      ((error.retryAfterMs.map fun ms => toString (retrySeconds ms)).map units)
      (searchErrorEnvelope error) message := by
    simp [wire, errorReply, status, limited]
  rw [refused, mapError, if_pos rfl]
  cases error.retryAfterMs with
  | none => rfl
  | some ms =>
      simp only [Option.map_some, parseRetryAfter, Option.bind_some, parseInt_natural,
        Int.toNat_natCast]

theorem retrySeconds_again (ms : ℕ) : retrySeconds (retrySeconds ms * 1000) = retrySeconds ms := by
  unfold retrySeconds
  omega

theorem relay_limited (opts : SearchOptions) (error : SearchProviderError)
    (limited : error.code = .rateLimited) :
    let passed := searchReply served
      (serve provider.id none (mapError opts (wire (errorReply error) message))).1
    passed.status = 429 ∧ passed.retryAfter = (errorReply error).retryAfter := by
  rw [mapError_limited message opts error limited]
  refine ⟨rfl, ?_⟩
  rw [errorReply, if_pos limited]
  cases error.retryAfterMs with
  | none => rfl
  | some ms =>
      exact congrArg (fun seconds : ℕ => some (toString seconds)) (retrySeconds_again ms)

theorem errorReply_exact (error : SearchProviderError)
    (small : ∀ ms ∈ error.retryAfterMs, ms ≤ exactMs) :
    ∀ ms ∈ parseRetryAfter ((errorReply error).retryAfter.map units), ms ≤ exactMs := by
  intro ms member
  rw [errorReply] at member
  dsimp only at member
  split at member
  · cases announced : error.retryAfterMs with
    | none =>
        rw [announced] at member
        cases member
    | some held =>
        rw [announced, Option.map_some, Option.map_some, parseRetryAfter, Option.bind_some,
          parseInt_natural] at member
        cases member
        have bound := small held announced
        change retrySeconds held * 1000 ≤ exactMs
        unfold retrySeconds
        unfold exactMs at bound ⊢
        omega
  · cases member

theorem search_exact (exact : Exact post) (opts : SearchOptions) (failure : SearchFailure)
    (fails : provider.search post opts = .error failure) :
    ∀ ms ∈ (mapped failure).retryAfterMs, ms ≤ exactMs := by
  intro ms member
  unfold HttpSearchProvider.search at fails
  split at fails
  · cases fails
    cases member
  · cases outcome : post (postBody opts) (timeoutMs opts) with
    | refused status header data text =>
        rw [outcome, mapError] at fails
        split at fails
        · cases fails
          exact exact _ _ _ _ _ _ outcome ms member
        · split at fails <;>
            · cases fails
              cases member
    | ok data =>
        rw [outcome, mapError, normalizeResponse] at fails
        split at fails <;> cases fails
        cases member
    | unanswered code text =>
        rw [outcome, mapError] at fails
        split at fails <;>
          · cases fails
            cases member
    | timedOut | failed text =>
        rw [outcome, mapError] at fails
        cases fails
        cases member

theorem gateway_exact (exact : Exact post) :
    ∀ ms ∈ parseRetryAfter ((gateway served provider post raw).retryAfter.map units),
      ms ≤ exactMs := by
  rw [gateway]
  cases searchBodySchema raw with
  | none =>
      intro ms member
      cases member
  | some body =>
      simp only [search]
      cases outcome : provider.search post (toOptions body) with
      | ok response =>
          intro ms member
          cases member
      | error failure =>
          exact errorReply_exact (mapped failure)
            (search_exact provider post exact (toOptions body) failure outcome)

end Hops

/-- Gateways in a row answer a valid search as the last of them does: its
results reach the client as they are, a rate limit keeps its status and its
`Retry-After`, and every other failure has become a 502 behind the first hop.
What is not valid is refused by the first, whatever stands behind it. -/
theorem gateways_in_a_row (served : SuccessStatus) (message : Utf16)
    (post : Value → ℕ → HttpOutcome) (front : List HttpSearchProvider)
    (last : HttpSearchProvider) (raw : Value)
    (keyed : ∀ provider ∈ front, provider.apiKey.all (· = "") = false) (exact : Exact post) :
    (searchBodySchema raw = none → (answer served message post front last raw).status = 400) ∧
      ∀ body, searchBodySchema raw = some body →
        Relayed served front (answer served message post front last raw)
          (gateway served last post raw) := by
  constructor
  · intro refused
    cases front with
    | nil => rw [answer, gateway, refused]
    | cons provider rest => rw [answer, gateway, refused]
  · intro body accepted
    induction front with
    | nil =>
        exact ⟨fun _ => rfl, fun limited => ⟨limited, rfl⟩, fun _ _ => rfl,
          gateway_exact served last post raw exact⟩
    | cons provider rest ih =>
        have relayed := ih fun other member => keyed other (List.mem_cons_of_mem _ member)
        have hop := answer_cons served message provider post raw body rest last
          (keyed provider List.mem_cons_self) accepted
        have held := answer_answers served message post raw body rest last accepted
        generalize answer served message post rest last raw = reply at relayed hop held
        rw [hop]
        have success := served.success
        cases held with
        | results response normalized =>
            rw [results_pass served message provider (toOptions body) response normalized]
            refine ⟨relayed.succeeded, relayed.limited, fun failed other => ?_, relayed.exact⟩
            have status : served.code =
                if rest = [] then (gateway served last post raw).status else 502 :=
              relayed.failed failed other
            split at status
            · exact absurd status.symm failed
            · omega
        | error error =>
            by_cases limited : error.code = .rateLimited
            · -- A rate limit, on its way from the last gateway.
              have status : (errorReply error).status = 429 := by
                rw [errorReply, searchErrorStatus, limited]
              obtain ⟨passes, header⟩ :=
                relay_limited served message provider (toOptions body) error limited
              refine ⟨fun answered => ?_, fun ended => ?_, fun failed other => ?_, ?_⟩
              · rw [relayed.succeeded answered] at status
                omega
              · exact ⟨passes, header.trans (relayed.limited ended).2⟩
              · have passed := relayed.failed failed other
                rw [status] at passed
                split at passed
                · exact absurd passed.symm other
                · cases passed
              · rw [header]
                exact relayed.exact
            · obtain ⟨text, fails⟩ := mapError_error message (toOptions body) error limited
              have status := searchErrorStatus_other error limited
              rw [fails]
              refine ⟨fun answered => ?_, fun ended => ?_, fun _ _ => rfl, ?_⟩
              · have passed : searchErrorStatus error = _ :=
                  congrArg SearchReply.status (relayed.succeeded answered)
                omega
              · have passed : searchErrorStatus error = 429 := (relayed.limited ended).1
                omega
              · intro ms member
                cases member

def limitedUpstream : Value → ℕ → HttpOutcome := fun _ _ =>
  .refused 429 (some (units "7")) .null (units "Request failed with status code 429")

def edge : HttpSearchProvider := { id := "edge", apiKeyEnv := some "EDGE_KEY", apiKey := some "k1" }

def origin : HttpSearchProvider :=
  { id := "origin", apiKeyEnv := some "ORIGIN_KEY", apiKey := some "k2" }

def created : SuccessStatus where
  code := 201
  success := by decide

def leanQuery : Value := object [("query", text "lean")]

theorem gateways_in_a_row_limited :
    Relayed created [edge, edge]
        (answer created [] limitedUpstream [edge, edge] origin leanQuery)
        (gateway created origin limitedUpstream leanQuery) ∧
      (answer created [] limitedUpstream [edge, edge] origin leanQuery).status = 429 := by
  have exact : Exact limitedUpstream := by
    rintro _ _ _ _ _ _ ⟨⟩ ms member
    cases member
    decide +kernel
  have relayed : Relayed created [edge, edge]
      (answer created [] limitedUpstream [edge, edge] origin leanQuery)
      (gateway created origin limitedUpstream leanQuery) :=
    (gateways_in_a_row created [] limitedUpstream [edge, edge] origin leanQuery (by decide)
      exact).2 _ rfl
  exact ⟨relayed, (relayed.limited rfl).1⟩

end LlmGateway.Search
