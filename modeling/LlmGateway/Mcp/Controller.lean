import LlmGateway.Access.EventReply
import LlmGateway.Lib.Runs
import LlmGateway.Search.Service

/-!
`McpController`: one JSON-RPC round trip for each POST, and the search tool
behind `tools/call`.
-/

namespace LlmGateway.Mcp

open EventReply Js Js.Literal Runs Search

inductive JsonRpcResponse where
  | result (id : Value) (result : Value)
  | error (id : Value) (code : ℤ) (message : Utf16) (data : Option Value)

namespace JsonRpcResponse

def value : JsonRpcResponse → Value
  | .result id outcome => object [("jsonrpc", text "2.0"), ("id", id), ("result", outcome)]
  | .error id code message data =>
      object [("jsonrpc", text "2.0"), ("id", id), ("error", .object (fieldsOf
        [("code", some (integer code)), ("message", some (.string message)), ("data", data)]))]

end JsonRpcResponse

section Tool

def toolName : String := "web_search"

def webSearchDescription : String :=
  "Search the web and return ranked results with titles, URLs, snippets and optional full page " ++
    "content. Use when you need up-to-date information not present in your training data: news, " ++
    "docs, prices, events, or anything where the answer may have changed recently."

/-- `WEB_SEARCH_INPUT_SCHEMA`. -/
def webSearchInputSchema : Value :=
  object
    [("type", text "object"),
      ("properties", object
        [("query", object
            [("type", text "string"), ("minLength", natural 1), ("maxLength", natural 500),
              ("description", text "Search query (1–500 chars).")]),
          ("count", object
            [("type", text "integer"), ("minimum", natural 1), ("maximum", natural 20),
              ("description", text "Number of results to return (1–20, default 5).")]),
          ("freshness", object
            [("type", text "string"), ("description", text <|
              "Freshness window: pd (past day), pw (past week), pm (past month), py (past year), " ++
                "or an explicit YYYY-MM-DDtoYYYY-MM-DD range.")]),
          ("fetch_content", object
            [("type", text "boolean"), ("description", text <|
              "Fetch full page content alongside snippets. Slower, but gives the model raw text " ++
                "for RAG-style answers.")])]),
      ("required", .array [text "query"])]

def toolForMcp : Value :=
  object
    [("name", text toolName), ("description", text webSearchDescription),
      ("inputSchema", webSearchInputSchema)]

def textContent (words : Utf16) : Value :=
  .array [object [("type", text "text"), ("text", .string words)]]

def failureMessage : SearchFailure → Utf16
  | .provider error => units (error.code.name ++ ": ") ++ error.message
  | .other message => message

def toolResult (id : Value) : Except SearchFailure SearchResponse → JsonRpcResponse
  | .ok response =>
      let cleaned := responseValue (stripSource response)
      .result id (object
        [("content", textContent (stringify cleaned)), ("structuredContent", cleaned),
          ("isError", .boolean false)])
  | .error failure => .result id (object
      [("content", textContent (failureMessage failure)), ("isError", .boolean true)])

end Tool

section Dispatch

def supportedProtocolVersions : List String := ["2025-06-18", "2025-03-26", "2024-11-05"]

def latestProtocolVersion : String := "2025-06-18"

def initializeResult (params : Value) : Value :=
  let protocolVersion := match string? (params.member (units "protocolVersion")) with
    | some requested =>
        if supportedProtocolVersions.any fun version => requested = units version then requested
        else units latestProtocolVersion
    | none => units latestProtocolVersion
  object
    [("protocolVersion", .string protocolVersion),
      ("capabilities", object [("tools", object [("listChanged", .boolean false)])]),
      ("serverInfo", object [("name", text "ms-gateway-llm"), ("version", text "1.0.0")])]

structure Request where
  raw : Value
  clientId : Option Quota.ClientId
  provide : SearchOptions → Except SearchFailure SearchResponse

/-- `parseJson` is `JSON.parse`, and `issues` what the validation reports. -/
structure Server where
  providerId : String
  parseJson : Utf16 → Option Value
  issues : Value → Value

variable (server : Server) (request : Request)

def Server.search (body : SearchBody) : Except SearchFailure SearchResponse × SearchRecord :=
  serve server.providerId request.clientId (request.provide (toOptions body))

def callTool (id params : Value) : Except Thrown (JsonRpcResponse × List SearchRecord) :=
  match params with
  | .object fields => do
      let name := (Value.object fields).member (units "name")
      if string? name ≠ some (units toolName) then
        -- `String` of a name with a `toString` of its own throws.
        let printed ← if name.nullish then .ok (units "(missing)") else name.toText
        return (.error id (-32602) (units "Unknown tool: " ++ printed ++
          units (". Known tools: " ++ toolName)) none, [])
      else match (Value.object fields).member (units "arguments") with
        | .object arguments => match searchBodySchema (.object arguments) with
          | none => return (.error id (-32602) (units "Invalid tool arguments")
              (some (object [("issues", server.issues (.object arguments))])), [])
          | some body =>
              let answer := server.search request body
              return (toolResult id answer.1, [answer.2])
        | _ => return (.error id (-32602)
            (units "Invalid params: tool arguments must be an object") none, [])
  | _ => .ok (.error id (-32602) (units "Invalid params: expected an object") none, [])

/-- `request.id ?? null`. -/
def requestId (parsed : Value) : Value :=
  let id := parsed.member (units "id")
  if id.nullish then .null else id

def dispatch (parsed : Value) : Except Thrown (JsonRpcResponse × List SearchRecord) :=
  let id := requestId parsed
  match string? (parsed.member (units "method")) with
  | none => .ok (.error id (-32600) (units "Invalid Request") none, [])
  | some method =>
      if method = [] then .ok (.error id (-32600) (units "Invalid Request") none, [])
      else if method = units "initialize" then
        .ok (.result id (initializeResult (parsed.member (units "params"))), [])
      else if method = units "ping" then .ok (.result id (.object []), [])
      else if method = units "tools/list" then
        .ok (.result id (object [("tools", .array [toolForMcp])]), [])
      else if method = units "tools/call" then
        callTool server request id (parsed.member (units "params"))
      else .ok (.error id (-32601) (units "Method not found: " ++ method) none, [])

def parseBody (raw : Value) : Option (List (Utf16 × Value)) :=
  let value := match raw with
    | .string text => server.parseJson text
    | other => some other
  value.bind fun
    | .object fields => some fields
    | _ => none

inductive McpReply where
  /-- A 202 without a body. -/
  | accepted
  /-- A 200. -/
  | json (response : JsonRpcResponse)

def handle : Except Thrown (McpReply × List SearchRecord) :=
  match parseBody server request.raw with
  | none => .ok (.json (.error .null (-32700) (units "Parse error") none), [])
  | some fields =>
      if (fields.lookup (units "id")).isNone then .ok (.accepted, [])
      else (dispatch server request (.object fields)).map fun answer => (.json answer.1, answer.2)

end Dispatch

/-- The request is a search: a call of the tool, with an id, whose arguments are valid. -/
def searched (server : Server) (raw : Value) : Option SearchBody :=
  (parseBody server raw).bind fun fields =>
    let params := (Value.object fields).member (units "params")
    if (fields.lookup (units "id")).isSome ∧
        string? ((Value.object fields).member (units "method")) = some (units "tools/call") ∧
        string? (params.member (units "name")) = some (units toolName) then
      searchBodySchema (params.member (units "arguments"))
    else none

def Unprintable (server : Server) (raw : Value) : Prop :=
  ∃ fields thrown, parseBody server raw = some fields ∧ (fields.lookup (units "id")).isSome ∧
    string? ((Value.object fields).member (units "method")) = some (units "tools/call") ∧
    (((Value.object fields).member (units "params")).member (units "name")).toText = .error thrown

/-- The version the client is told: its own if that is supported, else the latest. -/
structure Negotiated (params outcome : Value) : Prop where
  supported : ∀ version ∈ supportedProtocolVersions,
    params.member (units "protocolVersion") = .string (units version) →
      outcome.member (units "protocolVersion") = .string (units version)
  latest : (∀ version ∈ supportedProtocolVersions,
    params.member (units "protocolVersion") ≠ .string (units version)) →
      outcome.member (units "protocolVersion") = .string (units latestProtocolVersion)

def methods : List String := ["initialize", "ping", "tools/list", "tools/call"]

section Answering

variable (server : Server) (request : Request) (fields : List (Utf16 × Value)) (id : Value)

def Asks (method : Utf16) : Prop := (Value.object fields).member (units "method") = .string method

inductive Answers : JsonRpcResponse → Prop where
  | initialized (outcome : Value) (asked : Asks fields (units "initialize"))
      (negotiated : Negotiated ((Value.object fields).member (units "params")) outcome) :
      Answers (.result id outcome)
  | pong (asked : Asks fields (units "ping")) : Answers (.result id (.object []))
  | listed (asked : Asks fields (units "tools/list")) :
      Answers (.result id (object [("tools", .array [toolForMcp])]))
  /-- The result of the search, marked as an error when the search failed. -/
  | found (body : SearchBody) (outcome : Value) (valid : searched server request.raw = some body)
      (told : toolResult id (server.search request body).1 = .result id outcome)
      (marked : outcome.member (units "isError") =
        .boolean (server.search request body).1.toOption.isNone) :
      Answers (.result id outcome)
  | invalidCall (message : Utf16) (data : Option Value) (asked : Asks fields (units "tools/call"))
      (invalid : searched server request.raw = none) :
      Answers (.error id (-32602) message data)
  | unknownMethod (method : Utf16) (asked : Asks fields method) (named : method ≠ [])
      (unknown : ∀ known ∈ methods, method ≠ units known) :
      Answers (.error id (-32601) (units "Method not found: " ++ method) none)
  | invalidRequest (unnamed : ∀ method, Asks fields method → method = []) :
      Answers (.error id (-32600) (units "Invalid Request") none)

inductive Answered : McpReply → Prop where
  | parseError (unread : parseBody server request.raw = none) :
      Answered (.json (.error .null (-32700) (units "Parse error") none))
  | notified (fields : List (Utf16 × Value)) (read : parseBody server request.raw = some fields)
      (silent : fields.lookup (units "id") = none) : Answered .accepted
  /-- Under the id of the request, or `null` for one that is `undefined`. -/
  | answered (fields : List (Utf16 × Value)) (id : Value) (response : JsonRpcResponse)
      (read : parseBody server request.raw = some fields)
      (asked : fields.lookup (units "id") = some id)
      (answers : Answers server request fields (if id.nullish then .null else id) response) :
      Answered (.json response)

/-- A request fails for the name of the tool alone, and is answered otherwise. -/
def Replied : Except Thrown McpReply → Prop
  | .error _ => Unprintable server request.raw
  | .ok reply => ¬ Unprintable server request.raw ∧ Answered server request reply

end Answering

def recorded (server : Server) (request : Request) : Option SearchRecord :=
  (searched server request.raw).map fun body => (server.search request body).2

structure Session where
  replies : List (Except Thrown McpReply)
  log : List SearchRecord

def Session.step (server : Server) (session : Session) (request : Request) : Session :=
  match handle server request with
  | .ok (reply, records) =>
      { replies := session.replies ++ [.ok reply], log := session.log ++ records }
  | .error thrown => { session with replies := session.replies ++ [.error thrown] }

section Handling

variable (server : Server) (request : Request)

theorem string?_eq_some_iff (value : Value) (words : Utf16) :
    string? value = some words ↔ value = .string words := by
  cases value <;> simp [string?]

theorem toolResult_marked (id : Value) (answer : Except SearchFailure SearchResponse) :
    ∃ outcome, toolResult id answer = .result id outcome ∧
      outcome.member (units "isError") = .boolean answer.toOption.isNone := by
  cases answer with
  | ok response =>
      exact ⟨_, rfl, member_object _ "isError" ["content", "structuredContent", "isError"] rfl
        (by decide +kernel)⟩
  | error failure =>
      exact ⟨_, rfl, member_object _ "isError" ["content", "isError"] rfl (by decide +kernel)⟩

theorem initializeResult_negotiated (params : Value) :
    Negotiated params (initializeResult params) := by
  have told : ∀ version : Utf16, (object
      [("protocolVersion", .string version),
        ("capabilities", object [("tools", object [("listChanged", .boolean false)])]),
        ("serverInfo", object [("name", text "ms-gateway-llm"), ("version", text "1.0.0")])]).member
      (units "protocolVersion") = .string version := fun version =>
    member_object _ "protocolVersion" ["protocolVersion", "capabilities", "serverInfo"] rfl
      (by decide +kernel)
  constructor
  · intro version known asked
    have requested := (string?_eq_some_iff _ _).mpr asked
    rw [initializeResult, requested]
    dsimp only
    rw [if_pos (List.any_eq_true.mpr ⟨version, known, decide_eq_true rfl⟩)]
    exact told (units version)
  · intro other
    rw [initializeResult]
    cases asked : string? (params.member (units "protocolVersion")) with
    | none => exact told (units latestProtocolVersion)
    | some requested =>
        dsimp only
        rw [if_neg, told]
        intro known
        obtain ⟨version, member, same⟩ := List.any_eq_true.mp known
        rw [of_decide_eq_true same] at asked
        exact other version member ((string?_eq_some_iff _ _).mp asked)

theorem toText_of_name (value : Value) (named : string? value = some (units toolName)) :
    value.toText = .ok (units toolName) := by
  cases value with
  | string words =>
      cases named
      rfl
  | _ => cases named

theorem callTool_cases (id params : Value) :
    (∃ thrown, callTool server request id params = .error thrown ∧
      (params.member (units "name")).toText = .error thrown) ∨
    (∃ message data, callTool server request id params = .ok (.error id (-32602) message data, []) ∧
      (∃ words, (params.member (units "name")).toText = .ok words) ∧
      (string? (params.member (units "name")) = some (units toolName) →
        searchBodySchema (params.member (units "arguments")) = none)) ∨
    ∃ body, string? (params.member (units "name")) = some (units toolName) ∧
      searchBodySchema (params.member (units "arguments")) = some body ∧
      callTool server request id params =
        .ok (toolResult id (server.search request body).1, [(server.search request body).2]) := by
  cases params with
  | object fields =>
      rw [callTool]
      by_cases named : string? ((Value.object fields).member (units "name")) = some (units toolName)
      · have printed := toText_of_name _ named
        simp only [named, ne_eq, not_true_eq_false, if_false]
        cases given : (Value.object fields).member (units "arguments") with
        | object arguments =>
            dsimp only
            cases accepted : searchBodySchema (.object arguments) with
            | none => exact Or.inr (Or.inl ⟨_, _, rfl, ⟨_, printed⟩, fun _ => rfl⟩)
            | some body => exact Or.inr (Or.inr ⟨body, trivial, rfl, rfl⟩)
        | _ => exact Or.inr (Or.inl ⟨_, _, rfl, ⟨_, printed⟩, fun _ => rfl⟩)
      · simp only [named, ne_eq, not_false_eq_true, if_true]
        generalize (Value.object fields).member (units "name") = name
        by_cases missing : name.nullish = true
        · rw [if_pos missing]
          refine Or.inr (Or.inl ⟨_, _, rfl, ?_, fun same => False.elim same⟩)
          cases name <;> first | exact ⟨_, rfl⟩ | cases missing
        · rw [if_neg missing]
          cases name.toText with
          | error thrown => exact Or.inl ⟨thrown, rfl, rfl⟩
          | ok words =>
              exact Or.inr (Or.inl ⟨_, _, rfl, ⟨words, rfl⟩, fun same => False.elim same⟩)
  | _ => exact Or.inr (Or.inl ⟨_, _, rfl, ⟨_, rfl⟩, fun _ => rfl⟩)

variable (fields : List (Utf16 × Value))

theorem searched_eq (asked : (fields.lookup (units "id")).isSome)
    (parsed : parseBody server request.raw = some fields) :
    searched server request.raw =
      if string? ((Value.object fields).member (units "method")) = some (units "tools/call") ∧
          string? (((Value.object fields).member (units "params")).member (units "name")) =
            some (units toolName) then
        searchBodySchema (((Value.object fields).member (units "params")).member
          (units "arguments"))
      else none := by
  rw [searched, parsed]
  simp only [Option.bind_some, asked, true_and]

theorem unprintable_iff (asked : (fields.lookup (units "id")).isSome)
    (parsed : parseBody server request.raw = some fields) :
    Unprintable server request.raw ↔
      string? ((Value.object fields).member (units "method")) = some (units "tools/call") ∧
        ∃ thrown, (((Value.object fields).member (units "params")).member (units "name")).toText =
          .error thrown := by
  constructor
  · rintro ⟨others, thrown, same, _, called, fails⟩
    rw [parsed] at same
    cases same
    exact ⟨called, thrown, fails⟩
  · rintro ⟨called, thrown, fails⟩
    exact ⟨fields, thrown, parsed, asked, called, fails⟩

theorem dispatch_call
    (called : string? ((Value.object fields).member (units "method")) =
      some (units "tools/call")) :
    dispatch server request (.object fields) =
      callTool server request (requestId (.object fields))
        ((Value.object fields).member (units "params")) := by
  rw [dispatch, called]
  simp only
  rw [if_neg (by decide +kernel), if_neg (by decide +kernel), if_neg (by decide +kernel),
    if_neg (by decide +kernel), if_pos trivial]

theorem dispatch_other
    (other : string? ((Value.object fields).member (units "method")) ≠
      some (units "tools/call")) :
    ∃ response, dispatch server request (.object fields) = .ok (response, []) ∧
      Answers server request fields (requestId (.object fields)) response := by
  rw [dispatch]
  cases named : string? ((Value.object fields).member (units "method")) with
  | none =>
      refine ⟨_, rfl, .invalidRequest fun method asked => ?_⟩
      rw [(string?_eq_some_iff _ _).mpr asked] at named
      cases named
  | some method =>
      rw [named] at other
      have asked : Asks fields method := (string?_eq_some_iff _ _).mp named
      simp only
      split
      · rename_i empty
        refine ⟨_, rfl, .invalidRequest fun known same => ?_⟩
        rw [Asks, asked] at same
        cases same
        exact empty
      rename_i filled
      split
      · rename_i same
        exact ⟨_, rfl, .initialized _ (same ▸ asked) (initializeResult_negotiated _)⟩
      rename_i noInitialize
      split
      · rename_i same
        exact ⟨_, rfl, .pong (same ▸ asked)⟩
      rename_i noPing
      split
      · rename_i same
        exact ⟨_, rfl, .listed (same ▸ asked)⟩
      rename_i noList
      split
      · rename_i same
        exact absurd (congrArg some same) other
      rename_i noCall
      refine ⟨_, rfl, .unknownMethod method asked filled fun known member => ?_⟩
      simp only [methods, List.mem_cons, List.not_mem_nil, or_false] at member
      rcases member with rfl | rfl | rfl | rfl
      · exact noInitialize
      · exact noPing
      · exact noList
      · exact noCall

theorem dispatch_cases (asked : (fields.lookup (units "id")).isSome)
    (parsed : parseBody server request.raw = some fields) :
    (∃ thrown, dispatch server request (.object fields) = .error thrown ∧
      searched server request.raw = none ∧ Unprintable server request.raw) ∨
    ∃ response, dispatch server request (.object fields) =
        .ok (response, (recorded server request).toList) ∧
      Answers server request fields (requestId (.object fields)) response ∧
      ¬ Unprintable server request.raw := by
  rw [unprintable_iff server request fields asked parsed]
  have search := searched_eq server request fields asked parsed
  by_cases called : string? ((Value.object fields).member (units "method")) =
      some (units "tools/call")
  · have method : Asks fields (units "tools/call") := (string?_eq_some_iff _ _).mp called
    rw [dispatch_call server request fields called]
    generalize (Value.object fields).member (units "params") = params at search ⊢
    rcases callTool_cases server request (requestId (.object fields)) params with
      ⟨thrown, fails, unprinted⟩ | ⟨message, data, answers, ⟨words, printed⟩, invalid⟩ |
      ⟨body, named, accepted, answers⟩
    · refine Or.inl ⟨thrown, fails, ?_, called, thrown, unprinted⟩
      rw [search, if_neg]
      intro both
      rw [toText_of_name _ both.2] at unprinted
      cases unprinted
    · have silent : searched server request.raw = none := by
        rw [search]
        split
        · rename_i both
          exact invalid both.2
        · rfl
      refine Or.inr ⟨_, ?_, .invalidCall message data method silent, ?_⟩
      · rw [answers, recorded, silent]
        rfl
      · rintro ⟨_, thrown, fails⟩
        rw [printed] at fails
        cases fails
    · have valid : searched server request.raw = some body := by
        rw [search, if_pos ⟨called, named⟩, accepted]
      obtain ⟨outcome, told, marked⟩ :=
        toolResult_marked (requestId (.object fields)) (server.search request body).1
      refine Or.inr ⟨_, ?_, .found body outcome valid told marked, ?_⟩
      · rw [answers, recorded, valid, told]
        rfl
      · rintro ⟨_, thrown, fails⟩
        rw [toText_of_name _ named] at fails
        cases fails
  · obtain ⟨response, answers, right⟩ := dispatch_other server request fields called
    have silent : searched server request.raw = none := by
      rw [search, if_neg fun both => called both.1]
    refine Or.inr ⟨response, ?_, right, fun both => called both.1⟩
    rw [answers, recorded, silent]
    rfl

theorem handle_replied :
    (∃ reply, handle server request = .ok (reply, (recorded server request).toList) ∧
      Replied server request (.ok reply)) ∨
    ∃ thrown, handle server request = .error thrown ∧ Replied server request (.error thrown) ∧
      recorded server request = none := by
  unfold handle
  cases parsed : parseBody server request.raw with
  | none =>
      have silent : recorded server request = none := by
        rw [recorded, searched, parsed]
        rfl
      refine Or.inl ⟨_, by rw [silent]; rfl, ?_, .parseError parsed⟩
      rintro ⟨fields, _, same, _⟩
      rw [parsed] at same
      cases same
  | some fields =>
      cases asked : fields.lookup (units "id") with
      | some id =>
          have present : (fields.lookup (units "id")).isSome = true := by rw [asked]; rfl
          have own : requestId (.object fields) = if id.nullish then .null else id := by
            rw [requestId, Value.member, asked]
            rfl
          simp only [asked, Option.isNone_some, Bool.false_eq_true, if_false]
          rcases dispatch_cases server request fields present parsed with
            ⟨thrown, fails, silent, unprintable⟩ | ⟨response, answers, right, printable⟩
          · rw [fails]
            exact Or.inr ⟨thrown, rfl, unprintable, by rw [recorded, silent]; rfl⟩
          · rw [answers]
            rw [own] at right
            exact Or.inl ⟨_, rfl, printable, .answered fields id response parsed asked right⟩
      | none =>
          have silent : recorded server request = none := by
            rw [recorded, searched, parsed, Option.bind_some, asked]
            rfl
          simp only [asked, Option.isNone_none, if_true]
          refine Or.inl ⟨_, by rw [silent]; rfl, ?_, .notified fields parsed asked⟩
          rintro ⟨others, _, same, present, _⟩
          rw [parsed] at same
          cases same
          rw [asked] at present
          cases present

end Handling

/-- Over any requests there is one reply for each, in their order, and the log has
the record of every search and of nothing else. -/
theorem session_replied (server : Server) (requests : List Request) :
    List.Forall₂ (Replied server) requests
        (run (Session.step server) { replies := [], log := [] } requests).replies ∧
      (run (Session.step server) { replies := [], log := [] } requests).log =
        requests.filterMap (recorded server) := by
  have runs : ∀ session : Session, ∃ replies,
      (run (Session.step server) session requests).replies = session.replies ++ replies ∧
        List.Forall₂ (Replied server) requests replies ∧
        (run (Session.step server) session requests).log =
          session.log ++ requests.filterMap (recorded server) := by
    induction requests with
    | nil =>
        exact fun session =>
          ⟨[], (List.append_nil _).symm, .nil, (List.append_nil _).symm⟩
    | cons request rest ih =>
        intro session
        obtain ⟨replies, out, replied, logged⟩ := ih (session.step server request)
        rw [run]
        rcases handle_replied server request with
          ⟨reply, handled, right⟩ | ⟨thrown, handled, right, silent⟩
        · refine ⟨.ok reply :: replies, ?_, .cons right replied, ?_⟩
          · rw [out, Session.step, handled, List.append_assoc]
            rfl
          · rw [logged, Session.step, handled, List.filterMap_cons, List.append_assoc]
            cases recorded server request <;> rfl
        · refine ⟨.error thrown :: replies, ?_, .cons right replied, ?_⟩
          · rw [out, Session.step, handled, List.append_assoc]
            rfl
          · rw [logged, Session.step, handled, List.filterMap_cons, silent]
  obtain ⟨replies, out, replied, logged⟩ := runs { replies := [], log := [] }
  rw [out, logged]
  exact ⟨replied, rfl⟩

end LlmGateway.Mcp
