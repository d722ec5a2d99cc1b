import LlmGateway.Auth.Clients
import LlmGateway.Lib.JsText
import LlmGateway.Lib.ObjectLiterals
import LlmGateway.RateLimit.Sequential

/-!
The guards in front of the controllers: `ApiKeyAuthGuard`, `RequireScopesGuard`
and `RateLimitGuard`, in the order in which a controller lists them. Each client
has its own window in Redis; a request is asked about by the limiter only when
the guards before it have let it through.
-/

namespace LlmGateway.Guards

open Auth Js Js.Literal Quota RateLimit Runs ScoredSets

section Token

/-- What `.` does not match. -/
def isLineTerminator (char : Char) : Bool :=
  char = '\n' ∨ char = '\r' ∨ char = '\u2028' ∨ char = '\u2029'

/-- `(.+)$` on what is left of the text. -/
def restOfLine (rest : List Char) : Option (List Char) :=
  if rest ≠ [] ∧ rest.all (fun char => !isLineTerminator char) = true then some rest else none

/-- `\s+` takes as many units as it can, and gives them back one at a time. -/
def afterSpaces (text : List Char) : ℕ → Option (List Char)
  | 0 => none
  | taken + 1 => (restOfLine (text.drop (taken + 1))).or (afterSpaces text taken)

/-- The group of `/^Bearer\s+(.+)$/i`. -/
def bearerMatch (auth : List Char) : Option (List Char) :=
  if (auth.take 6).map Char.toLower = "bearer".toList then
    afterSpaces (auth.drop 6) ((auth.drop 6).takeWhile isSpace).length
  else none

structure Headers where
  authorization : Option String
  xApiKey : Option String

def extractBearerToken (headers : Headers) : Option String :=
  match headers.authorization.filter (· ≠ "") with
  | some auth => (bearerMatch auth.toList).map fun group => String.ofList (trimChars group)
  -- The other header counts only where there is no `Authorization`.
  | none =>
      (headers.xApiKey.map fun fallback => String.ofList (trimChars fallback.toList)).filter (· ≠ "")

variable (key spaces : List Char) (spaced : ∀ char ∈ spaces, isSpace char = true)
  (plain : ∀ char ∈ key, isSpace char = false)

theorem isSpace_of_terminator (char : Char) (terminates : isLineTerminator char = true) :
    isSpace char = true := by
  unfold isLineTerminator at terminates
  rw [decide_eq_true_eq] at terminates
  rcases terminates with rfl | rfl | rfl | rfl <;> decide

include plain

theorem trim_plain : trimChars key = key := by
  have kept : key.dropWhile isSpace = key := by
    cases key with
    | nil => rfl
    | cons first rest => exact List.dropWhile_cons_of_neg (by simp [plain first List.mem_cons_self])
  rw [trimChars, kept, List.rdropWhile_eq_self_iff]
  intro nonempty
  simp [plain _ (List.getLast_mem nonempty)]

theorem restOfLine_plain (nonempty : key ≠ []) : restOfLine key = some key := by
  unfold restOfLine
  refine if_pos ⟨nonempty, List.all_eq_true.mpr fun char member => ?_⟩
  cases terminates : isLineTerminator char with
  | false => rfl
  | true =>
      have space := isSpace_of_terminator char terminates
      rw [plain char member] at space
      cases space

include spaced

theorem bearerMatch_key (word : List Char) (bearer : word.map Char.toLower = "bearer".toList)
    (several : spaces ≠ []) (nonempty : key ≠ []) :
    bearerMatch (word ++ (spaces ++ key)) = some key := by
  have size : word.length = 6 := by
    have lengths := congrArg List.length bearer
    rwa [List.length_map] at lengths
  have run : (spaces ++ key).takeWhile isSpace = spaces := by
    rw [List.takeWhile_append_of_pos spaced]
    cases key with
    | nil => exact absurd rfl nonempty
    | cons first rest => simp [plain first List.mem_cons_self]
  rw [bearerMatch, List.take_left' size, List.drop_left' size, if_pos bearer, run]
  obtain ⟨taken, length⟩ := Nat.exists_eq_succ_of_ne_zero
    (Nat.ne_of_gt (List.length_pos_of_ne_nil several))
  rw [length, afterSpaces, ← Nat.succ_eq_add_one, ← length, List.drop_left,
    restOfLine_plain key plain nonempty]
  rfl

theorem extractBearerToken_presented (word : List Char)
    (bearer : word.map Char.toLower = "bearer".toList) (several : spaces ≠ [])
    (nonempty : key ≠ []) (other : Option String) :
    extractBearerToken ⟨some (String.ofList (word ++ (spaces ++ key))), other⟩ =
        some (String.ofList key) ∧
      extractBearerToken ⟨none, some (String.ofList key)⟩ = some (String.ofList key) ∧
      ∀ auth : String, auth ≠ "" → bearerMatch auth.toList = none →
        extractBearerToken ⟨some auth, some (String.ofList key)⟩ = none := by
  have written : ∀ text : List Char, text ≠ [] → String.ofList text ≠ "" := by
    intro text nonempty empty
    have characters := congrArg String.toList empty
    rw [String.toList_ofList] at characters
    exact nonempty characters
  have header : word ++ (spaces ++ key) ≠ [] := fun empty =>
    nonempty (List.append_eq_nil_iff.mp (List.append_eq_nil_iff.mp empty).2).2
  refine ⟨?_, ?_, ?_⟩
  · simp only [extractBearerToken, Option.filter_some, decide_eq_true (written _ header), if_true,
      String.toList_ofList, bearerMatch_key key spaces spaced plain word bearer several nonempty,
      Option.map_some, trim_plain key plain]
  · simp only [extractBearerToken, Option.filter_none, Option.map_some, String.toList_ofList,
      trim_plain key plain, Option.filter_some, decide_eq_true (written _ nonempty), if_true]
  · intro auth given unmatched
    simp only [extractBearerToken, Option.filter_some, decide_eq_true given, if_true, unmatched,
      Option.map_none]

end Token

inductive Guard where
  | apiKeyAuth
  | requireScopes (required : List String)
  | rateLimit

/-- The controllers that are guarded. Those under `/admin` are guarded alike, but
for the handlers that browse the database. -/
inductive Route where
  | chat
  | messages
  | models
  | quota
  | tools
  | search
  | mcp
  | admin
  | sqliteAdmin
  deriving DecidableEq

/-- `@UseGuards` and `@RequireScopes` of each controller. -/
def Route.guards : Route → List Guard
  | .chat | .messages | .models | .quota | .tools => [.apiKeyAuth, .rateLimit]
  | .search | .mcp => [.apiKeyAuth, .requireScopes ["chat.write"], .rateLimit]
  | .admin => [.apiKeyAuth, .requireScopes ["admin"], .rateLimit]
  | .sqliteAdmin => [.apiKeyAuth, .requireScopes ["admin"]]

def Route.required : Route → List String
  | .chat | .messages | .models | .quota | .tools => []
  | .search | .mcp => ["chat.write"]
  | .admin | .sqliteAdmin => ["admin"]

def Route.limited (route : Route) : Bool := route ≠ .sqliteAdmin

/-- What a guard throws, with the `Retry-After` it has set. -/
inductive HttpException where
  | unauthorized (message : String)
  | forbidden (message : String)
  | tooManyRequests (retryAfter : Option String) (response : Js.Value)

structure Server where
  crypto : Crypto
  pepper : String
  /-- The response object of the platform has a `setHeader`. -/
  setsHeaders : Bool

structure Attempt where
  headers : Headers
  route : Route
  /-- What the cache answers for its key. -/
  cached : Option Client
  table : ClientTable
  nowMs : ℤ
  member : String
  prunedAt : ℤ
  countedAt : ℤ
  addedAt : ℤ
  expiredAt : ℤ

def Attempt.call (attempt : Attempt) (client : Client) : TimedCall where
  nowMs := attempt.nowMs
  limitRpm := client.rateLimitRpm.toNat
  member := attempt.member
  prunedAt := attempt.prunedAt
  countedAt := attempt.countedAt
  addedAt := attempt.addedAt
  expiredAt := attempt.expiredAt

/-- One set for each client: `rl:rpm:{clientId}`. -/
abbrev Windows := ClientId → ExpiringSet

def missingScopes (required : List String) (client : Client) : List String :=
  required.filter fun scope => scope ∉ client.scopes

def retryAfterSec (retryAfterMs : Option ℤ) : ℤ := max 1 (-(-retryAfterMs.getD 60000 / 1000))

def tooManyRequests (server : Server) (retryAfterMs : Option ℤ) : HttpException :=
  .tooManyRequests (if server.setsHeaders then some (toString (retryAfterSec retryAfterMs)) else none)
    (.object (fieldsOf
      [("statusCode", some (natural 429)), ("error", some (text "Too Many Requests")),
        ("message", some (text "Rate limit exceeded. Retry after the indicated time.")),
        ("retryAfterMs", retryAfterMs.map integer)]))

section Checks

variable (server : Server) (attempt : Attempt)

def apiKeyAuthGuard : Except HttpException Client :=
  match (extractBearerToken attempt.headers).filter (· ≠ "") with
  | none => .error (.unauthorized "Missing API key (Authorization: Bearer …)")
  | some token =>
      match ClientService.verifyApiKey server.crypto server.pepper attempt.table attempt.cached
          token with
      | none => .error (.unauthorized "Invalid or revoked API key")
      | some client => .ok client

def requireScopesGuard (required : List String) (client : Option Client) :
    Except HttpException Unit :=
  if required = [] then .ok ()
  else
    match client with
    | none => .error (.forbidden "Authentication required before scope check")
    | some client =>
        if missingScopes required client = [] then .ok ()
        else .error (.forbidden ("Missing required scope(s): " ++
          ", ".intercalate (missingScopes required client)))

def rateLimitGuard (client : Option Client) (windows : Windows) :
    Except HttpException Unit × Windows :=
  match client with
  | none => (.ok (), windows)
  | some client =>
      let (result, window) := allowRequest (windows client.id) (attempt.call client)
      (if result.allowed then .ok () else .error (tooManyRequests server result.retryAfterMs),
        Function.update windows client.id window)

/-- One guard: what `req.client` is afterwards, or what is thrown. -/
def canActivate (guard : Guard) (client : Option Client) (windows : Windows) :
    Except HttpException (Option Client) × Windows :=
  match guard with
  | .apiKeyAuth => ((apiKeyAuthGuard server attempt).map some, windows)
  | .requireScopes required => ((requireScopesGuard required client).map fun _ => client, windows)
  | .rateLimit =>
      let (answer, next) := rateLimitGuard server attempt client windows
      (answer.map fun _ => client, next)

def activate : List Guard → Option Client → Windows →
    Except HttpException (Option Client) × Windows
  | [], client, windows => (.ok client, windows)
  | guard :: rest, client, windows =>
      match canActivate server attempt guard client windows with
      | (.error thrown, next) => (.error thrown, next)
      | (.ok client, next) => activate rest client next

def identified : Except HttpException Client :=
  match apiKeyAuthGuard server attempt with
  | .error thrown => .error thrown
  | .ok client => (requireScopesGuard attempt.route.required (some client)).map fun _ => client

section Chain

variable (client : Client) (windows : Windows)

theorem activate_limited :
    activate server attempt [.rateLimit] (some client) windows =
      ((rateLimitGuard server attempt (some client) windows).1.map fun _ => some client,
        (rateLimitGuard server attempt (some client) windows).2) := by
  rw [activate, canActivate]
  cases rateLimitGuard server attempt (some client) windows with
  | mk answer next => cases answer <;> rfl

theorem activate_scoped (required : List String) (rest : List Guard) :
    activate server attempt (.requireScopes required :: rest) (some client) windows =
      match requireScopesGuard required (some client) with
      | .error thrown => (.error thrown, windows)
      | .ok () => activate server attempt rest (some client) windows := by
  rw [activate, canActivate]
  cases requireScopesGuard required (some client) <;> rfl

theorem activate_guards :
    activate server attempt attempt.route.guards none windows =
      match identified server attempt with
      | .error thrown => (.error thrown, windows)
      | .ok client =>
          if attempt.route.limited then
            ((rateLimitGuard server attempt (some client) windows).1.map fun _ => some client,
              (rateLimitGuard server attempt (some client) windows).2)
          else (.ok (some client), windows) := by
  unfold identified
  cases attempt.route <;> rw [Route.guards, activate, canActivate] <;>
    cases apiKeyAuthGuard server attempt with
    | error thrown => rfl
    | ok client =>
        first
          | exact activate_limited server attempt client windows
          | simp only [Except.map, activate_scoped, activate_limited, Route.required]
            cases requireScopesGuard _ (some client) <;> rfl

end Chain

end Checks

end LlmGateway.Guards
