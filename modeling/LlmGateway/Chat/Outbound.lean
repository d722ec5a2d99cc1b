import LlmGateway.Chat.SystemMessages
import LlmGateway.Lib.Numerals
import LlmGateway.Lib.ObjectLiterals
import LlmGateway.Providers.Registry

/-!
The body `callUpstream` sends: the conversation normalized, the model of the
attempt, what the registry pins for it, and the ceiling of the upstream. What
the caller wrote stays, the model apart.
-/

namespace LlmGateway.Chat

open Js Js.Literal Providers

abbrev Fields := List (Utf16 × Value)

def maxTokensCeiling : ℕ := 131072

def normalizeBody (body : Fields) : Except Thrown Fields :=
  match body.lookup (units "messages") with
  | some (.array messages) => do
      let normalized ← normalizeMessages messages
      return put (units "messages") (.array normalized) body
  | _ => .ok body

def clampMaxTokens (body : Fields) : Fields :=
  match body.lookup (units "max_tokens") with
  | some (.number printed) =>
      if (numberOf printed).above maxTokensCeiling then
        put (units "max_tokens") (natural maxTokensCeiling) body
      else body
  | _ => body

/-- `if (wanted && !(key in body)) result[key] = value`. -/
def setMissing (body : Fields) (wanted : Bool) (key : Utf16) (value : Value) (result : Fields) :
    Fields :=
  if wanted && (body.lookup key).isNone then put key value result else result

def thinkingDisabled : Value := object [("type", text "disabled")]

def includeUsage : Value := object [("include_usage", .boolean true)]

def upstreamModel (resolved : ResolvedModel) : Value :=
  (resolved.upstreamModel.map text).getD .undefined

def applyResolved (body : Fields) (resolved : ResolvedModel) : Fields :=
  let result := put (units "model") (upstreamModel resolved) body
  let result := setMissing body (resolved.maxTokens.any (· ≠ 0)) (units "max_tokens")
    (natural (resolved.maxTokens.getD 0)) result
  let result := setMissing body resolved.disableThinking (units "thinking") thinkingDisabled result
  let result := setMissing body ((Value.object body).member (units "stream")).truthy
    (units "stream_options") includeUsage result
  clampMaxTokens result

/-- What `callUpstream` hands to the SDK. -/
def outbound (resolved : ResolvedModel) (body : Fields) : Except Thrown Fields := do
  let normalized ← normalizeBody body
  return applyResolved normalized resolved

def Sendable (body : Fields) : Prop :=
  ∀ messages, body.lookup (units "messages") = some (.array messages) →
    ∀ message ∈ messages, isSystem message = true → Readable message

/-- What becomes of a `max_tokens`. -/
def clamped : Value → Value
  | .number printed =>
      if (numberOf printed).above maxTokensCeiling then natural maxTokensCeiling
      else .number printed
  | value => value

/-- The fields of which `callUpstream` may write one. -/
def writtenKeys : List Utf16 :=
  ["model", "messages", "max_tokens", "thinking", "stream_options"].map units

structure Prepared (resolved : ResolvedModel) (body sent : Fields) : Prop where
  model : sent.lookup (units "model") = some (upstreamModel resolved)
  conversation : ∀ messages, body.lookup (units "messages") = some (.array messages) →
    ∃ merged, sent.lookup (units "messages") = some (.array merged) ∧ Merged messages merged
  noConversation : (∀ messages, body.lookup (units "messages") ≠ some (.array messages)) →
    sent.lookup (units "messages") = body.lookup (units "messages")
  maxTokens : sent.lookup (units "max_tokens") =
    ((body.lookup (units "max_tokens")).or
      ((resolved.maxTokens.filter (· ≠ 0)).map natural)).map clamped
  thinking : sent.lookup (units "thinking") = (body.lookup (units "thinking")).or
    (if resolved.disableThinking then some thinkingDisabled else none)
  streamOptions : sent.lookup (units "stream_options") = (body.lookup (units "stream_options")).or
    (if ((Value.object body).member (units "stream")).truthy then some includeUsage else none)
  others : ∀ key ∉ writtenKeys, sent.lookup key = body.lookup key

section Applying

variable (resolved : ResolvedModel) (body : Fields)

theorem lookup_setMissing (wanted : Bool) (key other : Utf16) (value : Value) (result : Fields) :
    (setMissing body wanted key value result).lookup other =
      if other = key ∧ (wanted && (body.lookup key).isNone) = true then some value
      else result.lookup other := by
  unfold setMissing
  by_cases missing : (wanted && (body.lookup key).isNone) = true
  · rw [if_pos missing, lookup_put]
    simp [missing]
  · rw [if_neg missing, if_neg fun both => missing both.2]

theorem clampMaxTokens_eq (value : Value) (present : body.lookup (units "max_tokens") = some value) :
    clampMaxTokens body = put (units "max_tokens") (clamped value) body := by
  unfold clampMaxTokens clamped
  rw [present]
  cases value with
  | number printed =>
      by_cases above : (numberOf printed).above maxTokensCeiling = true
      · simp only [above, if_true]
      · simp only [above]
        exact (put_of_lookup _ _ _ present).symm
  | _ => exact (put_of_lookup _ _ _ present).symm

theorem lookup_clampMaxTokens (key : Utf16) :
    (clampMaxTokens body).lookup key =
      if key = units "max_tokens" then (body.lookup key).map clamped else body.lookup key := by
  cases present : body.lookup (units "max_tokens") with
  | none =>
      have same : clampMaxTokens body = body := by rw [clampMaxTokens, present]
      rw [same]
      split
      · rename_i same
        rw [same, present]
        rfl
      · rfl
  | some value =>
      rw [clampMaxTokens_eq body value present, lookup_put]
      split
      · rename_i same
        rw [same, present]
        rfl
      · rfl

theorem lookup_applyResolved (key : Utf16) :
    (applyResolved body resolved).lookup key =
      if key = units "model" then some (upstreamModel resolved)
      else if key = units "max_tokens" then
        ((body.lookup key).or ((resolved.maxTokens.filter (· ≠ 0)).map natural)).map clamped
      else if key = units "thinking" then
        (body.lookup key).or (if resolved.disableThinking then some thinkingDisabled else none)
      else if key = units "stream_options" then
        (body.lookup key).or
          (if ((Value.object body).member (units "stream")).truthy then some includeUsage else none)
      else body.lookup key := by
  have model : units "model" ≠ units "max_tokens" := by decide +kernel
  have pinned : units "max_tokens" ≠ units "thinking" := by decide +kernel
  have asked : units "max_tokens" ≠ units "stream_options" := by decide +kernel
  have other : units "thinking" ≠ units "stream_options" := by decide +kernel
  have first : units "model" ≠ units "thinking" := by decide +kernel
  have second : units "model" ≠ units "stream_options" := by decide +kernel
  simp only [applyResolved, lookup_clampMaxTokens, lookup_setMissing, lookup_put]
  by_cases isModel : key = units "model"
  · simp [isModel, model, first, second]
  by_cases isMaxTokens : key = units "max_tokens"
  · subst isMaxTokens
    cases present : body.lookup (units "max_tokens") with
    | some value => simp [model.symm, pinned, asked]
    | none =>
        cases limit : resolved.maxTokens with
        | none => simp [model.symm, pinned, asked]
        | some most =>
            by_cases zero : most = 0 <;> simp [model.symm, pinned, asked, zero, Option.filter]
  by_cases isThinking : key = units "thinking"
  · subst isThinking
    cases present : body.lookup (units "thinking") <;>
      cases resolved.disableThinking <;> simp [first.symm, pinned.symm, other]
  by_cases isOptions : key = units "stream_options"
  · subst isOptions
    cases present : body.lookup (units "stream_options") <;>
      cases ((Value.object body).member (units "stream")).truthy <;>
        simp [second.symm, asked.symm, other.symm]
  · simp [isModel, isMaxTokens, isThinking, isOptions]

theorem clamped_natural (limit : ℕ) :
    clamped (natural limit) = natural (min limit maxTokensCeiling) := by
  have read : numberOf (units (toString limit)) = .finite limit := numberOf_natural limit
  simp only [natural, clamped, read, Number.above, Nat.cast_lt, decide_eq_true_eq]
  by_cases above : maxTokensCeiling < limit
  · rw [if_pos above, Nat.min_eq_right above.le]
  · rw [if_neg above, Nat.min_eq_left (Nat.le_of_not_lt above)]

theorem clamped_clamped (value : Value) : clamped (clamped value) = clamped value := by
  have ceiling : clamped (natural maxTokensCeiling) = natural maxTokensCeiling := by
    rw [clamped_natural, Nat.min_self]
  cases value with
  | number printed =>
      by_cases above : (numberOf printed).above maxTokensCeiling = true
      · simp only [clamped, above, if_true]
        exact ceiling
      · simp only [clamped, above, Bool.false_eq_true, if_false]
  | _ => rfl

theorem setMissing_present (wanted : Bool) (key : Utf16) (value : Value) (result : Fields)
    (present : wanted = true → (body.lookup key).isSome = true) :
    setMissing body wanted key value result = result := by
  unfold setMissing
  refine if_neg fun missing => ?_
  simp only [Bool.and_eq_true, Option.isNone_iff_eq_none] at missing
  rw [missing.2] at present
  cases present missing.1

/-- A second attempt at the same model has nothing left to write. -/
theorem applyResolved_again :
    applyResolved (applyResolved body resolved) resolved = applyResolved body resolved := by
  have sent := lookup_applyResolved resolved body
  have stream : ((Value.object (applyResolved body resolved)).member (units "stream")) =
      (Value.object body).member (units "stream") := by
    rw [Value.member, Value.member, sent, if_neg (by decide +kernel), if_neg (by decide +kernel),
      if_neg (by decide +kernel), if_neg (by decide +kernel)]
  have model := sent (units "model")
  rw [if_pos rfl] at model
  have maxTokens := sent (units "max_tokens")
  rw [if_neg (by decide +kernel), if_pos rfl] at maxTokens
  have thinking := sent (units "thinking")
  rw [if_neg (by decide +kernel), if_neg (by decide +kernel), if_pos rfl] at thinking
  have options := sent (units "stream_options")
  rw [if_neg (by decide +kernel), if_neg (by decide +kernel), if_neg (by decide +kernel),
    if_pos rfl] at options
  conv_lhs => rw [applyResolved]
  rw [put_of_lookup _ _ _ model]
  rw [setMissing_present, setMissing_present, setMissing_present]
  · -- What was clamped is not clamped again.
    cases present : (applyResolved body resolved).lookup (units "max_tokens") with
    | none => rw [clampMaxTokens, present]
    | some value =>
        rw [clampMaxTokens_eq _ value present]
        refine put_of_lookup _ _ _ ?_
        rw [present] at maxTokens ⊢
        obtain ⟨before, _, rfl⟩ := Option.map_eq_some_iff.mp maxTokens.symm
        rw [clamped_clamped]
  · intro wanted
    rw [maxTokens]
    obtain ⟨most, limit, nonzero⟩ := (Option.any_eq_true _ _).mp wanted
    simp [limit, nonzero, Option.filter]
  · intro wanted
    rw [thinking, wanted]
    simp
  · intro wanted
    rw [stream] at wanted
    rw [options, wanted]
    simp

end Applying

section Sending

variable (resolved : ResolvedModel) (body : Fields)

theorem normalizeBody_plain
    (none : ∀ messages, body.lookup (units "messages") ≠ some (.array messages)) :
    normalizeBody body = .ok body := by
  unfold normalizeBody
  split
  · rename_i messages present
    exact absurd present (none messages)
  · rfl

theorem normalizeBody_messages (messages : List Value)
    (present : body.lookup (units "messages") = some (.array messages)) :
    normalizeBody body = (normalizeMessages messages).map fun merged =>
      put (units "messages") (.array merged) body := by
  simp only [normalizeBody, present]
  cases normalizeMessages messages <;> rfl

theorem normalizeBody_cases (normalized : Fields) (returns : normalizeBody body = .ok normalized) :
    ((∀ messages, body.lookup (units "messages") ≠ some (.array messages)) ∧ normalized = body) ∨
      ∃ messages merged, body.lookup (units "messages") = some (.array messages) ∧
        normalizeMessages messages = .ok merged ∧
        normalized = put (units "messages") (.array merged) body := by
  by_cases conversation : ∃ messages, body.lookup (units "messages") = some (.array messages)
  · obtain ⟨messages, present⟩ := conversation
    rw [normalizeBody_messages body messages present] at returns
    cases merging : normalizeMessages messages with
    | error error => rw [merging] at returns; cases returns
    | ok merged =>
        rw [merging] at returns
        cases returns
        exact Or.inr ⟨messages, merged, present, merging, rfl⟩
  · have none := not_exists.mp conversation
    rw [normalizeBody_plain body none] at returns
    cases returns
    exact Or.inl ⟨none, rfl⟩

theorem normalizeBody_returns_iff :
    (∃ normalized, normalizeBody body = .ok normalized) ↔ Sendable body := by
  by_cases conversation : ∃ messages, body.lookup (units "messages") = some (.array messages)
  · obtain ⟨messages, present⟩ := conversation
    have only : Sendable body ↔ ∀ message ∈ messages, isSystem message = true → Readable message := by
      refine ⟨fun sendable => sendable messages present, fun readable others same => ?_⟩
      rw [present] at same
      cases same
      exact readable
    rw [only, ← normalizeMessages_returns_iff, normalizeBody_messages body messages present]
    cases normalizeMessages messages <;> simp [Except.map]
  · have none := not_exists.mp conversation
    refine iff_of_true ⟨body, normalizeBody_plain body none⟩ fun messages present => ?_
    exact absurd present (none messages)

theorem lookup_normalized (normalized : Fields) (returns : normalizeBody body = .ok normalized)
    (key : Utf16) (other : key ≠ units "messages") :
    normalized.lookup key = body.lookup key := by
  rcases normalizeBody_cases body normalized returns with ⟨_, rfl⟩ | ⟨_, merged, _, _, rfl⟩
  · rfl
  · exact lookup_put_ne _ _ _ _ other

theorem outbound_eq (sent : Fields) (sends : outbound resolved body = .ok sent) :
    ∃ normalized, normalizeBody body = .ok normalized ∧ sent = applyResolved normalized resolved := by
  unfold outbound at sends
  cases normalizes : normalizeBody body with
  | error error => rw [normalizes] at sends; cases sends
  | ok normalized =>
      rw [normalizes] at sends
      cases sends
      exact ⟨normalized, rfl, rfl⟩

theorem prepared (normalized : Fields) (returns : normalizeBody body = .ok normalized) :
    Prepared resolved body (applyResolved normalized resolved) := by
  have kept := lookup_normalized body normalized returns
  have stream : (Value.object normalized).member (units "stream") =
      (Value.object body).member (units "stream") := by
    rw [Value.member, Value.member, kept _ (by decide +kernel)]
  have written := lookup_applyResolved resolved normalized
  have messages : (applyResolved normalized resolved).lookup (units "messages") =
      normalized.lookup (units "messages") := by
    rw [written, if_neg (by decide +kernel), if_neg (by decide +kernel), if_neg (by decide +kernel),
      if_neg (by decide +kernel)]
  constructor
  · rw [written, if_pos rfl]
  · intro conversation present
    rw [messages]
    rcases normalizeBody_cases body normalized returns with
      ⟨none, _⟩ | ⟨others, merged, found, merging, rfl⟩
    · exact absurd present (none conversation)
    · rw [present] at found
      cases found
      exact ⟨merged, lookup_put_self _ _ _, normalizeMessages_merged conversation merged merging⟩
  · intro none
    rw [messages]
    rcases normalizeBody_cases body normalized returns with ⟨_, rfl⟩ | ⟨others, _, found, _⟩
    · rfl
    · exact absurd found (none others)
  · rw [written, if_neg (by decide +kernel), if_pos rfl, kept _ (by decide +kernel)]
  · rw [written, if_neg (by decide +kernel), if_neg (by decide +kernel), if_pos rfl,
      kept _ (by decide +kernel)]
  · rw [written, if_neg (by decide +kernel), if_neg (by decide +kernel),
      if_neg (by decide +kernel), if_pos rfl, kept _ (by decide +kernel), stream]
  · intro key other
    simp only [writtenKeys, List.map_cons, List.map_nil, List.mem_cons, List.not_mem_nil, or_false,
      not_or] at other
    rw [written, if_neg other.1, if_neg other.2.2.1, if_neg other.2.2.2.1, if_neg other.2.2.2.2,
      kept key other.2.1]

theorem outbound_again (normalized : Fields) (returns : normalizeBody body = .ok normalized) :
    outbound resolved (applyResolved normalized resolved) =
      .ok (applyResolved normalized resolved) := by
  have messages : (applyResolved normalized resolved).lookup (units "messages") =
      normalized.lookup (units "messages") := by
    rw [lookup_applyResolved, if_neg (by decide +kernel), if_neg (by decide +kernel),
      if_neg (by decide +kernel), if_neg (by decide +kernel)]
  have same : normalizeBody (applyResolved normalized resolved) =
      .ok (applyResolved normalized resolved) := by
    rcases normalizeBody_cases body normalized returns with
      ⟨none, rfl⟩ | ⟨conversation, merged, found, merging, rfl⟩
    · refine normalizeBody_plain _ fun conversation => ?_
      rw [messages]
      exact none conversation
    · rw [lookup_put_self] at messages
      rw [normalizeBody_messages _ merged messages,
        normalizeMessages_again conversation merged merging]
      exact congrArg Except.ok (put_of_lookup _ _ _ messages)
  rw [outbound, same]
  exact congrArg Except.ok (applyResolved_again resolved normalized)

theorem not_above_clamped (value : Value) (printed : Utf16)
    (number : clamped value = .number printed) :
    (numberOf printed).above maxTokensCeiling = false := by
  have again := clamped_clamped value
  rw [number, clamped] at again
  by_contra above
  rw [Bool.not_eq_false] at above
  rw [if_pos above] at again
  have ceiling : numberOf printed = .finite maxTokensCeiling := by
    rw [natural, Value.number.injEq] at again
    rw [← again]
    exact numberOf_natural maxTokensCeiling
  rw [ceiling] at above
  simp [Number.above] at above

end Sending

/-- A request is sent unless one of its system messages cannot be read, and as
the schema lets it through it is always sent. The upstream gets what the caller
wrote, under the model of the attempt and at most the ceiling of tokens; the
registry fills in only what is missing, and to prepare the body once more for
the same model changes nothing. -/
theorem outbound_prepared (resolved : ResolvedModel) (body : Fields) :
    ((∃ sent, outbound resolved body = .ok sent) ↔ Sendable body) ∧
      ((∀ messages, body.lookup (units "messages") = some (.array messages) →
        ∀ message ∈ messages, SchemaContent (content message)) → Sendable body) ∧
      ∀ sent, outbound resolved body = .ok sent →
        Prepared resolved body sent ∧ outbound resolved sent = .ok sent ∧
          ∀ printed, sent.lookup (units "max_tokens") = some (.number printed) →
            (numberOf printed).above maxTokensCeiling = false := by
  refine ⟨?_, ?_, ?_⟩
  · rw [← normalizeBody_returns_iff]
    constructor
    · rintro ⟨sent, sends⟩
      obtain ⟨normalized, returns, _⟩ := outbound_eq resolved body sent sends
      exact ⟨normalized, returns⟩
    · rintro ⟨normalized, returns⟩
      exact ⟨applyResolved normalized resolved, by rw [outbound, returns]; rfl⟩
  · intro valid messages present message member _
    exact readable_schema message (valid messages present message member)
  · intro sent sends
    obtain ⟨normalized, returns, rfl⟩ := outbound_eq resolved body sent sends
    have fields := prepared resolved body normalized returns
    refine ⟨fields, outbound_again resolved body normalized returns, fun printed number => ?_⟩
    rw [fields.maxTokens] at number
    obtain ⟨before, _, same⟩ := Option.map_eq_some_iff.mp number
    exact not_above_clamped before printed same

end LlmGateway.Chat
