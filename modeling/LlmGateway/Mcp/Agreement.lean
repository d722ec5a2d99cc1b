import LlmGateway.Lib.ToolSchema
import LlmGateway.Mcp.Controller

/-!
The search tool beside the REST surface and beside its own advertisement: one
search is told alike on both surfaces, and the arguments that are accepted are
the advertised ones, less what the schema does not say of them.
-/

namespace LlmGateway.Mcp

open EventReply Js Js.Literal Search ToolSchema

section Advertisement

/-- What the validation asks beyond the schema: the length of the query counts
code units, and `freshness` has a shape. -/
structure Stricter (value : Value) : Prop where
  query : ∀ text, Search.string? (value.member (units "query")) = some text → text.length ≤ 500
  freshness : ∀ text, Search.string? (value.member (units "freshness")) = some text →
    isFreshness text = true

def searchArguments : Arguments where
  properties :=
    [(units "query", .string (some 1) (some 500)), (units "count", .integer (some 1) (some 20)),
      (units "freshness", .string none none), (units "fetch_content", .boolean)]
  required := [units "query"]

theorem advertised : arguments? webSearchInputSchema = some searchArguments := by decide +kernel

theorem codePoints_length (text : Utf16) : (codePoints text).length ≤ text.length := by
  fun_induction codePoints text with
  | case1 => exact Nat.le_refl 0
  | case2 unit => exact Nat.le_refl 1
  | case3 high low rest pair ih => exact Nat.succ_le_succ (Nat.le_succ_of_le ih)
  | case4 high low rest alone ih => exact Nat.succ_le_succ ih

theorem codePoints_pos (text : Utf16) : 1 ≤ (codePoints text).length ↔ 1 ≤ text.length := by
  fun_cases codePoints text <;> simp

variable (value : Value)

theorem query_conforms (short : ∀ text, Search.string? value = some text → text.length ≤ 500) :
    (∃ text, Search.string? value = some text ∧ 1 ≤ text.length ∧ text.length ≤ 500) ↔
      value.defined = true ∧ Property.conforms (.string (some 1) (some 500)) value = true := by
  cases value with
  | string text =>
      have bound := short text rfl
      have points := codePoints_length text
      have positive := codePoints_pos text
      simp only [Search.string?, Option.some.injEq, exists_eq_left', Value.defined,
        Property.conforms, within, Option.all_some, Bool.and_eq_true, decide_eq_true_eq, true_and]
      norm_cast
      omega
  | _ => simp [Search.string?, Property.conforms]

theorem count_conforms :
    (value.defined = false ∨ ∃ number, Search.natural? value = some number ∧ 1 ≤ number ∧
        number ≤ 20) ↔
      (!value.defined || Property.conforms (.integer (some 1) (some 20)) value) = true := by
  cases value with
  | undefined => exact iff_of_true (Or.inl rfl) rfl
  | number printed =>
      simp only [Value.defined, Search.natural?, Property.conforms]
      cases numberOf printed with
      | finite number =>
          dsimp only
          by_cases whole : number.den = 1 ∧ 0 ≤ number
          · obtain ⟨natural, rfl⟩ : ∃ natural : ℕ, number = natural := by
              refine ⟨number.num.toNat, ?_⟩
              have same := Rat.coe_int_num_of_den_eq_one whole.1
              rw [← Int.cast_natCast, Int.toNat_of_nonneg (by simpa using whole.2)]
              exact same.symm
            simp [within]
          · have fails : ¬ (number.den = 1 ∧ 1 ≤ number) := fun both =>
              whole ⟨both.1, le_trans zero_le_one both.2⟩
            rw [if_neg whole]
            simp only [within, Option.all_some, Bool.not_true, Bool.false_or, Bool.and_eq_true,
              beq_iff_eq, decide_eq_true_eq, Nat.cast_one]
            refine iff_of_false (by simp) fun both => fails ⟨both.1, both.2.1⟩
      | _ => simp
  | _ => simp [Value.defined, Search.natural?, Property.conforms]

theorem freshness_conforms
    (shaped : ∀ text, Search.string? value = some text → isFreshness text = true) :
    (value.defined = false ∨ ∃ text, Search.freshness? value = some text) ↔
      (!value.defined || Property.conforms (.string none none) value) = true := by
  cases value with
  | undefined => exact iff_of_true (Or.inl rfl) rfl
  | string text =>
      refine iff_of_true (Or.inr ⟨text, ?_⟩) rfl
      exact Option.filter_eq_some_iff.mpr ⟨rfl, shaped text rfl⟩
  | _ => simp [Value.defined, freshness?, Search.string?, Property.conforms]

theorem fetchContent_conforms :
    (value.defined = false ∨ ∃ fetched, boolean? value = some fetched) ↔
      (!value.defined || Property.conforms .boolean value) = true := by
  cases value <;> simp [Value.defined, boolean?, Property.conforms]

theorem optionalField_iff {Field : Type} (read : Value → Option Field) (good : Field → Prop) :
    (∃ field, optionalField read value = some field ∧ ∀ held ∈ field, good held) ↔
      value.defined = false ∨ ∃ held, read value = some held ∧ good held := by
  unfold optionalField
  cases present : value.defined with
  | false => simp
  | true => simp

theorem searchBodySchema_iff (fields : List (Utf16 × Value)) :
    (∃ body, searchBodySchema (.object fields) = some body) ↔
      (∃ text, Search.string? ((Value.object fields).member (units "query")) = some text ∧
        1 ≤ text.length ∧ text.length ≤ 500) ∧
      (((Value.object fields).member (units "count")).defined = false ∨
        ∃ number, Search.natural? ((Value.object fields).member (units "count")) = some number ∧
          1 ≤ number ∧ number ≤ 20) ∧
      (((Value.object fields).member (units "freshness")).defined = false ∨
        ∃ text, Search.freshness? ((Value.object fields).member (units "freshness")) = some text) ∧
      (((Value.object fields).member (units "fetch_content")).defined = false ∨
        ∃ fetched, boolean? ((Value.object fields).member (units "fetch_content")) =
          some fetched) := by
  simp only [searchBodySchema]
  generalize (Value.object fields).member (units "query") = query
  generalize (Value.object fields).member (units "count") = count
  generalize (Value.object fields).member (units "freshness") = freshness
  generalize (Value.object fields).member (units "fetch_content") = fetchContent
  have counts := optionalField_iff count Search.natural? fun number => 1 ≤ number ∧ number ≤ 20
  have shaped := optionalField_iff freshness freshness? fun text => isFreshness text = true
  have fetched := optionalField_iff fetchContent boolean? fun _ => True
  have filtered : ∀ text, freshness? freshness = some text → isFreshness text = true :=
    fun text found => (Option.filter_eq_some_iff.mp found).2
  constructor
  · rintro ⟨body, made⟩
    obtain ⟨text, read, made⟩ := Option.bind_eq_some_iff.mp made
    obtain ⟨number, counted, made⟩ := Option.bind_eq_some_iff.mp made
    obtain ⟨window, fresh, made⟩ := Option.bind_eq_some_iff.mp made
    obtain ⟨whole, fetches, made⟩ := Option.bind_eq_some_iff.mp made
    split at made
    · rename_i valid
      refine ⟨⟨text, read, valid.1⟩, counts.mp ⟨number, counted, valid.2.1⟩, ?_, ?_⟩
      · exact (shaped.mp ⟨window, fresh, valid.2.2⟩).imp_right fun ⟨held, found, _⟩ => ⟨held, found⟩
      · exact (fetched.mp ⟨whole, fetches, fun _ _ => trivial⟩).imp_right
          fun ⟨held, found, _⟩ => ⟨held, found⟩
    · cases made
  · rintro ⟨⟨text, read, bounds⟩, counted, fresh, fetches⟩
    obtain ⟨number, counted, range⟩ := counts.mpr counted
    obtain ⟨window, fresh, shape⟩ := shaped.mpr (fresh.imp_right fun ⟨held, found⟩ =>
      ⟨held, found, filtered held found⟩)
    obtain ⟨whole, fetches, _⟩ := fetched.mpr (fetches.imp_right fun ⟨held, found⟩ =>
      ⟨held, found, trivial⟩)
    rw [read, counted, fresh, fetches]
    exact ⟨_, dif_pos ⟨bounds, range, shape⟩⟩

theorem conforms_iff (fields : List (Utf16 × Value)) :
    searchArguments.conforms (.object fields) = true ↔
      (((Value.object fields).member (units "query")).defined = true ∧
        Property.conforms (.string (some 1) (some 500))
          ((Value.object fields).member (units "query")) = true) ∧
      (!((Value.object fields).member (units "count")).defined ||
        Property.conforms (.integer (some 1) (some 20))
          ((Value.object fields).member (units "count"))) = true ∧
      (!((Value.object fields).member (units "freshness")).defined ||
        Property.conforms (.string none none)
          ((Value.object fields).member (units "freshness"))) = true ∧
      (!((Value.object fields).member (units "fetch_content")).defined ||
        Property.conforms .boolean
          ((Value.object fields).member (units "fetch_content"))) = true := by
  simp only [Arguments.conforms, searchArguments, List.all_cons, List.all_nil, Bool.and_true,
    Bool.and_eq_true]
  cases ((Value.object fields).member (units "query")).defined <;> simp

end Advertisement

/-- The arguments a search accepts are those that satisfy the advertised schema
and are not refused for the length of the query in code units or the shape of
`freshness`. -/
theorem advertised_arguments :
    ∃ schema, arguments? webSearchInputSchema = some schema ∧
      ∀ value, (∃ body, searchBodySchema value = some body) ↔
        schema.conforms value = true ∧ Stricter value := by
  refine ⟨searchArguments, advertised, fun value => ?_⟩
  cases value with
  | object fields =>
      rw [searchBodySchema_iff fields, conforms_iff fields]
      constructor
      · rintro ⟨⟨text, read, bounds⟩, counted, fresh, fetches⟩
        have strict : Stricter (.object fields) := by
          constructor
          · intro other same
            rw [read] at same
            cases same
            exact bounds.2
          · intro other same
            rcases fresh with absent | ⟨held, found⟩
            · generalize (Value.object fields).member (units "freshness") = value at same absent
              cases value with
              | undefined => cases same
              | _ => cases absent
            · obtain ⟨taken, shaped⟩ := Option.filter_eq_some_iff.mp found
              rw [same] at taken
              cases taken
              exact shaped
        exact ⟨⟨(query_conforms _ strict.query).mp ⟨text, read, bounds⟩, (count_conforms _).mp counted,
          (freshness_conforms _ strict.freshness).mp fresh, (fetchContent_conforms _).mp fetches⟩,
          strict⟩
      · rintro ⟨⟨query, count, freshness, fetchContent⟩, strict⟩
        exact ⟨(query_conforms _ strict.query).mpr query, (count_conforms _).mpr count,
          (freshness_conforms _ strict.freshness).mpr freshness,
          (fetchContent_conforms _).mpr fetchContent⟩
  | _ =>
      refine iff_of_false ?_ fun both => ?_
      · rintro ⟨body, made⟩
        cases made
      · cases both.1

section Surfaces

/-- `result` of a response. -/
def JsonRpcResponse.outcome : JsonRpcResponse → Value
  | .result _ outcome => outcome
  | .error _ _ _ _ => .undefined

/-- `content[0].text`. -/
def firstText (outcome : Value) : Value :=
  match outcome.member (units "content") with
  | .array (block :: _) => block.member (units "text")
  | _ => .undefined

/-- A tool result and a REST answer that say the same. -/
structure Agree (outcome : Value) (rest : SearchReply) : Prop where
  failed : outcome.member (units "isError") = .boolean (¬ Succeeded rest.status)
  structured : outcome.member (units "structuredContent") =
    if Succeeded rest.status then rest.body else .undefined
  printed : Succeeded rest.status → firstText outcome = .string (stringify rest.body)
  named : ¬ Succeeded rest.status → ∃ code message,
    (rest.body.member (units "error")).member (units "code") = .string code ∧
      (rest.body.member (units "error")).member (units "message") = .string message ∧
      firstText outcome = .string (code ++ units ": " ++ message)
  hidden : ∀ result ∈ Search.items (rest.body.member (units "results")),
    result.member (units "source") = .undefined

theorem firstText_of_content (outcome : Value) (words : Utf16)
    (content : outcome.member (units "content") = textContent words) :
    firstText outcome = .string words := by
  rw [firstText, content]
  exact member_object _ "text" ["type", "text"] rfl (by decide +kernel)

theorem source_hidden (response : SearchResponse) :
    ∀ result ∈ Search.items ((responseValue (stripSource response)).member (units "results")),
      result.member (units "source") = .undefined := by
  intro result member
  rw [responseValue, member_object _ "results" ["results", "cached"] rfl (by decide +kernel)]
    at member
  obtain ⟨stripped, among, rfl⟩ := List.mem_map.mp member
  obtain ⟨whole, _, rfl⟩ := List.mem_map.mp among
  exact member_fieldsOf _ "source" ["title", "url", "snippet", "content", "source"] rfl
    (by decide +kernel)

variable (served : SuccessStatus)

theorem agree_served (id : Value) (response : SearchResponse) :
    Agree (toolResult id (.ok response)).outcome (searchReply served (.ok response)) where
  failed := by
    rw [show decide (¬ Succeeded (searchReply served (.ok response)).status) = false from
      decide_eq_false (not_not.mpr served.success)]
    exact member_object _ "isError" ["content", "structuredContent", "isError"] rfl
      (by decide +kernel)
  structured := (member_object _ "structuredContent" ["content", "structuredContent", "isError"] rfl
    (by decide +kernel)).trans (if_pos served.success).symm
  printed := fun _ => firstText_of_content _ _
    (member_object _ "content" ["content", "structuredContent", "isError"] rfl (by decide +kernel))
  named := fun failed => absurd served.success failed
  hidden := source_hidden response

theorem errorStatus_failed (error : SearchProviderError) :
    ¬ Succeeded (searchErrorStatus error) := by
  unfold searchErrorStatus
  cases error.code <;> decide

theorem agree_failed (id : Value) (error : SearchProviderError) :
    Agree (toolResult id (.error (.provider error))).outcome
      (searchReply served (.error (.provider error))) := by
  have status : ¬ Succeeded (searchReply served (.error (.provider error))).status :=
    errorStatus_failed error
  have envelope : (searchErrorEnvelope error).member (units "error") = .object (fieldsOf
      [("message", some (.string error.message)), ("type", text error.code.name),
        ("code", text error.code.name), ("retryAfterMs", error.retryAfterMs.map natural)]) :=
    member_object _ "error" ["error"] rfl (by decide +kernel)
  have body : (searchReply served (.error (.provider error))).body = searchErrorEnvelope error :=
    rfl
  constructor
  · rw [show decide (¬ Succeeded (searchReply served (.error (.provider error))).status) = true from
      decide_eq_true status]
    exact member_object _ "isError" ["content", "isError"] rfl (by decide +kernel)
  · rw [if_neg status]
    exact member_object _ "structuredContent" ["content", "isError"] rfl (by decide +kernel)
  · exact fun success => absurd success status
  · intro _
    refine ⟨units error.code.name, error.message, ?_, ?_, ?_⟩
    · rw [body, envelope]
      exact member_fieldsOf _ "code" ["message", "type", "code", "retryAfterMs"] rfl
        (by decide +kernel)
    · rw [body, envelope]
      exact member_fieldsOf _ "message" ["message", "type", "code", "retryAfterMs"] rfl
        (by decide +kernel)
    · rw [← units_append]
      exact firstText_of_content _ _
        (member_object _ "content" ["content", "isError"] rfl (by decide +kernel))
  · intro result member
    rw [body, searchErrorEnvelope, member_object _ "results" ["error"] rfl (by decide +kernel)] at member
    cases member

end Surfaces

def serverOver (provider : HttpSearchProvider) (parseJson : Utf16 → Option Value)
    (issues : Value → Value) : Server :=
  { providerId := provider.id, parseJson := parseJson, issues := issues }

def requestOver (provider : HttpSearchProvider) (post : Value → ℕ → HttpOutcome) (raw : Value)
    (clientId : Option Quota.ClientId) : Request :=
  { raw := raw, clientId := clientId, provide := provider.search post }

/-- A search is told alike on both surfaces. The tool result is an error exactly
when the REST status is no success; its structured content and its text are the
REST body, or the code and the message of the REST error. Neither shows where a
result came from, and both leave the same record. -/
theorem mcp_agrees_with_rest (served : SuccessStatus) (provider : HttpSearchProvider)
    (post : Value → ℕ → HttpOutcome) (parseJson : Utf16 → Option Value) (issues : Value → Value)
    (raw id : Value) (clientId : Option Quota.ClientId) (body : SearchBody) :
    Agree (toolResult id ((serverOver provider parseJson issues).search
        (requestOver provider post raw clientId) body).1).outcome
        (searchReply served (search provider post body clientId).1) ∧
      ((serverOver provider parseJson issues).search
        (requestOver provider post raw clientId) body).2 =
          (search provider post body clientId).2 := by
  refine ⟨?_, rfl⟩
  change Agree (toolResult id (search provider post body clientId).1).outcome _
  rw [search]
  cases provider.search post (toOptions body) with
  | ok response => exact agree_served served id response
  | error failure => exact agree_failed served id (mapped failure)

end LlmGateway.Mcp
