import LlmGateway.Chat.SystemMessages

/-!
`serializeRequestParams`: the snapshot of a failed request. It leaves the
conversation out and keeps a cut of the first user message; its size is capped
by a cascade whose last step is printed whatever its size.
-/

namespace LlmGateway.Chat

open Js

def requestParamsSnippetChars : ℕ := 200

def requestParamsMaxChars : ℕ := 2048

def firstUserMessageKey : Utf16 := units "first_user_message"

def ellipsis : Utf16 := units "\u2026"

/-- First message with `role === 'user'`. -/
def firstUserMessage : Value → Option Value
  | .array messages => messages.find? (hasRole "user")
  | _ => none

def snippet (text : Utf16) : Utf16 :=
  if requestParamsSnippetChars < text.length then text.take requestParamsSnippetChars ++ ellipsis
  else text

def coreKeys : List Utf16 := ["model", "max_tokens", "temperature", "stream"].map units

/-- `key in source && source[key] !== undefined`. -/
def coreField (source : Value) (key : Utf16) : Option (Utf16 × Value) :=
  if (source.member key).defined then some (key, source.member key) else none

def core (source : Value) : List (Utf16 × Value) := coreKeys.filterMap (coreField source)

/-- Every field but `messages`; assigning `__proto__` makes no property. -/
def topLevelParams (source : Value) : List (Utf16 × Value) :=
  source.ownFields.filter fun field =>
    field.1 ≠ units "messages" && field.1 ≠ units "__proto__"

def params (source : Value) : Except Thrown (List (Utf16 × Value)) :=
  match firstUserMessage (source.member (units "messages")) with
  | none => .ok (topLevelParams source)
  | some firstUser => do
      let text ← extractText (content firstUser)
      return put firstUserMessageKey (.string (snippet text)) (topLevelParams source)

def capped (source : Value) (params : List (Utf16 × Value)) : Option Utf16 :=
  let json := objectJson params
  let json := if requestParamsMaxChars < json.length then
    objectJson (erase firstUserMessageKey params) else json
  if requestParamsMaxChars < json.length then
    if core source ≠ [] then some (objectJson (core source)) else none
  else some json

def serializeRequestParams (body : Value) : Except Thrown (Option Utf16) :=
  match body with
  | .object _ | .array _ =>
      tryCatch (do
        let params ← params body
        return capped body params) fun _ => .ok none
  | _ => .ok none

/-- The fields of a snapshot, against the body they are taken from. -/
structure Snapshot (body : Value) (fields : List (Utf16 × Value)) : Prop where
  withoutMessages : ∀ field ∈ fields, field.1 ≠ units "messages"
  fromBody : ∀ field ∈ fields, field ∈ body.ownFields ∨
    ∃ user text, firstUserMessage (body.member (units "messages")) = some user ∧
      extractText (content user) = .ok text ∧
      field = (firstUserMessageKey, .string (snippet text))
  excerpt : ∀ user text, firstUserMessage (body.member (units "messages")) = some user →
    extractText (content user) = .ok text →
    fields.lookup firstUserMessageKey = none ∨
      ∃ kept, fields.lookup firstUserMessageKey = some (.string kept) ∧
        (kept = text ∧ text.length ≤ 200 ∨ kept = text.take 200 ++ [0x2026])

/-- Nothing is thrown, and what is logged is bounded and carries no conversation. -/
structure Contained (body : Value) : Prop where
  returns : ∃ logged, serializeRequestParams body = .ok logged
  bounded : ∀ json, serializeRequestParams body = .ok (some json) → json.length ≤ 2048
  fields : ∀ json, serializeRequestParams body = .ok (some json) →
    ∃ fields, json = objectJson fields ∧ Snapshot body fields

def fieldRoom (body : Value) (name : String) : ℕ :=
  match (body.member (units name)).json with
  | none => 0
  | some text => (quoteUnits (units name)).length + 1 + text.length + 1

def CoreFits (body : Value) : Prop :=
  1 + (fieldRoom body "model" + fieldRoom body "max_tokens" + fieldRoom body "temperature" +
    fieldRoom body "stream") ≤ 2048

def Unreadable (body : Value) : Prop :=
  ∃ user error, firstUserMessage (body.member (units "messages")) = some user ∧
    extractText (content user) = .error error

section Cascade

variable (body : Value)

theorem mem_core (field : Utf16 × Value) (member : field ∈ core body) :
    field.1 ∈ coreKeys ∧ body.member field.1 = field.2 ∧ field.2.defined = true := by
  obtain ⟨key, among, found⟩ := List.mem_filterMap.mp member
  unfold coreField at found
  split at found
  next present =>
    cases found
    exact ⟨among, rfl, present⟩
  next => cases found

theorem member_mem (key : Utf16) (present : (body.member key).defined = true) :
    (key, body.member key) ∈ body.ownFields := by
  cases body with
  | object fields =>
      cases found : fields.lookup key with
      | none =>
          rw [Value.member, found] at present
          cases present
      | some value =>
          rw [Value.member, found]
          exact mem_of_lookup key value fields found
  | _ => cases present

theorem core_mem_topLevelParams (field : Utf16 × Value) (member : field ∈ core body) :
    field ∈ topLevelParams body ∧ field.1 ≠ firstUserMessageKey := by
  obtain ⟨among, value, present⟩ := mem_core body field member
  have apart : ∀ key ∈ coreKeys, key ≠ units "messages" ∧ key ≠ units "__proto__" ∧
      key ≠ firstUserMessageKey := by decide +kernel
  obtain ⟨messages, proto, snippetKey⟩ := apart field.1 among
  refine ⟨List.mem_filter.mpr ⟨?_, by simp [messages, proto]⟩, snippetKey⟩
  have own := member_mem body field.1 (by rw [value]; exact present)
  rw [value] at own
  exact own

theorem core_nodup : (core body).Nodup := by
  refine List.Nodup.filterMap ?_ (by decide +kernel)
  intro key other field one two
  unfold coreField at one two
  split at one <;> cases one
  split at two <;> cases two
  rfl

theorem params_cases (fields : List (Utf16 × Value)) (gathered : params body = .ok fields) :
    (firstUserMessage (body.member (units "messages")) = none ∧ fields = topLevelParams body) ∨
      ∃ firstUser text, firstUserMessage (body.member (units "messages")) = some firstUser ∧
        extractText (content firstUser) = .ok text ∧
        fields = put firstUserMessageKey (.string (snippet text)) (topLevelParams body) := by
  unfold params at gathered
  split at gathered
  next nobody =>
    cases gathered
    exact Or.inl ⟨nobody, rfl⟩
  next firstUser found =>
    cases read : extractText (content firstUser) with
    | error error =>
        rw [read] at gathered
        cases gathered
    | ok text =>
        rw [read] at gathered
        cases gathered
        exact Or.inr ⟨firstUser, text, found, read, rfl⟩

theorem core_subperm (fields : List (Utf16 × Value)) (gathered : params body = .ok fields) :
    (core body).Subperm (erase firstUserMessageKey fields) ∧ (core body).Subperm fields := by
  have within : ∀ field ∈ core body, field ∈ fields := by
    intro field member
    obtain ⟨top, other⟩ := core_mem_topLevelParams body field member
    rcases params_cases body fields gathered with ⟨_, rfl⟩ | ⟨_, _, _, _, rfl⟩
    · exact top
    · exact mem_put_of_ne _ _ _ field top other
  constructor
  · refine List.subperm_of_subset (core_nodup body) fun field member => ?_
    refine List.mem_filter.mpr ⟨within field member, ?_⟩
    simpa using (core_mem_topLevelParams body field member).2
  · exact List.subperm_of_subset (core_nodup body) within

theorem json_of_defined (value : Value) (present : value.defined = true) :
    ∃ text, value.json = some text := by
  cases value with
  | undefined => cases present
  | _ => exact ⟨_, by rw [Value.json]⟩

theorem fieldsJson_core (printed : core body ≠ []) : fieldsJson (core body) ≠ [] := by
  rw [fieldsJson_eq]
  obtain ⟨field, rest, same⟩ := List.exists_cons_of_ne_nil printed
  have member : field ∈ core body := by
    rw [same]
    exact List.mem_cons_self
  obtain ⟨text, json⟩ := json_of_defined field.2 (mem_core body field member).2.2
  rw [same, List.filterMap_cons, fieldJson, json]
  exact List.cons_ne_nil _ _

theorem room_coreFields (names : List String) :
    room (fieldsJson ((names.map units).filterMap (coreField body))) =
      (names.map (fieldRoom body)).sum := by
  induction names with
  | nil => rfl
  | cons name rest ih =>
      rw [List.map_cons, List.map_cons, List.sum_cons, List.filterMap_cons, coreField, fieldRoom]
      cases value : body.member (units name) with
      | undefined =>
          simp only [Value.defined, Bool.false_eq_true, ↓reduceIte, Value.json, Nat.zero_add]
          exact ih
      | _ =>
          simp only [Value.defined, ↓reduceIte, fieldsJson, Value.json, Option.map_some,
            Option.toList_some, List.singleton_append, room, List.map_cons, List.sum_cons]
          rw [← ih]
          simp only [room, List.length_append]
          have colon : (units ":").length = 1 := by decide +kernel
          omega

theorem room_core : room (fieldsJson (core body)) =
    fieldRoom body "model" + fieldRoom body "max_tokens" + fieldRoom body "temperature" +
      fieldRoom body "stream" := by
  have all := room_coreFields body ["model", "max_tokens", "temperature", "stream"]
  simp only [List.map_cons, List.map_nil, List.sum_cons, List.sum_nil] at all
  unfold core coreKeys
  simp only [List.map_cons, List.map_nil]
  omega

theorem core_length_le_iff (printed : core body ≠ []) :
    (objectJson (core body)).length ≤ 2048 ↔ CoreFits body := by
  unfold objectJson CoreFits
  rw [braces_length, if_neg (fieldsJson_core body printed), room_core]

theorem coreFits_of_empty (empty : core body = []) : CoreFits body := by
  have nothing := room_core body
  rw [empty] at nothing
  unfold CoreFits
  rw [← nothing]
  decide

/-- The cascade: the fields, or what is left of them without the excerpt, when that
fits, and otherwise the core. -/
theorem capped_cases (fields : List (Utf16 × Value)) :
    (∃ printed, (printed = fields ∨ printed = erase firstUserMessageKey fields) ∧
      (objectJson printed).length ≤ 2048 ∧ capped body fields = some (objectJson printed)) ∨
    (2048 < (objectJson fields).length ∧
      2048 < (objectJson (erase firstUserMessageKey fields)).length ∧
      capped body fields =
        if core body ≠ [] then some (objectJson (core body)) else none) := by
  unfold capped
  dsimp only
  by_cases first : requestParamsMaxChars < (objectJson fields).length
  · rw [if_pos first]
    by_cases second : requestParamsMaxChars < (objectJson (erase firstUserMessageKey fields)).length
    · rw [if_pos second]
      exact Or.inr ⟨first, second, rfl⟩
    · rw [if_neg second]
      exact Or.inl ⟨_, Or.inr rfl, Nat.not_lt.mp second, rfl⟩
  · rw [if_neg first, if_neg first]
    exact Or.inl ⟨fields, Or.inl rfl, Nat.not_lt.mp first, rfl⟩

theorem capped_bounded_iff (fields : List (Utf16 × Value)) (gathered : params body = .ok fields) :
    (∀ json, capped body fields = some json → json.length ≤ 2048) ↔ CoreFits body := by
  obtain ⟨trimmed, full⟩ := core_subperm body fields gathered
  by_cases printed : core body = []
  · refine iff_of_true ?_ (coreFits_of_empty body printed)
    intro json found
    rcases capped_cases body fields with ⟨tried, _, small, logs⟩ | ⟨_, _, logs⟩
    · rw [logs] at found
      cases found
      exact small
    · rw [logs, if_neg (not_not_intro printed)] at found
      cases found
  · rw [← core_length_le_iff body printed]
    rcases capped_cases body fields with ⟨tried, kept, small, logs⟩ | ⟨_, _, logs⟩
    · -- The core is no longer than the snapshot it is part of.
      have within : (core body).Subperm tried := by
        rcases kept with rfl | rfl
        · exact full
        · exact trimmed
      have shorter := objectJson_length_le _ _ within (fieldsJson_core body printed)
      refine iff_of_true ?_ (shorter.trans small)
      intro json found
      rw [logs] at found
      cases found
      exact small
    · rw [logs, if_pos printed]
      constructor
      · intro bounded
        exact bounded _ rfl
      · intro fits json found
        cases found
        exact fits

end Cascade

section Fields

variable (body : Value)

theorem params_throws_iff : (∃ error, params body = .error error) ↔ Unreadable body := by
  unfold params Unreadable
  cases firstUserMessage (body.member (units "messages")) with
  | none => simp
  | some firstUser =>
      cases read : extractText (content firstUser) with
      | error error => simp [read, bind, Except.bind]
      | ok text => simp [read, bind, Except.bind, pure, Except.pure]

theorem serialize_cases :
    (∃ fields, params body = .ok fields ∧ ¬ Unreadable body ∧
      serializeRequestParams body = .ok (capped body fields)) ∨
    (serializeRequestParams body = .ok none ∧ (CoreFits body ∨ Unreadable body)) := by
  have usable : serializeRequestParams body = tryCatch (do
        let params ← params body
        return capped body params) (fun _ => .ok none) →
      (∃ fields, params body = .ok fields ∧ ¬ Unreadable body ∧
        serializeRequestParams body = .ok (capped body fields)) ∨
      (serializeRequestParams body = .ok none ∧ (CoreFits body ∨ Unreadable body)) := by
    intro tries
    cases gathered : params body with
    | error error =>
        rw [gathered] at tries
        exact Or.inr ⟨tries, Or.inr ((params_throws_iff body).mp ⟨error, gathered⟩)⟩
    | ok fields =>
        rw [gathered] at tries
        refine Or.inl ⟨fields, rfl, ?_, tries⟩
        intro unreadable
        obtain ⟨error, throws⟩ := (params_throws_iff body).mpr unreadable
        rw [gathered] at throws
        cases throws
  cases body with
  | object fields => exact usable rfl
  | array items => exact usable rfl
  | _ =>
      refine Or.inr ⟨rfl, Or.inl (coreFits_of_empty _ ?_)⟩
      simp [core, coreField, coreKeys, Value.member, Value.defined]

theorem snippet_cut (text : Utf16) :
    snippet text = text ∧ text.length ≤ 200 ∨ snippet text = text.take 200 ++ [0x2026] := by
  unfold snippet
  split
  next => exact Or.inr (congrArg (text.take 200 ++ ·) (by decide +kernel))
  next short => exact Or.inl ⟨rfl, Nat.not_lt.mp short⟩

theorem topLevelParams_withoutMessages (field : Utf16 × Value)
    (member : field ∈ topLevelParams body) :
    field ∈ body.ownFields ∧ field.1 ≠ units "messages" := by
  obtain ⟨own, kept⟩ := List.mem_filter.mp member
  simp only [ne_eq, decide_not, Bool.and_eq_true, Bool.not_eq_true', decide_eq_false_iff_not] at kept
  exact ⟨own, kept.1⟩

theorem params_snapshot (fields : List (Utf16 × Value)) (gathered : params body = .ok fields) :
    Snapshot body fields := by
  rcases params_cases body fields gathered with
    ⟨nobody, rfl⟩ | ⟨firstUser, text, found, read, rfl⟩
  · exact {
      withoutMessages := fun field member => (topLevelParams_withoutMessages body field member).2
      fromBody := fun field member => Or.inl (topLevelParams_withoutMessages body field member).1
      excerpt := by
        intro user text found
        rw [nobody] at found
        cases found }
  · refine ⟨?_, ?_, ?_⟩
    · intro field member
      rcases mem_put _ _ _ field member with rfl | top
      · dsimp only
        decide +kernel
      · exact (topLevelParams_withoutMessages body field top).2
    · intro field member
      rcases mem_put _ _ _ field member with written | top
      · exact Or.inr ⟨firstUser, text, found, read, written⟩
      · exact Or.inl (topLevelParams_withoutMessages body field top).1
    · intro user other same reads
      rw [found] at same
      cases same
      rw [read] at reads
      cases reads
      exact Or.inr ⟨snippet text, lookup_put_self _ _ _, snippet_cut text⟩

theorem Snapshot.erase (fields : List (Utf16 × Value)) (snapshot : Snapshot body fields) :
    Snapshot body (erase firstUserMessageKey fields) where
  withoutMessages := fun field member =>
    snapshot.withoutMessages field (List.mem_of_mem_filter member)
  fromBody := fun field member => snapshot.fromBody field (List.mem_of_mem_filter member)
  excerpt := by
    intro user text _ _
    left
    refine List.lookup_eq_none_iff.mpr fun field member => ?_
    have other := (List.mem_filter.mp member).2
    simpa using Ne.symm (of_decide_eq_true other)

theorem core_snapshot : Snapshot body (core body) where
  withoutMessages := by
    intro field member
    exact (topLevelParams_withoutMessages body field (core_mem_topLevelParams body field member).1).2
  fromBody := by
    intro field member
    left
    exact (topLevelParams_withoutMessages body field (core_mem_topLevelParams body field member).1).1
  excerpt := by
    intro user text _ _
    left
    refine List.lookup_eq_none_iff.mpr fun field member => ?_
    simpa using Ne.symm (core_mem_topLevelParams body field member).2

theorem capped_snapshot (fields : List (Utf16 × Value)) (snapshot : Snapshot body fields)
    (json : Utf16) (logged : capped body fields = some json) :
    ∃ printed, json = objectJson printed ∧ Snapshot body printed := by
  rcases capped_cases body fields with ⟨printed, kept, _, logs⟩ | ⟨_, _, logs⟩
  · rw [logs] at logged
    cases logged
    refine ⟨printed, rfl, ?_⟩
    rcases kept with rfl | rfl
    · exact snapshot
    · exact snapshot.erase
  · rw [logs] at logged
    split at logged <;> cases logged
    exact ⟨core body, rfl, core_snapshot body⟩

end Fields

/-- The snapshot is contained exactly when the core fields fit the cap, or the
first user message cannot be read and nothing is logged. -/
theorem requestParams_contained_iff (body : Value) :
    Contained body ↔ CoreFits body ∨ Unreadable body := by
  rcases serialize_cases body with ⟨fields, gathered, readable, logs⟩ | ⟨silent, condition⟩
  · rw [or_iff_left readable, ← capped_bounded_iff body fields gathered]
    constructor
    · intro contained json logged
      exact contained.bounded json (by rw [logs, logged])
    · intro bounded
      exact {
        returns := ⟨_, logs⟩
        bounded := by
          intro json same
          rw [logs] at same
          exact bounded json (Except.ok.inj same)
        fields := by
          intro json same
          rw [logs] at same
          exact capped_snapshot body fields (params_snapshot body fields gathered) json
            (Except.ok.inj same) }
  · refine iff_of_true ?_ condition
    exact {
      returns := ⟨_, silent⟩
      bounded := by
        intro json same
        rw [silent] at same
        cases same
      fields := by
        intro json same
        rw [silent] at same
        cases same }

def longModelBody : Value :=
  .object [(units "model", .string (List.replicate 3000 0x61)),
    (units "messages", .array [.object [(units "role", .string (units "user")),
      (units "content", .string (units "hi"))]])]

theorem longModelBody_exceeds :
    ∃ json, serializeRequestParams longModelBody = .ok (some json) ∧ 2048 < json.length := by
  have readable : ¬ Unreadable longModelBody := by
    intro unreadable
    obtain ⟨error, throws⟩ := (params_throws_iff longModelBody).mpr unreadable
    have reads : (params longModelBody).isOk = true := by decide +kernel
    rw [throws] at reads
    cases reads
  have large : ¬ CoreFits longModelBody := by
    have model : longModelBody.member (units "model") = .string (List.replicate 3000 0x61) := by
      rw [longModelBody, Value.member, List.lookup_cons_self]
      rfl
    have printed : 3000 ≤ fieldRoom longModelBody "model" := by
      have text := length_le_escapeUnits (List.replicate 3000 0x61)
      rw [List.length_replicate] at text
      have quoted : 3000 ≤ (quoteUnits (List.replicate 3000 0x61)).length := by
        rw [quoteUnits, List.length_append, List.length_append]
        omega
      rw [fieldRoom, model, Value.json]
      dsimp only
      omega
    unfold CoreFits
    omega
  rcases serialize_cases longModelBody with ⟨fields, gathered, _, logs⟩ | ⟨_, fits | unread⟩
  · rw [← capped_bounded_iff longModelBody fields gathered] at large
    push Not at large
    obtain ⟨json, logged, long⟩ := large
    exact ⟨json, by rw [logs, logged], long⟩
  · exact absurd fits large
  · exact absurd unread readable

end LlmGateway.Chat
