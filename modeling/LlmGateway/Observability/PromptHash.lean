import LlmGateway.Chat.SystemMessages
import LlmGateway.Lib.JsText

/-!
`hashPrompt`: the text it feeds to SHA-256 is one line for each message and a
last one for the model. That text decides the model and the cleaned messages.
-/

namespace LlmGateway.Observability

open Js Chat

def extractText (content : Value) : Except Thrown Utf16 := do
  let raw ← Chat.extractText content
  return trim (collapse raw)

def role (message : Value) : Value := message.member (units "role")

/-- `(m?.role ?? 'unknown').toString()`. -/
def roleText (message : Value) : Except Thrown Utf16 :=
  if (role message).nullish then .ok (units "unknown") else (role message).toText

section Payload

variable (unicode : UnicodeCase)

def part (message : Value) : Except Thrown Utf16 := do
  let text ← extractText (content message)
  let role ← roleText message
  return role ++ units ":" ++ unicode.toLowerCase (trim text)

def payload (messages : List Value) (model : Utf16) : Except Thrown Utf16 := do
  let parts ← messages.mapM (part unicode)
  return join (units "\n") (parts ++ [units "model:" ++ model])

/-- `sha256Hex` is the digest in hexadecimal. -/
def hashPrompt (sha256Hex : Utf16 → Utf16) (messages : List Value) (model : Utf16) :
    Except Thrown Utf16 := do
  let payload ← payload unicode messages model
  return (sha256Hex payload).take 16

/-- A message as the hash sees it: its role, and its text with white space collapsed,
trimmed and lower-cased. -/
def normalised (message : Value) : Except Thrown (Utf16 × Utf16) := do
  let raw ← Chat.extractText (content message)
  let role ← roleText message
  return (role, unicode.toLowerCase (trim (collapse raw)))

end Payload

def schemaRoles : List Utf16 :=
  ["system", "user", "assistant", "tool", "developer", "function"].map units

/-- Every message has a role of `ChatCompletionBodySchema`. -/
def SchemaRoles (messages : List Value) : Prop :=
  ∀ message ∈ messages, ∃ name ∈ schemaRoles, role message = .string name

def render (message : Utf16 × Utf16) : Utf16 := message.1 ++ units ":" ++ message.2

section Lines

variable (unicode : UnicodeCase)

theorem part_eq (message : Value) :
    part unicode message = (normalised unicode message).map render := by
  unfold part normalised extractText
  cases Chat.extractText (content message) with
  | error error => rfl
  | ok raw =>
      cases roleText message with
      | error error => rfl
      | ok name =>
          change Except.ok (name ++ units ":" ++ unicode.toLowerCase (trim (trim (collapse raw)))) = _
          rw [trim_trim]
          rfl

structure Cleaned (message : Utf16 × Utf16) : Prop where
  named : message.1 ∈ schemaRoles
  oneLine : lineFeed ∉ message.2

theorem cleaned_of_normalised (message : Value) (shape : Utf16 × Utf16) (name : Utf16)
    (known : name ∈ schemaRoles) (named : role message = .string name)
    (found : normalised unicode message = .ok shape) : Cleaned shape := by
  unfold normalised roleText at found
  rw [named] at found
  cases read : Chat.extractText (content message) with
  | error error =>
      rw [read] at found
      cases found
  | ok raw =>
      rw [read] at found
      cases found
      refine ⟨known, ?_⟩
      exact unicode.lineFeed_not_mem_toLowerCase _
        (lineFeed_not_mem_trim _ (lineFeed_not_mem_collapse raw))

theorem shapes_cleaned (messages : List Value) (shapes : List (Utf16 × Utf16))
    (roles : SchemaRoles messages) (found : messages.mapM (normalised unicode) = .ok shapes) :
    ∀ shape ∈ shapes, Cleaned shape := by
  have each := (Effects.mapM_ok_iff _ _ _).mp found
  clear found
  induction each with
  | nil => exact fun shape member => absurd member List.not_mem_nil
  | cons one _ ih =>
      obtain ⟨first, rest⟩ := List.forall_mem_cons.mp roles
      obtain ⟨name, known, named⟩ := first
      exact List.forall_mem_cons.mpr
        ⟨cleaned_of_normalised unicode _ _ name known named one, ih rest⟩

theorem render_clean (shape : Utf16 × Utf16) (cleaned : Cleaned shape) :
    lineFeed ∉ render shape ∧ ¬ units "model:" <+: render shape := by
  have names : ∀ name ∈ schemaRoles, lineFeed ∉ name ++ units ":" ∧
      name.head? ≠ none ∧ name.head? ≠ (units "model:").head? := by decide +kernel
  obtain ⟨clean, named, other⟩ := names shape.1 cleaned.named
  constructor
  · intro member
    rcases List.mem_append.mp member with head | text
    · exact clean head
    · exact cleaned.oneLine text
  · -- No role begins with the letter of `model:`.
    rintro ⟨tail, whole⟩
    have heads := congrArg List.head? whole
    rw [render, List.append_assoc, List.head?_append, List.head?_append] at heads
    cases begins : shape.1.head? with
    | none => exact named begins
    | some unit =>
        have letter : (units "model:").head? = some 0x6D := by decide +kernel
        rw [begins, letter, Option.some_or, Option.some_or] at heads
        exact other (by rw [begins, letter, heads])

theorem render_inj (shape other : Utf16 × Utf16) (cleaned : Cleaned shape)
    (cleanedOther : Cleaned other) (same : render shape = render other) : shape = other := by
  have plain : ∀ name ∈ schemaRoles, (0x3A : UInt16) ∉ name := by decide +kernel
  have colon : units ":" = [0x3A] := by decide +kernel
  unfold render at same
  rw [colon, List.append_assoc, List.append_assoc] at same
  obtain ⟨names, texts⟩ := line_split 0x3A _ _ _ _ (plain _ cleaned.named)
    (plain _ cleanedOther.named) same
  exact Prod.ext names texts

theorem map_render_inj (shapes others : List (Utf16 × Utf16))
    (cleaned : ∀ shape ∈ shapes, Cleaned shape) (cleanedOthers : ∀ shape ∈ others, Cleaned shape) :
    shapes.map render = others.map render ↔ shapes = others := by
  constructor
  · intro same
    induction shapes generalizing others with
    | nil => exact (List.map_eq_nil_iff.mp same.symm).symm
    | cons first rest ih =>
        cases others with
        | nil => cases same
        | cons other remaining =>
            obtain ⟨head, tail⟩ := List.cons.inj same
            obtain ⟨one, later⟩ := List.forall_mem_cons.mp cleaned
            obtain ⟨two, more⟩ := List.forall_mem_cons.mp cleanedOthers
            rw [render_inj first other one two head, ih remaining later more tail]
  · rintro rfl
    rfl

/-- What is fed is the rendered messages, one a line, and the model. -/
theorem payload_eq (messages : List Value) (model : Utf16) :
    payload unicode messages model = (messages.mapM (normalised unicode)).map fun shapes =>
      join [lineFeed] (shapes.map render ++ [units "model:" ++ model]) := by
  have feed : units "\n" = [lineFeed] := by decide +kernel
  have parts : messages.mapM (part unicode) =
      (messages.mapM (normalised unicode)).map (List.map render) := by
    rw [← Effects.mapM_map]
    exact congrArg (fun step => messages.mapM step) (funext (part_eq unicode))
  unfold payload
  rw [parts, feed]
  cases messages.mapM (normalised unicode) <;> rfl

theorem hashPrompt_same (sha256Hex : Utf16 → Utf16) (messages others : List Value) (model : Utf16)
    (same : messages.mapM (normalised unicode) = others.mapM (normalised unicode)) :
    hashPrompt unicode sha256Hex messages model = hashPrompt unicode sha256Hex others model := by
  unfold hashPrompt
  rw [payload_eq, payload_eq, same]

theorem payload_ok (messages : List Value) (model text : Utf16)
    (fed : payload unicode messages model = .ok text) :
    ∃ shapes, messages.mapM (normalised unicode) = .ok shapes ∧
      text = join [lineFeed] (shapes.map render ++ [units "model:" ++ model]) := by
  rw [payload_eq] at fed
  cases found : messages.mapM (normalised unicode) with
  | error error =>
      rw [found] at fed
      cases fed
  | ok shapes =>
      rw [found] at fed
      cases fed
      exact ⟨shapes, rfl, rfl⟩

end Lines

/-- Two requests feed the same text exactly when their models and their cleaned
messages are the same. -/
theorem payload_eq_iff (unicode : UnicodeCase) (messages others : List Value)
    (model otherModel text otherText : Utf16) (roles : SchemaRoles messages)
    (otherRoles : SchemaRoles others) (fed : payload unicode messages model = .ok text)
    (otherFed : payload unicode others otherModel = .ok otherText) :
    text = otherText ↔ model = otherModel ∧
      messages.mapM (normalised unicode) = others.mapM (normalised unicode) := by
  obtain ⟨shapes, found, rfl⟩ := payload_ok unicode messages model text fed
  obtain ⟨otherShapes, otherFound, rfl⟩ :=
    payload_ok unicode others otherModel otherText otherFed
  have cleaned := shapes_cleaned unicode messages shapes roles found
  have otherCleaned := shapes_cleaned unicode others otherShapes otherRoles otherFound
  have lines : ∀ kept : List (Utf16 × Utf16), (∀ shape ∈ kept, Cleaned shape) →
      ∀ line ∈ kept.map render, lineFeed ∉ line ∧ ¬ units "model:" <+: line := by
    intro kept each line member
    obtain ⟨shape, among, rfl⟩ := List.mem_map.mp member
    exact render_clean shape (each shape among)
  rw [join_marked_inj lineFeed (units "model:") _ _ _ _ (by decide +kernel) (lines _ cleaned)
    (lines _ otherCleaned), map_render_inj _ _ cleaned otherCleaned, found, otherFound,
    Except.ok.injEq, and_comm]

def question (text : String) : List Value :=
  [.object [(units "role", .string (units "user")), (units "content", .string (units text))]]

theorem payload_eq_iff_question :
    payload UnicodeCase.ascii (question "Is it\n so: model:b ") (units "a\nmodel:b") =
        .ok (units "user:is it so: model:b\nmodel:a\nmodel:b") ∧
      (units "user:is it so: model:b\nmodel:a\nmodel:b" =
        units "user:is it so: model:b\nmodel:a\nmodel:b" ↔ units "a\nmodel:b" = units "a\nmodel:b" ∧
          (question "Is it\n so: model:b ").mapM (normalised UnicodeCase.ascii) =
            (question "is it so: model:b").mapM (normalised UnicodeCase.ascii)) := by
  have roles : ∀ text, SchemaRoles (question text) := by
    intro text message member
    rw [List.mem_singleton.mp member]
    exact ⟨units "user", by decide +kernel, rfl⟩
  have fed : payload UnicodeCase.ascii (question "Is it\n so: model:b ") (units "a\nmodel:b") =
      .ok (units "user:is it so: model:b\nmodel:a\nmodel:b") := by decide +kernel
  have otherFed : payload UnicodeCase.ascii (question "is it so: model:b") (units "a\nmodel:b") =
      .ok (units "user:is it so: model:b\nmodel:a\nmodel:b") := by decide +kernel
  exact ⟨fed, payload_eq_iff UnicodeCase.ascii _ _ _ _ _ _ (roles _) (roles _) fed otherFed⟩

end LlmGateway.Observability
