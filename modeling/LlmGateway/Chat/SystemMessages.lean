import LlmGateway.Lib.Effects
import LlmGateway.Lib.JsDynamic

/-!
`normalizeMessages` and its copy `mergeSystemMessages`: the system messages of a
conversation made into one at its head. A message is any JavaScript value, and
reading the text of a part may throw.
-/

namespace LlmGateway.Chat

open Js

def partText : Value → Except Thrown Utf16
  | .string text => .ok text
  | .object fields => match fields.lookup (units "text") with
    | none => .ok []
    | some text => if text.nullish then .ok [] else text.toText
  | _ => .ok []

def extractText : Value → Except Thrown Utf16
  | .string text => .ok text
  | .array parts => do
      let texts ← parts.mapM partText
      return texts.flatten
  | _ => .ok []

/-- `message?.role === role`. -/
def hasRole (role : String) (message : Value) : Bool :=
  match message.member (units "role") with
  | .string text => text = units role
  | _ => false

def isSystem (message : Value) : Bool := hasRole "system" message

def content (message : Value) : Value := message.member (units "content")

def blankLine : Utf16 := units "\n\n"

def normalizeMessages (messages : List Value) : Except Thrown (List Value) :=
  let systems := messages.filter isSystem
  let others := messages.filter fun message => !isSystem message
  match systems with
  | [] => .ok messages
  | first :: _ => do
      let texts ← systems.mapM fun message => extractText (content message)
      let mergedContent := join blankLine (texts.filter fun text => 0 < text.length)
      let mergedSystem := Value.object
        (put (units "content") (if mergedContent = [] then content first else .string mergedContent)
          (put (units "role") (.string (units "system")) first.ownFields))
      return mergedSystem :: others

def mergeSystemMessages (messages : List Value) : Except Thrown (List Value) :=
  let systems := messages.filter isSystem
  let others := messages.filter fun message => !isSystem message
  match systems with
  | [] => .ok messages
  | first :: _ => do
      let texts ← systems.mapM fun message => extractText (content message)
      let mergedContent := join blankLine (texts.filter fun text => 0 < text.length)
      let mergedSystem := Value.object
        (put (units "content") (if mergedContent = [] then content first else .string mergedContent)
          (put (units "role") (.string (units "system")) first.ownFields))
      return mergedSystem :: others

/-- What a part of an array content says: itself, or its `text` as `String` prints it. -/
inductive PartReads : Value → Utf16 → Prop where
  | string (text : Utf16) : PartReads (.string text) text
  | text (fields : List (Utf16 × Value)) (value : Value) (text : Utf16)
      (present : fields.lookup (units "text") = some value) (filled : value.nullish = false)
      (printed : value.toText = .ok text) : PartReads (.object fields) text
  | silent (fields : List (Utf16 × Value))
      (missing : ∀ value ∈ fields.lookup (units "text"), value.nullish = true) :
      PartReads (.object fields) []
  | other (part : Value) (noText : ∀ text, part ≠ .string text)
      (noObject : ∀ fields, part ≠ .object fields) : PartReads part []

inductive Reads : Value → Utf16 → Prop where
  | string (text : Utf16) : Reads (.string text) text
  | parts (parts : List Value) (texts : List Utf16) (each : List.Forall₂ PartReads parts texts) :
      Reads (.array parts) texts.flatten
  | other (value : Value) (noText : ∀ text, value ≠ .string text)
      (noParts : ∀ parts, value ≠ .array parts) : Reads value []

def Readable (message : Value) : Prop := ∃ text, Reads (content message) text

/-- A text part or an image part of `ChatCompletionBodySchema`. -/
def SchemaPart (part : Value) : Prop :=
  ∃ fields, part = .object fields ∧
    ∀ value, fields.lookup (units "text") = some value → ∃ text, value = .string text

/-- The contents `ChatCompletionBodySchema` lets through. -/
inductive SchemaContent : Value → Prop where
  | absent : SchemaContent .undefined
  | null : SchemaContent .null
  | text (text : Utf16) : SchemaContent (.string text)
  | parts (parts : List Value) (each : ∀ part ∈ parts, SchemaPart part) :
      SchemaContent (.array parts)

def mergedText (first : Value) (texts : List Utf16) : Value :=
  if texts.filter (· ≠ []) = [] then content first
  else .string (join blankLine (texts.filter (· ≠ [])))

/-- The list `merged` is the conversation with one system message at its head. -/
structure Merged (messages merged : List Value) : Prop where
  single : (∃ head rest, merged = head :: rest ∧ isSystem head = true ∧
      ∀ message ∈ rest, isSystem message = false) ↔
    ∃ message ∈ messages, isSystem message = true
  plain : (∀ message ∈ messages, isSystem message = false) → merged = messages
  others : merged.filter (fun message => !isSystem message) =
    messages.filter fun message => !isSystem message
  text : ∀ first rest, messages.filter isSystem = first :: rest →
    ∃ head texts, merged.head? = some head ∧
      List.Forall₂ (fun message text => Reads (content message) text)
        (messages.filter isSystem) texts ∧
      content head = mergedText first texts ∧
      ∀ key, key ≠ units "content" → head.member key = first.member key

section Texts

theorem partText_ok_iff (part : Value) (text : Utf16) :
    partText part = .ok text ↔ PartReads part text := by
  constructor
  · intro read
    cases part with
    | string own =>
        cases read
        exact .string _
    | object fields =>
        cases found : fields.lookup (units "text") with
        | none =>
            simp only [partText, found] at read
            cases read
            exact .silent fields (by simp [found])
        | some value =>
            simp only [partText, found] at read
            split_ifs at read with nullish
            · cases read
              exact .silent fields (by simpa [found] using nullish)
            · exact .text fields value text found (by simpa using nullish) read
    | undefined | null | boolean _ | number _ | array _ =>
        cases read
        exact .other _ (by simp) (by simp)
  · intro reads
    cases reads with
    | string => rfl
    | text fields value _ present filled printed => simp [partText, present, filled, printed]
    | silent fields missing =>
        cases found : fields.lookup (units "text") with
        | none => simp only [partText, found]
        | some value => simp [partText, found, missing value found]
    | other _ noText noObject =>
        cases part with
        | string own => exact absurd rfl (noText own)
        | object fields => exact absurd rfl (noObject fields)
        | undefined | null | boolean _ | number _ | array _ => rfl

theorem extractText_ok_iff (value : Value) (text : Utf16) :
    extractText value = .ok text ↔ Reads value text := by
  constructor
  · intro read
    cases value with
    | string own =>
        cases read
        exact .string _
    | array parts =>
        obtain ⟨texts, each, joined⟩ := Effects.except_bind_ok.mp read
        cases joined
        exact .parts parts texts
          (((Effects.mapM_ok_iff partText parts texts).mp each).imp fun part own =>
            (partText_ok_iff part own).mp)
    | undefined | null | boolean _ | number _ | object _ =>
        cases read
        exact .other _ (by simp) (by simp)
  · intro reads
    cases reads with
    | string => rfl
    | parts parts texts each =>
        have read := (Effects.mapM_ok_iff partText parts texts).mpr
          (each.imp fun part own => (partText_ok_iff part own).mpr)
        rw [extractText, read]
        rfl
    | other _ noText noParts =>
        cases value with
        | string own => exact absurd rfl (noText own)
        | array parts => exact absurd rfl (noParts parts)
        | undefined | null | boolean _ | number _ | object _ => rfl

theorem readable_iff (message : Value) :
    Readable message ↔ ∃ text, extractText (content message) = .ok text :=
  exists_congr fun text => (extractText_ok_iff (content message) text).symm

theorem partText_schema (part : Value) (valid : SchemaPart part) :
    ∃ text, partText part = .ok text := by
  obtain ⟨fields, rfl, texts⟩ := valid
  cases found : fields.lookup (units "text") with
  | none => exact ⟨[], by simp only [partText, found]⟩
  | some value =>
      obtain ⟨text, rfl⟩ := texts value found
      exact ⟨text, by simp [partText, found, Value.nullish, Value.toText]⟩

theorem readable_schema (message : Value) (valid : SchemaContent (content message)) :
    Readable message := by
  rw [readable_iff]
  generalize content message = value at valid
  cases valid with
  | absent => exact ⟨[], rfl⟩
  | null => exact ⟨[], rfl⟩
  | text text => exact ⟨text, rfl⟩
  | parts parts each =>
      obtain ⟨texts, read⟩ := (Effects.mapM_returns_iff partText parts).mpr
        fun part member => partText_schema part (each part member)
      exact ⟨texts.flatten, by rw [extractText, read]; rfl⟩

theorem isSystem_iff (message : Value) :
    isSystem message = true ↔ ∃ fields, message = .object fields ∧
      fields.lookup (units "role") = some (.string (units "system")) := by
  unfold isSystem hasRole
  cases message with
  | object fields =>
      rw [Value.member]
      cases found : fields.lookup (units "role") with
      | none => simp [found]
      | some role => cases role <;> simp [found]
  | _ => simp [Value.member]

/-- The separator is no text, so only an empty list of texts joins to nothing. -/
theorem filter_length_pos (texts : List Utf16) :
    (texts.filter fun text => 0 < text.length) = texts.filter (· ≠ []) := by
  refine List.filter_congr fun text _ => ?_
  simp [List.length_pos_iff]

theorem join_filter_eq_nil (texts : List Utf16) :
    join blankLine (texts.filter fun text => 0 < text.length) = [] ↔
      texts.filter (· ≠ []) = [] := by
  rw [filter_length_pos]
  cases kept : texts.filter (· ≠ []) with
  | nil => simp [join, List.intercalate]
  | cons first rest =>
      have nonempty : first ≠ [] := by
        have member : first ∈ texts.filter (· ≠ []) := by rw [kept]; exact List.mem_cons_self
        simpa using (List.mem_filter.mp member).2
      cases rest <;> simp [join, List.intercalate, nonempty]

end Texts

section Merging

variable (messages : List Value)

def mergedSystem (first : Value) (texts : List Utf16) : Value :=
  .object (put (units "content") (mergedText first texts)
    (put (units "role") (.string (units "system")) first.ownFields))

theorem normalizeMessages_plain (plain : messages.filter isSystem = []) :
    normalizeMessages messages = .ok messages := by
  unfold normalizeMessages
  rw [plain]

theorem normalizeMessages_merges (first : Value) (rest : List Value) (texts : List Utf16)
    (systems : messages.filter isSystem = first :: rest)
    (read : List.Forall₂ (fun message text => extractText (content message) = .ok text)
      (messages.filter isSystem) texts) :
    normalizeMessages messages =
      .ok (mergedSystem first texts :: messages.filter fun message => !isSystem message) := by
  have texts_read :=
    (Effects.mapM_ok_iff (fun message => extractText (content message)) _ texts).mpr read
  rw [systems] at texts_read
  have merged : (if join blankLine (texts.filter fun text => 0 < text.length) = [] then content first
      else .string (join blankLine (texts.filter fun text => 0 < text.length))) =
      mergedText first texts := by
    unfold mergedText
    refine if_congr (join_filter_eq_nil texts) rfl ?_
    exact congrArg (fun kept => Value.string (join blankLine kept)) (filter_length_pos texts)
  unfold normalizeMessages mergedSystem
  dsimp only
  rw [systems]
  dsimp only
  rw [texts_read, ← merged]
  rfl

theorem normalizeMessages_cases :
    (messages.filter isSystem = [] ∧ normalizeMessages messages = .ok messages) ∨
    (∃ first rest texts, messages.filter isSystem = first :: rest ∧
      List.Forall₂ (fun message text => extractText (content message) = .ok text)
        (messages.filter isSystem) texts ∧
      normalizeMessages messages =
        .ok (mergedSystem first texts :: messages.filter fun message => !isSystem message)) ∨
    ((∃ message ∈ messages.filter isSystem, ¬ Readable message) ∧
      ∃ error, normalizeMessages messages = .error error) := by
  cases systems : messages.filter isSystem with
  | nil => exact Or.inl ⟨rfl, normalizeMessages_plain messages systems⟩
  | cons first rest =>
      right
      cases read : (first :: rest).mapM fun message => extractText (content message) with
      | ok texts =>
          have each := (Effects.mapM_ok_iff _ _ _).mp read
          rw [← systems] at each
          have merges := normalizeMessages_merges messages first rest texts systems each
          rw [systems] at each
          exact Or.inl ⟨first, rest, texts, rfl, each, merges⟩
      | error error =>
          right
          constructor
          · by_contra readable
            push Not at readable
            simp only [readable_iff] at readable
            obtain ⟨texts, all⟩ := (Effects.mapM_returns_iff
              (fun message => extractText (content message)) (first :: rest)).mpr readable
            rw [all] at read
            cases read
          · refine ⟨error, ?_⟩
            unfold normalizeMessages
            dsimp only
            rw [systems]
            dsimp only
            rw [read]
            rfl

theorem isSystem_mergedSystem (first : Value) (texts : List Utf16) :
    isSystem (mergedSystem first texts) = true := by
  refine (isSystem_iff _).mpr ⟨_, rfl, ?_⟩
  rw [lookup_put_ne _ _ _ _ (by decide +kernel), lookup_put_self]

theorem content_mergedSystem (first : Value) (texts : List Utf16) :
    content (mergedSystem first texts) = mergedText first texts := by
  change (List.lookup _ (put _ _ _)).getD _ = _
  rw [lookup_put_self]
  rfl

theorem member_mergedSystem (first : Value) (texts : List Utf16) (key : Utf16)
    (system : isSystem first = true) (other : key ≠ units "content") :
    (mergedSystem first texts).member key = first.member key := by
  obtain ⟨fields, rfl, role⟩ := (isSystem_iff first).mp system
  unfold mergedSystem Value.member
  dsimp only [Value.ownFields]
  rw [lookup_put_ne _ _ _ _ other, put_of_lookup _ _ _ role]

theorem extractText_mergedText (first : Value) (rest : List Value) (texts : List Utf16)
    (read : List.Forall₂ (fun message text => extractText (content message) = .ok text)
      (first :: rest) texts) :
    extractText (mergedText first texts) = .ok (join blankLine (texts.filter (· ≠ []))) := by
  unfold mergedText
  split
  next empty =>
    obtain ⟨text, others, one, _, rfl⟩ := List.forall₂_cons_left_iff.mp read
    have silent : text = [] := by
      by_contra spoken
      rw [List.filter_cons_of_pos (by simpa using spoken)] at empty
      cases empty
    rw [one, empty, silent]
    rfl
  next => rfl

/-- Merging a merged message alone gives it back. -/
theorem mergedSystem_again (first : Value) (texts : List Utf16) (text : Utf16)
    (joined : text = join blankLine (texts.filter (· ≠ []))) :
    mergedSystem (mergedSystem first texts) [text] = mergedSystem first texts := by
  have kept : mergedText (mergedSystem first texts) [text] = mergedText first texts := by
    by_cases silent : text = []
    · unfold mergedText
      rw [if_pos (by simp [silent]), content_mergedSystem]
      rfl
    · have spoken : texts.filter (· ≠ []) ≠ [] := by
        intro empty
        rw [empty] at joined
        exact silent joined
      unfold mergedText
      rw [if_neg (by simp [silent]), if_neg spoken, ← joined]
      simp [silent, join, List.intercalate]
  have role : isSystem (mergedSystem first texts) = true := isSystem_mergedSystem first texts
  obtain ⟨fields, same, found⟩ := (isSystem_iff _).mp role
  have written : fields.lookup (units "content") = some (mergedText first texts) := by
    injection same with same
    rw [← same, lookup_put_self]
  rw [mergedSystem, kept, same]
  dsimp only [Value.ownFields]
  rw [put_of_lookup _ _ _ found, put_of_lookup _ _ _ written]

theorem filter_others (others : List Value)
    (plain : others = messages.filter fun message => !isSystem message) :
    others.filter isSystem = [] ∧ others.filter (fun message => !isSystem message) = others := by
  subst plain
  constructor
  · rw [List.filter_filter]
    simp
  · rw [List.filter_filter]
    simp

theorem normalizeMessages_again (merged : List Value)
    (merges : normalizeMessages messages = .ok merged) :
    normalizeMessages merged = .ok merged := by
  rcases normalizeMessages_cases messages with
    ⟨_, plain⟩ | ⟨first, rest, texts, systems, read, merging⟩ | ⟨_, error, throws⟩
  · rw [plain] at merges
    cases merges
    exact plain
  · rw [merging] at merges
    cases merges
    obtain ⟨none, all⟩ := filter_others messages _ rfl
    have alone : (mergedSystem first texts ::
        messages.filter fun message => !isSystem message).filter isSystem =
          [mergedSystem first texts] := by
      rw [List.filter_cons_of_pos (isSystem_mergedSystem first texts), none]
    rw [systems] at read
    have text := extractText_mergedText first rest texts read
    rw [normalizeMessages_merges _ _ [] [_] alone (by
      rw [alone]
      exact .cons (by rw [content_mergedSystem]; exact text) .nil)]
    rw [mergedSystem_again first texts _ rfl, List.filter_cons_of_neg (by
      rw [isSystem_mergedSystem]
      decide), all]
  · rw [throws] at merges
    cases merges

theorem merged_plain (plain : messages.filter isSystem = []) : Merged messages messages := by
  have silent : ∀ message ∈ messages, isSystem message = false := by
    intro message member
    simpa using List.filter_eq_nil_iff.mp plain message member
  exact {
    single := by
      constructor
      · rintro ⟨head, rest, rfl, system, _⟩
        exact ⟨head, List.mem_cons_self, system⟩
      · rintro ⟨message, member, system⟩
        rw [silent message member] at system
        cases system
    plain := fun _ => rfl
    others := rfl
    text := by
      intro first rest systems
      rw [plain] at systems
      cases systems }

theorem merged_mergedSystem (first : Value) (rest : List Value) (texts : List Utf16)
    (systems : messages.filter isSystem = first :: rest)
    (read : List.Forall₂ (fun message text => extractText (content message) = .ok text)
      (messages.filter isSystem) texts) :
    Merged messages
      (mergedSystem first texts :: messages.filter fun message => !isSystem message) := by
  have member : first ∈ messages.filter isSystem := by
    rw [systems]
    exact List.mem_cons_self
  obtain ⟨among, system⟩ := List.mem_filter.mp member
  exact {
    single := by
      refine iff_of_true ⟨_, _, rfl, isSystem_mergedSystem first texts, ?_⟩ ⟨first, among, system⟩
      intro message other
      simpa using (List.mem_filter.mp other).2
    plain := by
      intro silent
      rw [silent first among] at system
      cases system
    others := by
      rw [List.filter_cons_of_neg (by rw [isSystem_mergedSystem]; decide),
        (filter_others messages _ rfl).2]
    text := by
      intro head others same
      rw [systems] at same
      cases same
      exact ⟨_, texts, rfl, read.imp fun message text => (extractText_ok_iff _ text).mp,
        content_mergedSystem first texts,
        fun key other => member_mergedSystem first texts key system other⟩ }

theorem normalizeMessages_merged (merged : List Value)
    (merges : normalizeMessages messages = .ok merged) : Merged messages merged := by
  rcases normalizeMessages_cases messages with
    ⟨plain, same⟩ | ⟨first, rest, texts, systems, read, merging⟩ | ⟨_, error, throws⟩
  · rw [same] at merges
    cases merges
    exact merged_plain messages plain
  · rw [merging] at merges
    cases merges
    exact merged_mergedSystem messages first rest texts systems read
  · rw [throws] at merges
    cases merges

theorem normalizeMessages_returns_iff :
    (∃ merged, normalizeMessages messages = .ok merged) ↔
      ∀ message ∈ messages, isSystem message = true → Readable message := by
  rcases normalizeMessages_cases messages with
    ⟨plain, same⟩ | ⟨first, rest, texts, systems, read, merging⟩ | ⟨unread, error, throws⟩
  · refine iff_of_true ⟨_, same⟩ fun message member system => ?_
    exact absurd system (List.filter_eq_nil_iff.mp plain message member)
  · refine iff_of_true ⟨_, merging⟩ fun message member system => ?_
    have all := (Effects.mapM_returns_iff (fun message => extractText (content message)) _).mp
      ⟨texts, (Effects.mapM_ok_iff _ _ _).mpr read⟩
    exact (readable_iff message).mpr (all message (List.mem_filter.mpr ⟨member, system⟩))
  · refine iff_of_false ?_ ?_
    · rintro ⟨merged, merges⟩
      rw [throws] at merges
      cases merges
    · intro readable
      obtain ⟨message, member, unreadable⟩ := unread
      obtain ⟨among, system⟩ := List.mem_filter.mp member
      exact unreadable (readable message among system)

end Merging

/-- The two copies agree on every list of messages. They return when every system
message can be read, as those the schema lets through can, and then merging is
idempotent and leaves one system message at the head, if any. -/
theorem system_messages_merged (messages : List Value) :
    normalizeMessages messages = mergeSystemMessages messages ∧
      ((∃ merged, normalizeMessages messages = .ok merged) ↔
        ∀ message ∈ messages, isSystem message = true → Readable message) ∧
      ((∀ message ∈ messages, SchemaContent (content message)) →
        ∃ merged, normalizeMessages messages = .ok merged) ∧
      ∀ merged, normalizeMessages messages = .ok merged →
        normalizeMessages merged = .ok merged ∧ Merged messages merged := by
  refine ⟨rfl, normalizeMessages_returns_iff messages, ?_, ?_⟩
  · intro valid
    refine (normalizeMessages_returns_iff messages).mpr fun message member _ => ?_
    exact readable_schema message (valid message member)
  · intro merged merges
    exact ⟨normalizeMessages_again messages merged merges,
      normalizeMessages_merged messages merged merges⟩

def twoInstructions : List Value :=
  [systemMessage (.string (units "Be brief.")),
    .object [(units "role", .string (units "user")), (units "content", .string (units "Why?"))],
    systemMessage (.array [.object [(units "text", .string (units "No "))],
      .string (units "lists.")])]
where
  systemMessage (content : Value) : Value :=
    .object [(units "role", .string (units "system")), (units "content", content)]

theorem two_instructions_merged :
    ∃ merged head, normalizeMessages twoInstructions = .ok merged ∧ merged.head? = some head ∧
      content head = .string (units "Be brief.\n\nNo lists.") ∧
      normalizeMessages merged = .ok merged := by
  obtain ⟨_, returns, _, merging⟩ := system_messages_merged twoInstructions
  have each : ∀ message ∈ twoInstructions, Readable message := by
    simp only [twoInstructions, List.forall_mem_cons, readable_iff]
    exact ⟨⟨_, rfl⟩, ⟨_, rfl⟩, ⟨_, rfl⟩, by simp⟩
  obtain ⟨merged, merges⟩ := returns.mpr fun message member _ => each message member
  obtain ⟨again, shape⟩ := merging merged merges
  obtain ⟨head, texts, first, read, joined, _⟩ := shape.text _ _ rfl
  refine ⟨merged, head, merges, first, ?_, again⟩
  -- The two texts are read off the messages.
  have same := (Effects.mapM_ok_iff (fun message => extractText (content message)) _ texts).mpr
    (read.imp fun message text => (extractText_ok_iff _ text).mpr)
  have known :
      (twoInstructions.filter isSystem).mapM (fun message => extractText (content message)) =
        .ok [units "Be brief.", units "No lists."] := rfl
  rw [known] at same
  cases same
  rw [joined]
  rfl

end LlmGateway.Chat
