import LlmGateway.Anthropic.Request

/-!
The parts of a translated user message: the text blocks in their order, then
the image blocks in theirs. That is the order of the blocks themselves when no
text comes after an image.
-/

namespace LlmGateway.Anthropic

open AnthropicContentBlock

def AnthropicContentBlock.part? : AnthropicContentBlock → Option ContentPart
  | .text words => some (.text words)
  | .image mediaType data => some (.imageUrl ("data:" ++ mediaType ++ ";base64," ++ data))
  | _ => none

def ContentPart.isText : ContentPart → Bool
  | .text _ => true
  | .imageUrl _ => false

def UpstreamMessage.userParts : UpstreamMessage → List ContentPart
  | .plain role (some words) => if role = "user" then [.text words] else []
  | .user parts => parts
  | _ => []

def UpstreamMessage.isUser : UpstreamMessage → Bool
  | .plain role _ => role = "user"
  | .user _ => true
  | _ => false

section Partition

variable {α : Type} (first : α → Bool)

theorem partition_eq_iff (items : List α) :
    items.filter first ++ items.filter (fun item => !first item) = items ↔
      items.Pairwise fun earlier later => first later = true → first earlier = true := by
  induction items with
  | nil => simp
  | cons item rest ih =>
      rw [List.pairwise_cons]
      cases kind : first item with
      | true =>
          rw [List.filter_cons_of_pos kind, List.filter_cons_of_neg (by simp [kind]),
            List.cons_append, List.cons.injEq, ih]
          simp
      | false =>
          rw [List.filter_cons_of_neg (by simp [kind]), List.filter_cons_of_pos (by simp [kind])]
          have absent : (∀ later ∈ rest, first later = true → false = true) ↔
              rest.filter first = [] := by
            rw [List.filter_eq_nil_iff]
            simp
          rw [absent, ← ih]
          constructor
          · intro same
            cases moved : rest.filter first with
            | nil =>
                rw [moved, List.nil_append, List.cons.injEq] at same
                exact ⟨rfl, same.2⟩
            | cons other others =>
                -- The first of them would stand in the place of `item`.
                rw [moved, List.cons_append, List.cons.injEq] at same
                have chosen : other ∈ rest.filter first := by
                  rw [moved]
                  exact List.mem_cons_self
                have wrong := (List.mem_filter.mp chosen).2
                rw [same.1, kind] at wrong
                cases wrong
          · rintro ⟨none, same⟩
            rw [none, List.nil_append] at same ⊢
            rw [same]

end Partition

section User

variable (content : List AnthropicContentBlock)

theorem filter_parts :
    ((content.filterMap part?).filter ContentPart.isText =
        (content.filterMap text?).map ContentPart.text) ∧
      (content.filterMap part?).filter (fun part => !part.isText) =
        content.filterMap imagePart? := by
  induction content with
  | nil => exact ⟨rfl, rfl⟩
  | cons block rest ih =>
      obtain ⟨texts, images⟩ := ih
      cases block with
      | text words => exact ⟨congrArg (List.cons _) texts, images⟩
      | image mediaType data => exact ⟨texts, congrArg (List.cons _) images⟩
      | _ => exact ⟨texts, images⟩

theorem filterMap_rest {Value : Type} (pick : AnthropicContentBlock → Option Value)
    (other : ∀ block, (toolResult? block).isSome = true → pick block = none) :
    (content.filter fun block => (toolResult? block).isNone).filterMap pick =
      content.filterMap pick := by
  rw [List.filterMap_filter]
  refine List.filterMap_congr fun block _ => ?_
  cases found : toolResult? block with
  | none => rfl
  | some result => simp [other block (by rw [found]; rfl)]

theorem userParts_results :
    (content.filterMap toolResult?).flatMap UpstreamMessage.userParts = [] := by
  refine List.flatMap_eq_nil_iff.mpr fun message member => ?_
  obtain ⟨block, _, found⟩ := List.mem_filterMap.mp member
  cases block <;> cases found
  rfl

theorem isUser_results (message : UpstreamMessage)
    (member : message ∈ content.filterMap toolResult?) : message.isUser = false := by
  obtain ⟨block, _, found⟩ := List.mem_filterMap.mp member
  cases block <;> cases found
  rfl

theorem translateUser_cases :
    (content.filterMap part? = [] ∧ translateUser content = content.filterMap toolResult?) ∨
      ∃ message, translateUser content = content.filterMap toolResult? ++ [message] ∧
        message.isUser = true ∧ message.userParts =
          (content.filterMap text?).map ContentPart.text ++ content.filterMap imagePart? := by
  have texts := filterMap_rest content text? fun block found => by
    cases block <;> cases found
    rfl
  have images := filterMap_rest content imagePart? fun block found => by
    cases block <;> cases found
    rfl
  have parts := filterMap_rest content part? fun block found => by
    cases block <;> cases found
    rfl
  unfold translateUser
  dsimp only
  rw [texts, images]
  by_cases left : (content.filter fun block => (toolResult? block).isNone).isEmpty = true
  · rw [if_pos left, List.append_nil]
    rw [List.isEmpty_iff.mp left] at parts
    exact .inl ⟨parts.symm, rfl⟩
  · rw [if_neg left]
    refine .inr ?_
    generalize (content.filterMap text?).map ContentPart.text ++ content.filterMap imagePart? = sent
    -- A single text is sent as the text itself.
    split
    · exact ⟨_, rfl, rfl, rfl⟩
    · exact ⟨_, rfl, rfl, rfl⟩

theorem userParts_translateUser :
    (translateUser content).flatMap UpstreamMessage.userParts =
      (content.filterMap text?).map ContentPart.text ++ content.filterMap imagePart? := by
  rcases translateUser_cases content with ⟨empty, only⟩ | ⟨message, sent, _, parts⟩
  · obtain ⟨texts, images⟩ := filter_parts content
    rw [only, userParts_results, ← texts, ← images, empty]
    rfl
  · rw [sent, List.flatMap_append, userParts_results, List.nil_append, List.flatMap_singleton,
      parts]

theorem translateMessage_user :
    translateMessage ⟨"user", some (.blocks content)⟩ = translateUser content := by
  simp [translateMessage]

theorem isUser_translateUser :
    ((translateUser content).filter UpstreamMessage.isUser).length ≤ 1 := by
  have none_of_results : (content.filterMap toolResult?).filter UpstreamMessage.isUser = [] :=
    List.filter_eq_nil_iff.mpr fun message member => by simp [isUser_results content message member]
  rcases translateUser_cases content with ⟨_, only⟩ | ⟨message, sent, user, _⟩
  · rw [only, none_of_results]
    exact Nat.zero_le 1
  · rw [sent, List.filter_append, none_of_results, List.nil_append, List.filter_cons_of_pos user]
    exact Nat.le_refl 1

end User

/-- The translated user message has each text and each image of the blocks once,
the texts in their order and then the images in theirs. That is the order of
the blocks exactly when no text stands after an image. -/
theorem user_parts_grouped (content : List AnthropicContentBlock) :
    ((translateMessage ⟨"user", some (.blocks content)⟩).filter UpstreamMessage.isUser).length ≤ 1 ∧
      (translateMessage ⟨"user", some (.blocks content)⟩).flatMap UpstreamMessage.userParts =
        (content.filterMap text?).map ContentPart.text ++ content.filterMap imagePart? ∧
      ((translateMessage ⟨"user", some (.blocks content)⟩).flatMap UpstreamMessage.userParts).Perm
        (content.filterMap part?) ∧
      ((translateMessage ⟨"user", some (.blocks content)⟩).flatMap UpstreamMessage.userParts =
          content.filterMap part? ↔
        (content.filterMap part?).Pairwise fun earlier later =>
          later.isText = true → earlier.isText = true) := by
  obtain ⟨texts, images⟩ := filter_parts content
  rw [translateMessage_user, userParts_translateUser]
  refine ⟨isUser_translateUser content, rfl, ?_, ?_⟩
  · rw [← texts, ← images]
    exact List.filter_append_perm _ _
  · rw [← texts, ← images]
    exact partition_eq_iff _ _

def imageQuestion : List AnthropicContentBlock :=
  [.image "image/png" "AA", .text "What is this?"]

/-- A text after an image is sent before it. -/
theorem image_then_text_swapped :
    (translateMessage ⟨"user", some (.blocks imageQuestion)⟩).flatMap UpstreamMessage.userParts =
        [.text "What is this?", .imageUrl "data:image/png;base64,AA"] ∧
      (translateMessage ⟨"user", some (.blocks imageQuestion)⟩).flatMap UpstreamMessage.userParts ≠
        imageQuestion.filterMap part? := by
  decide

end LlmGateway.Anthropic
