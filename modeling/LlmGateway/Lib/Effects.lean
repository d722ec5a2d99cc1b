import Mathlib.Data.List.Forall2

/-!
Programs that read and write a state and may throw. What was written before a
throw stays written, as in a language whose exceptions do not roll back. The
rules peel a program apart along the outcome of its first part.
-/

namespace Effects

variable {Error State Value Other : Type}

section Peeling

variable (program : EStateM Error State Value) (next : Value → EStateM Error State Other)
  (handler : Error → EStateM Error State Value) (before after : State)

theorem get_bind (read : State → EStateM Error State Other) :
    (get >>= read) before = read before before := rfl

theorem modify_bind (change : State → State) (next : Unit → EStateM Error State Other) :
    (modify change >>= next) before = next () (change before) := rfl

theorem bind_ok (value : Value) (returns : program before = .ok value after) :
    (program >>= next) before = next value after := by
  simp only [bind, EStateM.bind, returns]

theorem bind_error (error : Error) (throws : program before = .error error after) :
    (program >>= next) before = .error error after := by
  simp only [bind, EStateM.bind, throws]

theorem tryCatch_ok (value : Value) (returns : program before = .ok value after) :
    (tryCatch program handler) before = .ok value after := by
  simp only [tryCatch, tryCatchThe, MonadExceptOf.tryCatch, EStateM.tryCatch, returns]

theorem tryCatch_error (error : Error) (throws : program before = .error error after) :
    (tryCatch program handler) before = handler error after := by
  simp only [tryCatch, tryCatchThe, MonadExceptOf.tryCatch, EStateM.tryCatch, throws]
  rfl

theorem tryCatch_same (other : EStateM Error State Value) (start : State)
    (same : program before = other start) :
    (tryCatch program handler) before = (tryCatch other handler) start := by
  simp only [tryCatch, tryCatchThe, MonadExceptOf.tryCatch, EStateM.tryCatch, same]

end Peeling

section Frames

variable {View : Type} (view : State → View)

/-- The program leaves this part of the state as it was, however it ends. -/
def Frames (program : EStateM Error State Value) : Prop :=
  ∀ before, (∀ value after, program before = .ok value after → view after = view before) ∧
    ∀ error after, program before = .error error after → view after = view before

variable {view}

theorem frames_pure (value : Value) :
    Frames view (pure value : EStateM Error State Value) := by
  intro before
  constructor
  · intro result after returns
    cases returns
    rfl
  · intro error after throws
    cases throws

theorem frames_throw (error : Error) :
    Frames view (throw error : EStateM Error State Value) := by
  intro before
  constructor
  · intro result after returns
    cases returns
  · intro error after throws
    cases throws
    rfl

theorem frames_get : Frames view (get : EStateM Error State State) := by
  intro before
  constructor
  · intro result after returns
    cases returns
    rfl
  · intro error after throws
    cases throws

theorem frames_modify (change : State → State)
    (keeps : ∀ state, view (change state) = view state) :
    Frames view (modify change : EStateM Error State Unit) := by
  intro before
  constructor
  · intro result after returns
    cases returns
    exact keeps before
  · intro error after throws
    cases throws

theorem frames_bind (program : EStateM Error State Value)
    (next : Value → EStateM Error State Other) (first : Frames view program)
    (rest : ∀ value, Frames view (next value)) : Frames view (program >>= next) := by
  intro before
  cases ran : program before with
  | ok value middle =>
      have kept := (first before).1 value middle ran
      obtain ⟨returns, throws⟩ := rest value middle
      rw [bind_ok program next before middle value ran]
      exact ⟨fun result after same => (returns result after same).trans kept,
        fun error after same => (throws error after same).trans kept⟩
  | error error middle =>
      have kept := (first before).2 error middle ran
      rw [bind_error program next before middle error ran]
      constructor
      · intro result after returns
        cases returns
      · intro thrown after throws
        cases throws
        exact kept

theorem frames_tryCatch (program : EStateM Error State Value)
    (handler : Error → EStateM Error State Value) (first : Frames view program)
    (handled : ∀ error, Frames view (handler error)) :
    Frames view (tryCatch program handler) := by
  intro before
  cases ran : program before with
  | ok value middle =>
      have kept := (first before).1 value middle ran
      rw [tryCatch_ok program handler before middle value ran]
      constructor
      · intro result after returns
        cases returns
        exact kept
      · intro error after throws
        cases throws
  | error error middle =>
      have kept := (first before).2 error middle ran
      obtain ⟨returns, throws⟩ := handled error middle
      rw [tryCatch_error program handler before middle error ran]
      exact ⟨fun result after same => (returns result after same).trans kept,
        fun error after same => (throws error after same).trans kept⟩

end Frames

section Traversal

variable (visit : Value → Except Error Other)

theorem except_bind_ok {input : Except Error Value} {next : Value → Except Error Other}
    {result : Other} :
    (input >>= next) = .ok result ↔ ∃ value, input = .ok value ∧ next value = .ok result := by
  cases input <;> simp [bind, Except.bind]

theorem mapM_ok_iff (items : List Value) (results : List Other) :
    items.mapM visit = .ok results ↔
      List.Forall₂ (fun item result => visit item = .ok result) items results := by
  induction items generalizing results with
  | nil => cases results <;> simp [pure, Except.pure]
  | cons first rest ih =>
      simp only [List.mapM_cons, except_bind_ok, ih]
      constructor
      · rintro ⟨value, head, others, tail, same⟩
        cases same
        exact .cons head tail
      · intro related
        cases related with
        | cons head tail => exact ⟨_, head, _, tail, rfl⟩

theorem mapM_image (image : Value → Other)
    (reads : ∀ item result, visit item = .ok result → result = image item) (items : List Value)
    (results : List Other) (returns : items.mapM visit = .ok results) :
    results = items.map image := by
  have related := (mapM_ok_iff visit items results).mp returns
  clear returns
  induction related with
  | nil => rfl
  | cons visited _ ih => rw [List.map_cons, ← reads _ _ visited, ih]

theorem mem_mapM_iff (items : List Value) (results : List Other)
    (returns : items.mapM visit = .ok results) (result : Other) :
    result ∈ results ↔ ∃ item ∈ items, visit item = .ok result := by
  have related := (mapM_ok_iff visit items results).mp returns
  clear returns
  induction related with
  | nil => simp
  | cons head tail ih => simp [head, ih, eq_comm]

theorem mapM_returns_iff (items : List Value) :
    (∃ results, items.mapM visit = .ok results) ↔ ∀ item ∈ items, ∃ result, visit item = .ok result := by
  simp only [mapM_ok_iff]
  induction items with
  | nil => exact ⟨fun _ _ member => absurd member List.not_mem_nil, fun _ => ⟨[], .nil⟩⟩
  | cons first rest ih =>
      simp only [List.forall_mem_cons, ← ih]
      constructor
      · rintro ⟨_, related⟩
        cases related with
        | cons head tail => exact ⟨⟨_, head⟩, ⟨_, tail⟩⟩
      · rintro ⟨⟨result, head⟩, others, tail⟩
        exact ⟨result :: others, .cons head tail⟩

theorem mapM_related_iff (related : Value → Other → Prop) (items : List Value) :
    (∃ results, items.mapM visit = .ok results ∧ List.Forall₂ related items results) ↔
      ∀ item ∈ items, ∃ result, visit item = .ok result ∧ related item result := by
  simp only [mapM_ok_iff]
  induction items with
  | nil => exact ⟨fun _ _ member => absurd member List.not_mem_nil, fun _ => ⟨[], .nil, .nil⟩⟩
  | cons first rest ih =>
      simp only [List.forall_mem_cons, ← ih]
      constructor
      · rintro ⟨_, visited, kept⟩
        cases visited with
        | cons head tail =>
            cases kept with
            | cons same others => exact ⟨⟨_, head, same⟩, ⟨_, tail, others⟩⟩
      · rintro ⟨⟨result, head, same⟩, results, tail, others⟩
        exact ⟨result :: results, .cons head tail, .cons same others⟩

theorem mapM_map {Third : Type} (image : Other → Third) (items : List Value) :
    items.mapM (fun item => (visit item).map image) = (items.mapM visit).map (List.map image) := by
  induction items with
  | nil => rfl
  | cons first rest ih =>
      rw [List.mapM_cons, List.mapM_cons, ih]
      cases visit first with
      | error error => rfl
      | ok result => cases rest.mapM visit <;> rfl

end Traversal

end Effects
