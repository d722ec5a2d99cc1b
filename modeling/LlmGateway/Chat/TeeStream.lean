import LlmGateway.Chat.Tokens

/-!
`teeStream`: the iterator handed to the consumer, which forwards every result
of the upstream iterator and keeps a copy of the chunks, and the promise
`logged`, which the first of `done`, an error and an early `return` settles.
-/

namespace LlmGateway.Chat

/-- How the upstream iterator ends; the error is absent when `undefined` was thrown. -/
inductive StreamEnd where
  | done
  | fails (error : Option Js.Thrown)
  deriving DecidableEq, Repr

structure StreamSource where
  chunks : List ChatCompletionChunk
  ending : StreamEnd
  hasReturn : Bool
  deriving DecidableEq, Repr

inductive ConsumerCall where
  | next
  | «return»
  deriving DecidableEq, Repr

inductive IteratorResult where
  | chunk (value : ChatCompletionChunk)
  | done
  | thrown (error : Option Js.Thrown)
  deriving DecidableEq, Repr

structure Inner where
  remaining : List ChatCompletionChunk
  finished : Bool
  deriving DecidableEq, Repr

def Inner.next (ending : StreamEnd) (inner : Inner) : IteratorResult × Inner :=
  if inner.finished then (.done, inner)
  else match inner.remaining with
    | chunk :: rest => (.chunk chunk, { inner with remaining := rest })
    | [] => match ending with
      | .done => (.done, { inner with finished := true })
      | .fails error => (.thrown error, { inner with finished := true })

/-- `inner.return ? inner.return(value) : { value: undefined, done: true }`. -/
def Inner.return (hasReturn : Bool) (inner : Inner) : IteratorResult × Inner :=
  (.done, { inner with finished := inner.finished || hasReturn })

structure TeeStream where
  inner : Inner
  chunks : List ChatCompletionChunk
  /-- The promise: pending, resolved with the buffer, or rejected. -/
  logged : Option (Except Js.Thrown (List ChatCompletionChunk))

namespace TeeStream

def start (source : StreamSource) : TeeStream where
  inner := { remaining := source.chunks, finished := false }
  chunks := []
  logged := none

/-- `close(err)`: only the first call settles, and it rejects unless `err` is `undefined`. -/
def close (error : Option Js.Thrown) (tee : TeeStream) : TeeStream :=
  match tee.logged, error with
  | some _, _ => tee
  | none, some error => { tee with logged := some (.error error) }
  | none, none => { tee with logged := some (.ok tee.chunks) }

def call (source : StreamSource) (tee : TeeStream) : ConsumerCall → IteratorResult × TeeStream
  | .next =>
      let pulled := tee.inner.next source.ending
      let tee := { tee with inner := pulled.2 }
      match pulled.1 with
      | .done => (.done, tee.close none)
      | .chunk chunk => (.chunk chunk, { tee with chunks := tee.chunks ++ [chunk] })
      | .thrown error => (.thrown error, tee.close error)
  | .return =>
      -- The promise settles before the upstream iterator is asked to return.
      let tee := tee.close none
      let returned := tee.inner.return source.hasReturn
      (returned.1, { tee with inner := returned.2 })

def drive (source : StreamSource) : TeeStream → List ConsumerCall → List IteratorResult × TeeStream
  | tee, [] => ([], tee)
  | tee, op :: rest =>
      let answer := tee.call source op
      let others := drive source answer.2 rest
      (answer.1 :: others.1, others.2)

def plain (source : StreamSource) : Inner → List ConsumerCall → List IteratorResult
  | _, [] => []
  | inner, .next :: rest =>
      (inner.next source.ending).1 :: plain source (inner.next source.ending).2 rest
  | inner, .return :: rest =>
      (inner.return source.hasReturn).1 :: plain source (inner.return source.hasReturn).2 rest

/-- The outcome of `logged` once the consumer has made its calls. -/
def loggedAfter (source : StreamSource) (calls : List ConsumerCall) :
    Option (Except Js.Thrown (List ChatCompletionChunk)) :=
  (drive source (start source) calls).2.logged

/-- The consumer has seen `done` or the error, or has returned early. -/
def DrivenToEnd (source : StreamSource) (calls : List ConsumerCall) : Prop :=
  ConsumerCall.return ∈ calls ∨ source.chunks.length < calls.length

instance (source : StreamSource) (calls : List ConsumerCall) :
    Decidable (DrivenToEnd source calls) :=
  inferInstanceAs (Decidable (_ ∨ _))

section Transparency

variable (source : StreamSource) (tee : TeeStream)

@[simp] theorem close_inner (error : Option Js.Thrown) : (tee.close error).inner = tee.inner := by
  unfold close
  split <;> rfl

theorem call_next :
    (tee.call source .next).1 = (tee.inner.next source.ending).1 ∧
      (tee.call source .next).2.inner = (tee.inner.next source.ending).2 := by
  unfold call
  dsimp only
  split
  next answer => exact ⟨answer.symm, close_inner _ none⟩
  next chunk answer => exact ⟨answer.symm, rfl⟩
  next error answer => exact ⟨answer.symm, close_inner _ error⟩

theorem call_return :
    (tee.call source .return).1 = (tee.inner.return source.hasReturn).1 ∧
      (tee.call source .return).2.inner = (tee.inner.return source.hasReturn).2 := by
  unfold call
  dsimp only
  rw [close_inner]
  exact ⟨rfl, rfl⟩

theorem drive_transparent (calls : List ConsumerCall) :
    (drive source tee calls).1 = plain source tee.inner calls := by
  induction calls generalizing tee with
  | nil => rfl
  | cons op rest ih =>
      cases op with
      | next =>
          obtain ⟨seen, left⟩ := call_next source tee
          rw [drive, plain, ih, seen, left]
      | «return» =>
          obtain ⟨seen, left⟩ := call_return source tee
          rw [drive, plain, ih, seen, left]

end Transparency

section Settlement

variable (source : StreamSource) (tee : TeeStream)

theorem close_settles (error : Option Js.Thrown) : (tee.close error).logged.isSome = true := by
  unfold close
  split <;> simp_all

theorem close_settled (error : Option Js.Thrown) (settled : tee.logged.isSome = true) :
    (tee.close error).logged = tee.logged := by
  obtain ⟨outcome, found⟩ := Option.isSome_iff_exists.mp settled
  unfold close
  simp only [found]

theorem call_settled (op : ConsumerCall) (settled : tee.logged.isSome = true) :
    (tee.call source op).2.logged = tee.logged := by
  cases op with
  | next =>
      unfold call
      dsimp only
      split
      · exact close_settled _ none settled
      · rfl
      · exact close_settled _ _ settled
  | «return» => exact close_settled _ none settled

theorem drive_settled (calls : List ConsumerCall) (settled : tee.logged.isSome = true) :
    (drive source tee calls).2.logged = tee.logged := by
  induction calls generalizing tee with
  | nil => rfl
  | cons op rest ih =>
      have kept := call_settled source tee op settled
      rw [drive, ih _ (by rw [kept]; exact settled), kept]

theorem call_pending (op : ConsumerCall) (running : tee.inner.finished = false) :
    (tee.call source op).2.logged.isSome = true ∨
      (op = .next ∧ (tee.call source op).2.inner.finished = false ∧
        tee.inner.remaining.length = (tee.call source op).2.inner.remaining.length + 1 ∧
        (tee.call source op).2.logged = tee.logged) := by
  cases op with
  | «return» => exact Or.inl (close_settles _ _)
  | next =>
      obtain ⟨⟨remaining, finished⟩, chunks, logged⟩ := tee
      cases running
      cases remaining with
      | cons chunk rest => exact Or.inr ⟨rfl, rfl, rfl, rfl⟩
      | nil =>
          left
          unfold call Inner.next
          cases source.ending with
          | done => exact close_settles _ none
          | fails error => exact close_settles _ error

theorem drive_settles_iff (calls : List ConsumerCall) (running : tee.inner.finished = false)
    (pending : tee.logged = none) :
    (drive source tee calls).2.logged.isSome = true ↔
      ConsumerCall.return ∈ calls ∨ tee.inner.remaining.length < calls.length := by
  -- Each call that leaves `logged` pending takes one chunk off what remains.
  induction calls generalizing tee with
  | nil => simp [drive, pending]
  | cons op rest ih =>
      rw [drive]
      dsimp only
      rcases call_pending source tee op running with settled | ⟨rfl, still, shorter, same⟩
      · rw [drive_settled source _ rest settled]
        refine iff_of_true settled ?_
        by_cases returns : op = .return
        · exact Or.inl (by simp [returns])
        · right
          have pulls : op = .next := by cases op <;> simp_all
          subst pulls
          obtain ⟨⟨remaining, finished⟩, chunks, logged⟩ := tee
          cases running
          cases pending
          cases remaining with
          | nil => simp
          | cons chunk others => cases settled
      · rw [ih _ still (by rw [same]; exact pending), shorter]
        simp

theorem logged_settles_iff (calls : List ConsumerCall) :
    (loggedAfter source calls).isSome = true ↔ DrivenToEnd source calls :=
  drive_settles_iff source (start source) calls rfl rfl

end Settlement

end TeeStream

end LlmGateway.Chat
