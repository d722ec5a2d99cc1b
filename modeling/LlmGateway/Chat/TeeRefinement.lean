import LlmGateway.Chat.TeeStream

/-!
`teeStream` over any upstream iterator. The wrapped iterator answers every call
as the upstream one does, and `logged` settles once, by the first ending the
consumer meets. The streams of the gateway model are one such iterator.
-/

namespace LlmGateway.Chat

/-- What the upstream hands out: `next` and, when it has one, `return`. -/
structure SourceIterator (State : Type) where
  next : State → IteratorResult × State
  «return» : Option (State → IteratorResult × State)

namespace SourceIterator

variable {State : Type}

/-- A call on the upstream iterator itself; without a `return` nothing is called. -/
def answer (source : SourceIterator State) (state : State) : ConsumerCall → IteratorResult × State
  | .next => source.next state
  | .return => match source.return with
    | some finish => finish state
    | none => (.done, state)

def run (source : SourceIterator State) :
    State → List ConsumerCall → List IteratorResult × State
  | state, [] => ([], state)
  | state, op :: rest =>
      let answer := source.answer state op
      let others := source.run answer.2 rest
      (answer.1 :: others.1, others.2)

end SourceIterator

/-- `teeStream` around an iterator. `settlements` are the calls of `resolveDone`
and `rejectDone`. -/
structure Tee (State : Type) where
  inner : State
  chunks : List ChatCompletionChunk
  closed : Bool
  settlements : List (Except Js.Thrown (List ChatCompletionChunk))

namespace Tee

variable {State : Type}

def start (state : State) : Tee State where
  inner := state
  chunks := []
  closed := false
  settlements := []

def close (error : Option Js.Thrown) (tee : Tee State) : Tee State :=
  if tee.closed then tee
  else { tee with
    closed := true
    settlements := tee.settlements ++ [match error with
      | some error => .error error
      | none => .ok tee.chunks] }

def call (source : SourceIterator State) (tee : Tee State) :
    ConsumerCall → IteratorResult × Tee State
  | .next =>
      let pulled := source.next tee.inner
      let tee := { tee with inner := pulled.2 }
      match pulled.1 with
      | .done => (.done, tee.close none)
      | .chunk chunk => (.chunk chunk, { tee with chunks := tee.chunks ++ [chunk] })
      | .thrown error => (.thrown error, tee.close error)
  | .return =>
      let tee := tee.close none
      match source.return with
      | some finish =>
          let returned := finish tee.inner
          (returned.1, { tee with inner := returned.2 })
      | none => (.done, tee)

def drive (source : SourceIterator State) :
    Tee State → List ConsumerCall → List IteratorResult × Tee State
  | tee, [] => ([], tee)
  | tee, op :: rest =>
      let answer := tee.call source op
      let others := drive source answer.2 rest
      (answer.1 :: others.1, others.2)

end Tee

/-- Calls of `next`, and one of `return` at the end when the consumer stops early. -/
def schedule (pulls : ℕ) (returns : Bool) : List ConsumerCall :=
  List.replicate pulls .next ++ if returns then [.return] else []

def IteratorResult.chunk? : IteratorResult → Option ChatCompletionChunk
  | .chunk value => some value
  | .done | .thrown _ => none

/-- How a run of `next` calls settles `logged`, after these chunks. A thrown
`undefined` is the one error that resolves. -/
def outcome (chunks : List ChatCompletionChunk) :
    List IteratorResult → Option (Except Js.Thrown (List ChatCompletionChunk))
  | [] => none
  | .chunk value :: rest => outcome (chunks ++ [value]) rest
  | .done :: _ => some (.ok chunks)
  | .thrown (some error) :: _ => some (.error error)
  | .thrown none :: _ => some (.ok chunks)

/-- After its first ending the upstream gives no chunk. -/
def EndsOnce (results : List IteratorResult) : Prop :=
  results.Pairwise fun earlier later => earlier.chunk?.isSome = true ∨ later.chunk? = none

section Simulation

variable {State : Type} (source : SourceIterator State) (tee : Tee State)

@[simp] theorem Tee.close_inner (error : Option Js.Thrown) : (tee.close error).inner = tee.inner := by
  unfold close
  split <;> rfl

@[simp] theorem Tee.close_chunks (error : Option Js.Thrown) :
    (tee.close error).chunks = tee.chunks := by
  unfold close
  split <;> rfl

theorem Tee.close_again (error : Option Js.Thrown) (closed : tee.closed = true) :
    tee.close error = tee := if_pos closed

theorem Tee.call_answer (op : ConsumerCall) :
    (tee.call source op).1 = (source.answer tee.inner op).1 ∧
      (tee.call source op).2.inner = (source.answer tee.inner op).2 := by
  cases op with
  | next =>
      unfold call SourceIterator.answer
      dsimp only
      split
      next answer => exact ⟨answer.symm, close_inner _ none⟩
      next chunk answer => exact ⟨answer.symm, rfl⟩
      next error answer => exact ⟨answer.symm, close_inner _ error⟩
  | «return» =>
      unfold call SourceIterator.answer
      dsimp only
      split
      next finish _ =>
        rw [close_inner]
        exact ⟨rfl, rfl⟩
      next => exact ⟨rfl, close_inner tee none⟩

theorem Tee.drive_run (calls : List ConsumerCall) :
    (drive source tee calls).1 = (source.run tee.inner calls).1 ∧
      (drive source tee calls).2.inner = (source.run tee.inner calls).2 := by
  induction calls generalizing tee with
  | nil => exact ⟨rfl, rfl⟩
  | cons op rest ih =>
      obtain ⟨seen, left⟩ := call_answer source tee op
      obtain ⟨others, final⟩ := ih (tee.call source op).2
      rw [left] at others final
      exact ⟨congrArg₂ List.cons seen others, final⟩

theorem Tee.drive_append (before after : List ConsumerCall) :
    (drive source tee (before ++ after)).2 =
      (drive source (drive source tee before).2 after).2 := by
  induction before generalizing tee with
  | nil => rfl
  | cons op rest ih => exact ih _

end Simulation

section Settlement

variable {State : Type} (source : SourceIterator State) (tee : Tee State)

def delivered (results : List IteratorResult) : List ChatCompletionChunk :=
  results.filterMap IteratorResult.chunk?

theorem Tee.call_chunk (value : ChatCompletionChunk)
    (answer : (source.next tee.inner).1 = .chunk value) :
    (tee.call source .next).2 =
      { tee with inner := (source.next tee.inner).2, chunks := tee.chunks ++ [value] } := by
  simp only [call, answer]

theorem Tee.call_ending (ended : (source.next tee.inner).1.chunk? = none) :
    ∃ error, (tee.call source .next).2 =
        { tee with inner := (source.next tee.inner).2 }.close error ∧
      ∀ chunks rest, outcome chunks ((source.next tee.inner).1 :: rest) =
        some (match error with
          | some error => .error error
          | none => .ok chunks) := by
  cases answer : (source.next tee.inner).1 with
  | chunk value => simp [answer, IteratorResult.chunk?] at ended
  | done => exact ⟨none, by simp only [call, answer], fun _ _ => rfl⟩
  | thrown error =>
      refine ⟨error, by simp only [call, answer], ?_⟩
      intro chunks rest
      cases error <;> rfl

theorem Tee.pulls_closed (pulls : ℕ) (closed : tee.closed = true) :
    (drive source tee (List.replicate pulls .next)).2.settlements = tee.settlements ∧
      (drive source tee (List.replicate pulls .next)).2.closed = true ∧
      (drive source tee (List.replicate pulls .next)).2.chunks =
        tee.chunks ++ delivered (source.run tee.inner (List.replicate pulls .next)).1 := by
  induction pulls generalizing tee with
  | zero => exact ⟨rfl, closed, (List.append_nil _).symm⟩
  | succ pulls ih =>
      rw [List.replicate_succ, drive, SourceIterator.run, delivered, List.filterMap_cons]
      dsimp only [SourceIterator.answer]
      cases answer : (source.next tee.inner).1 with
      | chunk value =>
          rw [call_chunk source tee value answer]
          obtain ⟨settlements, still, chunks⟩ := ih
            { tee with inner := (source.next tee.inner).2, chunks := tee.chunks ++ [value] } closed
          refine ⟨settlements, still, chunks.trans ?_⟩
          exact List.append_assoc _ _ _
      | done | thrown =>
          obtain ⟨error, next, _⟩ := call_ending source tee (by rw [answer]; rfl)
          rw [next, close_again { tee with inner := (source.next tee.inner).2 } error closed]
          exact ih { tee with inner := (source.next tee.inner).2 } closed

/-- While pending, `logged` is settled by the first ending among the answers. -/
theorem Tee.pulls_pending (pulls : ℕ) (pending : tee.closed = false)
    (unsettled : tee.settlements = []) :
    (drive source tee (List.replicate pulls .next)).2.settlements =
        (outcome tee.chunks (source.run tee.inner (List.replicate pulls .next)).1).toList ∧
      (drive source tee (List.replicate pulls .next)).2.closed =
        (outcome tee.chunks (source.run tee.inner (List.replicate pulls .next)).1).isSome ∧
      (drive source tee (List.replicate pulls .next)).2.chunks =
        tee.chunks ++ delivered (source.run tee.inner (List.replicate pulls .next)).1 := by
  induction pulls generalizing tee with
  | zero => exact ⟨unsettled, pending, (List.append_nil _).symm⟩
  | succ pulls ih =>
      rw [List.replicate_succ, drive, SourceIterator.run, delivered, List.filterMap_cons]
      dsimp only [SourceIterator.answer]
      cases answer : (source.next tee.inner).1 with
      | chunk value =>
          rw [call_chunk source tee value answer]
          obtain ⟨settlements, closed, chunks⟩ := ih
            { tee with inner := (source.next tee.inner).2, chunks := tee.chunks ++ [value] } pending
            unsettled
          refine ⟨settlements, closed, chunks.trans ?_⟩
          exact List.append_assoc _ _ _
      | done | thrown =>
          obtain ⟨error, next, settles⟩ := call_ending source tee (by rw [answer]; rfl)
          rw [answer] at settles
          have shut : ({ tee with inner := (source.next tee.inner).2 }.close error).closed = true := by
            simp [close, pending]
          obtain ⟨settlements, closed, chunks⟩ := pulls_closed source _ pulls shut
          rw [next, settles]
          refine ⟨settlements.trans ?_, closed, chunks.trans ?_⟩
          · simp [close, pending, unsettled]
          · rw [close_chunks, close_inner]
            rfl

theorem Tee.drive_return :
    (drive source tee [.return]).2 =
      { tee.close none with inner := (source.answer tee.inner .return).2 } := by
  unfold drive call SourceIterator.answer
  dsimp only [drive]
  cases source.return with
  | some finish =>
      dsimp only
      rw [close_inner]
  | none =>
      dsimp only
      rw [← close_inner tee none]

end Settlement

/-- The answers to the calls of `next`, and the state they leave the source in. -/
def pulled {State : Type} (source : SourceIterator State) (state : State) (pulls : ℕ) :
    List IteratorResult × State :=
  source.run state (List.replicate pulls .next)

/-- How `logged` ends under a schedule: by the first ending met, else by the early
return, which resolves it with all that was delivered. -/
def loggedBy {State : Type} (source : SourceIterator State) (state : State) (pulls : ℕ)
    (returns : Bool) : Option (Except Js.Thrown (List ChatCompletionChunk)) :=
  (outcome [] (pulled source state pulls).1).or
    (if returns then some (.ok (delivered (pulled source state pulls).1)) else none)

structure Transparent {State : Type} (source : SourceIterator State) (state : State) (pulls : ℕ)
    (returns : Bool) (answers : List IteratorResult) (tee : Tee State) : Prop where
  observed : answers = (source.run state (schedule pulls returns)).1
  forwarded : tee.inner = (source.run state (schedule pulls returns)).2
  returned : ∀ finish, returns = true → source.return = some finish →
    tee.inner = (finish (pulled source state pulls).2).2
  once : tee.settlements.length ≤ 1
  settled : tee.settlements = (loggedBy source state pulls returns).toList
  ended : tee.settlements ≠ [] ↔
    returns = true ∨ ∃ answer ∈ (pulled source state pulls).1, answer.chunk? = none
  buffer : EndsOnce (pulled source state pulls).1 →
    ∀ chunks, tee.settlements = [.ok chunks] → tee.chunks = chunks

section Endings

theorem outcome_isSome_iff (chunks : List ChatCompletionChunk) (answers : List IteratorResult) :
    (outcome chunks answers).isSome = true ↔ ∃ answer ∈ answers, answer.chunk? = none := by
  induction answers generalizing chunks with
  | nil => simp [outcome]
  | cons first rest ih =>
      cases first with
      | chunk value =>
          rw [outcome, ih]
          simp [IteratorResult.chunk?]
      | done => simp [outcome, IteratorResult.chunk?]
      | thrown error => cases error <;> simp [outcome, IteratorResult.chunk?]

/-- Where no chunk follows the ending, the buffer holds what came before it. -/
theorem outcome_ok (chunks resolved : List ChatCompletionChunk) (answers : List IteratorResult)
    (endsOnce : EndsOnce answers) (settles : outcome chunks answers = some (.ok resolved)) :
    chunks ++ delivered answers = resolved := by
  induction answers generalizing chunks with
  | nil => cases settles
  | cons first rest ih =>
      obtain ⟨after, later⟩ := List.pairwise_cons.mp endsOnce
      have silent : first.chunk? = none → delivered rest = [] := by
        intro ended
        apply List.filterMap_eq_nil_iff.mpr
        intro answer member
        rcases after answer member with given | nothing
        · rw [ended] at given
          cases given
        · exact nothing
      cases first with
      | chunk value =>
          have whole := ih (chunks ++ [value]) later settles
          rw [List.append_assoc] at whole
          exact whole
      | done =>
          cases settles
          change resolved ++ delivered rest = resolved
          rw [silent rfl, List.append_nil]
      | thrown error =>
          cases error with
          | some error => cases settles
          | none =>
              cases settles
              change resolved ++ delivered rest = resolved
              rw [silent rfl, List.append_nil]

end Endings

section Schedules

variable {State : Type} (source : SourceIterator State) (state : State) (pulls : ℕ)
  (returns : Bool)

/-- What the calls of `next` leave of the tee. -/
def afterPulls : Tee State :=
  (Tee.drive source (Tee.start state) (List.replicate pulls .next)).2

theorem drive_schedule :
    (Tee.drive source (Tee.start state) (schedule pulls returns)).2 =
      if returns then { (afterPulls source state pulls).close none with
        inner := (source.answer (afterPulls source state pulls).inner .return).2 }
      else afterPulls source state pulls := by
  unfold schedule
  rw [Tee.drive_append]
  cases returns with
  | true => exact Tee.drive_return source _
  | false => rfl

theorem chunks_schedule :
    (Tee.drive source (Tee.start state) (schedule pulls returns)).2.chunks =
      delivered (pulled source state pulls).1 := by
  have chunks := (Tee.pulls_pending source (Tee.start state) pulls rfl rfl).2.2
  rw [drive_schedule]
  cases returns with
  | true => exact (Tee.close_chunks _ none).trans chunks
  | false => exact chunks

theorem settlements_schedule :
    (Tee.drive source (Tee.start state) (schedule pulls returns)).2.settlements =
      (loggedBy source state pulls returns).toList := by
  have settlements : (afterPulls source state pulls).settlements =
      (outcome [] (pulled source state pulls).1).toList :=
    (Tee.pulls_pending source (Tee.start state) pulls rfl rfl).1
  have closed : (afterPulls source state pulls).closed =
      (outcome [] (pulled source state pulls).1).isSome :=
    (Tee.pulls_pending source (Tee.start state) pulls rfl rfl).2.1
  have chunks : (afterPulls source state pulls).chunks = delivered (pulled source state pulls).1 :=
    (Tee.pulls_pending source (Tee.start state) pulls rfl rfl).2.2
  rw [drive_schedule, loggedBy]
  cases returns with
  | false => simpa using settlements
  | true =>
      cases ending : outcome [] (pulled source state pulls).1 with
      | some result =>
          rw [ending] at settlements closed
          simp [Tee.close, closed, settlements]
      | none =>
          rw [ending] at settlements closed
          simp [Tee.close, closed, settlements, chunks]

theorem inner_schedule (finish : State → IteratorResult × State) (returning : returns = true)
    (propagates : source.return = some finish) :
    (Tee.drive source (Tee.start state) (schedule pulls returns)).2.inner =
      (finish (pulled source state pulls).2).2 := by
  have inner : (afterPulls source state pulls).inner = (pulled source state pulls).2 :=
    (Tee.drive_run source (Tee.start state) (List.replicate pulls .next)).2
  rw [drive_schedule, returning]
  simp only [↓reduceIte, SourceIterator.answer, propagates, inner]

theorem loggedBy_ended :
    (loggedBy source state pulls returns).toList ≠ [] ↔
      returns = true ∨ ∃ answer ∈ (pulled source state pulls).1, answer.chunk? = none := by
  rw [← outcome_isSome_iff [], loggedBy]
  cases outcome [] (pulled source state pulls).1 <;> cases returns <;> simp

theorem loggedBy_ok (endsOnce : EndsOnce (pulled source state pulls).1)
    (resolved : List ChatCompletionChunk)
    (one : loggedBy source state pulls returns = some (.ok resolved)) :
    delivered (pulled source state pulls).1 = resolved := by
  unfold loggedBy at one
  cases ending : outcome [] (pulled source state pulls).1 with
  | some result =>
      rw [ending] at one
      have ok : result = .ok resolved := by simpa using one
      exact outcome_ok [] resolved _ endsOnce (by rw [ending, ok])
  | none =>
      rw [ending] at one
      cases returns with
      | true => simpa using one
      | false => cases one

end Schedules

section Gateway

variable (source : StreamSource)

def StreamSource.iterator : SourceIterator Inner where
  next := fun inner => inner.next source.ending
  «return» := if source.hasReturn then some fun inner => inner.return true else none

/-- The tee of the gateway model keeps the outcome of `logged` and no list of calls. -/
structure Tee.Reads (tee : Tee Inner) (stream : TeeStream) : Prop where
  inner : stream.inner = tee.inner
  chunks : stream.chunks = tee.chunks
  logged : stream.logged = tee.settlements.head?
  closed : tee.closed = tee.settlements.head?.isSome

theorem Tee.start_reads :
    (Tee.start (TeeStream.start source).inner).Reads (TeeStream.start source) :=
  ⟨rfl, rfl, rfl, rfl⟩

theorem Tee.close_reads (error : Option Js.Thrown) (tee : Tee Inner) (stream : TeeStream)
    (reads : tee.Reads stream) : (tee.close error).Reads (stream.close error) := by
  obtain ⟨inner, chunks, logged, closed⟩ := reads
  cases settled : tee.settlements with
  | nil =>
      rw [settled] at logged closed
      cases error <;>
        exact ⟨by simp [inner], by simp [Tee.close, TeeStream.close, logged, closed, chunks],
          by simp [Tee.close, TeeStream.close, logged, closed, settled, chunks],
          by simp [Tee.close, closed, settled]⟩
  | cons first rest =>
      have kept : tee.close error = tee := tee.close_again error (by rw [closed, settled]; rfl)
      have still : stream.close error = stream := by
        unfold TeeStream.close
        rw [logged, settled]
        rfl
      rw [kept, still]
      exact ⟨inner, chunks, logged, closed⟩

theorem Tee.call_reads (op : ConsumerCall) (tee : Tee Inner) (stream : TeeStream)
    (reads : tee.Reads stream) :
    (stream.call source op).1 = (tee.call source.iterator op).1 ∧
      (tee.call source.iterator op).2.Reads (stream.call source op).2 := by
  cases op with
  | next =>
      have pulled : stream.inner.next source.ending = source.iterator.next tee.inner := by
        rw [reads.inner]
        rfl
      have left : ({ tee with inner := (source.iterator.next tee.inner).2 } : Tee Inner).Reads
          { stream with inner := (source.iterator.next tee.inner).2 } :=
        ⟨rfl, reads.chunks, reads.logged, reads.closed⟩
      unfold Tee.call TeeStream.call
      rw [pulled]
      dsimp only
      cases (source.iterator.next tee.inner).1 with
      | chunk value =>
          exact ⟨rfl, rfl, congrArg (· ++ [value]) reads.chunks, reads.logged, reads.closed⟩
      | done => exact ⟨rfl, Tee.close_reads none _ _ left⟩
      | thrown error => exact ⟨rfl, Tee.close_reads error _ _ left⟩
  | «return» =>
      obtain ⟨inner, chunks, logged, closed⟩ := Tee.close_reads none tee stream reads
      unfold Tee.call TeeStream.call StreamSource.iterator
      dsimp only
      rw [inner]
      cases source.hasReturn with
      | true => exact ⟨rfl, rfl, chunks, logged, closed⟩
      | false =>
          refine ⟨rfl, ?_, chunks, logged, closed⟩
          change ({ (tee.close none).inner with finished := _ } : Inner) = (tee.close none).inner
          rw [Bool.or_false]

theorem Tee.drive_reads (calls : List ConsumerCall) (tee : Tee Inner) (stream : TeeStream)
    (reads : tee.Reads stream) :
    (TeeStream.drive source stream calls).1 = (Tee.drive source.iterator tee calls).1 ∧
      (Tee.drive source.iterator tee calls).2.Reads (TeeStream.drive source stream calls).2 := by
  induction calls generalizing tee stream with
  | nil => exact ⟨rfl, reads⟩
  | cons op rest ih =>
      obtain ⟨answer, kept⟩ := Tee.call_reads source op tee stream reads
      obtain ⟨others, final⟩ := ih _ _ kept
      exact ⟨congrArg₂ List.cons answer others, final⟩

theorem loggedAfter_schedule (pulls : ℕ) (returns : Bool) :
    TeeStream.loggedAfter source (schedule pulls returns) =
      loggedBy source.iterator (TeeStream.start source).inner pulls returns := by
  obtain ⟨_, final⟩ := Tee.drive_reads source (schedule pulls returns) _ _ (Tee.start_reads source)
  unfold TeeStream.loggedAfter
  rw [final.logged, settlements_schedule]
  cases loggedBy source.iterator (TeeStream.start source).inner pulls returns <;> rfl

end Gateway

/-- For every upstream iterator the wrapped one is transparent under every
schedule, and `logged` settles once, when the iteration ends. -/
theorem tee_transparent {State : Type} (source : SourceIterator State) (state : State) (pulls : ℕ)
    (returns : Bool) :
    Transparent source state pulls returns
      (Tee.drive source (Tee.start state) (schedule pulls returns)).1
      (Tee.drive source (Tee.start state) (schedule pulls returns)).2 where
  observed := (Tee.drive_run source (Tee.start state) (schedule pulls returns)).1
  forwarded := (Tee.drive_run source (Tee.start state) (schedule pulls returns)).2
  returned := inner_schedule source state pulls returns
  once := by
    rw [settlements_schedule]
    cases loggedBy source state pulls returns <;> simp
  settled := settlements_schedule source state pulls returns
  ended := by
    rw [settlements_schedule]
    exact loggedBy_ended source state pulls returns
  buffer := by
    intro endsOnce resolved one
    rw [settlements_schedule] at one
    rw [chunks_schedule]
    exact loggedBy_ok source state pulls returns endsOnce resolved (by simpa using one)

end LlmGateway.Chat
