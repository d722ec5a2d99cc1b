import LlmGateway.RateLimit.Sequential

/-!
The hint of a denied call against the window it waits for. The oldest score is
never read, so the hint is the length of the window whatever the window holds.
-/

namespace LlmGateway.RateLimit

open ScoredSets

/-- A next call of the same limit is allowed after the hint and not before. -/
def RetryExact (key : ExpiringSet) (refused : TimedCall) (retryAfterMs : ℤ) : Prop :=
  ∀ probe : TimedCall, Prompt probe → probe.limitRpm = refused.limitRpm →
    (probe.nowMs = refused.nowMs + retryAfterMs → (allowRequest key probe).1.allowed = true) ∧
      (refused.nowMs ≤ probe.nowMs → probe.nowMs < refused.nowMs + retryAfterMs →
        (allowRequest key probe).1.allowed = false)

/-- Allowed calls of the last millisecond and this one fill the limit, and those
of this one alone do not. -/
structure FilledAtOnce (admitted : List TimedCall) (refused : TimedCall) : Prop where
  full : refused.limitRpm ≤
    (admitted.filter fun call => refused.nowMs - 1 ≤ call.nowMs).length
  leaves : (admitted.filter fun call => refused.nowMs ≤ call.nowMs).length < refused.limitRpm

section Probe

variable (history : History) (nowMs : ℤ) (holds : Holds history nowMs) (probe : TimedCall)
  (prompt : Prompt probe) (ordered : nowMs ≤ probe.nowMs)
include holds prompt ordered

theorem probe_allowed_iff :
    (allowRequest history.key probe).1.allowed = true ↔
      (history.admitted.filter fun call => probe.nowMs - windowMs ≤ call.nowMs).length <
        probe.limitRpm := by
  have counted : windowCount history.admitted probe.nowMs =
      (history.admitted.filter fun call => probe.nowMs - windowMs ≤ call.nowMs).length := by
    unfold windowCount
    congr 1
    apply List.filter_congr
    intro old member
    have past := (holds.past old member).2
    apply decide_eq_decide.mpr
    omega
  rw [step_verdict history nowMs probe holds ordered prompt, verdict, ← counted]
  split <;> simp_all

end Probe

theorem count_from_mono (admitted : List TimedCall) (early late : ℤ) (order : early ≤ late) :
    (admitted.filter fun call => late ≤ call.nowMs).length ≤
      (admitted.filter fun call => early ≤ call.nowMs).length := by
  apply List.Sublist.length_le
  apply List.monotone_filter_right
  intro call inside
  rw [decide_eq_true_eq] at inside ⊢
  omega

theorem retryExact_iff (history : History) (refused : TimedCall)
    (holds : Holds history refused.nowMs) :
    RetryExact history.key refused windowMs ↔ FilledAtOnce history.admitted refused := by
  have window : windowMs = 60000 := rfl
  constructor
  · intro exact
    constructor
    · -- A call one millisecond before the hint ends is denied.
      have prompt := instantCall_prompt (refused.nowMs + windowMs - 1) refused.limitRpm ""
      have early : refused.nowMs ≤ refused.nowMs + windowMs - 1 := by omega
      have denied := (exact _ prompt rfl).2 early (Int.sub_one_lt_of_le (le_refl _))
      have counted := (probe_allowed_iff history refused.nowMs holds _ prompt early).not.mp
        (by rw [denied]; decide)
      have start : (instantCall (refused.nowMs + windowMs - 1) refused.limitRpm "").nowMs -
          windowMs = refused.nowMs - 1 := by
        change refused.nowMs + windowMs - 1 - windowMs = _
        omega
      rw [start] at counted
      exact not_lt.mp counted
    · have prompt := instantCall_prompt (refused.nowMs + windowMs) refused.limitRpm ""
      have late : refused.nowMs ≤ refused.nowMs + windowMs := by omega
      have allowed := (exact _ prompt rfl).1 rfl
      have counted := (probe_allowed_iff history refused.nowMs holds _ prompt late).mp allowed
      have start : (instantCall (refused.nowMs + windowMs) refused.limitRpm "").nowMs -
          windowMs = refused.nowMs := by
        change refused.nowMs + windowMs - windowMs = _
        omega
      rwa [start] at counted
  · rintro ⟨full, leaves⟩ probe prompt limit
    constructor
    · intro ends
      apply (probe_allowed_iff history refused.nowMs holds probe prompt (by omega)).mpr
      rw [limit, ends, add_sub_cancel_right]
      exact leaves
    · intro after before
      have counted := probe_allowed_iff history refused.nowMs holds probe prompt after
      have wider := count_from_mono history.admitted (probe.nowMs - windowMs) (refused.nowMs - 1)
        (by omega)
      rw [Bool.eq_false_iff]
      intro allowed
      have below := counted.mp allowed
      omega

/-- The hint of a denied call is exact only where the limit was filled at once,
a millisecond before. -/
theorem retry_after_exact_iff (calls : List TimedCall) (refused : TimedCall)
    (sequential : Sequential (calls ++ [refused]))
    (denied : (allowRequest (historyOf calls).key refused).1.allowed = false) :
    ∃ retryAfterMs,
      (allowRequest (historyOf calls).key refused).1.retryAfterMs = some retryAfterMs ∧
      (RetryExact (historyOf (calls ++ [refused])).key refused retryAfterMs ↔
        FilledAtOnce (historyOf calls).admitted refused) := by
  obtain ⟨nowMs, holds, follows⟩ := historyOf_follows calls [refused] sequential
  have member : refused ∈ [refused] := List.mem_singleton_self _
  have prompt := follows.sequential.prompt refused member
  have ordered := follows.after refused member
  have answer := step_verdict (historyOf calls) nowMs refused holds ordered prompt
  have full : ¬windowCount (historyOf calls).admitted refused.nowMs < refused.limitRpm := by
    intro room
    rw [answer, verdict, if_pos room] at denied
    cases denied
  obtain ⟨next, admitted⟩ := refused_holds (historyOf calls) nowMs refused holds ordered prompt full
  refine ⟨windowMs, ?_, ?_⟩
  · rw [answer, verdict, if_neg full]
  · rw [historyOf_snoc, retryExact_iff _ refused next, admitted]

section Witness

theorem retry_after_exact_edge :
    RetryExact (historyOf [instantCall 0 1 "0:a", instantCall 1 1 "1:b"]).key
      (instantCall 1 1 "1:b") windowMs := by
  obtain ⟨retryAfterMs, hint, exact⟩ := retry_after_exact_iff [instantCall 0 1 "0:a"]
    (instantCall 1 1 "1:b")
    (instantCalls_sequential [(0, 1, "0:a"), (1, 1, "1:b")] (by decide) (by decide) (by decide))
    (by decide +kernel)
  have same : (allowRequest (historyOf [instantCall 0 1 "0:a"]).key
      (instantCall 1 1 "1:b")).1.retryAfterMs = some windowMs := by
    decide +kernel
  cases Option.some.inj (hint.symm.trans same)
  exact exact.mpr ⟨by decide +kernel, by decide +kernel⟩

/-- The only entry leaves the window after 30001 ms, the hint says 60000. -/
theorem retry_after_is_late :
    (allowRequest (historyOf [instantCall 0 1 "0:a"]).key (instantCall 30000 1 "30000:b")).1 =
        ⟨false, 1, 1, some 60000⟩ ∧
      (allowRequest (historyOf [instantCall 0 1 "0:a", instantCall 30000 1 "30000:b"]).key
        (instantCall 60001 1 "60001:c")).1.allowed = true ∧
      ¬RetryExact (historyOf [instantCall 0 1 "0:a", instantCall 30000 1 "30000:b"]).key
        (instantCall 30000 1 "30000:b") 60000 := by
  refine ⟨by decide +kernel, by decide +kernel, ?_⟩
  intro exact
  have early := (exact (instantCall 60001 1 "60001:c") (instantCall_prompt _ _ _) rfl).2
    (by decide) (by decide)
  revert early
  decide +kernel

end Witness

end LlmGateway.RateLimit
