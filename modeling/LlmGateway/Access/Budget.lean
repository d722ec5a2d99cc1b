import LlmGateway.Access.Guards
import LlmGateway.Auth.PrefixScan

/-!
Requests of many clients on many routes through one gateway. Whatever else it is
asked in between, a client is answered by its own requests alone, and its budget
holds over every minute.
-/

namespace LlmGateway.Guards

open Auth Quota RateLimit Runs ScoredSets

structure Gate where
  windows : Windows
  answers : List (Attempt × Except HttpException (Option Client))

namespace Gate

variable (server : Server)

def initial : Gate where
  windows := fun _ => .missing
  answers := []

def answer (gate : Gate) (attempt : Attempt) : Except HttpException (Option Client) :=
  (activate server attempt attempt.route.guards none gate.windows).1

def step (gate : Gate) (attempt : Attempt) : Gate where
  windows := (activate server attempt attempt.route.guards none gate.windows).2
  answers := gate.answers ++ [(attempt, gate.answer server attempt)]

def after (attempts : List Attempt) : Gate := run (step server) initial attempts

theorem after_snoc (earlier : List Attempt) (attempt : Attempt) :
    after server (earlier ++ [attempt]) = (after server earlier).step server attempt := by
  rw [after, run_append]
  rfl

end Gate

variable (server : Server)

def isOf (id : ClientId) (attempt : Attempt) : Bool :=
  match apiKeyAuthGuard server attempt with
  | .error _ => false
  | .ok client => client.id = id

def budgeted (id : ClientId) (attempt : Attempt) : Option TimedCall :=
  match identified server attempt with
  | .error _ => none
  | .ok client =>
      if attempt.route.limited = true ∧ client.id = id then some (attempt.call client) else none

def callsOf (id : ClientId) (attempts : List Attempt) : List TimedCall :=
  attempts.filterMap (budgeted server id)

def handled (id : ClientId)
    (answers : List (Attempt × Except HttpException (Option Client))) : List TimedCall :=
  answers.filterMap fun answered =>
    match answered with
    | (attempt, .ok (some client)) =>
        if attempt.route.limited = true ∧ client.id = id then some (attempt.call client) else none
    | _ => none

def expected (served : ClientId → List TimedCall) (attempt : Attempt) :
    Except HttpException (Option Client) :=
  match identified server attempt with
  | .error thrown => .error thrown
  | .ok client =>
      if attempt.route.limited = true ∧
          client.rateLimitRpm ≤ windowCount (served client.id) attempt.nowMs then
        .error (tooManyRequests server (some windowMs))
      else .ok (some client)

structure Budgeted (attempts : List Attempt) : Prop where
  answered : ∀ earlier attempt later, attempts = earlier ++ attempt :: later →
    (Gate.after server earlier).answer server attempt =
      expected server (fun id => handled id (Gate.after server earlier).answers) attempt
  /-- Nothing that the others send changes an answer. -/
  alone : ∀ id,
    (Gate.after server attempts).answers.filter (fun answered => isOf server id answered.1) =
      (Gate.after server (attempts.filter (isOf server id))).answers
  /-- No minute, wherever it ends, holds more than the highest limit in force. -/
  bounded : ∀ id (rpm : ℕ), (∀ call ∈ callsOf server id attempts, call.limitRpm ≤ rpm) →
    ∀ time, windowCount (handled id (Gate.after server attempts).answers) time ≤ rpm

section Answers

variable (attempt : Attempt)

theorem isOf_identified (client : Client) (known : identified server attempt = .ok client)
    (id : ClientId) : isOf server id attempt = decide (client.id = id) := by
  unfold identified at known
  unfold isOf
  cases authenticated : apiKeyAuthGuard server attempt with
  | error thrown =>
      rw [authenticated] at known
      cases known
  | ok found =>
      rw [authenticated] at known
      dsimp only at known
      cases checked : requireScopesGuard attempt.route.required (some found) with
      | error thrown =>
          rw [checked] at known
          cases known
      | ok _ =>
          rw [checked] at known
          cases known
          rfl

theorem isOf_of_budgeted (id : ClientId) (call : TimedCall)
    (asked : budgeted server id attempt = some call) : isOf server id attempt = true := by
  unfold budgeted at asked
  split at asked
  · cases asked
  · rename_i client known
    split at asked
    · rename_i mine
      rw [isOf_identified server attempt client known id, mine.2]
      exact decide_eq_true rfl
    · cases asked

theorem callsOf_filter (id : ClientId) (attempts : List Attempt) :
    callsOf server id (attempts.filter (isOf server id)) = callsOf server id attempts := by
  unfold callsOf
  rw [List.filterMap_filter]
  apply List.filterMap_congr
  intro attempt _
  split
  · rfl
  · rename_i other
    cases asked : budgeted server id attempt with
    | none => rfl
    | some call => exact absurd (isOf_of_budgeted server attempt id call asked) other

theorem callsOf_snoc (id : ClientId) (earlier : List Attempt) :
    callsOf server id (earlier ++ [attempt]) =
      callsOf server id earlier ++ (budgeted server id attempt).toList := by
  unfold callsOf
  rw [List.filterMap_append]
  cases asked : budgeted server id attempt <;> simp [asked]

end Answers

section Steps

variable (gate : Gate) (attempt : Attempt) (id : ClientId)

theorem handled_step :
    handled id (gate.step server attempt).answers =
      handled id gate.answers ++ handled id [(attempt, gate.answer server attempt)] := by
  unfold handled Gate.step
  exact List.filterMap_append

theorem step_idle (quiet : budgeted server id attempt = none) :
    (gate.step server attempt).windows id = gate.windows id ∧
      handled id [(attempt, gate.answer server attempt)] = [] := by
  unfold budgeted at quiet
  unfold Gate.step Gate.answer
  rw [activate_guards]
  cases known : identified server attempt with
  | error thrown => exact ⟨rfl, rfl⟩
  | ok client =>
      rw [known] at quiet
      dsimp only at quiet ⊢
      by_cases limited : attempt.route.limited = true
      · have other : client.id ≠ id := fun same => by simp [limited, same] at quiet
        rw [if_pos limited]
        refine ⟨Function.update_of_ne (Ne.symm other) _ _, ?_⟩
        cases (rateLimitGuard server attempt (some client) gate.windows).1 with
        | error thrown => rfl
        | ok _ => simp [handled, Except.map, other]
      · rw [if_neg limited]
        exact ⟨rfl, by simp [handled, limited]⟩

theorem budgeted_some (call : TimedCall) (asked : budgeted server id attempt = some call) :
    ∃ client, identified server attempt = .ok client ∧ attempt.route.limited = true ∧
      client.id = id ∧ attempt.call client = call := by
  unfold budgeted at asked
  cases known : identified server attempt with
  | error thrown =>
      rw [known] at asked
      cases asked
  | ok client =>
      rw [known] at asked
      dsimp only at asked
      split at asked
      · rename_i mine
        exact ⟨client, rfl, mine.1, mine.2, Option.some.inj asked⟩
      · cases asked

theorem step_asks (call : TimedCall) (asked : budgeted server id attempt = some call) :
    (gate.step server attempt).windows id = (allowRequest (gate.windows id) call).2 ∧
      handled id [(attempt, gate.answer server attempt)] =
        if (allowRequest (gate.windows id) call).1.allowed then [call] else [] := by
  obtain ⟨client, known, limited, rfl, rfl⟩ := budgeted_some server attempt id call asked
  unfold Gate.step Gate.answer
  rw [activate_guards, known]
  dsimp only
  rw [if_pos limited]
  refine ⟨Function.update_self _ _ _, ?_⟩
  rw [rateLimitGuard]
  dsimp only
  cases (allowRequest (gate.windows client.id) (attempt.call client)).1.allowed with
  | true => simp [handled, Except.map, limited]
  | false => rfl

end Steps

/-- The window of a client and its handled requests are those of its own calls,
one after the other. -/
theorem gate_history (attempts : List Attempt) (id : ClientId) :
    (Gate.after server attempts).windows id = (historyOf (callsOf server id attempts)).key ∧
      handled id (Gate.after server attempts).answers =
        (historyOf (callsOf server id attempts)).admitted := by
  induction attempts using List.reverseRecOn with
  | nil => exact ⟨rfl, rfl⟩
  | append_singleton earlier attempt ih =>
      obtain ⟨window, admitted⟩ := ih
      rw [Gate.after_snoc, callsOf_snoc, handled_step]
      cases asked : budgeted server id attempt with
      | none =>
          obtain ⟨same, unhandled⟩ := step_idle server _ attempt id asked
          rw [same, unhandled, Option.toList_none, List.append_nil, List.append_nil]
          exact ⟨window, admitted⟩
      | some call =>
          obtain ⟨next, result⟩ := step_asks server _ attempt id call asked
          rw [next, result, Option.toList_some, historyOf_snoc, window, admitted, History.step]
          refine ⟨rfl, ?_⟩
          split <;> simp

section Answer

variable (attempt : Attempt)

theorem answer_eq (gate : Gate) :
    gate.answer server attempt =
      match identified server attempt with
      | .error thrown => .error thrown
      | .ok client =>
          if attempt.route.limited then
            let result := (allowRequest (gate.windows client.id) (attempt.call client)).1
            if result.allowed then .ok (some client)
            else .error (tooManyRequests server result.retryAfterMs)
          else .ok (some client) := by
  unfold Gate.answer
  rw [activate_guards]
  cases identified server attempt with
  | error thrown => rfl
  | ok client =>
      dsimp only
      split
      · rw [rateLimitGuard]
        dsimp only
        split <;> rfl
      · rfl

theorem budgeted_of (client : Client) (known : identified server attempt = .ok client)
    (limited : attempt.route.limited = true) :
    budgeted server client.id attempt = some (attempt.call client) := by
  simp [budgeted, known, limited]

theorem answer_exact (earlier later : List Attempt)
    (sequential : ∀ id, Sequential (callsOf server id (earlier ++ attempt :: later))) :
    (Gate.after server earlier).answer server attempt =
      expected server (fun id => handled id (Gate.after server earlier).answers) attempt := by
  rw [answer_eq, expected]
  cases known : identified server attempt with
  | error thrown => rfl
  | ok client =>
      dsimp only
      by_cases limited : attempt.route.limited = true
      · have own := sequential client.id
        have split : callsOf server client.id (earlier ++ attempt :: later) =
            callsOf server client.id earlier ++
              attempt.call client :: callsOf server client.id later := by
          unfold callsOf
          rw [List.filterMap_append,
            List.filterMap_cons_some (budgeted_of server attempt client known limited)]
        rw [split] at own
        obtain ⟨nowMs, holds, follows⟩ := historyOf_follows _ _ own
        obtain ⟨window, admitted⟩ := gate_history server earlier client.id
        have decides := step_verdict _ nowMs (attempt.call client) holds
          (follows.after _ List.mem_cons_self) (follows.sequential.prompt _ List.mem_cons_self)
        rw [window, admitted, decides, verdict]
        by_cases room : windowCount (historyOf (callsOf server client.id earlier)).admitted
            attempt.nowMs < client.rateLimitRpm.toNat
        · have below : ¬client.rateLimitRpm ≤
              windowCount (historyOf (callsOf server client.id earlier)).admitted attempt.nowMs := by
            omega
          simp [limited, below, Attempt.call, room]
        · have full : client.rateLimitRpm ≤
              windowCount (historyOf (callsOf server client.id earlier)).admitted attempt.nowMs := by
            omega
          simp [limited, full, Attempt.call, room]
      · simp [limited]

theorem answer_alone (earlier : List Attempt) (id : ClientId)
    (mine : isOf server id attempt = true) :
    (Gate.after server (earlier.filter (isOf server id))).answer server attempt =
      (Gate.after server earlier).answer server attempt := by
  rw [answer_eq, answer_eq]
  cases known : identified server attempt with
  | error thrown => rfl
  | ok client =>
      rw [isOf_identified server attempt client known, decide_eq_true_eq] at mine
      subst mine
      dsimp only
      rw [(gate_history server _ client.id).1, (gate_history server earlier client.id).1,
        callsOf_filter]

end Answer

theorem answers_alone (attempts : List Attempt) (id : ClientId) :
    (Gate.after server attempts).answers.filter (fun answered => isOf server id answered.1) =
      (Gate.after server (attempts.filter (isOf server id))).answers := by
  induction attempts using List.reverseRecOn with
  | nil => rfl
  | append_singleton earlier attempt ih =>
      rw [Gate.after_snoc, List.filter_append, Gate.step, List.filter_append, ih]
      cases mine : isOf server id attempt with
      | false => simp [mine]
      | true =>
          have kept : [attempt].filter (isOf server id) = [attempt] := List.filter_cons_of_pos mine
          rw [kept, Gate.after_snoc, Gate.step, answer_alone server attempt earlier id mine]
          simp [mine]

section Window

variable (admitted calls earlier : List TimedCall) (call : TimedCall) (time : ℤ) (rpm : ℕ)

theorem windowCount_le (past : ∀ old ∈ admitted, old.nowMs ≤ call.nowMs)
    (inside : inWindow time call = true) :
    windowCount admitted time ≤ windowCount admitted call.nowMs := by
  unfold windowCount
  rw [← List.countP_eq_length_filter, ← List.countP_eq_length_filter]
  apply List.countP_mono_left
  intro old member within
  have before := past old member
  unfold inWindow at inside within ⊢
  rw [decide_eq_true_eq] at inside within ⊢
  omega

theorem windowCount_snoc :
    windowCount (admitted ++ [call]) time =
      windowCount admitted time + if inWindow time call then 1 else 0 := by
  unfold windowCount
  rw [List.filter_append, List.length_append]
  cases inside : inWindow time call <;> simp [inside]

theorem windowCount_bounded (sequential : Sequential calls)
    (limits : ∀ call ∈ calls, call.limitRpm ≤ rpm) :
    windowCount (historyOf calls).admitted time ≤ rpm := by
  induction calls using List.reverseRecOn with
  | nil => exact Nat.zero_le rpm
  | append_singleton earlier call ih =>
      have before := ih (sequential.sublist _ _ (List.sublist_append_left _ _))
        fun old member => limits old (List.mem_append_left _ member)
      have limit := limits call (List.mem_append_right _ (List.mem_singleton_self call))
      obtain ⟨nowMs, holds, follows⟩ := historyOf_follows earlier [call] sequential
      have after := follows.after call List.mem_cons_self
      have decides := step_verdict _ nowMs call holds after
        (follows.sequential.prompt call List.mem_cons_self)
      rw [historyOf_snoc, History.step, decides, verdict]
      by_cases room : windowCount (historyOf earlier).admitted call.nowMs < call.limitRpm
      · rw [if_pos room]
        dsimp only
        rw [if_pos rfl, windowCount_snoc]
        cases inside : inWindow time call with
        | false => simpa using before
        | true =>
            have wider := windowCount_le _ call time
              (fun old member => (holds.past old member).2.trans after) inside
            rw [if_pos rfl]
            omega
      · rw [if_neg room]
        exact before

end Window

/-- Over any requests, a guarded route answers each client by its own requests
and its own budget. -/
theorem requests_budgeted (attempts : List Attempt)
    (sequential : ∀ id, Sequential (callsOf server id attempts)) : Budgeted server attempts where
  answered := by
    rintro earlier attempt later rfl
    exact answer_exact server attempt earlier later sequential
  alone := answers_alone server attempts
  bounded := by
    intro id rpm limits time
    rw [(gate_history server attempts id).2]
    exact windowCount_bounded _ time rpm (sequential id) limits

section Example

variable (attempts : List Attempt) (id : ClientId)

theorem callsOf_sublist {Reading : Type} (ofCall : TimedCall → Reading)
    (ofAttempt : Attempt → Reading)
    (same : ∀ attempt client, ofCall (Attempt.call attempt client) = ofAttempt attempt) :
    ((callsOf server id attempts).map ofCall).Sublist (attempts.map ofAttempt) := by
  induction attempts with
  | nil => exact List.Sublist.refl _
  | cons attempt rest ih =>
      cases asked : budgeted server id attempt with
      | none =>
          rw [callsOf, List.filterMap_cons_none asked]
          exact ih.cons _
      | some call =>
          obtain ⟨client, _, _, _, rfl⟩ := budgeted_some server attempt id call asked
          rw [callsOf, List.filterMap_cons_some asked, List.map_cons, List.map_cons, same]
          exact ih.cons_cons _

theorem callsOf_sequential (prompt : ∀ attempt ∈ attempts, ∀ client, Prompt (attempt.call client))
    (natural : ∀ attempt ∈ attempts, 0 ≤ attempt.nowMs)
    (ordered : (attempts.map Attempt.nowMs).Pairwise (· ≤ ·))
    (unique : (attempts.map Attempt.member).Nodup) : Sequential (callsOf server id attempts) := by
  have each : ∀ call ∈ callsOf server id attempts,
      ∃ attempt ∈ attempts, ∃ client : Client, attempt.call client = call := by
    intro call asked
    obtain ⟨attempt, member, same⟩ := List.mem_filterMap.mp asked
    obtain ⟨client, _, _, _, made⟩ := budgeted_some server attempt id call same
    exact ⟨attempt, member, client, made⟩
  constructor
  · intro call asked
    obtain ⟨attempt, member, client, rfl⟩ := each call asked
    exact prompt attempt member client
  · intro call asked
    obtain ⟨attempt, member, client, rfl⟩ := each call asked
    exact natural attempt member
  · exact ordered.sublist
      (callsOf_sublist server attempts id TimedCall.nowMs Attempt.nowMs fun _ _ => rfl)
  · exact unique.sublist
      (callsOf_sublist server attempts id TimedCall.member Attempt.member fun _ _ => rfl)

def gateway : Server where
  crypto := exampleCrypto
  pepper := examplePepper
  setsHeaders := true

def cachedClient (id : ClientId) (plaintext : String) : Client :=
  { toClient (exampleRow id plaintext) with rateLimitRpm := 1 }

def instantAttempt (headers : Headers) (route : Route) (cached : Option Client) (nowMs : ℤ)
    (member : String) : Attempt where
  headers := headers
  route := route
  cached := cached
  table := exampleTable thirdKey
  nowMs := nowMs
  member := member
  prunedAt := nowMs
  countedAt := nowMs
  addedAt := nowMs
  expiredAt := nowMs

def mingled : List Attempt :=
  [instantAttempt ⟨some ("bearer  " ++ firstKey), none⟩ .chat
      (some (cachedClient clientOne firstKey)) 0 "0:a",
    instantAttempt ⟨none, some thirdKey⟩ .admin none 1 "1:b",
    instantAttempt ⟨some ("Bearer " ++ firstKey), none⟩ .models
      (some (cachedClient clientOne firstKey)) 2 "2:c",
    instantAttempt ⟨none, some thirdKey⟩ .search none 3 "3:d",
    instantAttempt ⟨some ("Basic " ++ thirdKey), some thirdKey⟩ .chat none 4 "4:e"]

def outcome (answer : Except HttpException (Option Client)) : Except ℕ (Option ClientId) :=
  match answer with
  | .ok client => .ok (client.map Client.id)
  | .error (.unauthorized _) => .error 401
  | .error (.forbidden _) => .error 403
  | .error (.tooManyRequests _ _) => .error 429

theorem requests_budgeted_mingled :
    Budgeted gateway mingled ∧
      (Gate.after gateway mingled).answers.map (fun answered => outcome answered.2) =
        [.ok (some clientOne), .error 403, .error 429, .ok (some clientTwo), .error 401] := by
  refine ⟨requests_budgeted gateway mingled fun id => callsOf_sequential gateway mingled id ?_
    (by decide) (by decide) (by decide), by decide +kernel⟩
  intro attempt member client
  simp only [mingled, List.mem_cons, List.not_mem_nil, or_false] at member
  rcases member with rfl | rfl | rfl | rfl | rfl <;> exact instantCall_prompt _ _ _

end Example

end LlmGateway.Guards
