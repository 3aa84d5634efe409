import ProxyControl.Proofs.Dispatch.Clock

/-!
# The course of a call

Seen from one caller, a run is short: the call waits for its instant, its first attempt is made
and ends, and then either the call is over or the attempt is made once more and ends too. Every
happening moves a call along this course or leaves it where it is, whatever the other callers do.
-/
namespace ProxyControl.Dispatch

/-- The attempts of one caller. -/
def ofCaller (caller : Nat) (attempts : List Attempt) : List Attempt :=
  attempts.filter fun attempt => attempt.caller = caller

/-- The outcomes of one caller's attempts. -/
def outcomesOf (caller : Nat) (outcomes : List Outcome) : List Outcome :=
  outcomes.filter fun outcome => outcome.attempt.caller = caller

theorem mem_ofCaller {caller : Nat} {attempts : List Attempt} {attempt : Attempt} :
    attempt ∈ ofCaller caller attempts ↔ attempt ∈ attempts ∧ attempt.caller = caller := by
  simp [ofCaller]

theorem mem_outcomesOf {caller : Nat} {outcomes : List Outcome} {outcome : Outcome} :
    outcome ∈ outcomesOf caller outcomes ↔
      outcome ∈ outcomes ∧ outcome.attempt.caller = caller := by
  simp [outcomesOf]

theorem Attempt.ne_again {first : Attempt} (isFirst : first.isRetry = false)
    (instant : Nanoseconds) : first ≠ first.again instant := by
  intro same
  have isRetry := congrArg Attempt.isRetry same
  simp [isFirst, again] at isRetry

/-- Both attempts of a call are its caller's. -/
theorem Attempt.caller_of_origin {first attempt : Attempt}
    (origin : attempt = first ∨ ∃ instant, attempt = first.again instant) :
    attempt.caller = first.caller := by
  rcases origin with rfl | ⟨instant, rfl⟩ <;> rfl

theorem State.isRetried_timedOut (settings : Settings) (attempt other : Attempt) :
    State.isRetried settings attempt (.error (other.timedOut settings)) = false := by
  simp [State.isRetried, Attempt.timedOut, Failure.isRetryable]

/-- Where a call stands: which of its attempts are still to be submitted, which have been
submitted, which of these have no result yet, and what came of the others. -/
inductive Course (settings : Settings) (first : Attempt) :
    List Attempt → List Attempt → List Attempt → List Outcome → Prop
  | upcoming : Course settings first [first] [] [] []
  | underway : Course settings first [] [first] [first] []
  | ended {instant : Nanoseconds} {result : Result Text}
      (final : State.isRetried settings first result = false) :
      Course settings first [] [first] [] [⟨first, instant, result⟩]
  | again {instant : Nanoseconds} {result : Result Text}
      (retried : State.isRetried settings first result = true) :
      Course settings first [] [first, first.again instant] [first.again instant]
        [⟨first, instant, result⟩]
  | endedAgain {instant last : Nanoseconds} {result lastResult : Result Text}
      (retried : State.isRetried settings first result = true) :
      Course settings first [] [first, first.again instant] []
        [⟨first, instant, result⟩, ⟨first.again instant, last, lastResult⟩]

namespace Course

variable {settings : Settings} {first : Attempt} {upcoming submissions live : List Attempt}
  {outcomes : List Outcome}

/-- What has been submitted is what has ended and what has not. -/
theorem outcomes_append_live (course : Course settings first upcoming submissions live outcomes) :
    outcomes.map Outcome.attempt ++ live = submissions := by
  cases course <;> rfl

theorem nodup (course : Course settings first upcoming submissions live outcomes)
    (isFirst : first.isRetry = false) : submissions.Nodup := by
  cases course <;> simp [Attempt.ne_again isFirst]

theorem submit {attempt : Attempt} {rest : List Attempt}
    (course : Course settings first (attempt :: rest) submissions live outcomes) :
    Course settings first rest (submissions ++ [attempt]) (live ++ [attempt]) outcomes ∧
      attempt = first := by
  cases course
  exact ⟨.underway, rfl⟩

theorem land {attempt : Attempt} {rest : List Attempt}
    (course : Course settings first upcoming submissions (attempt :: rest) outcomes)
    (instant : Nanoseconds) (result : Result Text) :
    Course settings first upcoming
      (submissions ++ retriesAfter settings attempt instant result)
      (rest ++ retriesAfter settings attempt instant result)
      (outcomes ++ [⟨attempt, instant, result⟩]) := by
  unfold retriesAfter
  cases course with
  | underway =>
    split
    next retried => exact .again retried
    next final => exact .ended (by simpa using final)
  | again retried =>
    -- a second attempt is not followed by a third, whatever comes of it
    rw [if_neg (by simp [State.isRetried, Attempt.again])]
    exact .endedAgain retried

/-- A deadline ends an attempt for good: a timeout is never followed by another attempt. -/
theorem expire (course : Course settings first upcoming submissions live outcomes)
    (isOpen : Attempt → Bool) (instant : Nanoseconds) :
    Course settings first upcoming submissions (live.filter isOpen)
      (outcomes ++ (live.filter (!isOpen ·)).map fun attempt =>
        ⟨attempt, instant, .error (attempt.timedOut settings)⟩) := by
  cases course with
  | upcoming => exact .upcoming
  | underway =>
    cases stays : isOpen first with
    | true => simpa [stays] using underway
    | false => simpa [stays] using ended (State.isRetried_timedOut settings first first)
  | ended final => exact .ended final
  | @again started result retried =>
    cases stays : isOpen (first.again started) with
    | true => simpa [stays] using again retried
    | false => simpa [stays] using endedAgain retried
  | endedAgain retried => exact .endedAgain retried

end Course

namespace State

variable {settings : Settings} {endpoints : List Endpoint} {transport : Transport}
  {calls : List Call}

/-- A state in which the call with the given first attempt is somewhere on its course. -/
structure Follows (settings : Settings) (first : Attempt) (state : State) : Prop where
  course : Course settings first (ofCaller first.caller state.upcoming)
    (ofCaller first.caller state.record.submissions)
    (ofCaller first.caller (state.lane first.endpoint).live)
    (outcomesOf first.caller state.record.outcomes)
  elsewhere : ∀ other, other ≠ first.endpoint →
    ofCaller first.caller (state.lane other).live = []

theorem Follows.advance {state : State} {first : Attempt} (follows : Follows settings first state)
    {endpoint : Endpoint} {instant : Nanoseconds} {upcoming : List Attempt} {lane : Lane}
    {submissions : List Attempt} {outcomes : List Outcome}
    (here : first.endpoint = endpoint → Course settings first (ofCaller first.caller upcoming)
      (ofCaller first.caller state.record.submissions ++ ofCaller first.caller submissions)
      (ofCaller first.caller lane.live)
      (outcomesOf first.caller state.record.outcomes ++ outcomesOf first.caller outcomes))
    (there : first.endpoint ≠ endpoint →
      ofCaller first.caller upcoming = ofCaller first.caller state.upcoming ∧
      ofCaller first.caller submissions = [] ∧ ofCaller first.caller lane.live = [] ∧
      outcomesOf first.caller outcomes = []) :
    Follows settings first
      (advance transport { state with upcoming } endpoint instant lane submissions
        outcomes) := by
  by_cases place : first.endpoint = endpoint
  · constructor
    case course =>
      simpa [live_advance, ofCaller, outcomesOf, place] using here place
    case elsewhere =>
      intro other ne
      rw [live_advance, if_neg (place ▸ ne)]
      exact follows.elsewhere other ne
  · obtain ⟨sameUpcoming, noSubmission, notLive, noOutcome⟩ := there place
    constructor
    case course =>
      have course := follows.course
      rw [← sameUpcoming] at course
      rw [live_advance, if_neg place]
      simp only [ofCaller, outcomesOf] at noSubmission noOutcome course ⊢
      simpa [noSubmission, noOutcome] using course
    case elsewhere =>
      intro other ne
      rw [live_advance]
      split
      · exact notLive
      · exact follows.elsewhere other ne

theorem Follows.submission {state : State} {first attempt : Attempt} {rest : List Attempt}
    (follows : Follows settings first state) (upcoming : state.upcoming = attempt :: rest) :
    Follows settings first (state.submit transport attempt rest) := by
  have live : ((state.lane attempt.endpoint).submit attempt).live =
      (state.lane attempt.endpoint).live ++ [attempt] := by
    simp [Lane.live_eq]
  have course := follows.course
  -- on the caller's side the call moves on; on everybody else's nothing changes
  by_cases own : attempt.caller = first.caller
  · simp only [upcoming, ofCaller, List.filter_cons, own, decide_true, if_true] at course
    obtain ⟨course, rfl⟩ := course.submit
    exact follows.advance (fun _ => by simpa [live, ofCaller, outcomesOf] using course)
      (fun elsewhere => absurd rfl elsewhere)
  · refine follows.advance (fun here => ?_) (fun elsewhere => ?_)
    · simpa [upcoming, live, ofCaller, outcomesOf, own, here] using course
    · have none := follows.elsewhere attempt.endpoint (Ne.symm elsewhere)
      simpa [upcoming, live, ofCaller, outcomesOf, own] using none

theorem Follows.landing {state : State} {first : Attempt} {endpoint : Endpoint} {flight : Flight}
    (follows : Follows settings first state)
    (flying : (state.lane endpoint).flight = some flight) (instant : Nanoseconds)
    (result : Result Text) :
    Follows settings first (state.land settings transport endpoint instant result) := by
  have before : (state.lane endpoint).live = flight.attempt :: (state.lane endpoint).waiting := by
    simp [Lane.live_eq, flying]
  have after : ((retriesAfter settings flight.attempt instant result).foldl Lane.submit
      (state.lane endpoint).land).live =
        (state.lane endpoint).waiting ++ retriesAfter settings flight.attempt instant result := by
    simp [Lane.live_eq]
  have callers : ∀ retry ∈ retriesAfter settings flight.attempt instant result,
      retry.caller = flight.attempt.caller := by
    intro retry retried
    rw [(mem_retriesAfter.mp retried).2]
    rfl
  have course := follows.course
  rw [land_eq flying]
  by_cases own : flight.attempt.caller = first.caller
  · have allOwn : ofCaller first.caller (retriesAfter settings flight.attempt instant result) =
        retriesAfter settings flight.attempt instant result :=
      List.filter_eq_self.mpr fun retry member => by simp [callers retry member, own]
    refine follows.advance (fun here => ?_) (fun elsewhere => ?_)
    · subst here
      simp only [before, ofCaller, List.filter_cons, own, decide_true, if_true] at course
      have landed := course.land instant result
      rw [after]
      simp only [ofCaller, outcomesOf] at allOwn landed ⊢
      simpa [allOwn, own] using landed
    · -- an attempt of the caller cannot have been under way on another endpoint
      have none := follows.elsewhere endpoint (Ne.symm elsewhere)
      simp [before, ofCaller, own] at none
  · have noneOwn : ofCaller first.caller (retriesAfter settings flight.attempt instant result) =
        [] :=
      List.filter_eq_nil_iff.mpr fun retry member => by simp [callers retry member, own]
    refine follows.advance (fun here => ?_) (fun elsewhere => ?_)
    · subst here
      rw [after]
      simp only [ofCaller, outcomesOf] at noneOwn course ⊢
      simpa [noneOwn, before, own] using course
    · have none := follows.elsewhere endpoint (Ne.symm elsewhere)
      rw [after]
      simp only [ofCaller, outcomesOf] at noneOwn none ⊢
      simpa [noneOwn, before, own] using none

theorem Follows.expiry {state : State} {first : Attempt} {endpoint : Endpoint}
    (follows : Follows settings first state) (instant : Nanoseconds) :
    Follows settings first (state.expire settings transport endpoint instant) := by
  have ended : outcomesOf first.caller
      (((state.lane endpoint).expired settings instant).map fun attempt =>
        ⟨attempt, instant, .error (attempt.timedOut settings)⟩) =
      ((ofCaller first.caller (state.lane endpoint).live).filter
        (!Lane.isOpen settings instant ·)).map fun attempt =>
          ⟨attempt, instant, .error (attempt.timedOut settings)⟩ := by
    simp only [outcomesOf, ofCaller, Lane.expired, List.filter_map, List.filter_filter]
    congr 1
    exact List.filter_congr fun attempt _ => Bool.and_comm _ _
  have stays : ofCaller first.caller ((state.lane endpoint).expire settings instant).live =
      (ofCaller first.caller (state.lane endpoint).live).filter
        (Lane.isOpen settings instant) := by
    simp only [Lane.live_expire, ofCaller, List.filter_filter]
    exact List.filter_congr fun attempt _ => Bool.and_comm _ _
  refine follows.advance (fun here => ?_) (fun elsewhere => ?_)
  · subst here
    rw [ended, stays]
    simpa [ofCaller] using follows.course.expire (Lane.isOpen settings instant) instant
  · have none := follows.elsewhere endpoint (Ne.symm elsewhere)
    rw [ended, stays, none]
    simp [ofCaller]

theorem Follows.happens {state next : State} {first : Attempt} {instant : Nanoseconds}
    (follows : Follows settings first state)
    (h : Happens settings endpoints transport state instant next) :
    Follows settings first next := by
  cases h with
  | submission upcoming before => exact follows.submission upcoming
  | landing member flying lands inTime quiet => exact follows.landing flying _ _
  | expiry member due flying quiet => exact follows.expiry _

/-! ### The courses of a run -/

private theorem ofCaller_firstAttempts {caller : Nat} {first : Attempt}
    (member : first ∈ firstAttempts endpoints caller calls) :
    ofCaller first.caller (firstAttempts endpoints caller calls) = [first] := by
  induction calls generalizing caller with
  | nil => simp [firstAttempts] at member
  | cons call rest ih =>
    simp only [firstAttempts] at member ⊢
    split at member
    next => exact ih member
    next route routed =>
      -- the callers behind the first one have higher numbers
      have above : ∀ later ∈ firstAttempts endpoints (caller + 1) rest, later.caller ≠ caller := by
        intro later inRest
        exact Nat.ne_of_gt (le_caller_of_mem inRest)
      rcases List.mem_cons.mp member with rfl | inRest
      · have none : ofCaller caller (firstAttempts endpoints (caller + 1) rest) = [] :=
          List.filter_eq_nil_iff.mpr fun later inRest => by simpa using above later inRest
        simpa [ofCaller] using none
      · have ne := (above first inRest).symm
        simpa [ofCaller, ne] using ih inRest

/-- Every routed call of a run is somewhere on its course. -/
theorem Reachable.follows {now : Nanoseconds} {state : State}
    (h : Reachable settings endpoints transport calls now state) {first : Attempt}
    (member : first ∈ firstAttempts endpoints 0 calls) : Follows settings first state := by
  induction h with
  | start =>
    have own : ofCaller first.caller (State.start endpoints calls).upcoming = [first] := by
      -- sorting the calls by their instants leaves a caller's single one alone
      apply List.perm_singleton.mp
      rw [← ofCaller_firstAttempts member]
      exact (start_upcoming_perm endpoints calls).filter _
    constructor
    case course =>
      rw [own]
      exact .upcoming
    case elsewhere => exact fun other _ => rfl
  | happening _ happens ih => exact ih.happens happens

/-- Whatever is about in a state goes back to the calls of the run. -/
structure Known (firsts : List Attempt) (state : State) : Prop where
  upcoming : ∀ attempt ∈ state.upcoming, attempt ∈ firsts
  submissions : ∀ attempt ∈ state.record.submissions,
    ∃ first ∈ firsts, attempt = first ∨ ∃ instant, attempt = first.again instant
  live : ∀ endpoint, ∀ attempt ∈ (state.lane endpoint).live, attempt ∈ state.record.submissions
  outcomes : ∀ outcome ∈ state.record.outcomes, outcome.attempt ∈ state.record.submissions

theorem Known.happens {firsts : List Attempt} {state next : State} {instant : Nanoseconds}
    (known : Known firsts state)
    (h : Happens settings endpoints transport state instant next) : Known firsts next := by
  obtain ⟨endpoint, upcoming, lane, submissions, outcomes, change, rfl⟩ := h.change
  constructor
  case upcoming =>
    exact fun attempt member => known.upcoming attempt (change.upcoming.subset member)
  case submissions =>
    intro attempt member
    rcases List.mem_append.mp member with before | now
    · exact known.submissions attempt before
    · rcases change.origin attempt now with ⟨called, -, -⟩ | ⟨first, live, isFirst, rfl⟩
      · exact ⟨attempt, known.upcoming attempt called, .inl rfl⟩
      · -- only a first attempt is made again, so the new one goes back to the same call
        obtain ⟨origin, inFirsts, rfl | ⟨before, rfl⟩⟩ :=
          known.submissions first (known.live endpoint first live)
        · exact ⟨first, inFirsts, .inr ⟨instant, rfl⟩⟩
        · simp [Attempt.again] at isFirst
  case live =>
    intro other attempt live
    rw [live_advance] at live
    split at live
    next same =>
      subst same
      rcases change.live attempt live with before | now
      · exact List.mem_append_left _ (known.live other attempt before)
      · exact List.mem_append_right _ now
    · exact List.mem_append_left _ (known.live other attempt live)
  case outcomes =>
    intro outcome member
    rcases List.mem_append.mp member with before | now
    · exact List.mem_append_left _ (known.outcomes outcome before)
    · exact List.mem_append_left _ (known.live endpoint _ (change.ended outcome now))

theorem Reachable.known {now : Nanoseconds} {state : State}
    (h : Reachable settings endpoints transport calls now state) :
    Known (firstAttempts endpoints 0 calls) state := by
  induction h with
  | start =>
    constructor
    case upcoming =>
      exact fun attempt member => (start_upcoming_perm endpoints calls).mem_iff.mp member
    all_goals simp [State.start, Lane.live]
  | happening _ happens ih => exact ih.happens happens

theorem isRetry_of_mem_firstAttempts {first : Attempt}
    (member : first ∈ firstAttempts endpoints 0 calls) : first.isRetry = false := by
  obtain ⟨index, call, route, -, -, rfl⟩ := mem_firstAttempts.mp member
  rfl

/-- No attempt is submitted twice. -/
theorem Reachable.nodup_submissions {now : Nanoseconds} {state : State}
    (h : Reachable settings endpoints transport calls now state) :
    state.record.submissions.Nodup := by
  -- what a caller has submitted is counted on the course of its call
  rw [List.nodup_iff_count_le_one]
  intro attempt
  by_cases submitted : attempt ∈ state.record.submissions
  · obtain ⟨first, member, origin⟩ := h.known.submissions attempt submitted
    have caller := Attempt.caller_of_origin origin
    have nodup := (h.follows member).course.nodup (isRetry_of_mem_firstAttempts member)
    have count := List.nodup_iff_count_le_one.mp nodup attempt
    rwa [ofCaller, List.count_filter (by simpa using caller)] at count
  · rw [List.count_eq_zero_of_not_mem submitted]
    exact Nat.zero_le 1

end State

end ProxyControl.Dispatch
