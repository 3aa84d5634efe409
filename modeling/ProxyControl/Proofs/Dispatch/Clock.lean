import ProxyControl.Proofs.Dispatch.Route
import ProxyControl.Proofs.Dispatch.Run

/-!
# Places and times

What every happening has in common: it changes one lane within narrow bounds, at an instant
before which nothing is due. So attempts stay on the lane of their endpoint, every attempt goes
back to a call, and time never goes back.
-/
namespace ProxyControl.Dispatch.State

variable {settings : Settings} {endpoints : List Endpoint} {transport : Transport}
  {calls : List Call}

/-! ### What a happening changes -/

/-- The bounds within which a happening changes the lane it happens on. -/
structure Change (settings : Settings) (endpoints : List Endpoint) (state : State)
    (endpoint : Endpoint) (instant : Nanoseconds) (upcoming : List Attempt) (lane : Lane)
    (submissions : List Attempt) (outcomes : List Outcome) : Prop where
  quiet : state.Quiet settings endpoints instant
  upcoming : upcoming.Sublist state.upcoming
  flight : ∀ flight, lane.flight = some flight → (state.lane endpoint).flight = some flight
  waiting : lane.waiting.Sublist ((state.lane endpoint).waiting ++ submissions)
  origin : ∀ attempt ∈ submissions,
    (attempt ∈ state.upcoming ∧ attempt.submitted = instant ∧ attempt.endpoint = endpoint) ∨
    ∃ first ∈ (state.lane endpoint).live, first.isRetry = false ∧ attempt = first.again instant
  ended : ∀ outcome ∈ outcomes, outcome.attempt ∈ (state.lane endpoint).live

theorem Happens.change {state next : State} {instant : Nanoseconds}
    (h : Happens settings endpoints transport state instant next) :
    ∃ endpoint upcoming lane submissions outcomes,
      Change settings endpoints state endpoint instant upcoming lane submissions outcomes ∧
      next = advance transport { state with upcoming } endpoint instant lane submissions
        outcomes := by
  cases h with
  | @submission attempt rest upcoming before =>
    refine ⟨attempt.endpoint, rest, _, [attempt], [], ?_, rfl⟩
    constructor
    case quiet =>
      refine ⟨fun endpoint member turn due => (before endpoint member turn due).le, ?_⟩
      simp [upcoming]
    case upcoming =>
      rw [upcoming]
      exact List.sublist_cons_self attempt rest
    case flight => exact fun flight flying => flying
    case waiting => simp
    case origin => simp [upcoming]
    case ended => simp
  | @landing endpoint flight _ result member flying lands inTime quiet =>
    refine ⟨endpoint, state.upcoming, _, _, _, ?_, land_eq flying instant result⟩
    constructor
    case quiet => exact quiet
    case upcoming => exact .refl _
    case flight => simp
    case waiting => simp
    case origin =>
      -- the only attempt that a landing submits is the second one of the call that landed
      intro attempt retried
      obtain ⟨isRetried, same⟩ := mem_retriesAfter.mp retried
      simp only [State.isRetried, Bool.and_eq_true, Bool.not_eq_true'] at isRetried
      exact .inr ⟨flight.attempt, Lane.mem_live_of_flight flying, isRetried.1.2, same⟩
    case ended => simpa using Lane.mem_live_of_flight flying
  | @expiry endpoint _ member due flying quiet =>
    refine ⟨endpoint, state.upcoming, _, [], _, ?_, rfl⟩
    constructor
    case quiet => exact quiet
    case upcoming => exact .refl _
    case flight =>
      intro flight kept
      exact (Option.filter_eq_some_iff.mp kept).1
    case waiting =>
      rw [Lane.waiting_expire, List.append_nil]
      exact List.filter_sublist
    case origin => simp
    case ended =>
      simp only [List.mem_map, Lane.expired, List.mem_filter]
      rintro outcome ⟨attempt, ⟨live, -⟩, rfl⟩
      exact live

theorem Change.live {state : State} {endpoint : Endpoint} {instant : Nanoseconds}
    {upcoming : List Attempt} {lane : Lane} {submissions : List Attempt}
    {outcomes : List Outcome}
    (change : Change settings endpoints state endpoint instant upcoming lane submissions
      outcomes) :
    ∀ attempt ∈ lane.live, attempt ∈ (state.lane endpoint).live ∨ attempt ∈ submissions := by
  intro attempt live
  -- what is in flight was so before: the lane has not handed over again yet
  rw [Lane.live_eq, List.mem_append] at live
  rcases live with inFlight | inLine
  · simp only [Option.mem_toList, Option.map_eq_some_iff] at inFlight
    obtain ⟨flight, flying, rfl⟩ := inFlight
    exact .inl (Lane.mem_live_of_flight (change.flight flight flying))
  · rcases List.mem_append.mp (change.waiting.subset inLine) with before | submitted
    · exact .inl (Lane.mem_live_of_waiting before)
    · exact .inr submitted

/-! ### Attempts and their lanes -/

/-- Attempts stay on the lane of their endpoint, and no other lanes are used. -/
structure Placed (endpoints : List Endpoint) (state : State) : Prop where
  upcoming : ∀ attempt ∈ state.upcoming, attempt.endpoint ∈ endpoints
  live : ∀ endpoint, ∀ attempt ∈ (state.lane endpoint).live,
    attempt.endpoint = endpoint ∧ endpoint ∈ endpoints

theorem Placed.of_waiting {state : State} (placed : Placed endpoints state)
    {endpoint : Endpoint} {attempt : Attempt} (inLine : attempt ∈ (state.lane endpoint).waiting) :
    attempt.endpoint = endpoint :=
  (placed.live endpoint attempt (Lane.mem_live_of_waiting inLine)).1

/-- Whether all that a happening leaves in line and puts on record is for one endpoint. -/
structure AllFor (endpoint : Endpoint) (lane : Lane) (submissions : List Attempt)
    (outcomes : List Outcome) : Prop where
  waiting : ∀ attempt ∈ lane.waiting, attempt.endpoint = endpoint
  submitted : ∀ attempt ∈ submissions, attempt.endpoint = endpoint
  recorded : ∀ outcome ∈ outcomes, outcome.attempt.endpoint = endpoint

theorem AllFor.handed {endpoint : Endpoint} {lane : Lane} {submissions : List Attempt}
    {outcomes : List Outcome} (own : AllFor endpoint lane submissions outcomes)
    (transport : Transport) (history : List Handover) (instant : Nanoseconds) :
    ∀ handover ∈ (lane.handOver transport history instant).2,
      handover.attempt.endpoint = endpoint := by
  -- whatever a lane hands over was in its line
  intro handover handed
  apply own.waiting
  rw [← lane.handed_append_waiting transport history instant]
  exact List.mem_append_left _ (List.mem_map_of_mem handed)

theorem Placed.submission {state : State} (placed : Placed endpoints state) (attempt : Attempt) :
    AllFor attempt.endpoint ((state.lane attempt.endpoint).submit attempt) [attempt] [] := by
  constructor
  case waiting =>
    simp only [Lane.waiting_submit, List.mem_append, List.mem_singleton]
    rintro other (inLine | rfl)
    · exact placed.of_waiting inLine
    · rfl
  case submitted => simp
  case recorded => simp

theorem Placed.landing {state : State} (placed : Placed endpoints state) {endpoint : Endpoint}
    {flight : Flight} (flying : (state.lane endpoint).flight = some flight) (settings : Settings)
    (instant : Nanoseconds) (result : Result Text) :
    AllFor endpoint
      ((retriesAfter settings flight.attempt instant result).foldl Lane.submit
        (state.lane endpoint).land)
      (retriesAfter settings flight.attempt instant result)
      [⟨flight.attempt, instant, result⟩] := by
  have place : flight.attempt.endpoint = endpoint :=
    (placed.live endpoint _ (Lane.mem_live_of_flight flying)).1
  have retries : ∀ retry ∈ retriesAfter settings flight.attempt instant result,
      retry.endpoint = endpoint := by
    intro retry retried
    rw [(mem_retriesAfter.mp retried).2]
    exact place
  constructor
  case waiting =>
    rw [Lane.waiting_foldl_submit, Lane.waiting_land]
    intro attempt inLine
    rcases List.mem_append.mp inLine with before | retried
    · exact placed.of_waiting before
    · exact retries attempt retried
  case submitted => exact retries
  case recorded => simpa using place

theorem Placed.expiry {state : State} (placed : Placed endpoints state) (endpoint : Endpoint)
    (settings : Settings) (instant : Nanoseconds) :
    AllFor endpoint ((state.lane endpoint).expire settings instant) []
      (((state.lane endpoint).expired settings instant).map fun attempt =>
        ⟨attempt, instant, .error (attempt.timedOut settings)⟩) := by
  constructor
  case waiting =>
    rw [Lane.waiting_expire]
    exact fun attempt inLine => placed.of_waiting (List.mem_filter.mp inLine).1
  case submitted => simp
  case recorded =>
    intro outcome recorded
    obtain ⟨attempt, expired, rfl⟩ := List.mem_map.mp recorded
    exact (placed.live endpoint attempt (Lane.mem_expired.mp expired).1).1

/-- The first attempts are those of the calls that have a route, numbered by their places. -/
theorem mem_firstAttempts {endpoints : List Endpoint} {caller : Nat} {calls : List Call}
    {attempt : Attempt} :
    attempt ∈ firstAttempts endpoints caller calls ↔
      ∃ index call route, calls[index]? = some call ∧
        Route.of? endpoints call.command = some route ∧
        attempt = ⟨caller + index, false, route.endpoint, route.command, call.start⟩ := by
  induction calls generalizing caller with
  | nil => simp [firstAttempts]
  | cons call rest ih =>
    -- behind the first call all places are one higher, and so are the callers' numbers
    have later : attempt ∈ firstAttempts endpoints (caller + 1) rest ↔
        ∃ index other route, (call :: rest)[index + 1]? = some other ∧
          Route.of? endpoints other.command = some route ∧
          attempt = ⟨caller + (index + 1), false, route.endpoint, route.command, other.start⟩ := by
      rw [ih]
      simp only [List.getElem?_cons_succ, Nat.add_assoc, Nat.add_comm 1]
    simp only [firstAttempts]
    cases found : Route.of? endpoints call.command with
    | none =>
      rw [later]
      constructor
      · rintro ⟨index, other, route, rest⟩
        exact ⟨index + 1, other, route, rest⟩
      · rintro ⟨index, other, route, there, routed, equal⟩
        cases index with
        | zero =>
          simp only [List.getElem?_cons_zero, Option.some.injEq] at there
          subst there
          simp [found] at routed
        | succ index => exact ⟨index, other, route, there, routed, equal⟩
    | some route =>
      rw [List.mem_cons, later]
      constructor
      · rintro (rfl | ⟨index, other, route, rest⟩)
        · exact ⟨0, call, route, rfl, found, rfl⟩
        · exact ⟨index + 1, other, route, rest⟩
      · rintro ⟨index, other, found', there, routed, equal⟩
        cases index with
        | zero =>
          simp only [List.getElem?_cons_zero, Option.some.injEq] at there
          subst there
          rw [found, Option.some.injEq] at routed
          subst routed
          exact .inl equal
        | succ index => exact .inr ⟨index, other, found', there, routed, equal⟩

/-- The first attempts of calls have numbers from the first call's on. -/
theorem le_caller_of_mem {endpoints : List Endpoint} {caller : Nat} {calls : List Call}
    {attempt : Attempt} (member : attempt ∈ firstAttempts endpoints caller calls) :
    caller ≤ attempt.caller := by
  obtain ⟨index, call, route, -, -, rfl⟩ := mem_firstAttempts.mp member
  exact Nat.le_add_right _ _

theorem nodup_callers (endpoints : List Endpoint) (caller : Nat) (calls : List Call) :
    ((firstAttempts endpoints caller calls).map Attempt.caller).Nodup := by
  induction calls generalizing caller with
  | nil => exact .nil
  | cons call rest ih =>
    rw [firstAttempts]
    split
    · exact ih (caller + 1)
    · rw [List.map_cons, List.nodup_cons]
      refine ⟨fun repeated => ?_, ih (caller + 1)⟩
      -- those behind the first one have higher numbers
      obtain ⟨later, member, same⟩ := List.mem_map.mp repeated
      have above := le_caller_of_mem member
      rw [same] at above
      exact absurd above (Nat.not_succ_le_self caller)

theorem Placed.happens {state next : State} {instant : Nanoseconds}
    (placed : Placed endpoints state)
    (h : Happens settings endpoints transport state instant next) : Placed endpoints next := by
  obtain ⟨endpoint, upcoming, lane, submissions, outcomes, change, rfl⟩ := h.change
  constructor
  case upcoming =>
    exact fun attempt member => placed.upcoming attempt (change.upcoming.subset member)
  case live =>
    intro other attempt live
    rw [live_advance] at live
    split at live
    next same =>
      subst same
      rcases change.live attempt live with before | submitted
      · exact placed.live other attempt before
      · -- a second attempt goes where the first one is
        rcases change.origin attempt submitted with ⟨called, -, rfl⟩ | ⟨first, before, -, rfl⟩
        · exact ⟨rfl, placed.upcoming attempt called⟩
        · exact placed.live other first before
    · exact placed.live other attempt live

theorem Reachable.placed {now : Nanoseconds} {state : State}
    (h : Reachable settings endpoints transport calls now state) : Placed endpoints state := by
  induction h with
  | start =>
    constructor
    case upcoming =>
      intro attempt member
      rw [(start_upcoming_perm endpoints calls).mem_iff, mem_firstAttempts] at member
      obtain ⟨index, call, route, -, routed, rfl⟩ := member
      exact (Route.of?_cases routed).1
    case live => simp [State.start, Lane.live]
  | happening _ happens ih => exact ih.happens happens

/-- At its end a run has left no attempt without a result. -/
theorem live_finish (settings : Settings) (endpoints : List Endpoint) (transport : Transport)
    (calls : List Call) (endpoint : Endpoint) :
    ((State.finish settings endpoints transport calls).lane endpoint).live = [] := by
  obtain ⟨now, reachable⟩ := reachable_finish settings endpoints transport calls
  apply List.eq_nil_iff_forall_not_mem.mpr
  -- a lane in use is empty because the run rests, and any other lane has never been used
  intro attempt live
  have used := (reachable.placed.live endpoint attempt live).2
  have ended := ((step_eq_none_iff _).mp (finish_rests settings endpoints transport calls)).2
  rw [ended endpoint used] at live
  simp at live

/-! ### Time -/

/-- Nothing recorded lies in the future, and nothing still to come in the past. -/
structure Timely (settings : Settings) (now : Nanoseconds) (state : State) : Prop where
  upcoming : ∀ attempt ∈ state.upcoming, now ≤ attempt.submitted
  sorted : state.upcoming.Pairwise fun first second => first.submitted ≤ second.submitted
  deadline : ∀ endpoint, ∀ attempt ∈ (state.lane endpoint).live, now ≤ attempt.deadline settings
  landing : ∀ endpoint flight, (state.lane endpoint).flight = some flight →
    ∀ landing ∈ flight.landing, now ≤ landing.1
  submitted : ∀ attempt ∈ state.record.submissions, attempt.submitted ≤ now
  inOrder : state.record.submissions.Pairwise fun first second =>
    first.submitted ≤ second.submitted

theorem Quiet.lane {state : State} {instant : Nanoseconds}
    (quiet : state.Quiet settings endpoints instant) (placed : Placed endpoints state)
    (endpoint : Endpoint) : (state.lane endpoint).Quiet settings instant := by
  by_cases used : endpoint ∈ endpoints
  · exact quiet.lanes endpoint used
  · intro turn due
    have idle : (state.lane endpoint).live = [] := by
      apply List.eq_nil_iff_forall_not_mem.mpr
      exact fun attempt live => used (placed.live endpoint attempt live).2
    rw [(Lane.next?_eq_none_iff settings _).mpr idle] at due
    simp at due

theorem Quiet.le_upcoming {state : State} {instant : Nanoseconds}
    (quiet : state.Quiet settings endpoints instant)
    (sorted : state.upcoming.Pairwise fun first second => first.submitted ≤ second.submitted) :
    ∀ attempt ∈ state.upcoming, instant ≤ attempt.submitted := by
  -- the next call is not due before the instant, and the others come after it
  intro attempt member
  have next := quiet.calls
  cases all : state.upcoming with
  | nil => simp [all] at member
  | cons head tail =>
    simp only [all, List.head?_cons, Option.mem_some_iff, forall_eq'] at next
    rw [all] at member sorted
    rcases List.mem_cons.mp member with rfl | behind
    · exact next
    · exact next.trans ((List.pairwise_cons.mp sorted).1 attempt behind)

theorem Timely.le {state next : State} {now instant : Nanoseconds}
    (timely : Timely settings now state)
    (h : Happens settings endpoints transport state instant next) : now ≤ instant := by
  cases h with
  | submission upcoming before => exact timely.upcoming _ (by simp [upcoming])
  | landing member flying lands inTime quiet =>
    exact timely.landing _ _ flying _ lands
  | expiry member due flying quiet =>
    obtain ⟨attempt, live, rfl⟩ := due
    exact timely.deadline _ attempt live

theorem Change.submitted {state : State} {endpoint : Endpoint} {instant : Nanoseconds}
    {upcoming : List Attempt} {lane : Lane} {submissions : List Attempt}
    {outcomes : List Outcome}
    (change : Change settings endpoints state endpoint instant upcoming lane submissions
      outcomes) :
    ∀ attempt ∈ submissions, attempt.submitted = instant := by
  intro attempt submitted
  rcases change.origin attempt submitted with ⟨-, rfl, -⟩ | ⟨first, -, -, rfl⟩ <;> rfl

theorem Timely.happens {state next : State} {now instant : Nanoseconds}
    (timely : Timely settings now state) (placed : Placed endpoints state)
    (h : Happens settings endpoints transport state instant next) :
    Timely settings instant next := by
  have later := timely.le h
  obtain ⟨endpoint, upcoming, lane, submissions, outcomes, change, rfl⟩ := h.change
  constructor
  case upcoming =>
    intro attempt member
    exact change.quiet.le_upcoming timely.sorted attempt (change.upcoming.subset member)
  case sorted => exact timely.sorted.sublist change.upcoming
  case deadline =>
    intro other attempt live
    rw [live_advance] at live
    split at live
    next same =>
      subst same
      rcases change.live attempt live with before | submitted
      · exact (change.quiet.lane placed other).le_deadline before
      · rw [Attempt.deadline, change.submitted attempt submitted]
        exact Nat.le_add_right _ _
    · exact (change.quiet.lane placed other).le_deadline live
  case landing =>
    intro other flight flying landing lands
    by_cases same : other = endpoint
    · subst same
      rw [advance_lane] at flying
      obtain ⟨old, aloft, same⟩ | ⟨idle, -, same⟩ | ⟨attempt, line, -, -, same⟩ :=
        Lane.handOver_cases transport state.record.handovers instant lane <;>
        rw [same] at flying
      · exact (change.quiet.lane placed other).le_landing (change.flight flight flying) lands
      · simp [idle] at flying
      · simp only [Option.some.injEq] at flying
        subst flying
        exact Reply.le_landing lands
    · rw [advance_lane_of_ne _ _ _ _ _ _ _ same] at flying
      exact (change.quiet.lane placed other).le_landing flying lands
  case submitted =>
    intro attempt member
    rcases List.mem_append.mp member with before | now
    · exact (timely.submitted attempt before).trans later
    · exact (change.submitted attempt now).le
  case inOrder =>
    -- all that is submitted now is submitted at one instant, and all the rest was before
    refine List.pairwise_append.mpr ⟨timely.inOrder, ?_, ?_⟩
    · refine List.pairwise_of_forall_mem_list fun first inFirst second inSecond => ?_
      rw [change.submitted first inFirst, change.submitted second inSecond]
    · intro first before second now
      rw [change.submitted second now]
      exact (timely.submitted first before).trans later

private theorem sorted_insertBySubmission (attempt : Attempt) {attempts : List Attempt}
    (sorted : attempts.Pairwise fun first second => first.submitted ≤ second.submitted) :
    (insertBySubmission attempt attempts).Pairwise
      fun first second => first.submitted ≤ second.submitted := by
  induction attempts with
  | nil => simp [insertBySubmission]
  | cons other rest ih =>
    obtain ⟨least, restSorted⟩ := List.pairwise_cons.mp sorted
    simp only [insertBySubmission]
    split
    next le =>
      refine List.pairwise_cons.mpr ⟨?_, sorted⟩
      simp only [List.mem_cons, forall_eq_or_imp]
      exact ⟨le, fun later member => le.trans (least later member)⟩
    next gt =>
      refine List.pairwise_cons.mpr ⟨fun later member => ?_, ih restSorted⟩
      rw [(insertBySubmission_perm attempt rest).mem_iff, List.mem_cons] at member
      rcases member with rfl | inRest
      · exact Nat.le_of_not_le gt
      · exact least later inRest

/-- The calls are sorted by their instants, whatever order they are given in. -/
theorem sorted_start (endpoints : List Endpoint) (calls : List Call) :
    (State.start endpoints calls).upcoming.Pairwise
      fun first second => first.submitted ≤ second.submitted := by
  simp only [State.start]
  induction firstAttempts endpoints 0 calls with
  | nil => exact .nil
  | cons attempt rest ih => exact sorted_insertBySubmission attempt ih

theorem Reachable.timely {now : Nanoseconds} {state : State}
    (h : Reachable settings endpoints transport calls now state) :
    Timely settings now state := by
  induction h with
  | start =>
    constructor
    case sorted => exact sorted_start endpoints calls
    all_goals simp [State.start, Lane.live]
  | happening reached happens ih => exact ih.happens reached.placed happens

end ProxyControl.Dispatch.State
