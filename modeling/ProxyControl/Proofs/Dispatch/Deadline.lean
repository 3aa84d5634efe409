import ProxyControl.Proofs.Dispatch.AtMostTwice
import ProxyControl.Proofs.Dispatch.InTime
import ProxyControl.Proofs.Dispatch.Sending

/-!
# Deadlines

Every attempt has a result by its deadline, whether its caller still waits for a place in the
queue, or it is in the queue, or under way. So a call ends in time, counted from its start or from
the failure of its first attempt. It times out just if the transport was not done with its last
attempt before the deadline.
-/
namespace ProxyControl.Dispatch

/-- Whether a transport gives nothing but responses and failures of its own. -/
def Transport.AnswersOrFails (transport : Transport) : Prop :=
  ∀ history handover delay result, transport history handover = .after delay result →
    (∃ response, result = .ok response) ∨
      ∃ endpoint source command, result = .error (.transport endpoint source command)

/-! ### Stages of an attempt -/

/-- Where an attempt can be while it has no result. -/
inductive Stage
  | inFlight
  | queued
  | blocked
  deriving DecidableEq, Repr

/-- Whether an attempt is at a stage on a lane. Those behind the queue are blocked until there is
room for them. -/
def Lane.HasAt (settings : Settings) (lane : Lane) (attempt : Attempt) : Stage → Prop
  | .inFlight => lane.flight.map Flight.attempt = some attempt
  | .queued => some attempt ∈ lane.line.take settings.capacity
  | .blocked => some attempt ∈ lane.line.drop settings.capacity

theorem Lane.mem_live_iff {settings : Settings} {lane : Lane} {attempt : Attempt} :
    attempt ∈ lane.live ↔ ∃ stage, lane.HasAt settings attempt stage := by
  have inLine : attempt ∈ lane.waiting ↔ some attempt ∈ lane.line.take settings.capacity ∨
      some attempt ∈ lane.line.drop settings.capacity := by
    rw [← List.mem_append, List.take_append_drop, waiting, List.mem_filterMap]
    simp
  rw [live_eq, List.mem_append, Option.mem_toList, inLine]
  constructor
  · rintro (flying | queued | blocked)
    · exact ⟨.inFlight, flying⟩
    · exact ⟨.queued, queued⟩
    · exact ⟨.blocked, blocked⟩
  · rintro ⟨stage, there⟩
    cases stage with
    | inFlight => exact .inl there
    | queued => exact .inr (.inl there)
    | blocked => exact .inr (.inr there)

/-! ### Two timers -/

namespace Trip

/-- The instant at which a lane gives a round trip up by itself. Its timer starts with the round
trip, and its caller's with the submission. -/
def limit (settings : Settings) (trip : Trip) : Nanoseconds :=
  trip.handover.instant + settings.timeout

/-- What a lane hands back to the caller, and when: what the transport produces within the lane's
own limit, or else a timeout. -/
def handedBack (settings : Settings) (trip : Trip) : Nanoseconds × Result Text :=
  match (trip.reply.landing? trip.handover.instant).filter (·.1 < trip.limit settings) with
  | some landing => landing
  | none => (trip.limit settings, .error (trip.attempt.timedOut settings))

/-- How a round trip ends where both timers run: with what the lane hands back before the caller
gives up. -/
def outcomeOfBoth (settings : Settings) (trip : Trip) : Outcome :=
  if (trip.handedBack settings).1 < trip.attempt.deadline settings then
    ⟨trip.attempt, (trip.handedBack settings).1, (trip.handedBack settings).2⟩
  else trip.attempt.gaveUp settings

/-- The lane's own timer starts later, so it never decides. -/
theorem outcome_eq_outcomeOfBoth {settings : Settings} {trip : Trip}
    (submitted : trip.attempt.submitted ≤ trip.handover.instant) :
    trip.outcome settings = trip.outcomeOfBoth settings := by
  have later : trip.attempt.deadline settings ≤ trip.limit settings :=
    Nat.add_le_add_right submitted settings.timeout
  cases completed : trip.completion? settings with
  | some landing =>
    obtain ⟨instant, result⟩ := landing
    obtain ⟨lands, inTime⟩ := completion?_eq_some_iff.mp completed
    have back : trip.handedBack settings = (instant, result) := by
      have within : instant < trip.limit settings := Nat.lt_of_lt_of_le inTime later
      rw [handedBack, lands, Option.filter_some, if_pos (decide_eq_true within)]
    rw [outcome, completed, outcomeOfBoth, back, if_pos inTime]
  | none =>
    rw [outcome, completed, outcomeOfBoth, if_neg]
    -- whatever the lane hands back now comes too late
    refine Nat.not_lt.mpr ?_
    rw [handedBack]
    split
    next landing within =>
      have lands := (Option.filter_eq_some_iff.mp within).1
      simpa using Option.filter_eq_none_iff.mp completed landing lands
    next => exact later

theorem outcome_le_deadline (settings : Settings) (trip : Trip) :
    (trip.outcome settings).instant ≤ trip.attempt.deadline settings := by
  rw [outcome]
  split
  next instant result completed => exact (completion?_eq_some_iff.mp completed).2.le
  next => exact Nat.le_refl _

end Trip

/-! ### Attempts and their results -/

theorem Reply.after_of_landing? {reply : Reply} {start instant : Nanoseconds}
    {result : Result Text} (lands : reply.landing? start = some (instant, result)) :
    ∃ delay, reply = .after delay result := by
  cases reply with
  | never => simp [landing?] at lands
  | after delay other =>
    simp only [landing?, Option.some.injEq, Prod.mk.injEq] at lands
    exact ⟨delay, by rw [lands.2]⟩

/-- Whether the transport was handed an attempt and was done with it before the deadline. -/
def Record.HasResult (transport : Transport) (settings : Settings) (record : Record)
    (attempt : Attempt) : Prop :=
  ∃ trip ∈ record.trips transport, trip.attempt = attempt ∧
    ∃ landing ∈ trip.reply.landing? trip.handover.instant, landing.1 < attempt.deadline settings

/-- How a call ends: what came of its attempts, when the last of them ended, and how. -/
inductive Call.Ends (settings : Settings) (call : Call) :
    List Outcome → Nanoseconds → Result Text → Prop
  | once {outcome : Outcome} (started : outcome.attempt.submitted = call.start)
      (inTime : outcome.instant ≤ call.start + settings.timeout) :
      Ends settings call [outcome] outcome.instant outcome.result
  | again {failed last : Outcome} {failure : Failure}
      (started : failed.attempt.submitted = call.start)
      (inTime : failed.instant ≤ call.start + settings.timeout)
      (fails : failed.result = .error failure) (retryable : failure.isRetryable = true)
      (restarted : last.attempt.submitted = failed.instant)
      (lastInTime : last.instant ≤ failed.instant + settings.timeout) :
      Ends settings call [failed, last] last.instant last.result

namespace State

variable {settings : Settings} {endpoints : List Endpoint} {transport : Transport}
  {calls : List Call}

theorem submitted_le_of_trip {trip : Trip}
    (member : trip ∈ (finalRecord settings endpoints transport calls).trips transport) :
    trip.attempt.submitted ≤ trip.handover.instant ∧
      trip.handover.instant ≤ (trip.outcome settings).instant := by
  obtain ⟨now, serial⟩ := serial_finish settings endpoints transport calls trip.attempt.endpoint
  exact serial.lasts trip (List.mem_append_left _ (Record.mem_tripsTo.mpr ⟨member, rfl⟩))

/-- Every attempt has one result, between its submission and its deadline. -/
theorem exists_outcome_of_submitted {attempt : Attempt}
    (submitted : attempt ∈ (finalRecord settings endpoints transport calls).submissions) :
    ∃ instant result,
      (finalRecord settings endpoints transport calls).outcomes.filter
        (fun outcome => outcome.attempt = attempt) = [⟨attempt, instant, result⟩] ∧
      attempt.submitted ≤ instant ∧ instant ≤ attempt.deadline settings := by
  by_cases handed : ∃ trip ∈ (finalRecord settings endpoints transport calls).trips transport,
      trip.attempt = attempt
  · obtain ⟨trip, member, rfl⟩ := handed
    have only := outcomes_of_trip settings endpoints transport calls member
    obtain ⟨before, after⟩ := submitted_le_of_trip member
    refine ⟨(trip.outcome settings).instant, (trip.outcome settings).result, ?_,
      before.trans after, trip.outcome_le_deadline settings⟩
    rw [only]
    exact congrArg (fun attempt => [(⟨attempt, _, _⟩ : Outcome)]) (trip.outcome_attempt settings)
  · -- an attempt that is never handed over ends in line, just at its deadline
    have never : ∀ trip ∈ (finalRecord settings endpoints transport calls).trips transport,
        trip.attempt ≠ attempt := fun trip member same => handed ⟨trip, member, same⟩
    exact ⟨_, _, outcomes_of_gaveUp settings endpoints transport calls submitted never,
      Nat.le_add_right _ _, Nat.le_refl _⟩

theorem outcome_le_deadline {outcome : Outcome}
    (recorded : outcome ∈ (finalRecord settings endpoints transport calls).outcomes) :
    outcome.instant ≤ outcome.attempt.deadline settings := by
  rcases outcome_cases settings endpoints transport calls recorded with ⟨trip, -, rfl⟩ | gaveUp
  · rw [Trip.outcome_attempt]
    exact trip.outcome_le_deadline settings
  · rw [gaveUp]
    exact Nat.le_refl _

/-- An attempt that has been submitted has ended, or is somewhere on its lane. -/
theorem Reachable.ended_or_live {now : Nanoseconds} {state : State}
    (reached : Reachable settings endpoints transport calls now state) {attempt : Attempt}
    (submitted : attempt ∈ state.record.submissions) :
    (∃ outcome ∈ state.record.outcomes, outcome.attempt = attempt) ∨
      attempt ∈ (state.lane attempt.endpoint).live := by
  obtain ⟨first, member, origin⟩ := reached.known.submissions attempt submitted
  have place : attempt.endpoint = first.endpoint := by
    rcases origin with rfl | ⟨instant, rfl⟩ <;> rfl
  -- what has come of a caller's attempts and what is still there of them make up all of them
  have all := (reached.follows member).course.outcomes_append_live
  have mine : attempt ∈ ofCaller first.caller state.record.submissions :=
    mem_ofCaller.mpr ⟨submitted, Attempt.caller_of_origin origin⟩
  rw [← all, List.mem_append] at mine
  rcases mine with ended | live
  · obtain ⟨outcome, recorded, same⟩ := List.mem_map.mp ended
    exact .inl ⟨outcome, (mem_outcomesOf.mp recorded).1, same⟩
  · rw [place]
    exact .inr (mem_ofCaller.mp live).1

/-- What the transport is done with in time is the attempt's outcome. -/
theorem outcome_of_hasResult {outcome : Outcome}
    (recorded : outcome ∈ (finalRecord settings endpoints transport calls).outcomes)
    (done : (finalRecord settings endpoints transport calls).HasResult transport settings
      outcome.attempt) :
    ∃ history handover delay, transport history handover = .after delay outcome.result := by
  obtain ⟨trip, member, same, ⟨instant, result⟩, lands, inTime⟩ := done
  have only := outcomes_of_trip settings endpoints transport calls member
  rw [Trip.outcome_of_landing lands (same ▸ inTime)] at only
  have mine : outcome ∈ (finalRecord settings endpoints transport calls).outcomes.filter
      (fun outcome => outcome.attempt = trip.attempt) :=
    List.mem_filter.mpr ⟨recorded, decide_eq_true same.symm⟩
  rw [only, List.mem_singleton] at mine
  obtain ⟨history, replied⟩ := reply_of_mem_tripsFrom member
  rw [replied] at lands
  obtain ⟨delay, after⟩ := Reply.after_of_landing? lands
  rw [mine]
  exact ⟨history, trip.handover, delay, after⟩

/-- An attempt that the transport was not done with in time has been given up. -/
theorem outcome_of_not_hasResult {outcome : Outcome}
    (recorded : outcome ∈ (finalRecord settings endpoints transport calls).outcomes)
    (late : ¬ (finalRecord settings endpoints transport calls).HasResult transport settings
      outcome.attempt) :
    outcome = outcome.attempt.gaveUp settings := by
  rcases outcome_cases settings endpoints transport calls recorded with
    ⟨trip, member, same⟩ | gaveUp
  · have attempt : outcome.attempt = trip.attempt := by rw [same, Trip.outcome_attempt]
    rw [attempt, same]
    refine Trip.outcome_of_late fun landing lands => Nat.not_lt.mp fun inTime => late ?_
    exact ⟨trip, member, attempt.symm, landing, lands, attempt ▸ inTime⟩
  · exact gaveUp

/-- A transport's own failures are no timeouts, so an attempt times out just if the transport was
not done with it in time. -/
theorem result_eq_timeout_iff (answers : transport.AnswersOrFails) {outcome : Outcome}
    (recorded : outcome ∈ (finalRecord settings endpoints transport calls).outcomes)
    {limit : Nanoseconds} {text : Text} :
    outcome.result = .error (.timeout limit text) ↔
      limit = settings.timeout ∧ text = outcome.attempt.command.text ∧
        ¬ (finalRecord settings endpoints transport calls).HasResult transport settings
          outcome.attempt := by
  constructor
  · intro timeout
    have late : ¬ (finalRecord settings endpoints transport calls).HasResult transport settings
        outcome.attempt := by
      intro done
      -- a result in time is one of the transport's own, and none of those is a timeout
      obtain ⟨history, handover, delay, after⟩ := outcome_of_hasResult recorded done
      rcases answers history handover delay _ after with
        ⟨response, result⟩ | ⟨endpoint, source, command, result⟩ <;>
        rw [timeout] at result <;> cases result
    rw [outcome_of_not_hasResult recorded late] at timeout
    cases timeout
    exact ⟨rfl, rfl, late⟩
  · rintro ⟨rfl, rfl, late⟩
    rw [outcome_of_not_hasResult recorded late]
    rfl

/-- The last of a call's outcomes is that of its last attempt, and comes in time. -/
theorem exists_ends {first : Attempt} (member : first ∈ firstAttempts endpoints 0 calls)
    {call : Call} (start : first.submitted = call.start) :
    ∃ last ∈ (finalRecord settings endpoints transport calls).outcomes,
      (ofCaller first.caller
        (finalRecord settings endpoints transport calls).submissions).getLast? =
          some last.attempt ∧
      (outcomesOf first.caller (finalRecord settings endpoints transport calls).outcomes).getLast? =
        some last ∧
      call.Ends settings
        (outcomesOf first.caller (finalRecord settings endpoints transport calls).outcomes)
        last.instant last.result := by
  obtain ⟨result, instant, -, submissions, outcomes⟩ |
    ⟨result, instant, last, retried, again, submissions, outcomes⟩ :=
    call_cases settings endpoints transport calls member
  · have recorded : (⟨first, instant, result⟩ : Outcome) ∈
        (finalRecord settings endpoints transport calls).outcomes :=
      (mem_outcomesOf.mp (outcomes ▸ List.mem_singleton_self _)).1
    rw [submissions, outcomes]
    exact ⟨_, recorded, rfl, rfl, .once start (start ▸ outcome_le_deadline recorded)⟩
  · have failed : (⟨first, instant, result⟩ : Outcome) ∈
        (finalRecord settings endpoints transport calls).outcomes :=
      (mem_outcomesOf.mp (outcomes ▸ List.mem_cons_self)).1
    have recorded : last ∈ (finalRecord settings endpoints transport calls).outcomes :=
      (mem_outcomesOf.mp (outcomes ▸ List.mem_cons_of_mem _ (List.mem_singleton_self _))).1
    have inTime := outcome_le_deadline recorded
    rw [again] at inTime
    obtain ⟨-, endpoint, source, command, rfl⟩ := transport_of_isRetried retried
    rw [submissions, outcomes]
    refine ⟨last, recorded, congrArg some again.symm, rfl, ?_⟩
    exact .again start (start ▸ outcome_le_deadline failed) rfl rfl (congrArg _ again) inTime

end State

/-! ### Deadlines under load -/

/-- What a dispatcher does to keep deadlines. -/
structure KeepsDeadlines (dispatcher : Dispatcher) (transport : Transport) (calls : List Call) :
    Prop where
  /-- After any number of happenings, an attempt that has been submitted has ended, or waits for a
  place in the queue, or is in the queue, or is under way. -/
  staged : ∀ steps, ∀ attempt ∈ (dispatcher.stateAfter transport calls steps).record.submissions,
    (∃ outcome ∈ (dispatcher.stateAfter transport calls steps).record.outcomes,
      outcome.attempt = attempt) ∨
    ∃ stage, ((dispatcher.stateAfter transport calls steps).lane attempt.endpoint).HasAt
      dispatcher.settings attempt stage
  /-- Wherever it has been, every attempt ends once, and by its deadline. -/
  resolved : ∀ attempt ∈ (dispatcher.dispatch transport calls).record.submissions,
    ∃ instant result,
      (dispatcher.dispatch transport calls).record.outcomes.filter
        (fun outcome => outcome.attempt = attempt) = [⟨attempt, instant, result⟩] ∧
      attempt.submitted ≤ instant ∧ instant ≤ attempt.submitted + dispatcher.settings.timeout
  /-- Every round trip ends as the timers of its lane and of its caller have it. -/
  timers : ∀ trip ∈ (dispatcher.dispatch transport calls).record.trips transport,
    (dispatcher.dispatch transport calls).record.outcomes.filter
      (fun outcome => outcome.attempt = trip.attempt) = [trip.outcomeOfBoth dispatcher.settings]
  /-- Every call that has a route ends, a timeout after its start or after the failure of its first
  attempt at the latest. -/
  ended : ∀ (caller : Nat) (call : Call), calls[caller]? = some call →
    Route.of? dispatcher.endpoints call.command ≠ none →
    ∃ instant result,
      call.Ends dispatcher.settings
        (outcomesOf caller (dispatcher.dispatch transport calls).record.outcomes) instant result ∧
      (dispatcher.dispatch transport calls).results[caller]? = some result
  /-- A call times out just if the transport was not done with its last attempt in time. -/
  timedOut : ∀ (caller : Nat) (call : Call), calls[caller]? = some call → ∀ limit text,
    (dispatcher.dispatch transport calls).results[caller]? =
        some (.error (.timeout limit text)) ↔
      limit = dispatcher.settings.timeout ∧ text = call.command.text ∧
        ∃ last,
          (ofCaller caller (dispatcher.dispatch transport calls).record.submissions).getLast? =
            some last ∧
          ¬ (dispatcher.dispatch transport calls).record.HasResult transport dispatcher.settings
            last

/-- A call that has a route returns the result of its last attempt. -/
private theorem returns_last (dispatcher : Dispatcher) (transport : Transport)
    {calls : List Call} {caller : Nat} {call : Call} {route : Route}
    (called : calls[caller]? = some call)
    (routed : Route.of? dispatcher.endpoints call.command = some route) :
    ∃ last ∈ (dispatcher.dispatch transport calls).record.outcomes,
      last.attempt.command.text = call.command.text ∧
      (ofCaller caller (dispatcher.dispatch transport calls).record.submissions).getLast? =
        some last.attempt ∧
      call.Ends dispatcher.settings
        (outcomesOf caller (dispatcher.dispatch transport calls).record.outcomes)
        last.instant last.result ∧
      (dispatcher.dispatch transport calls).results[caller]? = some last.result := by
  have member : (⟨caller, false, route.endpoint, route.command, call.start⟩ : Attempt) ∈
      firstAttempts dispatcher.endpoints 0 calls :=
    State.mem_firstAttempts.mpr ⟨caller, call, route, called, routed, by rw [Nat.zero_add]⟩
  obtain ⟨last, recorded, submitted, outcome, ends⟩ :=
    @State.exists_ends dispatcher.settings dispatcher.endpoints transport calls _ member call rfl
  refine ⟨last, recorded, ?_, submitted, ends,
    dispatcher.result_of_getLast? transport calls member outcome⟩
  have mine := List.mem_of_getLast? submitted
  -- an attempt made again has the command of the first one
  rcases State.origin_of_mem _ _ _ _ member mine with same | ⟨instant, same⟩ <;> rw [same] <;>
    exact Route.text_of? routed

/-- A call that has no route does not time out. -/
private theorem result_ne_timeout_of_unrouted (dispatcher : Dispatcher) (transport : Transport)
    {calls : List Call} {caller : Nat} {call : Call} (called : calls[caller]? = some call)
    (unrouted : Route.of? dispatcher.endpoints call.command = none) (limit : Nanoseconds)
    (text : Text) :
    (dispatcher.dispatch transport calls).results[caller]? ≠ some (.error (.timeout limit text)) ∧
      ofCaller caller (dispatcher.dispatch transport calls).record.submissions = [] := by
  refine ⟨?_, State.submissions_of_unrouted called unrouted⟩
  rw [Dispatcher.dispatch, Dispatcher.getElem?_results, called, Option.map_some, unrouted]
  intro same
  cases same

/-- Whatever hangs in front of an attempt and however full the queue is, the attempt ends by its
deadline. -/
theorem keeps_deadlines (dispatcher : Dispatcher) (transport : Transport) (calls : List Call)
    (answers : transport.AnswersOrFails) : KeepsDeadlines dispatcher transport calls := by
  constructor
  case staged =>
    intro steps attempt submitted
    obtain ⟨now, reached⟩ := State.Reachable.start.run steps
    exact (reached.ended_or_live submitted).imp_right Lane.mem_live_iff.mp
  case resolved => exact fun attempt submitted => State.exists_outcome_of_submitted submitted
  case timers =>
    intro trip member
    rw [← Trip.outcome_eq_outcomeOfBoth (State.submitted_le_of_trip member).1]
    exact State.outcomes_of_trip _ _ transport calls member
  case ended =>
    intro caller call called routed
    obtain ⟨route, routed⟩ := Option.ne_none_iff_exists'.mp routed
    obtain ⟨last, -, -, -, ends, result⟩ := returns_last dispatcher transport called routed
    exact ⟨last.instant, last.result, ends, result⟩
  case timedOut =>
    intro caller call called limit text
    cases routed : Route.of? dispatcher.endpoints call.command with
    | none =>
      obtain ⟨otherwise, silent⟩ := result_ne_timeout_of_unrouted dispatcher transport called routed
        limit text
      simp [otherwise, silent]
    | some route =>
      obtain ⟨last, recorded, same, submitted, -, result⟩ :=
        returns_last dispatcher transport called routed
      simp only [result, submitted, ← same, Option.some.injEq, exists_eq_left']
      exact State.result_eq_timeout_iff answers recorded

/-- A transport that breaks off its first round trip after a while and is silent from then on. -/
def breaksOffOnce : Transport := fun history handover =>
  if history = [] then
    .after 2 (.error (handover.attempt.endpoint.failure handover.attempt.command.text "reset"))
  else .never

theorem answersOrFails_breaksOffOnce : breaksOffOnce.AnswersOrFails := by
  intro history handover delay result replied
  unfold breaksOffOnce at replied
  split at replied
  · cases replied
    exact .inr ⟨_, _, _, rfl⟩
  · cases replied

/-- Three calls to an endpoint that falls silent: the third one waits for a place in the queue, the
first one is made again, and all of them time out. -/
theorem keeps_deadlines_breaksOffOnce :
    let calls : List Call := [⟨0, .ofText "show info"⟩, ⟨1, .ofText "show stat"⟩,
      ⟨1, .ofText "show map"⟩]
    breaksOffOnce.AnswersOrFails ∧
    ((hasty.stateAfter breaksOffOnce calls 3).lane .standard).HasAt hasty.settings
      ⟨2, false, .standard, .ofText "show map", 1⟩ .blocked ∧
    (hasty.dispatch breaksOffOnce calls).record.outcomes.map
      (fun outcome => (outcome.attempt.caller, outcome.instant)) =
        [(0, 2), (1, 11), (2, 11), (0, 12)] ∧
    (hasty.dispatch breaksOffOnce calls).results =
      [.error (.timeout 10 "show info"), .error (.timeout 10 "show stat"),
        .error (.timeout 10 "show map")] ∧
    KeepsDeadlines hasty breaksOffOnce calls := by
  intro calls
  refine ⟨answersOrFails_breaksOffOnce, ?_, by decide +kernel, by decide +kernel,
    keeps_deadlines hasty breaksOffOnce calls answersOrFails_breaksOffOnce⟩
  unfold Lane.HasAt
  decide +kernel

end ProxyControl.Dispatch
