import ProxyControl.Proofs.Dispatch.Report

/-!
# One round trip at a time

What any number of calls can rely on, whenever they are made and whatever the transport does
with them: an endpoint is never handed a command while it is busy with another one, commands
reach it in the order in which they were submitted, and every caller gets what the transport
made of its own attempt, or a timeout.
-/
namespace ProxyControl.Dispatch

/-- Whether an attempt is the first one of a call. -/
def IsFirst (endpoints : List Endpoint) (calls : List Call) (attempt : Attempt) : Prop :=
  ∃ call route, calls[attempt.caller]? = some call ∧
    Route.of? endpoints call.command = some route ∧
    attempt = ⟨attempt.caller, false, route.endpoint, route.command, call.start⟩

/-- Whether an attempt is made because a round trip, the first one of its call, has failed; it is
made at the instant of the failure. -/
def Trip.IsFollowedBy (settings : Settings) (trip : Trip) (attempt : Attempt) : Prop :=
  settings.retry = true ∧ trip.attempt.isRetry = false ∧ ∃ instant failure,
    trip.completion? settings = some (instant, .error failure) ∧ failure.isRetryable = true ∧
    attempt = trip.attempt.again instant

/-- What a report of some calls says about their round trips. -/
structure OneAtATime (endpoints : List Endpoint) (settings : Settings) (transport : Transport)
    (calls : List Call) (report : Dispatcher.Report) : Prop where
  submitted : ∀ attempt, attempt ∈ report.record.submissions ↔
    IsFirst endpoints calls attempt ∨
    ∃ trip ∈ report.record.trips transport, trip.IsFollowedBy settings attempt
  once : report.record.submissions.Nodup
  sorted : report.record.submissions.Pairwise fun first second =>
    first.submitted ≤ second.submitted
  lasts : ∀ trip ∈ report.record.trips transport,
    trip.attempt.submitted ≤ trip.handover.instant ∧
    trip.handover.instant ≤ (trip.outcome settings).instant
  /-- A round trip starts when the one before it has ended. -/
  apart : ∀ endpoint, (report.record.tripsTo transport endpoint).Pairwise fun first second =>
    (first.outcome settings).instant ≤ second.handover.instant
  /-- Attempts are handed over in the order in which they were submitted. -/
  inOrder : ∀ endpoint, ((report.record.tripsTo transport endpoint).map Trip.attempt).Sublist
    (report.record.submittedTo endpoint)
  /-- Only those are passed over whose callers have given up. -/
  passedOver : ∀ attempt ∈ report.record.submissions,
    (∀ trip ∈ report.record.trips transport, trip.attempt ≠ attempt) →
    report.record.outcomes.filter (fun outcome => outcome.attempt = attempt) =
      [attempt.gaveUp settings]
  /-- An attempt gets the outcome of its own round trip, once. -/
  delivered : ∀ trip ∈ report.record.trips transport,
    report.record.outcomes.filter (fun outcome => outcome.attempt = trip.attempt) =
      [trip.outcome settings]
  /-- What the transport produces for an abandoned round trip reaches nobody. -/
  nothingElse : ∀ outcome ∈ report.record.outcomes,
    (∃ trip ∈ report.record.trips transport, trip.attempt = outcome.attempt ∧
      trip.completion? settings = some (outcome.instant, outcome.result)) ∨
    outcome = outcome.attempt.gaveUp settings
  /-- A caller gets the outcome of an attempt unless another attempt follows it. -/
  returned : ∀ trip ∈ report.record.trips transport,
    (∀ attempt, ¬ trip.IsFollowedBy settings attempt) →
    report.results[trip.attempt.caller]? = some (trip.outcome settings).result

theorem isFirst_iff {endpoints : List Endpoint} {calls : List Call} {attempt : Attempt} :
    IsFirst endpoints calls attempt ↔ attempt ∈ firstAttempts endpoints 0 calls := by
  rw [State.mem_firstAttempts]
  constructor
  · rintro ⟨call, route, called, routed, same⟩
    exact ⟨attempt.caller, call, route, called, routed, by rwa [Nat.zero_add]⟩
  · rintro ⟨index, call, route, called, routed, rfl⟩
    rw [← Nat.zero_add index] at called
    exact ⟨call, route, called, routed, rfl⟩

theorem Trip.isFollowedBy_iff {settings : Settings} {trip : Trip} {attempt : Attempt} :
    trip.IsFollowedBy settings attempt ↔
      State.isRetried settings trip.attempt (trip.outcome settings).result = true ∧
      attempt = trip.attempt.again (trip.outcome settings).instant := by
  constructor
  · rintro ⟨retry, isFirst, instant, failure, completed, retryable, rfl⟩
    rw [outcome, completed]
    simp [State.isRetried, retry, isFirst, retryable]
  · -- whatever asks for another attempt has come from the transport, and in time
    rintro ⟨retried, rfl⟩
    have completed := State.completion?_of_isRetried settings retried
    simp only [State.isRetried, Bool.and_eq_true, Bool.not_eq_true'] at retried
    obtain ⟨⟨retry, isFirst⟩, asks⟩ := retried
    cases made : (trip.outcome settings).result with
    | ok text => simp [made] at asks
    | error failure =>
      rw [made] at completed asks
      exact ⟨retry, isFirst, _, failure, completed, asks, rfl⟩

namespace State

variable {settings : Settings} {endpoints : List Endpoint} {transport : Transport}
  {calls : List Call}

/-- A round trip has its place in the course of the call that it is made for. -/
private theorem call_of_trip {trip : Trip}
    (member : trip ∈ (finalRecord settings endpoints transport calls).trips transport) :
    ∃ first ∈ firstAttempts endpoints 0 calls, trip.attempt.caller = first.caller ∧
      trip.outcome settings ∈
        outcomesOf first.caller (finalRecord settings endpoints transport calls).outcomes := by
  obtain ⟨first, inFirsts, origin⟩ := (known_finish settings endpoints transport calls).submissions
    trip.attempt (submitted_of_trip settings endpoints transport calls member)
  have caller := Attempt.caller_of_origin origin
  refine ⟨first, inFirsts, caller, mem_outcomesOf.mpr ⟨?_, ?_⟩⟩
  · exact outcome_mem settings endpoints transport calls member
  · rwa [Trip.outcome_attempt]

/-- A first attempt is submitted. -/
private theorem submitted_of_first {first : Attempt}
    (inFirsts : first ∈ firstAttempts endpoints 0 calls) :
    first ∈ (finalRecord settings endpoints transport calls).submissions := by
  have mine : first ∈
      ofCaller first.caller (finalRecord settings endpoints transport calls).submissions := by
    obtain ⟨_, _, _, submissions, -⟩ | ⟨_, _, _, _, _, submissions, -⟩ :=
      call_cases settings endpoints transport calls inFirsts <;>
      simp [submissions]
  exact (mem_ofCaller.mp mine).1

/-- A second attempt was asked for by a round trip of the first one. -/
private theorem trip_of_again {first : Attempt}
    (inFirsts : first ∈ firstAttempts endpoints 0 calls) {instant : Nanoseconds}
    (submitted : first.again instant ∈
      (finalRecord settings endpoints transport calls).submissions) :
    ∃ trip ∈ (finalRecord settings endpoints transport calls).trips transport,
      isRetried settings trip.attempt (trip.outcome settings).result = true ∧
      first.again instant = trip.attempt.again (trip.outcome settings).instant := by
  have ne := Attempt.ne_again (isRetry_of_mem_firstAttempts inFirsts) instant
  -- on the course of its call there is one second attempt at most, at the instant of a failure
  have mine : first.again instant ∈
      ofCaller first.caller (finalRecord settings endpoints transport calls).submissions :=
    mem_ofCaller.mpr ⟨submitted, rfl⟩
  obtain ⟨result, ended, -, submissions, -⟩ |
    ⟨result, failed, last, retried, -, submissions, outcomes⟩ :=
    call_cases settings endpoints transport calls inFirsts
  · rw [submissions, List.mem_singleton] at mine
    exact absurd mine.symm ne
  · have recorded : (⟨first, failed, result⟩ : Outcome) ∈
        outcomesOf first.caller (finalRecord settings endpoints transport calls).outcomes := by
      simp [outcomes]
    obtain ⟨trip, member, same⟩ := trip_of_isRetried settings endpoints transport calls
      (mem_outcomesOf.mp recorded).1 retried
    have attempt : trip.attempt = first := by
      rw [← Trip.outcome_attempt settings, same]
    simp only [submissions, List.mem_cons, List.not_mem_nil, or_false] at mine
    refine ⟨trip, member, ?_, ?_⟩
    · rw [same, attempt]
      exact retried
    · rw [same, attempt]
      exact mine.resolve_left ne.symm

/-- A round trip that asks for a second attempt gets it. -/
private theorem again_of_trip {trip : Trip}
    (member : trip ∈ (finalRecord settings endpoints transport calls).trips transport)
    (retried : isRetried settings trip.attempt (trip.outcome settings).result = true) :
    trip.attempt.again (trip.outcome settings).instant ∈
      (finalRecord settings endpoints transport calls).submissions := by
  obtain ⟨first, inFirsts, caller, recorded⟩ := call_of_trip member
  rw [← Trip.outcome_attempt settings] at retried ⊢
  obtain ⟨result, ended, final, -, outcomes⟩ |
    ⟨result, failed, last, -, again, submissions, outcomes⟩ :=
    call_cases settings endpoints transport calls inFirsts
  · rw [outcomes, List.mem_singleton] at recorded
    simp [recorded, final] at retried
  · simp only [outcomes, List.mem_cons, List.not_mem_nil, or_false] at recorded
    rcases recorded with same | same
    · have mine : first.again failed ∈ ofCaller first.caller
          (finalRecord settings endpoints transport calls).submissions := by
        simp [submissions]
      rw [same]
      exact (mem_ofCaller.mp mine).1
    · -- the round trip of a second attempt asks for nothing
      simp [same, again, isRetried, Attempt.again] at retried

theorem mem_submissions_finish_iff {attempt : Attempt} :
    attempt ∈ (finalRecord settings endpoints transport calls).submissions ↔
      IsFirst endpoints calls attempt ∨
      ∃ trip ∈ (finalRecord settings endpoints transport calls).trips transport,
        trip.IsFollowedBy settings attempt := by
  simp only [isFirst_iff, Trip.isFollowedBy_iff]
  constructor
  · intro submitted
    obtain ⟨first, inFirsts, rfl | ⟨instant, rfl⟩⟩ :=
      (known_finish settings endpoints transport calls).submissions attempt submitted
    · exact .inl inFirsts
    · exact .inr (trip_of_again inFirsts submitted)
  · rintro (inFirsts | ⟨trip, member, retried, rfl⟩)
    · exact submitted_of_first inFirsts
    · exact again_of_trip member retried

/-- The result of a call is that of any of its round trips that no other attempt follows. -/
theorem result_of_trip (dispatcher : Dispatcher) {trip : Trip}
    (member : trip ∈ (dispatcher.dispatch transport calls).record.trips transport)
    (final : isRetried dispatcher.settings trip.attempt
      (trip.outcome dispatcher.settings).result = false) :
    (dispatcher.dispatch transport calls).results[trip.attempt.caller]? =
      some (trip.outcome dispatcher.settings).result := by
  obtain ⟨first, inFirsts, caller, recorded⟩ := call_of_trip member
  rw [caller]
  apply dispatcher.result_of_getLast? transport calls inFirsts
  have outcomes : outcomesOf first.caller (dispatcher.dispatch transport calls).record.outcomes =
    outcomesOf first.caller (finalRecord dispatcher.settings dispatcher.endpoints transport
      calls).outcomes := rfl
  obtain ⟨result, ended, -, -, all⟩ | ⟨result, failed, last, retried, -, -, all⟩ :=
    call_cases dispatcher.settings dispatcher.endpoints transport calls inFirsts
  · rw [all, List.mem_singleton] at recorded
    rw [outcomes, all, recorded]
    rfl
  · -- the round trip of a first attempt that was made again would have asked for that
    rw [all] at recorded
    rcases List.mem_cons.mp recorded with same | same
    · rw [← Trip.outcome_attempt dispatcher.settings, same] at final
      simp [retried] at final
    · rw [outcomes, all, List.mem_singleton.mp same]
      rfl

end State

/-- Round trips to one endpoint never overlap and start in the order in which their attempts are
submitted, and what the transport produces in time for an attempt reaches its caller and nobody
else. -/
theorem one_at_a_time (dispatcher : Dispatcher) (transport : Transport) (calls : List Call) :
    OneAtATime dispatcher.endpoints dispatcher.settings transport calls
      (dispatcher.dispatch transport calls) := by
  obtain ⟨now, reached⟩ := State.reachable_finish dispatcher.settings dispatcher.endpoints
    transport calls
  have serial (endpoint : Endpoint) := State.serial_finish dispatcher.settings
    dispatcher.endpoints transport calls endpoint
  constructor
  case submitted => exact fun attempt => State.mem_submissions_finish_iff
  case once => exact State.nodup_finish _ _ _ _
  case sorted => exact reached.timely.inOrder
  case lasts =>
    intro trip member
    obtain ⟨now, serial⟩ := serial trip.attempt.endpoint
    exact serial.lasts trip (List.mem_append_left _ (Record.mem_tripsTo.mpr ⟨member, rfl⟩))
  case apart =>
    intro endpoint
    obtain ⟨now, serial⟩ := serial endpoint
    have apart := serial.apart
    rw [List.append_nil] at apart
    exact apart
  case inOrder =>
    intro endpoint
    obtain ⟨now, serial⟩ := serial endpoint
    have handed := (List.sublist_append_left _ _).trans serial.inOrder
    rw [List.append_nil] at handed
    exact handed
  case passedOver =>
    exact fun attempt submitted never => State.outcomes_of_gaveUp _ _ _ _ submitted never
  case delivered => exact fun trip member => State.outcomes_of_trip _ _ _ _ member
  case nothingElse =>
    -- an abandoned round trip ends like a place in line that was given up
    intro outcome recorded
    rcases State.outcome_cases _ _ _ _ recorded with ⟨trip, member, rfl⟩ | gone
    · cases completed : trip.completion? dispatcher.settings with
      | some landing =>
        obtain ⟨instant, result⟩ := landing
        refine .inl ⟨trip, member, (trip.outcome_attempt _).symm, ?_⟩
        rw [Trip.outcome, completed]
      | none =>
        rw [Trip.outcome, completed]
        exact .inr rfl
    · exact .inr gone
  case returned =>
    intro trip member last
    apply State.result_of_trip dispatcher member
    rw [← Bool.not_eq_true]
    intro retried
    exact last _ (Trip.isFollowedBy_iff.mpr ⟨retried, rfl⟩)

end ProxyControl.Dispatch
