import ProxyControl.Proofs.Dispatch.Report

/-!
# At most two round trips

What one call can rely on, whatever other calls are made and whatever the transport does: its
command is sent at most twice, and the second time only when the transport has failed the first
round trip in time. Both times the same text goes to the same endpoint.
-/
namespace ProxyControl.Dispatch

/-- Whether an attempt has ended in a response or has been given up, rather than been failed by
the transport. -/
def Outcome.IsFinal (outcome : Outcome) : Prop :=
  (∃ response, outcome.result = .ok response) ∨
    ∃ limit command, outcome.result = .error (.timeout limit command)

/-- What a report says about one of its calls. -/
structure AtMostTwice (endpoints : List Endpoint) (settings : Settings) (transport : Transport)
    (caller : Nat) (call : Call) (report : Dispatcher.Report) : Prop where
  length_le : (report.record.tripsOf transport caller).length ≤ 2
  routed : ∀ trip ∈ report.record.tripsOf transport caller,
    Route.of? endpoints call.command = some ⟨trip.attempt.endpoint, trip.attempt.command⟩
  /-- The second round trip starts after the first one has failed in time. -/
  failed : ∀ first second, report.record.tripsOf transport caller = [first, second] →
    settings.retry = true ∧ ∃ endpoint source command,
      first.completion? settings =
        some (second.attempt.submitted, .error (.transport endpoint source command))
  /-- The second round trip says the same in the same place. -/
  same : ∀ first second, report.record.tripsOf transport caller = [first, second] →
    second.attempt.endpoint = first.attempt.endpoint ∧
    second.attempt.command.wire = first.attempt.command.wire
  /-- After a response or a timeout there is no further attempt, in line or under way. -/
  final : ∀ outcome ∈ outcomesOf caller report.record.outcomes, outcome.IsFinal →
    (ofCaller caller report.record.submissions).getLast? = some outcome.attempt
  unrouted : Route.of? endpoints call.command = none →
    ofCaller caller report.record.submissions = [] ∧
    report.results[caller]? = some (.error (unroutable call.command))
  /-- The call returns the result of its last attempt. -/
  returned : Route.of? endpoints call.command ≠ none →
    ∃ outcome ∈ report.record.outcomes,
      (ofCaller caller report.record.submissions).getLast? = some outcome.attempt ∧
      report.results[caller]? = some outcome.result

namespace State

variable {settings : Settings} {endpoints : List Endpoint} {transport : Transport}
  {calls : List Call}

/-- Two round trips for one call are for its two attempts, and the first one asked for the
second. -/
theorem tripsOf_eq_pair {first : Attempt} (member : first ∈ firstAttempts endpoints 0 calls)
    {one two : Trip}
    (both : (finalRecord settings endpoints transport calls).tripsOf transport first.caller =
      [one, two]) :
    ∃ instant result, isRetried settings first result = true ∧
      one.outcome settings = ⟨first, instant, result⟩ ∧ two.attempt = first.again instant := by
  have handed := tripsOf_sublist settings endpoints transport calls member
  rw [both, List.map_cons, List.map_cons, List.map_nil] at handed
  obtain ⟨_, _, _, submissions, -⟩ |
    ⟨result, instant, last, retried, again, submissions, outcomes⟩ :=
    call_cases settings endpoints transport calls member
  · -- a call that is made once has no two round trips
    rw [submissions] at handed
    have tooLong := handed.length_le
    simp at tooLong
  · -- two round trips for two attempts: each attempt has one, in the same order
    rw [submissions] at handed
    have same := handed.eq_of_length rfl
    simp only [List.cons.injEq, and_true] at same
    obtain ⟨oneFirst, twoAgain⟩ := same
    have inTrips : one ∈ (finalRecord settings endpoints transport calls).tripsOf transport
        first.caller := by
      rw [both]
      exact List.mem_cons_self
    have recorded : one.outcome settings ∈
        outcomesOf first.caller (finalRecord settings endpoints transport calls).outcomes := by
      refine mem_outcomesOf.mpr ⟨?_, ?_⟩
      · exact outcome_mem settings endpoints transport calls (List.mem_filter.mp inTrips).1
      · rw [Trip.outcome_attempt, oneFirst]
    simp only [outcomes, List.mem_cons, List.not_mem_nil, or_false] at recorded
    rcases recorded with here | there
    · exact ⟨instant, result, retried, here, twoAgain⟩
    · have same : first = first.again instant := by
        rw [← again, ← there, Trip.outcome_attempt, oneFirst]
      exact absurd same (Attempt.ne_again (isRetry_of_mem_firstAttempts member) instant)

theorem transport_of_isRetried {attempt : Attempt} {result : Result Text}
    (retried : isRetried settings attempt result = true) :
    settings.retry = true ∧
      ∃ endpoint source command, result = .error (.transport endpoint source command) := by
  simp only [isRetried, Bool.and_eq_true, Bool.not_eq_true'] at retried
  obtain ⟨⟨retry, -⟩, asks⟩ := retried
  refine ⟨retry, ?_⟩
  cases result with
  | ok response => simp at asks
  | error failure =>
    cases failure with
    | transport endpoint source command => exact ⟨endpoint, source, command, rfl⟩
    | _ => simp [Failure.isRetryable] at asks

/-- No attempt is made for a call that has no route. -/
theorem submissions_of_unrouted {caller : Nat} {call : Call} (called : calls[caller]? = some call)
    (unrouted : Route.of? endpoints call.command = none) :
    ofCaller caller (finalRecord settings endpoints transport calls).submissions = [] := by
  apply List.eq_nil_iff_forall_not_mem.mpr
  intro attempt mine
  obtain ⟨submitted, rfl⟩ := mem_ofCaller.mp mine
  obtain ⟨first, member, origin⟩ :=
    (known_finish settings endpoints transport calls).submissions attempt submitted
  have caller := Attempt.caller_of_origin origin
  obtain ⟨index, other, route, there, routed, rfl⟩ := mem_firstAttempts.mp member
  rw [caller, Nat.zero_add, there, Option.some.injEq] at called
  rw [called, unrouted] at routed
  cases routed

/-- Nothing is sent for a caller who has submitted nothing. -/
theorem tripsOf_of_submissions {caller : Nat}
    (none : ofCaller caller (finalRecord settings endpoints transport calls).submissions = []) :
    (finalRecord settings endpoints transport calls).tripsOf transport caller = [] := by
  apply List.eq_nil_iff_forall_not_mem.mpr
  intro trip mine
  obtain ⟨inTrips, caller⟩ := List.mem_filter.mp mine
  have submitted := submitted_of_trip settings endpoints transport calls inTrips
  exact List.not_mem_nil (none ▸ mem_ofCaller.mpr ⟨submitted, of_decide_eq_true caller⟩)

/-- Nothing ends for a caller who has submitted nothing. -/
theorem outcomesOf_of_submissions {caller : Nat}
    (none : ofCaller caller (finalRecord settings endpoints transport calls).submissions = []) :
    outcomesOf caller (finalRecord settings endpoints transport calls).outcomes = [] := by
  apply List.eq_nil_iff_forall_not_mem.mpr
  intro outcome mine
  obtain ⟨recorded, caller⟩ := mem_outcomesOf.mp mine
  have submitted := (known_finish settings endpoints transport calls).outcomes outcome recorded
  exact List.not_mem_nil (none ▸ mem_ofCaller.mpr ⟨submitted, caller⟩)

end State

private theorem at_most_twice_of_unrouted (dispatcher : Dispatcher) (transport : Transport)
    (calls : List Call) {caller : Nat} {call : Call} (called : calls[caller]? = some call)
    (unrouted : Route.of? dispatcher.endpoints call.command = none) :
    AtMostTwice dispatcher.endpoints dispatcher.settings transport caller call
      (dispatcher.dispatch transport calls) := by
  have silent : ofCaller caller (dispatcher.dispatch transport calls).record.submissions = [] :=
    State.submissions_of_unrouted called unrouted
  have noTrips : (dispatcher.dispatch transport calls).record.tripsOf transport caller = [] :=
    State.tripsOf_of_submissions silent
  have noOutcomes : outcomesOf caller (dispatcher.dispatch transport calls).record.outcomes = [] :=
    State.outcomesOf_of_submissions silent
  constructor
  case length_le => simp [noTrips]
  case routed => simp [noTrips]
  case failed => simp [noTrips]
  case same => simp [noTrips]
  case final => simp [noOutcomes]
  case unrouted =>
    refine fun _ => ⟨silent, ?_⟩
    rw [Dispatcher.dispatch, Dispatcher.getElem?_results, called, Option.map_some, unrouted]
  case returned => exact fun routed => absurd unrouted routed

private theorem at_most_twice_of_routed (dispatcher : Dispatcher) (transport : Transport)
    (calls : List Call) {first : Attempt} {call : Call}
    (member : first ∈ firstAttempts dispatcher.endpoints 0 calls)
    (routed : Route.of? dispatcher.endpoints call.command = some ⟨first.endpoint, first.command⟩) :
    AtMostTwice dispatcher.endpoints dispatcher.settings transport first.caller call
      (dispatcher.dispatch transport calls) := by
  have attempts := State.call_cases dispatcher.settings dispatcher.endpoints transport calls member
  constructor
  case length_le => exact State.length_tripsOf_le _ _ transport calls member
  case routed =>
    intro trip mine
    have handed := State.tripsOf_sublist dispatcher.settings dispatcher.endpoints transport calls
      member
    have submitted := handed.subset (List.mem_map_of_mem mine)
    rw [routed]
    rcases State.origin_of_mem _ _ _ _ member submitted with same | ⟨instant, same⟩
    · rw [same]
    · rw [same]
      rfl
  case failed =>
    intro one two both
    obtain ⟨instant, result, retried, outcome, again⟩ := State.tripsOf_eq_pair member both
    obtain ⟨retry, endpoint, source, command, rfl⟩ := State.transport_of_isRetried retried
    refine ⟨retry, endpoint, source, command, ?_⟩
    rw [State.completion?_of_isRetried dispatcher.settings (by rw [outcome]; exact retried),
      outcome, again]
    rfl
  case same =>
    intro one two both
    obtain ⟨instant, result, retried, outcome, again⟩ := State.tripsOf_eq_pair member both
    rw [again, ← Trip.outcome_attempt dispatcher.settings one, outcome]
    exact ⟨rfl, rfl⟩
  case final =>
    intro outcome mine isFinal
    rw [Dispatcher.record_dispatch] at mine ⊢
    obtain ⟨_, _, _, submissions, outcomes⟩ | ⟨_, _, last, retried, again, submissions, outcomes⟩ :=
      attempts
    · rw [outcomes, List.mem_singleton] at mine
      rw [submissions, mine]
      rfl
    · simp only [outcomes, List.mem_cons, List.not_mem_nil, or_false] at mine
      rcases mine with rfl | rfl
      · -- a failure that asks for a second attempt is neither a response nor a timeout
        obtain ⟨-, endpoint, source, command, rfl⟩ := State.transport_of_isRetried retried
        simp [Outcome.IsFinal] at isFinal
      · rw [submissions, again]
        rfl
  case unrouted =>
    intro unrouted
    rw [routed] at unrouted
    cases unrouted
  case returned =>
    intro _
    -- the last attempt is the last to end, whether it is the first one or the second
    obtain ⟨result, instant, -, submissions, outcomes⟩ |
      ⟨_, _, last, -, again, submissions, outcomes⟩ := attempts
    · have mine : ⟨first, instant, result⟩ ∈ outcomesOf first.caller
          (dispatcher.dispatch transport calls).record.outcomes := by
        simp [Dispatcher.record_dispatch, outcomes]
      refine ⟨_, (mem_outcomesOf.mp mine).1, ?_, ?_⟩
      · rw [Dispatcher.record_dispatch, submissions]
        rfl
      · apply dispatcher.result_of_getLast? transport calls member
        rw [Dispatcher.record_dispatch, outcomes]
        rfl
    · have mine : last ∈ outcomesOf first.caller
          (dispatcher.dispatch transport calls).record.outcomes := by
        simp [Dispatcher.record_dispatch, outcomes]
      refine ⟨last, (mem_outcomesOf.mp mine).1, ?_, ?_⟩
      · rw [Dispatcher.record_dispatch, submissions, again]
        rfl
      · apply dispatcher.result_of_getLast? transport calls member
        rw [Dispatcher.record_dispatch, outcomes]
        rfl

/-- A command is sent once, or a second time when the transport has failed it; it is never sent
again after a response or a timeout. -/
theorem at_most_twice (dispatcher : Dispatcher) (transport : Transport) (calls : List Call)
    {caller : Nat} {call : Call} (called : calls[caller]? = some call) :
    AtMostTwice dispatcher.endpoints dispatcher.settings transport caller call
      (dispatcher.dispatch transport calls) := by
  cases routed : Route.of? dispatcher.endpoints call.command with
  | none => exact at_most_twice_of_unrouted dispatcher transport calls called routed
  | some route =>
    have member : (⟨caller, false, route.endpoint, route.command, call.start⟩ : Attempt) ∈
        firstAttempts dispatcher.endpoints 0 calls :=
      State.mem_firstAttempts.mpr ⟨caller, call, route, called, routed, by rw [Nat.zero_add]⟩
    exact at_most_twice_of_routed dispatcher transport calls member routed

/-- A transport whose every round trip breaks off at once. -/
def brokenPipe : Transport := fun _ handover =>
  .after 1 (.error
    (handover.attempt.endpoint.failure handover.attempt.command.text "broken pipe"))

/-- A broken transport is handed a command twice, and not a third time. -/
theorem at_most_twice_brokenPipe :
    ((Dispatcher.usual.dispatch brokenPipe [⟨0, .ofText "show info"⟩]).record.tripsOf
      brokenPipe 0).length = 2 ∧
    AtMostTwice [.standard] {} brokenPipe 0 ⟨0, .ofText "show info"⟩
      (Dispatcher.usual.dispatch brokenPipe [⟨0, .ofText "show info"⟩]) :=
  ⟨by decide +kernel, at_most_twice Dispatcher.usual brokenPipe _ rfl⟩

end ProxyControl.Dispatch
