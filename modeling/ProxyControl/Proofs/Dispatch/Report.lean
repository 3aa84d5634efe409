import ProxyControl.Dispatch.Dispatcher
import ProxyControl.Proofs.Dispatch.Trip

/-!
# What a report says

At the end of a run every attempt has exactly one outcome: the one its round trip determines, or
that its caller gave up in line. An attempt is made again exactly when its round trip failed in
time, and the result of a call is that of its last attempt.
-/
namespace ProxyControl.Dispatch

namespace State

variable (settings : Settings) (endpoints : List Endpoint) (transport : Transport)
  (calls : List Call)

/-- All that has happened by the end of a run. -/
def finalRecord : Record := (State.finish settings endpoints transport calls).record

theorem course_finish {first : Attempt} (member : first ∈ firstAttempts endpoints 0 calls) :
    Course settings first []
      (ofCaller first.caller (finalRecord settings endpoints transport calls).submissions) []
      (outcomesOf first.caller (finalRecord settings endpoints transport calls).outcomes) := by
  obtain ⟨now, reached⟩ := reachable_finish settings endpoints transport calls
  have course := (reached.follows member).course
  rwa [upcoming_finish, live_finish] at course

theorem known_finish :
    Known (firstAttempts endpoints 0 calls) (State.finish settings endpoints transport calls) := by
  obtain ⟨now, reached⟩ := reachable_finish settings endpoints transport calls
  exact reached.known

theorem nodup_finish : (finalRecord settings endpoints transport calls).submissions.Nodup := by
  obtain ⟨now, reached⟩ := reachable_finish settings endpoints transport calls
  exact reached.nodup_submissions

/-- At the end no round trip is aloft, and nobody waits in line. -/
theorem serial_finish (endpoint : Endpoint) :
    ∃ now, Serial settings now endpoint
      ((finalRecord settings endpoints transport calls).submittedTo endpoint)
      (finalRecord settings endpoints transport calls).outcomes
      ((State.finish settings endpoints transport calls).lane endpoint)
      ((finalRecord settings endpoints transport calls).tripsTo transport endpoint) [] := by
  obtain ⟨now, reached⟩ := reachable_finish settings endpoints transport calls
  obtain ⟨ended, aloft, trips, serial⟩ := reached.inTurn endpoint
  have idle : ((State.finish settings endpoints transport calls).lane endpoint).flight = none := by
    cases flying : ((State.finish settings endpoints transport calls).lane endpoint).flight with
    | none => rfl
    | some flight =>
      have live := Lane.mem_live_of_flight flying
      simp [live_finish] at live
  obtain rfl := serial.aloft_eq_nil idle
  rw [List.append_nil] at trips
  exact ⟨now, trips ▸ serial⟩

/-- Every submitted attempt has one outcome. -/
theorem outcomes_perm_submissions :
    ((finalRecord settings endpoints transport calls).outcomes.map Outcome.attempt).Perm
      (finalRecord settings endpoints transport calls).submissions := by
  have known := known_finish settings endpoints transport calls
  -- the attempts of one call are counted on its course, at whose end none is left without result
  rw [List.perm_iff_count]
  intro attempt
  by_cases submitted : attempt ∈ (finalRecord settings endpoints transport calls).submissions
  · obtain ⟨first, member, origin⟩ := known.submissions attempt submitted
    have caller := Attempt.caller_of_origin origin
    have all := (course_finish settings endpoints transport calls member).outcomes_append_live
    rw [List.append_nil, outcomesOf, ofCaller] at all
    have counts := congrArg (List.count attempt) all
    rw [List.count_filter (by simpa using caller)] at counts
    rw [← counts, ← List.count_filter (p := fun attempt => attempt.caller = first.caller)
      (by simpa using caller), List.filter_map]
    rfl
  · have none : attempt ∉ (finalRecord settings endpoints transport calls).outcomes.map
        Outcome.attempt := by
      intro ended
      obtain ⟨outcome, recorded, rfl⟩ := List.mem_map.mp ended
      exact submitted (known.outcomes outcome recorded)
    rw [List.count_eq_zero_of_not_mem submitted, List.count_eq_zero_of_not_mem none]

theorem nodup_outcomes :
    ((finalRecord settings endpoints transport calls).outcomes.map Outcome.attempt).Nodup :=
  (outcomes_perm_submissions settings endpoints transport calls).nodup_iff.mpr
    (nodup_finish settings endpoints transport calls)

theorem outcome_mem {trip : Trip}
    (member : trip ∈ (finalRecord settings endpoints transport calls).trips transport) :
    trip.outcome settings ∈ (finalRecord settings endpoints transport calls).outcomes := by
  obtain ⟨now, serial⟩ := serial_finish settings endpoints transport calls trip.attempt.endpoint
  exact (serial.recorded trip (Record.mem_tripsTo.mpr ⟨member, rfl⟩)).1

theorem outcome_cases {outcome : Outcome}
    (recorded : outcome ∈ (finalRecord settings endpoints transport calls).outcomes) :
    (∃ trip ∈ (finalRecord settings endpoints transport calls).trips transport,
      outcome = trip.outcome settings) ∨ outcome = outcome.attempt.gaveUp settings := by
  obtain ⟨now, serial⟩ :=
    serial_finish settings endpoints transport calls outcome.attempt.endpoint
  rcases serial.outcome outcome recorded rfl with ⟨trip, member, same⟩ | ⟨gaveUp, -⟩
  · exact .inl ⟨trip, (Record.mem_tripsTo.mp member).1, same⟩
  · exact .inr gaveUp

private theorem filter_attempt {outcomes : List Outcome} {outcome : Outcome}
    (nodup : (outcomes.map Outcome.attempt).Nodup) (member : outcome ∈ outcomes) :
    outcomes.filter (fun other => other.attempt = outcome.attempt) = [outcome] := by
  induction outcomes with
  | nil => simp at member
  | cons head rest ih =>
    simp only [List.map_cons, List.nodup_cons, List.mem_map, not_exists, not_and] at nodup
    rcases List.mem_cons.mp member with rfl | behind
    · have none : rest.filter (fun other => other.attempt = outcome.attempt) = [] :=
        List.filter_eq_nil_iff.mpr fun other inRest => by simpa using nodup.1 other inRest
      simp [none]
    · have ne : head.attempt ≠ outcome.attempt := fun same => nodup.1 outcome behind same.symm
      simpa [ne] using ih nodup.2 behind

/-- An attempt that is handed over has the outcome of its round trip and no other. -/
theorem outcomes_of_trip {trip : Trip}
    (member : trip ∈ (finalRecord settings endpoints transport calls).trips transport) :
    (finalRecord settings endpoints transport calls).outcomes.filter
      (fun outcome => outcome.attempt = trip.attempt) = [trip.outcome settings] := by
  have found := filter_attempt (nodup_outcomes settings endpoints transport calls)
    (outcome_mem settings endpoints transport calls member)
  rwa [Trip.outcome_attempt] at found

/-- An attempt that is never handed over has timed out in line. -/
theorem outcomes_of_gaveUp {attempt : Attempt}
    (submitted : attempt ∈ (finalRecord settings endpoints transport calls).submissions)
    (never : ∀ trip ∈ (finalRecord settings endpoints transport calls).trips transport,
      trip.attempt ≠ attempt) :
    (finalRecord settings endpoints transport calls).outcomes.filter
      (fun outcome => outcome.attempt = attempt) = [attempt.gaveUp settings] := by
  have ended := (outcomes_perm_submissions settings endpoints transport calls).mem_iff.mpr submitted
  obtain ⟨outcome, recorded, rfl⟩ := List.mem_map.mp ended
  have gaveUp : outcome = outcome.attempt.gaveUp settings := by
    rcases outcome_cases settings endpoints transport calls recorded with
      ⟨trip, member, same⟩ | gone
    · exact absurd (by rw [same, Trip.outcome_attempt]) (never trip member)
    · exact gone
  rw [← gaveUp]
  exact filter_attempt (nodup_outcomes settings endpoints transport calls) recorded

theorem submitted_of_trip {trip : Trip}
    (member : trip ∈ (finalRecord settings endpoints transport calls).trips transport) :
    trip.attempt ∈ (finalRecord settings endpoints transport calls).submissions := by
  obtain ⟨now, serial⟩ := serial_finish settings endpoints transport calls trip.attempt.endpoint
  have handed : trip.attempt ∈ ((finalRecord settings endpoints transport calls).tripsTo transport
      trip.attempt.endpoint).map Trip.attempt :=
    List.mem_map_of_mem (Record.mem_tripsTo.mpr ⟨member, rfl⟩)
  refine (List.mem_filter.mp (serial.inOrder.subset ?_)).1
  rw [List.append_nil]
  exact List.mem_append_left _ handed

theorem submitted_of_handover {handover : Handover}
    (handed : handover ∈ (finalRecord settings endpoints transport calls).handovers) :
    handover.attempt ∈ (finalRecord settings endpoints transport calls).submissions := by
  rw [← Record.map_handover_trips transport] at handed
  obtain ⟨trip, inTrips, rfl⟩ := List.mem_map.mp handed
  exact submitted_of_trip settings endpoints transport calls inTrips

/-! ### Calls -/

/-- A call that has a route is made once, and once more exactly when its first attempt ends with
a result that asks for it. -/
theorem call_cases {first : Attempt} (member : first ∈ firstAttempts endpoints 0 calls) :
    (∃ result instant, isRetried settings first result = false ∧
      ofCaller first.caller (finalRecord settings endpoints transport calls).submissions =
        [first] ∧
      outcomesOf first.caller (finalRecord settings endpoints transport calls).outcomes =
        [⟨first, instant, result⟩]) ∨
    ∃ result instant last, isRetried settings first result = true ∧
      last.attempt = first.again instant ∧
      ofCaller first.caller (finalRecord settings endpoints transport calls).submissions =
        [first, first.again instant] ∧
      outcomesOf first.caller (finalRecord settings endpoints transport calls).outcomes =
        [⟨first, instant, result⟩, last] := by
  have course := course_finish settings endpoints transport calls member
  generalize ofCaller first.caller (finalRecord settings endpoints transport calls).submissions =
    submissions at course ⊢
  generalize outcomesOf first.caller (finalRecord settings endpoints transport calls).outcomes =
    outcomes at course ⊢
  cases course with
  | ended final => exact .inl ⟨_, _, final, rfl, rfl⟩
  | endedAgain retried => exact .inr ⟨_, _, _, retried, rfl, rfl, rfl⟩

/-- Whatever a caller submits is the first attempt of its call or the second. -/
theorem origin_of_mem {first attempt : Attempt} (member : first ∈ firstAttempts endpoints 0 calls)
    (mine : attempt ∈
      ofCaller first.caller (finalRecord settings endpoints transport calls).submissions) :
    attempt = first ∨ ∃ instant, attempt = first.again instant := by
  obtain ⟨_, _, _, submissions, -⟩ | ⟨_, instant, _, _, _, submissions, -⟩ :=
    call_cases settings endpoints transport calls member
  · rw [submissions, List.mem_singleton] at mine
    exact .inl mine
  · simp only [submissions, List.mem_cons, List.not_mem_nil, or_false] at mine
    exact mine.imp_right fun again => ⟨instant, again⟩

/-- The round trips made for a caller are those of its attempts, in the same order. -/
theorem tripsOf_sublist {first : Attempt} (member : first ∈ firstAttempts endpoints 0 calls) :
    (((finalRecord settings endpoints transport calls).tripsOf transport first.caller).map
      Trip.attempt).Sublist
      (ofCaller first.caller (finalRecord settings endpoints transport calls).submissions) := by
  have place : ∀ attempt ∈ ofCaller first.caller
      (finalRecord settings endpoints transport calls).submissions,
      attempt.endpoint = first.endpoint := by
    intro attempt mine
    rcases origin_of_mem settings endpoints transport calls member mine with
      rfl | ⟨instant, rfl⟩ <;> rfl
  -- one endpoint serves all attempts of a call, so its lane keeps them in order
  have onLane : (finalRecord settings endpoints transport calls).tripsOf transport first.caller =
      ((finalRecord settings endpoints transport calls).tripsTo transport first.endpoint).filter
        fun trip => trip.attempt.caller = first.caller := by
    simp only [Record.tripsOf, Record.tripsTo, List.filter_filter]
    refine List.filter_congr fun trip inTrips => ?_
    have submitted := submitted_of_trip settings endpoints transport calls inTrips
    by_cases mine : trip.attempt.caller = first.caller
    · simp [mine, place trip.attempt (mem_ofCaller.mpr ⟨submitted, mine⟩)]
    · simp [mine]
  obtain ⟨now, serial⟩ := serial_finish settings endpoints transport calls first.endpoint
  have handed := (List.sublist_append_left _ _).trans serial.inOrder
  rw [List.append_nil] at handed
  have mine := handed.filter fun attempt => attempt.caller = first.caller
  rw [List.filter_map] at mine
  rw [onLane]
  exact mine.trans (List.filter_sublist.filter _)

theorem length_tripsOf_le {first : Attempt} (member : first ∈ firstAttempts endpoints 0 calls) :
    ((finalRecord settings endpoints transport calls).tripsOf transport first.caller).length ≤
      2 := by
  have handed := (tripsOf_sublist settings endpoints transport calls member).length_le
  rw [List.length_map] at handed
  refine Nat.le_trans handed ?_
  obtain ⟨_, _, _, submissions, -⟩ | ⟨_, _, _, _, _, submissions, -⟩ :=
    call_cases settings endpoints transport calls member <;>
    simp [submissions]

/-- Only what the transport produces in time can ask for a second attempt. -/
theorem completion?_of_isRetried {trip : Trip} {attempt : Attempt}
    (retried : isRetried settings attempt (trip.outcome settings).result = true) :
    trip.completion? settings =
      some ((trip.outcome settings).instant, (trip.outcome settings).result) := by
  cases completed : trip.completion? settings with
  | none =>
    rw [Trip.outcome, completed, Attempt.gaveUp, isRetried_timedOut] at retried
    cases retried
  | some landing =>
    obtain ⟨instant, result⟩ := landing
    rw [Trip.outcome, completed]

/-- An attempt that is made again was handed over. -/
theorem trip_of_isRetried {outcome : Outcome}
    (recorded : outcome ∈ (finalRecord settings endpoints transport calls).outcomes)
    (retried : isRetried settings outcome.attempt outcome.result = true) :
    ∃ trip ∈ (finalRecord settings endpoints transport calls).trips transport,
      trip.outcome settings = outcome := by
  rcases outcome_cases settings endpoints transport calls recorded with ⟨trip, member, same⟩ | gone
  · exact ⟨trip, member, same.symm⟩
  · -- a caller who gives up in line does not try again
    rw [gone, Attempt.gaveUp, isRetried_timedOut] at retried
    cases retried

end State

/-! ### Results -/

theorem Record.result_of_getLast? {record : Record} {caller : Nat} {outcome : Outcome}
    (last : (outcomesOf caller record.outcomes).getLast? = some outcome) (settings : Settings)
    (call : Call) : record.result settings caller call = outcome.result := by
  have found : record.outcomes.reverse.find? (fun outcome => outcome.attempt.caller = caller) =
      some outcome := by
    rw [← last, ← List.head?_filter, List.filter_reverse, List.head?_reverse, outcomesOf]
  rw [Record.result, found]

end ProxyControl.Dispatch

namespace ProxyControl.Dispatcher

open Dispatch

theorem record_dispatch (dispatcher : Dispatcher) (transport : Transport) (calls : List Call) :
    (dispatcher.dispatch transport calls).record =
      State.finalRecord dispatcher.settings dispatcher.endpoints transport calls := rfl

/-- A call without a route fails by itself; the results of the others are in their places. -/
theorem getElem?_results (dispatcher : Dispatcher) (record : Record) (caller index : Nat)
    (calls : List Call) :
    (dispatcher.results record caller calls)[index]? = calls[index]?.map fun call =>
      match Route.of? dispatcher.endpoints call.command with
      | none => .error (unroutable call.command)
      | some _ => record.result dispatcher.settings (caller + index) call := by
  induction calls generalizing caller index with
  | nil => simp [results]
  | cons call rest ih =>
    cases index with
    | zero => rfl
    | succ index =>
      simp only [results, List.getElem?_cons_succ, ih, Nat.add_right_comm caller 1 index]
      rfl

/-- The result of a call is that of its last attempt. -/
theorem result_of_getLast? (dispatcher : Dispatcher) (transport : Transport) (calls : List Call)
    {first : Attempt} (member : first ∈ firstAttempts dispatcher.endpoints 0 calls)
    {outcome : Outcome}
    (last : (outcomesOf first.caller
      (dispatcher.dispatch transport calls).record.outcomes).getLast? = some outcome) :
    (dispatcher.dispatch transport calls).results[first.caller]? = some outcome.result := by
  obtain ⟨index, call, route, called, routed, rfl⟩ := State.mem_firstAttempts.mp member
  rw [Nat.zero_add] at last ⊢
  rw [dispatch, getElem?_results, called, Option.map_some, routed, Nat.zero_add]
  exact congrArg some (Record.result_of_getLast? last _ call)

/-- The standard endpoint with the standard settings. -/
def usual : Dispatcher where
  endpoints := [.standard]
  settings := {}
  endpoints_ne_nil := by simp
  capacity_pos := by decide
  timeout_pos := by decide

end ProxyControl.Dispatcher
