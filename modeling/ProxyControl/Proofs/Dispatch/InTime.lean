import ProxyControl.Proofs.Dispatch.Report

/-!
# In time

An endpoint that hangs holds up its line, but nobody in it comes too late. Attempts that are
submitted one after the other have deadlines one after the other, so whenever a round trip ends,
at its own deadline at the latest, the deadlines of those in line are still to come. Each of
them is handed over in time, and whoever gives up does so with a round trip under way.
-/
namespace ProxyControl

open Dispatch

/-- How far a dispatcher has got with some calls after so many happenings. -/
def Dispatcher.stateAfter (dispatcher : Dispatcher) (transport : Transport) (calls : List Call)
    (steps : Nat) : State :=
  (State.start dispatcher.endpoints calls).run dispatcher.settings dispatcher.endpoints transport
    steps

namespace Dispatch

/-- Whether no two attempts are submitted to an endpoint at one instant. -/
def Record.IsSpread (endpoint : Endpoint) (record : Record) : Prop :=
  (record.submittedTo endpoint).Pairwise fun first second => first.submitted ≠ second.submitted

theorem Record.IsStart.isSpread {record later : Record} (start : record.IsStart later)
    {endpoint : Endpoint} (spread : later.IsSpread endpoint) : record.IsSpread endpoint :=
  spread.sublist (start.submissions.sublist.filter _)

/-! ### Places in line -/

namespace Lane

theorem first?_suffix {line rest : List (Option Attempt)} {attempt : Attempt}
    (h : first? line = some (attempt, rest)) : rest <:+ line := by
  induction line with
  | nil => simp [first?] at h
  | cons place line ih =>
    cases place with
    | none => exact (ih h).trans (List.suffix_cons none line)
    | some other =>
      simp only [first?, Option.some.injEq, Prod.mk.injEq] at h
      obtain ⟨-, rfl⟩ := h
      exact List.suffix_cons _ _

/-- Handing over leaves no places empty. -/
theorem line_handOver_suffix (transport : Transport) (history : List Handover)
    (instant : Nanoseconds) (lane : Lane) :
    (lane.handOver transport history instant).1.line <:+ lane.line := by
  unfold handOver
  split
  · exact List.suffix_rfl
  · exact List.nil_suffix
  next idle firstInLine => exact first?_suffix firstInLine

/-- After a chance to hand over nobody waits for an idle endpoint. -/
theorem waiting_handOver_of_idle {transport : Transport} {history : List Handover}
    {instant : Nanoseconds} {lane : Lane}
    (idle : (lane.handOver transport history instant).1.flight = none) :
    (lane.handOver transport history instant).1.waiting = [] := by
  obtain ⟨flight, flying, same⟩ | ⟨-, empty, same⟩ | ⟨attempt, line, -, -, same⟩ :=
    handOver_cases transport history instant lane
  · rw [same, flying] at idle
    cases idle
  · rw [same]
    rfl
  · rw [same] at idle
    cases idle

/-- Where nobody gives up no place is left empty. -/
theorem none_not_mem_lineAt {settings : Settings} {instant : Nanoseconds}
    {line : List (Option Attempt)} (full : none ∉ line)
    (inTime : ∀ attempt ∈ line.filterMap id, instant < attempt.deadline settings) :
    none ∉ lineAt settings instant line := by
  intro empty
  rcases List.mem_append.mp empty with inQueue | behind
  · obtain ⟨place, member, gone⟩ := List.mem_map.mp inQueue
    have member := List.mem_of_mem_take member
    cases place with
    | none => exact full member
    | some attempt =>
      have early := inTime attempt (by simpa using member)
      simp [Option.filter, isOpen, early] at gone
  · simp at behind

end Lane

namespace State

variable {settings : Settings} {endpoints : List Endpoint} {transport : Transport}
  {calls : List Call} {endpoint : Endpoint} {now instant : Nanoseconds} {state next : State}

/-! ### The order of deadlines -/

/-- What is on a lane has been submitted in the order in which it is there. -/
theorem Reachable.live_sublist (reached : Reachable settings endpoints transport calls now state)
    (endpoint : Endpoint) :
    (state.lane endpoint).live.Sublist (state.record.submittedTo endpoint) := by
  obtain ⟨ended, aloft, -, serial⟩ := reached.inTurn endpoint
  have flying : ((state.lane endpoint).flight.map Flight.attempt).toList =
      aloft.map Trip.attempt := by
    have same := congrArg (List.map Flight.attempt) serial.flight
    rw [List.map_map] at same
    rw [Option.toList_map]
    exact same
  have inOrder := serial.inOrder
  rw [List.map_append, List.append_assoc, ← flying, ← Lane.live_eq] at inOrder
  exact (List.sublist_append_right _ _).trans inOrder

theorem Reachable.live_pairwise (reached : Reachable settings endpoints transport calls now state)
    (spread : state.record.IsSpread endpoint) :
    (state.lane endpoint).live.Pairwise fun first second => first.submitted < second.submitted := by
  have sorted := (reached.timely.inOrder.filter _).and spread
  exact (sorted.imp fun ⟨le, ne⟩ => Nat.lt_of_le_of_ne le ne).sublist
    (reached.live_sublist endpoint)

/-- The round trip under way was handed over. -/
theorem Reachable.handed_of_flight
    (reached : Reachable settings endpoints transport calls now state) {flight : Flight}
    (flying : (state.lane endpoint).flight = some flight) :
    ∃ handover ∈ state.record.handovers, handover.attempt = flight.attempt := by
  obtain ⟨ended, aloft, trips, serial⟩ := reached.inTurn endpoint
  obtain ⟨trip, rfl, rfl⟩ := serial.exists_aloft flying
  have member : trip ∈ state.record.tripsTo transport endpoint := by simp [trips]
  refine ⟨trip.handover, ?_, rfl⟩
  rw [← Record.map_handover_trips transport state.record]
  exact List.mem_map_of_mem (Record.mem_tripsTo.mp member).1

/-! ### Punctual endpoints -/

/-- What holds of an endpoint whose attempts are submitted one after the other. -/
structure Punctual (settings : Settings) (endpoint : Endpoint) (state : State) : Prop where
  busy : (state.lane endpoint).flight = none → (state.lane endpoint).waiting = []
  full : none ∉ (state.lane endpoint).line
  early : ∀ handover ∈ state.record.handovers, handover.attempt.endpoint = endpoint →
    handover.instant < handover.attempt.deadline settings
  ended : ∀ outcome ∈ state.record.outcomes, outcome.attempt.endpoint = endpoint →
    ∃ handover ∈ state.record.handovers, handover.attempt = outcome.attempt

/-- What a happening on an endpoint has to do for the endpoint to stay punctual. -/
structure KeepsTime (settings : Settings) (state : State) (instant : Nanoseconds) (lane : Lane)
    (outcomes : List Outcome) : Prop where
  full : none ∉ lane.line
  early : lane.flight = none → ∀ attempt ∈ lane.waiting, instant < attempt.deadline settings
  ended : ∀ outcome ∈ outcomes, ∃ handover ∈ state.record.handovers,
    handover.attempt = outcome.attempt

theorem Punctual.advance (punctual : Punctual settings endpoint state) {place : Endpoint}
    {upcoming : List Attempt} {lane : Lane} {submissions : List Attempt} {outcomes : List Outcome}
    (own : AllFor place lane submissions outcomes)
    (here : place = endpoint → KeepsTime settings state instant lane outcomes) :
    Punctual settings endpoint
      (advance transport { state with upcoming } place instant lane submissions outcomes) := by
  constructor
  case busy =>
    by_cases same : endpoint = place
    · subst same
      rw [advance_lane]
      exact Lane.waiting_handOver_of_idle
    · rw [advance_lane_of_ne _ _ _ _ _ _ _ same]
      exact punctual.busy
  case full =>
    by_cases same : endpoint = place
    · subst same
      rw [advance_lane]
      exact fun empty => (here rfl).full ((Lane.line_handOver_suffix _ _ _ _).subset empty)
    · rw [advance_lane_of_ne _ _ _ _ _ _ _ same]
      exact punctual.full
  case early =>
    intro handover handed atEndpoint
    rw [advance_handovers, List.mem_append] at handed
    rcases handed with before | now
    · exact punctual.early handover before atEndpoint
    · obtain ⟨flight, -, same⟩ | ⟨-, -, same⟩ | ⟨attempt, line, idle, next, same⟩ :=
        Lane.handOver_cases transport state.record.handovers instant lane <;>
        simp only [same, List.not_mem_nil, List.mem_singleton] at now
      -- an idle endpoint takes the first in line, who is still in time
      subst now
      have inLine : attempt ∈ lane.waiting := by simp [next]
      exact (here ((own.waiting attempt inLine).symm.trans atEndpoint)).early idle attempt inLine
  case ended =>
    intro outcome member atEndpoint
    rcases List.mem_append.mp member with before | now
    · obtain ⟨handover, handed, same⟩ := punctual.ended outcome before atEndpoint
      exact ⟨handover, List.mem_append_left _ handed, same⟩
    · have place := (own.recorded outcome now).symm.trans atEndpoint
      obtain ⟨handover, handed, same⟩ := (here place).ended outcome now
      exact ⟨handover, List.mem_append_left _ handed, same⟩

/-- The deadlines of those in line come after that of the round trip, which is still to come. -/
theorem Punctual.waiting_lt (punctual : Punctual settings endpoint state)
    (reached : Reachable settings endpoints transport calls now state)
    (spread : state.record.IsSpread endpoint)
    (quiet : (state.lane endpoint).Quiet settings instant) :
    ∀ attempt ∈ (state.lane endpoint).waiting, instant < attempt.deadline settings := by
  intro attempt inLine
  cases flying : (state.lane endpoint).flight with
  | none =>
    rw [punctual.busy flying] at inLine
    cases inLine
  | some flight =>
    have sorted := reached.live_pairwise spread
    rw [Lane.live_eq, flying] at sorted
    have later : flight.attempt.submitted < attempt.submitted :=
      (List.pairwise_cons.mp sorted).1 attempt inLine
    have due := quiet.le_deadline (Lane.mem_live_of_flight flying)
    exact Nat.lt_of_le_of_lt due (Nat.add_lt_add_right later settings.timeout)

section Happenings

variable (punctual : Punctual settings endpoint state)
  (reached : Reachable settings endpoints transport calls now state)
include punctual reached

theorem Punctual.submission (time : 0 < settings.timeout) {attempt : Attempt}
    {rest : List Attempt} :
    Punctual settings endpoint (state.submit transport attempt rest) := by
  refine punctual.advance (reached.placed.submission attempt) ?_
  rintro rfl
  constructor
  case full => simpa [Lane.submit] using punctual.full
  case early =>
    -- an idle endpoint has nobody in line but the one who has just come
    intro idle other inLine
    rw [Lane.waiting_submit, punctual.busy idle, List.nil_append, List.mem_singleton] at inLine
    subst inLine
    exact Nat.lt_add_of_pos_right time
  case ended => simp

theorem Punctual.landing (time : 0 < settings.timeout) {place : Endpoint} {flight : Flight}
    {result : Result Text} (flying : (state.lane place).flight = some flight)
    (inTime : ∀ attempt ∈ (state.lane place).live, instant < attempt.deadline settings) :
    Punctual settings endpoint (state.land settings transport place instant result) := by
  rw [land_eq flying]
  refine punctual.advance (reached.placed.landing flying settings instant result) ?_
  rintro rfl
  constructor
  case full => simpa [Lane.foldl_submit, Lane.land] using punctual.full
  case early =>
    intro _ attempt inLine
    rw [Lane.waiting_foldl_submit, Lane.waiting_land] at inLine
    rcases List.mem_append.mp inLine with before | retried
    · exact inTime attempt (Lane.mem_live_of_waiting before)
    · -- a second attempt has all its time before it
      rw [(mem_retriesAfter.mp retried).2]
      exact Nat.lt_add_of_pos_right time
  case ended => simpa using reached.handed_of_flight flying

theorem Punctual.expiry (spread : state.record.IsSpread endpoint) {place : Endpoint}
    (quiet : (state.lane place).Quiet settings instant) :
    Punctual settings endpoint (state.expire settings transport place instant) := by
  refine punctual.advance (reached.placed.expiry place settings instant) ?_
  rintro rfl
  have waits := punctual.waiting_lt reached spread quiet
  constructor
  case full => exact Lane.none_not_mem_lineAt punctual.full waits
  case early =>
    intro _ attempt inLine
    rw [Lane.waiting_expire] at inLine
    exact waits attempt (List.mem_filter.mp inLine).1
  case ended =>
    -- the only deadline that can have come is that of the round trip
    intro outcome recorded
    obtain ⟨attempt, expired, rfl⟩ := List.mem_map.mp recorded
    obtain ⟨live, due⟩ := Lane.mem_expired.mp expired
    rw [Lane.live_eq, List.mem_append] at live
    rcases live with inFlight | inLine
    · simp only [Option.mem_toList, Option.map_eq_some_iff] at inFlight
      obtain ⟨flight, flying, rfl⟩ := inFlight
      exact reached.handed_of_flight flying
    · exact absurd due (Nat.not_le.mpr (waits attempt inLine))

end Happenings

theorem Punctual.happens (punctual : Punctual settings endpoint state)
    (reached : Reachable settings endpoints transport calls now state)
    (time : 0 < settings.timeout) (spread : state.record.IsSpread endpoint)
    (h : Happens settings endpoints transport state instant next) :
    Punctual settings endpoint next := by
  cases h with
  | submission upcoming before => exact punctual.submission reached time
  | landing member flying lands inTime quiet => exact punctual.landing reached time flying inTime
  | @expiry place _ member due flying quiet =>
    exact punctual.expiry reached spread (quiet.lane reached.placed place)

theorem Reachable.punctual (reached : Reachable settings endpoints transport calls now state)
    (time : 0 < settings.timeout) (spread : state.record.IsSpread endpoint) :
    Punctual settings endpoint state := by
  induction reached with
  | start =>
    constructor <;> simp [State.start, Lane.waiting]
  | happening before happens ih =>
    -- what is submitted apart now was so before
    have spread := happens.isStart.isSpread spread
    exact (ih spread).happens before time spread happens

/-- Whoever has an outcome was handed over before the deadline. -/
theorem Punctual.handed_of_outcome (punctual : Punctual settings endpoint state)
    {outcome : Outcome} (recorded : outcome ∈ state.record.outcomes)
    (place : outcome.attempt.endpoint = endpoint) :
    ∃ handover ∈ state.record.handovers, handover.attempt = outcome.attempt ∧
      handover.instant < outcome.attempt.deadline settings := by
  obtain ⟨handover, handed, same⟩ := punctual.ended outcome recorded place
  refine ⟨handover, handed, same, ?_⟩
  rw [← same]
  exact punctual.early handover handed (same ▸ place)

theorem submitted_le_of_handover {handover : Handover}
    (handed : handover ∈ (finalRecord settings endpoints transport calls).handovers) :
    handover.attempt.submitted ≤ handover.instant := by
  rw [← Record.map_handover_trips transport] at handed
  obtain ⟨trip, inTrips, rfl⟩ := List.mem_map.mp handed
  obtain ⟨now, serial⟩ := serial_finish settings endpoints transport calls trip.attempt.endpoint
  exact (serial.lasts trip (List.mem_append_left _ (Record.mem_tripsTo.mpr ⟨inTrips, rfl⟩))).1

end State

/-- What a dispatcher does for an endpoint that starves nobody. -/
structure StarvesNobody (dispatcher : Dispatcher) (transport : Transport) (calls : List Call)
    (endpoint : Endpoint) : Prop where
  /-- Every attempt is handed over before its caller gives up. -/
  handed : ∀ attempt ∈ (dispatcher.dispatch transport calls).record.submittedTo endpoint,
    ∃ handover ∈ (dispatcher.dispatch transport calls).record.handovers,
      handover.attempt = attempt ∧ attempt.submitted ≤ handover.instant ∧
      handover.instant < attempt.deadline dispatcher.settings
  /-- Nobody gives up in line: whoever has an outcome, a timeout included, has been handed over
  before the deadline. -/
  underway : ∀ steps, ∀ outcome ∈ (dispatcher.stateAfter transport calls steps).record.outcomes,
    outcome.attempt.endpoint = endpoint →
    ∃ handover ∈ (dispatcher.stateAfter transport calls steps).record.handovers,
      handover.attempt = outcome.attempt ∧
      handover.instant < outcome.attempt.deadline dispatcher.settings
  /-- The line never has the place of a caller who has given up. -/
  full : ∀ steps, none ∉ ((dispatcher.stateAfter transport calls steps).lane endpoint).line

/-- However many attempts hang, those behind them have their turn in time, if no two are submitted
to the endpoint at one instant. -/
theorem starves_nobody (dispatcher : Dispatcher) (transport : Transport) (calls : List Call)
    (endpoint : Endpoint)
    (spread : (dispatcher.dispatch transport calls).record.IsSpread endpoint) :
    StarvesNobody dispatcher transport calls endpoint := by
  have punctual (steps : Nat) : State.Punctual dispatcher.settings endpoint
      (dispatcher.stateAfter transport calls steps) := by
    obtain ⟨now, reached⟩ := State.Reachable.start.run steps
    exact reached.punctual dispatcher.timeout_pos
      ((State.isStart_finish _ _ transport calls steps).isSpread spread)
  constructor
  case handed =>
    intro attempt submitted
    obtain ⟨submitted, place⟩ := List.mem_filter.mp submitted
    -- every attempt has an outcome in the end, and was handed over before it
    rw [dispatcher.record_dispatch,
      ← (State.outcomes_perm_submissions _ _ _ _).mem_iff] at submitted
    obtain ⟨outcome, recorded, rfl⟩ := List.mem_map.mp submitted
    have place := of_decide_eq_true place
    obtain ⟨handover, handed, same, inTime⟩ :=
      (punctual (3 * calls.length)).handed_of_outcome recorded place
    refine ⟨handover, handed, same, ?_, inTime⟩
    rw [← same]
    exact State.submitted_le_of_handover handed
  case underway =>
    exact fun steps outcome recorded place => (punctual steps).handed_of_outcome recorded place
  case full => exact fun steps => (punctual steps).full

/-- The standard endpoint with little time and little room. -/
def hasty : Dispatcher :=
  { Dispatcher.usual with
    settings := { timeout := 10, capacity := 1 }
    capacity_pos := by decide
    timeout_pos := by decide }

/-- Three calls to an endpoint that never answers have their turns one deadline after the
other. -/
theorem starves_nobody_silent :
    let calls : List Call := [⟨0, .ofText "show info"⟩, ⟨1, .ofText "show stat"⟩,
      ⟨2, .ofText "show map"⟩]
    let report := hasty.dispatch (fun _ _ => .never) calls
    report.record.IsSpread .standard ∧
    report.record.handovers.map Handover.instant = [0, 10, 11] ∧
    StarvesNobody hasty (fun _ _ => .never) calls .standard := by
  intro calls report
  have spread : report.record.IsSpread .standard := by
    unfold Record.IsSpread
    decide +kernel
  exact ⟨spread, by decide +kernel, starves_nobody hasty _ calls .standard spread⟩

end Dispatch

end ProxyControl
