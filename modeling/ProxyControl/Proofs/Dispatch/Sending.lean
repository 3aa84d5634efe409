import ProxyControl.Proofs.Dispatch.AtMostTwice
import ProxyControl.Proofs.Dispatch.Route
import ProxyControl.Proofs.Dispatch.SingleCall

/-!
# Sending one command

A command that is sent by itself has one of three ends: there is no route for it, the transport
answers one of its round trips, or time runs out.
-/
namespace ProxyControl

open Dispatch

/-- A route changes nothing of a command but the worker that it is addressed to. -/
theorem Dispatch.Route.command_of? {endpoints : List Endpoint} {command : Command} {route : Route}
    (routed : Route.of? endpoints command = some route) :
    route.command = { command with forwardedTo := route.command.forwardedTo } := by
  rcases (Route.of?_cases routed).2 with direct | ⟨process, behind⟩
  · rw [direct]
  · rw [behind]
    rfl

theorem Dispatch.Route.text_of? {endpoints : List Endpoint} {command : Command} {route : Route}
    (routed : Route.of? endpoints command = some route) : route.command.text = command.text := by
  rw [command_of? routed]

/-- Within its time a round trip ends with what the transport makes of it. -/
theorem Dispatch.Trip.outcome_cases (settings : Settings) (trip : Trip) :
    (∃ delay, trip.reply = .after delay (trip.outcome settings).result) ∨
      trip.outcome settings = trip.attempt.gaveUp settings := by
  cases completed : trip.completion? settings with
  | none => exact .inr (by rw [Trip.outcome, completed])
  | some landing =>
    obtain ⟨instant, result⟩ := landing
    obtain ⟨lands, inTime⟩ := Trip.completion?_eq_some_iff.mp completed
    left
    rw [Trip.outcome_of_landing lands inTime]
    cases replied : trip.reply with
    | never => simp [replied, Reply.landing?] at lands
    | after delay reply =>
      simp only [replied, Reply.landing?, Option.some.injEq, Prod.mk.injEq] at lands
      exact ⟨delay, by rw [lands.2]⟩

namespace Dispatcher

variable {α : Type} {dispatcher : Dispatcher} {transport : Transport}

/-- The round trips made while a request is carried out. -/
def trips (dispatcher : Dispatcher) (transport : Transport) (request : Request α) : List Trip :=
  tripsFrom transport [] (dispatcher.handovers transport request)

theorem map_handover_trips (request : Request α) :
    (dispatcher.trips transport request).map Trip.handover =
      dispatcher.handovers transport request :=
  map_handover_tripsFrom transport [] _

/-- Whatever is handed over for a request is its command, perhaps addressed to a worker. -/
theorem command_of_mem_handovers {request : Request α} {handover : Handover}
    (handed : handover ∈ dispatcher.handovers transport request) :
    ∃ command ∈ request.command?, handover.attempt.command =
      { command with forwardedTo := handover.attempt.command.forwardedTo } := by
  cases request with
  | refused failure => cases handed
  | ask command read =>
    obtain ⟨route, routed, -, same⟩ := State.command_of_mem_handovers handed
    refine ⟨command, rfl, ?_⟩
    rw [same]
    exact Route.command_of? routed

theorem text_of_mem_handovers {request : Request α} {handover : Handover}
    (handed : handover ∈ dispatcher.handovers transport request) :
    ∃ command ∈ request.command?, handover.attempt.command.text = command.text := by
  obtain ⟨command, asked, same⟩ := command_of_mem_handovers handed
  exact ⟨command, asked, by rw [same]⟩

theorem length_handovers_le (request : Request α) :
    (dispatcher.handovers transport request).length ≤ 2 := by
  cases request with
  | refused failure => exact Nat.zero_le 2
  | ask command read =>
    rcases dispatcher.handovers transport (.ask command read) |>.eq_nil_or_concat with
      silent | ⟨earlier, last, some⟩
    · simp [silent]
    · have handed : last ∈ dispatcher.handovers transport (.ask command read) := by simp [some]
      obtain ⟨route, routed, -⟩ := State.command_of_mem_handovers handed
      exact State.length_handovers_single routed

/-- If anything is handed over twice for a request, it is one attempt that is made again. -/
theorem handovers_eq_pair {request : Request α} {first second : Handover}
    (both : dispatcher.handovers transport request = [first, second]) :
    ∃ instant, second.attempt = first.attempt.again instant := by
  cases request with
  | refused failure => cases both
  | ask command read =>
    have handed : first ∈ dispatcher.handovers transport (.ask command read) := by simp [both]
    obtain ⟨route, routed, -⟩ := State.command_of_mem_handovers handed
    have trips : (State.finalRecord dispatcher.settings dispatcher.endpoints transport
        [⟨0, command⟩]).tripsOf transport 0 =
          [⟨first, transport [] first⟩, ⟨second, transport [first] second⟩] := by
      rw [State.tripsOf_single, Record.trips, ← dispatcher.record_dispatch]
      exact congrArg (tripsFrom transport []) both
    obtain ⟨instant, result, -, once, again⟩ :=
      State.tripsOf_eq_pair (State.mem_firstAttempts_single routed) trips
    -- the first of the two is the attempt that the call begins with
    have origin := congrArg Outcome.attempt once
    rw [Trip.outcome_attempt] at origin
    exact ⟨instant, again.trans (congrArg (·.again instant) origin.symm)⟩

/-- A command that has a route gets the result of one of its attempts. -/
theorem outcome_send {command : Command} {route : Route}
    (routed : Route.of? dispatcher.endpoints command = some route) :
    ∃ outcome ∈ (dispatcher.dispatch transport [⟨0, command⟩]).record.outcomes,
      outcome.attempt.command.text = command.text ∧
        dispatcher.send transport command = outcome.result := by
  have member : (⟨0, false, route.endpoint, route.command, 0⟩ : Attempt) ∈
      firstAttempts dispatcher.endpoints 0 [⟨0, command⟩] :=
    State.mem_firstAttempts_single routed
  -- the caller gets what its last attempt has come to
  have returned {outcome : Outcome}
      (last : (outcomesOf 0
        (dispatcher.dispatch transport [⟨0, command⟩]).record.outcomes).getLast? = some outcome) :
      dispatcher.send transport command = outcome.result := by
    have placed := dispatcher.result_of_getLast? transport _ member last
    rw [send, List.headD_eq_head?_getD, List.head?_eq_getElem?, placed]
    rfl
  obtain ⟨result, instant, -, -, outcomes⟩ | ⟨_, _, last, -, again, -, outcomes⟩ :=
    State.call_cases dispatcher.settings dispatcher.endpoints transport _ member
  · have last : (outcomesOf 0
        (dispatcher.dispatch transport [⟨0, command⟩]).record.outcomes).getLast? =
          some ⟨⟨0, false, route.endpoint, route.command, 0⟩, instant, result⟩ := by
      rw [Dispatcher.record_dispatch, outcomes]
      rfl
    exact ⟨_, (mem_outcomesOf.mp (List.mem_of_getLast? last)).1, Route.text_of? routed,
      returned last⟩
  · have ended : (outcomesOf 0
        (dispatcher.dispatch transport [⟨0, command⟩]).record.outcomes).getLast? = some last := by
      rw [Dispatcher.record_dispatch, outcomes]
      rfl
    refine ⟨last, (mem_outcomesOf.mp (List.mem_of_getLast? ended)).1, ?_, returned ended⟩
    rw [again]
    exact Route.text_of? routed

/-- What becomes of a command that is sent by itself. -/
theorem send_cases (command : Command) (read : Text → Result α) :
    (dispatcher.handovers transport (.ask command read) = [] ∧
      dispatcher.send transport command = .error (unroutable command)) ∨
    (∃ trip ∈ dispatcher.trips transport (.ask command read), ∃ delay,
      trip.reply = .after delay (dispatcher.send transport command)) ∨
    (dispatcher.handovers transport (.ask command read) ≠ [] ∧
      dispatcher.send transport command =
        .error (.timeout dispatcher.settings.timeout command.text)) := by
  cases routed : Route.of? dispatcher.endpoints command with
  | none =>
    refine .inl ⟨?_, ?_⟩
    · refine List.eq_nil_iff_forall_not_mem.mpr fun handover handed => ?_
      obtain ⟨route, routed', -⟩ := State.command_of_mem_handovers handed
      rw [routed] at routed'
      cases routed'
    · simp [send, dispatch, results, routed]
  | some route =>
    right
    have handed : dispatcher.handovers transport (.ask command read) ≠ [] :=
      State.handovers_finish_single routed
    obtain ⟨outcome, recorded, text, result⟩ :
        ∃ outcome ∈ (dispatcher.dispatch transport [⟨0, command⟩]).record.outcomes, _ ∧ _ :=
      outcome_send routed
    have timeout (gaveUp : outcome = outcome.attempt.gaveUp dispatcher.settings) :
        outcome.result = .error (.timeout dispatcher.settings.timeout command.text) := by
      rw [gaveUp, ← text]
      rfl
    rw [result]
    -- an attempt may have given up without being handed over, or during its round trip
    rcases State.outcome_cases _ _ transport _ recorded with ⟨trip, inTrips, same⟩ | gaveUp
    · rcases trip.outcome_cases dispatcher.settings with replied | gaveUp
      · exact .inl ⟨trip, inTrips, same ▸ replied⟩
      · refine .inr ⟨handed, timeout ?_⟩
        rw [same, Trip.outcome_attempt, gaveUp]
    · exact .inr ⟨handed, timeout gaveUp⟩

end Dispatcher

end ProxyControl
