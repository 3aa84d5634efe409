import ProxyControl.Proofs.Dispatch.Report

/-!
# One call by itself

A call with nobody else about is handed over at once, if it has a route, and whatever is handed
over while it lasts is the command that the route makes of it.
-/
namespace ProxyControl.Dispatch

namespace State

variable {settings : Settings} {endpoints : List Endpoint} {transport : Transport}

/-- The first call is handed over as soon as it is submitted. -/
theorem handovers_finish_single {call : Call} {route : Route}
    (routed : Route.of? endpoints call.command = some route) :
    (finalRecord settings endpoints transport [call]).handovers ≠ [] := by
  have upcoming : (start endpoints [call]).upcoming =
      [⟨0, false, route.endpoint, route.command, call.start⟩] := by
    simp [start, firstAttempts, routed, insertBySubmission]
  have idle : (start endpoints [call]).nextTurn? settings endpoints = none := by
    rw [nextTurn?_eq_none_iff]
    exact fun endpoint _ => rfl
  have stepped : (start endpoints [call]).step settings endpoints transport =
      some ((start endpoints [call]).submit transport
        ⟨0, false, route.endpoint, route.command, call.start⟩ []) := by
    rw [step, idle, upcoming]
  -- the first step hands over, and what the others add stands behind that
  intro silent
  have kept := (isStart_run settings endpoints transport
    ((start endpoints [call]).submit transport
      ⟨0, false, route.endpoint, route.command, call.start⟩ []) 2).handovers
  have first : finalRecord settings endpoints transport [call] =
      (((start endpoints [call]).submit transport
        ⟨0, false, route.endpoint, route.command, call.start⟩ []).run settings endpoints transport
          2).record := by
    rw [finalRecord, finish, List.length_singleton, Nat.mul_one, run, stepped]
  rw [← first, silent, List.prefix_nil] at kept
  simp [submit, start, Lane.submit, Lane.handOver, Lane.first?] at kept

/-- Whatever is handed over during a single call is the command of its route. -/
theorem command_of_mem_handovers {call : Call} {handover : Handover}
    (member : handover ∈ (finalRecord settings endpoints transport [call]).handovers) :
    ∃ route, Route.of? endpoints call.command = some route ∧
      handover.attempt.caller = 0 ∧ handover.attempt.command = route.command := by
  obtain ⟨first, inFirsts, origin⟩ :=
    (known_finish settings endpoints transport [call]).submissions handover.attempt
      (submitted_of_handover settings endpoints transport [call] member)
  obtain ⟨index, other, route, there, routed, rfl⟩ := mem_firstAttempts.mp inFirsts
  -- there is no other call that the attempt could be for
  obtain ⟨rfl, rfl⟩ : index = 0 ∧ other = call := by
    cases index with
    | zero => simpa using there.symm
    | succ index => simp at there
  refine ⟨route, routed, ?_⟩
  rcases origin with same | ⟨instant, same⟩
  · exact ⟨congrArg Attempt.caller same, congrArg Attempt.command same⟩
  · exact ⟨congrArg Attempt.caller same, congrArg Attempt.command same⟩

/-- A single call is the only one that round trips are made for. -/
theorem tripsOf_single (call : Call) :
    (finalRecord settings endpoints transport [call]).tripsOf transport 0 =
      (finalRecord settings endpoints transport [call]).trips transport := by
  refine List.filter_eq_self.mpr fun trip inTrips => ?_
  have handed : trip.handover ∈ (finalRecord settings endpoints transport [call]).handovers := by
    rw [← Record.map_handover_trips transport]
    exact List.mem_map_of_mem inTrips
  obtain ⟨-, -, caller, -⟩ := command_of_mem_handovers handed
  exact decide_eq_true caller

theorem mem_firstAttempts_single {call : Call} {route : Route}
    (routed : Route.of? endpoints call.command = some route) :
    (⟨0, false, route.endpoint, route.command, call.start⟩ : Attempt) ∈
      firstAttempts endpoints 0 [call] := by
  simp [firstAttempts, routed]

theorem length_handovers_single {call : Call} {route : Route}
    (routed : Route.of? endpoints call.command = some route) :
    (finalRecord settings endpoints transport [call]).handovers.length ≤ 2 := by
  rw [← Record.map_handover_trips transport, List.length_map, ← tripsOf_single]
  exact length_tripsOf_le settings endpoints transport [call] (mem_firstAttempts_single routed)

end State

end ProxyControl.Dispatch

namespace ProxyControl.Dispatcher

open Dispatch

/-- The commands that are handed over while a request is carried out. -/
def sent {α : Type} (dispatcher : Dispatcher) (transport : Transport) (request : Request α) :
    List Command :=
  (dispatcher.handovers transport request).map fun handover => handover.attempt.command

/-- A request that asks for anything sends its command, and sends it again at most once. -/
theorem sent_ask {α : Type} (dispatcher : Dispatcher) (transport : Transport) {command : Command}
    (read : Text → Result α) {route : Route}
    (routed : Route.of? dispatcher.endpoints command = some route) :
    dispatcher.sent transport (.ask command read) = [route.command] ∨
      dispatcher.sent transport (.ask command read) = [route.command, route.command] := by
  have same : ∀ other ∈ dispatcher.sent transport (.ask command read), other = route.command := by
    intro other member
    obtain ⟨handover, handed, rfl⟩ := List.mem_map.mp member
    obtain ⟨found, routed', -, same⟩ := State.command_of_mem_handovers handed
    rw [same, Option.some.inj (routed.symm.trans routed')]
  have some : dispatcher.sent transport (.ask command read) ≠ [] := by
    intro silent
    exact State.handovers_finish_single routed (List.map_eq_nil_iff.mp silent)
  have few : (dispatcher.sent transport (.ask command read)).length ≤ 2 := by
    rw [sent, List.length_map]
    exact State.length_handovers_single routed
  -- one or two commands, and all of them the same
  generalize dispatcher.sent transport (.ask command read) = commands at same some few ⊢
  match commands, some, few with
  | [one], _, _ => exact .inl (by simpa using same)
  | [one, two], _, _ => exact .inr (by simpa using same)

end ProxyControl.Dispatcher
