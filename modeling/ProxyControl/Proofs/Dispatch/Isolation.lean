import ProxyControl.Proofs.Dispatch.Part
import ProxyControl.Proofs.Dispatch.Report

/-!
# Isolation

What happens on an endpoint, and what comes of the calls that go there, is decided by these calls
and by the endpoint alone. Other calls, and whatever the transport does with them, neither delay
anything there nor change it.
-/
namespace ProxyControl.Dispatch

/-! ### Calls to an endpoint -/

def Call.goesTo (endpoints : List Endpoint) (endpoint : Endpoint) (call : Call) : Bool :=
  (Route.of? endpoints call.command).any fun route => route.endpoint = endpoint

/-- Whether a call is made at an instant, and goes to an endpoint. -/
def Call.isMadeTo (endpoints : List Endpoint) (endpoint : Endpoint) (instant : Nanoseconds)
    (call : Call) : Bool :=
  call.start = instant && call.goesTo endpoints endpoint

/-- The calls that are made to an endpoint at an instant, in the order given. -/
def callsTo (endpoints : List Endpoint) (endpoint : Endpoint) (instant : Nanoseconds)
    (calls : List Call) : List Call :=
  calls.filter (·.isMadeTo endpoints endpoint instant)

/-- Calls that go to an endpoint in the same order are the same at each instant. -/
theorem callsTo_congr {endpoints : List Endpoint} {endpoint : Endpoint} {calls calls' : List Call}
    (same : calls.filter (·.goesTo endpoints endpoint) =
      calls'.filter (·.goesTo endpoints endpoint)) (instant : Nanoseconds) :
    callsTo endpoints endpoint instant calls = callsTo endpoints endpoint instant calls' := by
  have split (calls : List Call) : callsTo endpoints endpoint instant calls =
      (calls.filter (·.goesTo endpoints endpoint)).filter fun call => call.start = instant := by
    rw [List.filter_filter]
    rfl
  rw [split, split, same]

/-- The results of the calls that are made to an endpoint at an instant. -/
def resultsTo (endpoints : List Endpoint) (endpoint : Endpoint) (instant : Nanoseconds)
    (calls : List Call) (results : List (Result Text)) : List (Result Text) :=
  ((calls.zip results).filter fun (call, _) => call.isMadeTo endpoints endpoint instant).map
    Prod.snd

/-- The attempts that are submitted at an instant. -/
def submittedAt (instant : Nanoseconds) (attempts : List Attempt) : List Attempt :=
  attempts.filter fun attempt => attempt.submitted = instant

/-- A call's first attempt, without a number. -/
def Call.attempt? (endpoints : List Endpoint) (call : Call) : Option Attempt :=
  (Route.of? endpoints call.command).map fun route =>
    ⟨0, false, route.endpoint, route.command, call.start⟩

/-- A call is made where and when its first attempt is. -/
theorem submittedAt_first {endpoints : List Endpoint} {call : Call} {route : Route}
    (routed : Route.of? endpoints call.command = some route) (endpoint : Endpoint)
    (instant : Nanoseconds) (caller : Nat) (later : List Attempt) :
    submittedAt instant (attemptsTo endpoint
        (⟨caller, false, route.endpoint, route.command, call.start⟩ :: later)) =
      if call.isMadeTo endpoints endpoint instant then
        ⟨caller, false, route.endpoint, route.command, call.start⟩ ::
          submittedAt instant (attemptsTo endpoint later)
      else submittedAt instant (attemptsTo endpoint later) := by
  by_cases place : route.endpoint = endpoint <;> by_cases time : call.start = instant <;>
    simp [submittedAt, attemptsTo, Call.isMadeTo, Call.goesTo, routed, place, time]

theorem isMadeTo_of_unrouted {endpoints : List Endpoint} {call : Call}
    (unrouted : Route.of? endpoints call.command = none) (endpoint : Endpoint)
    (instant : Nanoseconds) : call.isMadeTo endpoints endpoint instant = false := by
  simp [Call.isMadeTo, Call.goesTo, unrouted]

/-- The first attempts made at an instant are those of the calls made at that instant. -/
theorem anonymous_firstAttempts (endpoints : List Endpoint) (endpoint : Endpoint)
    (instant : Nanoseconds) (caller : Nat) (calls : List Call) :
    (submittedAt instant (attemptsTo endpoint (firstAttempts endpoints caller calls))).map
        Attempt.anonymous =
      (callsTo endpoints endpoint instant calls).filterMap (Call.attempt? endpoints) := by
  induction calls generalizing caller with
  | nil => rfl
  | cons call rest ih =>
    rw [callsTo, List.filter_cons, ← callsTo, firstAttempts]
    cases routed : Route.of? endpoints call.command with
    | none =>
      rw [isMadeTo_of_unrouted routed]
      exact ih (caller + 1)
    | some route =>
      simp only [submittedAt_first routed]
      split
      · rw [List.map_cons, ih, List.filterMap_cons, Call.attempt?, routed]
        rfl
      · exact ih (caller + 1)

theorem submittedAt_insertBySubmission (instant : Nanoseconds) (attempt : Attempt)
    (attempts : List Attempt) :
    submittedAt instant (insertBySubmission attempt attempts) =
      submittedAt instant (attempt :: attempts) := by
  induction attempts with
  | nil => rfl
  | cons other rest ih =>
    simp only [insertBySubmission]
    split
    · rfl
    next later =>
      -- the two do not start at one instant, so they do not both count
      have apart : ¬ (attempt.submitted = instant ∧ other.submitted = instant) := by
        rintro ⟨one, two⟩
        exact later (one.trans two.symm).le
      simp only [submittedAt, List.filter_cons] at ih ⊢
      rw [ih]
      by_cases one : attempt.submitted = instant <;> by_cases two : other.submitted = instant <;>
        simp_all

/-- Sorting the calls does not change the order of those that are made at one instant. -/
theorem submittedAt_start (endpoints : List Endpoint) (endpoint : Endpoint)
    (instant : Nanoseconds) (calls : List Call) :
    submittedAt instant (attemptsTo endpoint (State.start endpoints calls).upcoming) =
      submittedAt instant (attemptsTo endpoint (firstAttempts endpoints 0 calls)) := by
  have all : submittedAt instant (State.start endpoints calls).upcoming =
      submittedAt instant (firstAttempts endpoints 0 calls) := by
    simp only [State.start]
    induction firstAttempts endpoints 0 calls with
    | nil => rfl
    | cons attempt rest ih =>
      rw [List.foldr_cons, submittedAt_insertBySubmission]
      simp only [submittedAt, List.filter_cons] at ih ⊢
      rw [ih]
  simp only [submittedAt, attemptsTo] at all ⊢
  rw [List.filter_comm, all, List.filter_comm]

/-- What is first in a sorted list is not later than anything that the list has at an instant. -/
private theorem submitted_le_of_submittedAt {one two : Attempt} {first second : List Attempt}
    (least : ∀ later ∈ second, two.submitted ≤ later.submitted)
    (same : submittedAt one.submitted (one :: first) = submittedAt one.submitted (two :: second)) :
    two.submitted ≤ one.submitted := by
  have member : one ∈ submittedAt one.submitted (two :: second) := by
    rw [← same]
    simp [submittedAt]
  rcases List.mem_cons.mp (List.mem_filter.mp member).1 with rfl | behind
  · exact Nat.le_refl _
  · exact least one behind

/-- A sorted list is known by what it has at each instant. -/
theorem eq_of_submittedAt {first second : List Attempt}
    (sorted : first.Pairwise fun one two => one.submitted ≤ two.submitted)
    (sortedToo : second.Pairwise fun one two => one.submitted ≤ two.submitted)
    (same : ∀ instant, submittedAt instant first = submittedAt instant second) :
    first = second := by
  induction first generalizing second with
  | nil =>
    cases second with
    | nil => rfl
    | cons head rest => simpa [submittedAt] using same head.submitted
  | cons one first ih =>
    cases second with
    | nil => simpa [submittedAt] using same one.submitted
    | cons two second =>
      obtain ⟨least, restSorted⟩ := List.pairwise_cons.mp sorted
      obtain ⟨leastToo, restSortedToo⟩ := List.pairwise_cons.mp sortedToo
      -- each list begins with one of its earliest, so they begin at the same instant
      have le := submitted_le_of_submittedAt leastToo (same one.submitted)
      have ge := submitted_le_of_submittedAt least (same two.submitted).symm
      have heads := same one.submitted
      simp only [submittedAt, List.filter_cons, Nat.le_antisymm le ge, decide_true, if_true,
        List.cons.injEq] at heads
      obtain ⟨rfl, -⟩ := heads
      have tails : ∀ instant, submittedAt instant first = submittedAt instant second := by
        intro instant
        have both := same instant
        simp only [submittedAt, List.filter_cons] at both ⊢
        split at both
        · exact (List.cons.inj both).2
        · exact both
      rw [ih restSorted restSortedToo tails]

/-! ### Numbers that an endpoint can give -/

/-- The place of a caller among those of some attempts. -/
def numberIn (attempts : List Attempt) (caller : Nat) : Nat :=
  (attempts.map Attempt.caller).idxOf caller

/-- Numbered by their places, attempts that look the same to the endpoint are the same. -/
theorem map_renumbered_congr {attempts others : List Attempt}
    (nodup : (attempts.map Attempt.caller).Nodup) (nodupToo : (others.map Attempt.caller).Nodup)
    (same : attempts.map Attempt.anonymous = others.map Attempt.anonymous) :
    attempts.map (Attempt.renumbered (numberIn attempts)) =
      others.map (Attempt.renumbered (numberIn others)) := by
  have length : attempts.length = others.length := by
    simpa using congrArg List.length same
  refine List.ext_getElem (by simpa using length) fun index inside insideToo => ?_
  simp only [List.length_map] at inside insideToo
  have place : numberIn attempts attempts[index].caller = index := by
    rw [numberIn, ← List.getElem_map Attempt.caller]
    exact nodup.idxOf_getElem index (by simpa using inside)
  have placeToo : numberIn others others[index].caller = index := by
    rw [numberIn, ← List.getElem_map Attempt.caller]
    exact nodupToo.idxOf_getElem index (by simpa using insideToo)
  -- without its caller's number the attempt is the same on both sides
  have alike : attempts[index].anonymous = others[index].anonymous := by
    have both := congrArg (·[index]?) same
    simpa [inside, insideToo] using both
  rw [List.getElem_map, List.getElem_map]
  calc attempts[index].renumbered (numberIn attempts)
      = { attempts[index].anonymous with caller := index } :=
        congrArg (fun caller => { attempts[index].anonymous with caller }) place
    _ = { others[index].anonymous with caller := index } := by rw [alike]
    _ = others[index].renumbered (numberIn others) :=
        (congrArg (fun caller => { others[index].anonymous with caller }) placeToo).symm

/-- The first attempts to an endpoint, in the order in which they are made. -/
def firstsTo (endpoints : List Endpoint) (endpoint : Endpoint) (calls : List Call) :
    List Attempt :=
  attemptsTo endpoint (State.start endpoints calls).upcoming

theorem firstsTo_sublist (endpoints : List Endpoint) (endpoint : Endpoint) (calls : List Call) :
    (firstsTo endpoints endpoint calls).Sublist (State.start endpoints calls).upcoming :=
  List.filter_sublist

theorem mem_firstsTo {endpoints : List Endpoint} {endpoint : Endpoint} {calls : List Call}
    {first : Attempt} :
    first ∈ firstsTo endpoints endpoint calls ↔
      first ∈ firstAttempts endpoints 0 calls ∧ first.endpoint = endpoint := by
  rw [firstsTo, attemptsTo, List.mem_filter, (start_upcoming_perm endpoints calls).mem_iff,
    decide_eq_true_iff]

theorem nodup_firstsTo (endpoints : List Endpoint) (endpoint : Endpoint) (calls : List Call) :
    ((firstsTo endpoints endpoint calls).map Attempt.caller).Nodup := by
  have all := ((start_upcoming_perm endpoints calls).map Attempt.caller).nodup_iff.mpr
    (State.nodup_callers endpoints 0 calls)
  exact all.sublist ((firstsTo_sublist endpoints endpoint calls).map Attempt.caller)

/-- The calls to an endpoint decide what the endpoint can tell of their first attempts. -/
theorem anonymous_firstsTo_congr {endpoints : List Endpoint} {endpoint : Endpoint}
    {calls calls' : List Call}
    (same : ∀ instant, callsTo endpoints endpoint instant calls =
      callsTo endpoints endpoint instant calls') :
    (firstsTo endpoints endpoint calls).map Attempt.anonymous =
      (firstsTo endpoints endpoint calls').map Attempt.anonymous := by
  have sorted (calls : List Call) :
      ((firstsTo endpoints endpoint calls).map Attempt.anonymous).Pairwise
        fun one two => one.submitted ≤ two.submitted :=
    List.pairwise_map.mpr
      ((State.sorted_start endpoints calls).sublist (firstsTo_sublist endpoints endpoint calls))
  have known (calls : List Call) (instant : Nanoseconds) :
      submittedAt instant ((firstsTo endpoints endpoint calls).map Attempt.anonymous) =
        (callsTo endpoints endpoint instant calls).filterMap (Call.attempt? endpoints) := by
    rw [← anonymous_firstAttempts endpoints endpoint instant 0 calls, ← submittedAt_start,
      firstsTo, submittedAt, List.filter_map]
    rfl
  refine eq_of_submittedAt (sorted calls) (sorted calls') fun instant => ?_
  rw [known calls instant, known calls' instant, same instant]

/-- Numbered as the endpoint can number them, the calls to it decide its part at the start. -/
theorem part_start_congr {endpoints : List Endpoint} {endpoint : Endpoint}
    {calls calls' : List Call}
    (same : ∀ instant, callsTo endpoints endpoint instant calls =
      callsTo endpoints endpoint instant calls') :
    (State.start endpoints calls).part endpoint (numberIn (firstsTo endpoints endpoint calls)) =
      (State.start endpoints calls').part endpoint
        (numberIn (firstsTo endpoints endpoint calls')) := by
  have upcoming := map_renumbered_congr (nodup_firstsTo endpoints endpoint calls)
    (nodup_firstsTo endpoints endpoint calls') (anonymous_firstsTo_congr same)
  -- nothing has happened yet, so the calls are all there is
  simp only [firstsTo] at upcoming ⊢
  simp only [State.part, upcoming]
  rfl

/-! ### Results -/

/-- The result of the call that a first attempt is made for. -/
def Record.resultOf (settings : Settings) (record : Record) (first : Attempt) : Result Text :=
  record.result settings first.caller ⟨first.submitted, first.command⟩

theorem resultsTo_eq (dispatcher : Dispatcher) (record : Record) (endpoint : Endpoint)
    (instant : Nanoseconds) (caller : Nat) (calls : List Call) :
    resultsTo dispatcher.endpoints endpoint instant calls
        (dispatcher.results record caller calls) =
      (submittedAt instant (attemptsTo endpoint
        (firstAttempts dispatcher.endpoints caller calls))).map
          (record.resultOf dispatcher.settings) := by
  induction calls generalizing caller with
  | nil => rfl
  | cons call rest ih =>
    rw [resultsTo, Dispatcher.results, List.zip_cons_cons, List.filter_cons, firstAttempts]
    cases routed : Route.of? dispatcher.endpoints call.command with
    | none =>
      simp only [isMadeTo_of_unrouted routed, Bool.false_eq_true, if_false]
      exact ih (caller + 1)
    | some route =>
      have text : route.command.text = call.command.text := by
        rcases (Route.of?_cases routed).2 with same | ⟨process, same⟩ <;> rw [same]
        rfl
      have result : record.result dispatcher.settings caller call =
          record.resultOf dispatcher.settings
            ⟨caller, false, route.endpoint, route.command, call.start⟩ := by
        simp only [Record.result, Record.resultOf, text]
      simp only [submittedAt_first routed]
      split
      · rw [List.map_cons, List.map_cons, ← result]
        exact congrArg _ (ih (caller + 1))
      · exact ih (caller + 1)

/-- The result of a call can be told from its endpoint's part of the record. -/
theorem resultOf_part {settings : Settings} {record : Record} {endpoint : Endpoint}
    {number : Nat → Nat} {first : Attempt}
    (own : ∀ outcome ∈ record.outcomes, outcome.attempt.caller = first.caller ↔
      outcome.attempt.endpoint = endpoint ∧ number outcome.attempt.caller = number first.caller) :
    (record.part endpoint number).resultOf settings (first.renumbered number) =
      record.resultOf settings first := by
  have found : (record.part endpoint number).outcomes.reverse.find?
        (fun outcome => outcome.attempt.caller = (first.renumbered number).caller) =
      (record.outcomes.reverse.find? fun outcome =>
        outcome.attempt.caller = first.caller).map (Outcome.renumbered number) := by
    rw [Record.part, outcomesTo, ← List.map_reverse, ← List.filter_reverse, List.find?_map,
      List.find?_filter]
    congr 1
    refine List.find?_congr fun outcome recorded => ?_
    simp only [Function.comp_apply, decide_eq_true_eq, decide_eq_decide]
    exact (own outcome (List.mem_reverse.mp recorded)).symm
  rw [Record.resultOf, Record.resultOf, Record.result, Record.result, found]
  cases record.outcomes.reverse.find? fun outcome => outcome.attempt.caller = first.caller <;> rfl

namespace State

variable {settings : Settings} {endpoints : List Endpoint} {transport : Transport}
  {calls : List Call} {endpoint : Endpoint}

/-- The attempts of a call to an endpoint are those that have its number there. -/
theorem caller_eq_iff {first : Attempt} (member : first ∈ firstsTo endpoints endpoint calls)
    {outcome : Outcome}
    (recorded : outcome ∈ (finalRecord settings endpoints transport calls).outcomes) :
    outcome.attempt.caller = first.caller ↔
      outcome.attempt.endpoint = endpoint ∧
      numberIn (firstsTo endpoints endpoint calls) outcome.attempt.caller =
        numberIn (firstsTo endpoints endpoint calls) first.caller := by
  have known := known_finish settings endpoints transport calls
  obtain ⟨inFirsts, place⟩ := mem_firstsTo.mp member
  obtain ⟨origin, inFirsts', from_origin⟩ :=
    known.submissions outcome.attempt (known.outcomes outcome recorded)
  have caller : outcome.attempt.caller = origin.caller := Attempt.caller_of_origin from_origin
  have place' : outcome.attempt.endpoint = origin.endpoint := by
    rcases from_origin with same | ⟨instant, same⟩ <;> rw [same]
    rfl
  rw [caller, place']
  constructor
  · intro same
    have once := List.inj_on_of_nodup_map (nodup_callers endpoints 0 calls)
    rw [once inFirsts' inFirsts same]
    exact ⟨place, rfl⟩
  · rintro ⟨same, number⟩
    have inPart : origin ∈ firstsTo endpoints endpoint calls := mem_firstsTo.mpr ⟨inFirsts', same⟩
    exact (List.idxOf_inj (List.mem_map_of_mem inPart)).mp number

/-- What the calls to an endpoint result in can be told from its part of the run. -/
theorem resultsTo_dispatch (dispatcher : Dispatcher) (transport : Transport) (calls : List Call)
    (endpoint : Endpoint) (instant : Nanoseconds) :
    resultsTo dispatcher.endpoints endpoint instant calls
        (dispatcher.dispatch transport calls).results =
      (submittedAt instant ((State.start dispatcher.endpoints calls).part endpoint
        (numberIn (firstsTo dispatcher.endpoints endpoint calls))).upcoming).map
        (((State.finish dispatcher.settings dispatcher.endpoints transport calls).part endpoint
          (numberIn (firstsTo dispatcher.endpoints endpoint calls))).record.resultOf
            dispatcher.settings) := by
  have upcoming : submittedAt instant ((State.start dispatcher.endpoints calls).part endpoint
      (numberIn (firstsTo dispatcher.endpoints endpoint calls))).upcoming =
        (submittedAt instant (firstsTo dispatcher.endpoints endpoint calls)).map
          (Attempt.renumbered (numberIn (firstsTo dispatcher.endpoints endpoint calls))) := by
    rw [State.part, submittedAt, List.filter_map]
    rfl
  rw [Dispatcher.dispatch, resultsTo_eq, ← submittedAt_start, ← firstsTo, upcoming, List.map_map]
  refine List.map_congr_left fun first member => ?_
  have inPart := (List.mem_filter.mp member).1
  exact (resultOf_part fun outcome recorded => caller_eq_iff inPart recorded).symm

end State

/-! ### Two runs -/

/-- What two reports, of different calls, say alike about one endpoint. -/
structure AgreeAt (endpoints : List Endpoint) (endpoint : Endpoint) (calls calls' : List Call)
    (report report' : Dispatcher.Report) : Prop where
  submissions : (report.record.submittedTo endpoint).map Attempt.anonymous =
    (report'.record.submittedTo endpoint).map Attempt.anonymous
  /-- The endpoint is handed the same, in the same order and at the same instants. -/
  handovers : (handoversTo endpoint report.record.handovers).map Handover.anonymous =
    (handoversTo endpoint report'.record.handovers).map Handover.anonymous
  outcomes : (outcomesTo endpoint report.record.outcomes).map Outcome.anonymous =
    (outcomesTo endpoint report'.record.outcomes).map Outcome.anonymous
  /-- Each call that goes there has the same result. -/
  results : ∀ instant, resultsTo endpoints endpoint instant calls report.results =
    resultsTo endpoints endpoint instant calls' report'.results

/-- If the same calls are made to an endpoint, and it does the same with what it is handed, then
neither other calls nor other endpoints make a difference there. -/
theorem isolated (dispatcher : Dispatcher) {endpoint : Endpoint}
    {transport transport' server : Transport}
    (served : transport.IsServedBy endpoint server)
    (served' : transport'.IsServedBy endpoint server) {calls calls' : List Call}
    (same : ∀ instant, callsTo dispatcher.endpoints endpoint instant calls =
      callsTo dispatcher.endpoints endpoint instant calls') :
    AgreeAt dispatcher.endpoints endpoint calls calls' (dispatcher.dispatch transport calls)
      (dispatcher.dispatch transport' calls') := by
  have start := part_start_congr same
  have finish := State.part_finish_congr dispatcher.settings served served' start
  have record := congrArg State.record finish
  -- what is left of the two parts without numbers is what the endpoint can tell of the two runs
  constructor
  case submissions =>
    have parts := congrArg (fun part => part.submissions.map Attempt.anonymous) record
    simp only [State.part, Record.part, List.map_map] at parts
    exact parts
  case handovers =>
    have parts := congrArg (fun part => part.handovers.map Handover.anonymous) record
    simp only [State.part, Record.part, List.map_map] at parts
    exact parts
  case outcomes =>
    have parts := congrArg (fun part => part.outcomes.map Outcome.anonymous) record
    simp only [State.part, Record.part, List.map_map] at parts
    exact parts
  case results =>
    intro instant
    rw [State.resultsTo_dispatch, State.resultsTo_dispatch, start, finish]

/-- A transport that serves one endpoint in one way, and all others in another. -/
def Transport.serving (endpoint : Endpoint) (server elsewhere : Transport) : Transport :=
  fun history handover =>
    if handover.attempt.endpoint = endpoint then
      server ((handoversTo endpoint history).map Handover.anonymous) handover.anonymous
    else elsewhere history handover

theorem Transport.isServedBy_serving (endpoint : Endpoint) (server elsewhere : Transport) :
    (serving endpoint server elsewhere).IsServedBy endpoint server :=
  fun _ _ place => if_pos place

def besideMaster : Endpoint := .worker "/run/worker.sock" 1

/-- A worker beside a master, with little room on either. -/
def twoSockets : Dispatcher where
  endpoints := [besideMaster, .master "/run/master.sock"]
  settings := { timeout := 20, capacity := 1 }
  endpoints_ne_nil := by simp
  capacity_pos := by decide
  timeout_pos := by decide

/-- A far end whose first answer gets lost. -/
def recovering : Transport := fun history handover =>
  if history = [] then
    .after 2 (.error (besideMaster.failure handover.attempt.command.text "reset"))
  else .after 3 (.ok handover.attempt.command.text)

/-- A master that hangs while its queue is full does not show on the worker. -/
theorem isolated_hangingMaster :
    let calls : List Call := [⟨0, .ofText "show info"⟩, ⟨1, .ofText "show stat"⟩]
    let calls' : List Call := [⟨0, (Command.ofText "show proc").sentTo .master⟩,
      ⟨0, .ofText "show info"⟩, ⟨0, (Command.ofText "reload").sentTo .master⟩,
      ⟨1, .ofText "show stat"⟩]
    let transport := Transport.serving besideMaster recovering fun _ _ => .after 1 (.ok "")
    let transport' := Transport.serving besideMaster recovering fun _ _ => .never
    transport.IsServedBy besideMaster recovering ∧ transport'.IsServedBy besideMaster recovering ∧
    (∀ instant, callsTo twoSockets.endpoints besideMaster instant calls =
      callsTo twoSockets.endpoints besideMaster instant calls') ∧
    (twoSockets.dispatch transport calls).results = [.ok "show info", .ok "show stat"] ∧
    AgreeAt twoSockets.endpoints besideMaster calls calls' (twoSockets.dispatch transport calls)
      (twoSockets.dispatch transport' calls') := by
  intro calls calls' transport transport'
  have served := Transport.isServedBy_serving besideMaster recovering fun _ _ => .after 1 (.ok "")
  have served' := Transport.isServedBy_serving besideMaster recovering fun _ _ => .never
  have same := callsTo_congr (show calls.filter (·.goesTo twoSockets.endpoints besideMaster) =
    calls'.filter (·.goesTo twoSockets.endpoints besideMaster) by decide +kernel)
  exact ⟨served, served', same, by decide +kernel, isolated twoSockets served served' same⟩

end ProxyControl.Dispatch
