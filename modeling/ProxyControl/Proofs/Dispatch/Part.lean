import ProxyControl.Proofs.Dispatch.Trip

/-!
# One endpoint's part

An endpoint's part of a run is a run too, of that endpoint alone: what happens on the other
endpoints does not show in it, and what happens on this one happens there at the same instant.
The numbers of the callers have no influence on what happens, so a part can be told with other
numbers than the run that it is a part of.
-/
namespace ProxyControl.Dispatch

/-! ### Callers under other numbers -/

/-- The same attempt, its caller going by another number. -/
def Attempt.renumbered (number : Nat → Nat) (attempt : Attempt) : Attempt :=
  { attempt with caller := number attempt.caller }

def Flight.renumbered (number : Nat → Nat) (flight : Flight) : Flight :=
  { flight with attempt := flight.attempt.renumbered number }

def Handover.renumbered (number : Nat → Nat) (handover : Handover) : Handover :=
  { handover with attempt := handover.attempt.renumbered number }

def Outcome.renumbered (number : Nat → Nat) (outcome : Outcome) : Outcome :=
  { outcome with attempt := outcome.attempt.renumbered number }

def Lane.renumbered (number : Nat → Nat) (lane : Lane) : Lane where
  flight := lane.flight.map (Flight.renumbered number)
  line := lane.line.map (Option.map (Attempt.renumbered number))

/-- What an endpoint can tell of an attempt, which is not whose it is. -/
def Attempt.anonymous (attempt : Attempt) : Attempt := attempt.renumbered fun _ => 0

def Handover.anonymous (handover : Handover) : Handover := handover.renumbered fun _ => 0

def Outcome.anonymous (outcome : Outcome) : Outcome := outcome.renumbered fun _ => 0

section Renumbered

variable (settings : Settings) (instant : Nanoseconds) (number : Nat → Nat)

@[simp] theorem Lane.isOpen_renumbered (attempt : Attempt) :
    isOpen settings instant (attempt.renumbered number) = isOpen settings instant attempt := rfl

theorem map_retriesAfter (attempt : Attempt) (result : Result Text) :
    (retriesAfter settings attempt instant result).map (Attempt.renumbered number) =
      retriesAfter settings (attempt.renumbered number) instant result := by
  have same : State.isRetried settings (attempt.renumbered number) result =
      State.isRetried settings attempt result := rfl
  unfold retriesAfter
  rw [same]
  split <;> rfl

namespace Lane

variable (lane : Lane)

theorem live_renumbered :
    (lane.renumbered number).live = lane.live.map (Attempt.renumbered number) := by
  have waiting : (lane.renumbered number).line.filterMap id =
      (lane.line.filterMap id).map (Attempt.renumbered number) := by
    rw [renumbered, List.filterMap_map, List.map_filterMap]
    rfl
  rw [live, live, List.map_append, waiting]
  cases flying : lane.flight <;> simp [renumbered, Flight.renumbered, flying]

theorem submit_renumbered (attempt : Attempt) :
    (lane.submit attempt).renumbered number =
      (lane.renumbered number).submit (attempt.renumbered number) := by
  simp [submit, renumbered]

theorem foldl_submit_renumbered (attempts : List Attempt) :
    (attempts.foldl submit lane).renumbered number =
      (attempts.map (Attempt.renumbered number)).foldl submit (lane.renumbered number) := by
  induction attempts generalizing lane with
  | nil => rfl
  | cons attempt rest ih => rw [List.foldl_cons, ih, submit_renumbered, List.map_cons,
      List.foldl_cons]

theorem expired_renumbered :
    (lane.renumbered number).expired settings instant =
      (lane.expired settings instant).map (Attempt.renumbered number) := by
  rw [expired, expired, live_renumbered, List.filter_map]
  rfl

private theorem lineAt_renumbered (line : List (Option Attempt)) :
    (lineAt settings instant line).map (Option.map (Attempt.renumbered number)) =
      lineAt settings instant (line.map (Option.map (Attempt.renumbered number))) := by
  have inQueue (place : Option Attempt) :
      (place.filter (isOpen settings instant)).map (Attempt.renumbered number) =
        (place.map (Attempt.renumbered number)).filter (isOpen settings instant) := by
    cases place with
    | none => rfl
    | some attempt => cases kept : isOpen settings instant attempt <;> simp [Option.filter, kept]
  have behind (place : Option Attempt) :
      (place.map (Attempt.renumbered number)).any (isOpen settings instant) =
        place.any (isOpen settings instant) := by
    cases place <;> rfl
  simp only [lineAt, List.map_append, List.map_map, Function.comp_def, inQueue, ← List.map_take,
    ← List.map_drop, List.filter_map, behind]

theorem expire_renumbered :
    (lane.expire settings instant).renumbered number =
      (lane.renumbered number).expire settings instant := by
  have flight : (lane.flight.filter fun flight => isOpen settings instant flight.attempt).map
      (Flight.renumbered number) = (lane.flight.map (Flight.renumbered number)).filter
        fun flight => isOpen settings instant flight.attempt := by
    cases lane.flight with
    | none => rfl
    | some flight =>
      cases kept : isOpen settings instant flight.attempt <;>
        simp [Option.filter, Flight.renumbered, kept]
  simp only [expire, renumbered, lineAt_renumbered, flight]

/-- The numbers of the callers do not decide whose turn it is. -/
theorem next?_renumbered : (lane.renumbered number).next? settings = lane.next? settings := by
  have landing : (lane.renumbered number).flight.bind Flight.landing =
      lane.flight.bind Flight.landing := by
    cases flying : lane.flight <;> simp [renumbered, Flight.renumbered, flying]
  rw [next?, next?, landing, live_renumbered, List.map_map]
  rfl

private theorem first?_renumbered (line : List (Option Attempt)) :
    first? (line.map (Option.map (Attempt.renumbered number))) =
      (first? line).map (Prod.map (Attempt.renumbered number)
        (List.map (Option.map (Attempt.renumbered number)))) := by
  induction line with
  | nil => rfl
  | cons place line ih =>
    cases place with
    | none => exact ih
    | some attempt => rfl

/-- If two far ends do the same with those in line, the lane does the same with either. -/
theorem handOver_renumbered {transport other : Transport} {history seen : List Handover}
    (same : ∀ attempt ∈ lane.waiting,
      other seen ⟨attempt.renumbered number, instant⟩ = transport history ⟨attempt, instant⟩) :
    (lane.renumbered number).handOver other seen instant =
      ((lane.handOver transport history instant).1.renumbered number,
        (lane.handOver transport history instant).2.map (Handover.renumbered number)) := by
  have turn := first?_renumbered number lane.line
  cases flying : lane.flight with
  | some flight => simp [handOver, renumbered, flying]
  | none =>
    cases firstInLine : first? lane.line with
    | none =>
      rw [firstInLine] at turn
      simp [handOver, renumbered, flying, firstInLine, turn]
    | some found =>
      obtain ⟨attempt, line⟩ := found
      have inLine : attempt ∈ lane.waiting := by
        rw [waiting, filterMap_eq_of_first? firstInLine]
        exact List.mem_cons_self
      rw [firstInLine] at turn
      simp only [handOver, renumbered, flying, firstInLine, turn, Option.map_none, Option.map_some,
        Prod.map, same attempt inLine]
      rfl

end Lane

end Renumbered

/-! ### Parts -/

/-- The attempts that are for an endpoint. -/
def attemptsTo (endpoint : Endpoint) (attempts : List Attempt) : List Attempt :=
  attempts.filter fun attempt => attempt.endpoint = endpoint

/-- What an endpoint is handed. -/
def handoversTo (endpoint : Endpoint) (handovers : List Handover) : List Handover :=
  handovers.filter fun handover => handover.attempt.endpoint = endpoint

def outcomesTo (endpoint : Endpoint) (outcomes : List Outcome) : List Outcome :=
  outcomes.filter fun outcome => outcome.attempt.endpoint = endpoint

/-- What is on record for one endpoint. -/
def Record.part (endpoint : Endpoint) (number : Nat → Nat) (record : Record) : Record where
  submissions := (record.submittedTo endpoint).map (Attempt.renumbered number)
  handovers := (handoversTo endpoint record.handovers).map (Handover.renumbered number)
  outcomes := (outcomesTo endpoint record.outcomes).map (Outcome.renumbered number)

/-- What one endpoint has to do with a state. -/
def State.part (endpoint : Endpoint) (number : Nat → Nat) (state : State) : State where
  upcoming := (attemptsTo endpoint state.upcoming).map (Attempt.renumbered number)
  lane := fun place => if place = endpoint then (state.lane endpoint).renumbered number else {}
  record := state.record.part endpoint number

/-- Whether a transport does with the commands for an endpoint what `server` does, which is told
what the endpoint was handed and nothing else. -/
def Transport.IsServedBy (transport : Transport) (endpoint : Endpoint) (server : Transport) :
    Prop :=
  ∀ history handover, handover.attempt.endpoint = endpoint →
    transport history handover =
      server ((handoversTo endpoint history).map Handover.anonymous) handover.anonymous

/-- A transport to one endpoint only, which does not know whose commands it carries. -/
def Transport.ofServer (server : Transport) : Transport := fun history handover =>
  server (history.map Handover.anonymous) handover.anonymous

theorem Transport.IsServedBy.ofServer {transport server : Transport} {endpoint : Endpoint}
    (served : transport.IsServedBy endpoint server) (number : Nat → Nat)
    (history : List Handover) {attempt : Attempt} (place : attempt.endpoint = endpoint)
    (instant : Nanoseconds) :
    Transport.ofServer server ((handoversTo endpoint history).map (Handover.renumbered number))
        ⟨attempt.renumbered number, instant⟩ =
      transport history ⟨attempt, instant⟩ := by
  rw [served history _ place, Transport.ofServer, List.map_map]
  rfl

namespace State

variable {settings : Settings} {endpoints : List Endpoint} {transport server : Transport}
  {calls : List Call} {endpoint place : Endpoint} {number : Nat → Nat}
  {now instant : Nanoseconds} {state next : State}

@[simp] theorem lane_part (state : State) :
    (state.part endpoint number).lane endpoint = (state.lane endpoint).renumbered number :=
  if_pos rfl

/-- What happens on the endpoint happens in its part. -/
theorem part_advance (served : transport.IsServedBy endpoint server) (state : State)
    (upcoming : List Attempt) {lane : Lane} {submissions : List Attempt}
    {outcomes : List Outcome}
    (own : AllFor endpoint lane submissions outcomes) :
    (advance transport { state with upcoming } endpoint instant lane submissions outcomes).part
        endpoint number =
      advance (.ofServer server)
        { state.part endpoint number with
          upcoming := (attemptsTo endpoint upcoming).map (Attempt.renumbered number) }
        endpoint instant (lane.renumbered number)
        (submissions.map (Attempt.renumbered number))
        (outcomes.map (Outcome.renumbered number)) := by
  have handedOver : (lane.renumbered number).handOver (.ofServer server)
      (state.part endpoint number).record.handovers instant =
      ((lane.handOver transport state.record.handovers instant).1.renumbered number,
        (lane.handOver transport state.record.handovers instant).2.map
          (Handover.renumbered number)) :=
    lane.handOver_renumbered instant number fun attempt inLine =>
      served.ofServer number state.record.handovers (own.waiting attempt inLine) instant
  have handed := own.handed transport state.record.handovers instant
  -- everything new is the endpoint's own, so none of it is left out of the part
  have allSubmitted : attemptsTo endpoint submissions = submissions :=
    List.filter_eq_self.mpr fun attempt member => decide_eq_true (own.submitted attempt member)
  have allHanded : handoversTo endpoint (lane.handOver transport state.record.handovers instant).2 =
      (lane.handOver transport state.record.handovers instant).2 :=
    List.filter_eq_self.mpr fun handover member => decide_eq_true (handed handover member)
  have allRecorded : outcomesTo endpoint outcomes = outcomes :=
    List.filter_eq_self.mpr fun outcome member => decide_eq_true (own.recorded outcome member)
  simp only [attemptsTo, handoversTo, outcomesTo] at allSubmitted allHanded allRecorded
  simp only [advance, handedOver]
  simp only [part, Record.part, Record.submittedTo, attemptsTo, handoversTo, outcomesTo,
    List.filter_append, List.map_append, if_true, State.mk.injEq, true_and, allSubmitted,
    allHanded, allRecorded, and_true]
  funext other
  split <;> rfl

/-- What happens on another endpoint does not show in the part. -/
theorem part_advance_of_ne (ne : place ≠ endpoint) (state : State) {upcoming : List Attempt}
    (same : attemptsTo endpoint upcoming = attemptsTo endpoint state.upcoming)
    {lane : Lane} {submissions : List Attempt} {outcomes : List Outcome}
    (own : AllFor place lane submissions outcomes) :
    (advance transport { state with upcoming } place instant lane submissions outcomes).part
        endpoint number =
      state.part endpoint number := by
  have handed := own.handed transport state.record.handovers instant
  -- everything new is of the other endpoint, so all of it is left out of the part
  have noneSubmitted : attemptsTo endpoint submissions = [] :=
    List.filter_eq_nil_iff.mpr fun attempt member => by
      simpa [own.submitted attempt member] using ne
  have noneHanded : handoversTo endpoint
      (lane.handOver transport state.record.handovers instant).2 = [] :=
    List.filter_eq_nil_iff.mpr fun handover member => by simpa [handed handover member] using ne
  have noneRecorded : outcomesTo endpoint outcomes = [] :=
    List.filter_eq_nil_iff.mpr fun outcome member => by simpa [own.recorded outcome member] using ne
  simp only [attemptsTo, handoversTo, outcomesTo] at noneSubmitted noneHanded noneRecorded same
  simp only [advance, part, Record.part, Record.submittedTo, attemptsTo, handoversTo, outcomesTo,
    List.filter_append, same, noneSubmitted, noneHanded, noneRecorded, List.append_nil,
    if_neg ne.symm]

/-! ### Steps of a part -/

/-- With one endpoint, a call is next if it comes before the endpoint's turn. -/
theorem step_of_submission {attempt : Attempt} {rest : List Attempt}
    (upcoming : state.upcoming = attempt :: rest)
    (before : ∀ turn ∈ (state.lane endpoint).next? settings, attempt.submitted < turn.1) :
    state.step settings [endpoint] transport = some (state.submit transport attempt rest) := by
  cases due : (state.lane endpoint).next? settings with
  | none => simp [step, nextTurn?, earliest?, due, upcoming]
  | some turn =>
    have late := Nat.not_le.mpr (before turn due)
    simp [step, nextTurn?, earliest?, due, upcoming, late]

/-- With one endpoint, its turn is next if no call comes before it. -/
theorem step_of_turn {turn : Turn}
    (due : (state.lane endpoint).next? settings = some (instant, turn))
    (calls : ∀ attempt ∈ state.upcoming, instant ≤ attempt.submitted) :
    state.step settings [endpoint] transport =
      some (state.turn settings transport endpoint instant turn) := by
  cases upcoming : state.upcoming with
  | nil => simp [step, nextTurn?, earliest?, due, upcoming]
  | cons attempt rest =>
    have early : instant ≤ attempt.submitted := calls attempt (by simp [upcoming])
    simp [step, nextTurn?, earliest?, due, upcoming, early]

theorem le_upcoming_part (endpoint : Endpoint) (number : Nat → Nat)
    (early : ∀ attempt ∈ state.upcoming, instant ≤ attempt.submitted) :
    ∀ attempt ∈ (state.part endpoint number).upcoming, instant ≤ attempt.submitted := by
  intro attempt member
  obtain ⟨origin, inPart, rfl⟩ := List.mem_map.mp member
  exact early origin (List.mem_filter.mp inPart).1

/-- How what happens shows in a part: not at all, or as a step of the part. -/
def ShowsAt (settings : Settings) (endpoint : Endpoint) (number : Nat → Nat) (server : Transport)
    (state next : State) : Prop :=
  next.part endpoint number = state.part endpoint number ∨
  (state.part endpoint number).step settings [endpoint] (.ofServer server) =
    some (next.part endpoint number)

section Happenings

variable (served : transport.IsServedBy endpoint server) (placed : Placed endpoints state)
include served placed

theorem showsAt_submission {attempt : Attempt} {rest : List Attempt}
    (upcoming : state.upcoming = attempt :: rest)
    (before : ∀ endpoint ∈ endpoints, ∀ turn ∈ (state.lane endpoint).next? settings,
      attempt.submitted < turn.1) :
    ShowsAt settings endpoint number server state
      (state.submit transport attempt rest) := by
  by_cases place : attempt.endpoint = endpoint
  · right
    have partUpcoming : (state.part endpoint number).upcoming = attempt.renumbered number ::
        (attemptsTo endpoint rest).map (Attempt.renumbered number) := by
      simp [part, attemptsTo, upcoming, place]
    subst place
    have first := before attempt.endpoint (placed.upcoming attempt (by simp [upcoming]))
    rw [← Lane.next?_renumbered settings number, ← lane_part] at first
    rw [step_of_submission partUpcoming first, submit, submit,
      part_advance served state rest (placed.submission attempt), Lane.submit_renumbered,
      ← lane_part]
    rfl
  · left
    refine part_advance_of_ne place state ?_ (placed.submission attempt)
    simp [attemptsTo, upcoming, place]

theorem showsAt_landing (sorted : state.upcoming.Pairwise fun first second =>
      first.submitted ≤ second.submitted)
    {flight : Flight} {result : Result Text}
    (flying : (state.lane place).flight = some flight)
    (lands : flight.landing = some (instant, result))
    (inTime : ∀ attempt ∈ (state.lane place).live, instant < attempt.deadline settings)
    (quiet : state.Quiet settings endpoints instant) :
    ShowsAt settings endpoint number server state
      (state.land settings transport place instant result) := by
  have own := placed.landing flying settings instant result
  by_cases same : place = endpoint
  · right
    subst same
    have due := Lane.next?_of_landing flying lands inTime
    rw [← Lane.next?_renumbered settings number, ← lane_part] at due
    have partFlying : ((state.part place number).lane place).flight =
        some (flight.renumbered number) := by
      simp [Lane.renumbered, flying]
    have early := le_upcoming_part place number (quiet.le_upcoming sorted)
    rw [step_of_turn due early, turn, land_eq partFlying, land_eq flying,
      part_advance served state state.upcoming own, Lane.foldl_submit_renumbered,
      map_retriesAfter, lane_part]
    rfl
  · left
    rw [land_eq flying]
    exact part_advance_of_ne same state rfl own

theorem showsAt_expiry (sorted : state.upcoming.Pairwise fun first second =>
      first.submitted ≤ second.submitted)
    (due : ∃ attempt ∈ (state.lane place).live, attempt.deadline settings = instant)
    (flying : ∀ flight, (state.lane place).flight = some flight →
      ∀ landing ∈ flight.landing, instant ≤ landing.1)
    (quiet : state.Quiet settings endpoints instant) :
    ShowsAt settings endpoint number server state
      (state.expire settings transport place instant) := by
  have own := placed.expiry place settings instant
  by_cases same : place = endpoint
  · right
    subst same
    have least : ∀ attempt ∈ (state.lane place).live, instant ≤ attempt.deadline settings :=
      fun attempt live => (quiet.lane placed place).le_deadline live
    have due := Lane.next?_of_expiry due least flying
    rw [← Lane.next?_renumbered settings number, ← lane_part] at due
    have early := le_upcoming_part place number (quiet.le_upcoming sorted)
    rw [step_of_turn due early, turn, expire, expire,
      part_advance served state state.upcoming own, Lane.expire_renumbered, lane_part,
      Lane.expired_renumbered, List.map_map, List.map_map]
    rfl
  · left
    exact part_advance_of_ne same state rfl own

/-- Whatever happens either does not show in a part or happens in it too. -/
theorem Happens.showsAt (sorted : state.upcoming.Pairwise fun first second =>
      first.submitted ≤ second.submitted)
    (h : Happens settings endpoints transport state instant next) :
    ShowsAt settings endpoint number server state next := by
  cases h with
  | submission upcoming before => exact showsAt_submission served placed upcoming before
  | landing member flying lands inTime quiet =>
    exact showsAt_landing served placed sorted flying lands inTime quiet
  | expiry member due flying quiet => exact showsAt_expiry served placed sorted due flying quiet

end Happenings

/-! ### Runs of a part -/

/-- However far a run has got, its part is a run of its own. -/
theorem Reachable.part_run (reached : Reachable settings endpoints transport calls now state)
    (served : transport.IsServedBy endpoint server) (steps : Nat) :
    ∃ fewer, (state.run settings endpoints transport steps).part endpoint number =
      (state.part endpoint number).run settings [endpoint] (.ofServer server) fewer := by
  induction steps generalizing now state with
  | zero => exact ⟨0, rfl⟩
  | succ steps ih =>
    rw [State.run]
    cases stepped : state.step settings endpoints transport with
    | none => exact ⟨0, rfl⟩
    | some next =>
      obtain ⟨instant, happens⟩ := step_happens stepped
      obtain ⟨fewer, later⟩ := ih (reached.happening happens)
      -- a happening elsewhere costs the part no step
      rcases happens.showsAt served reached.placed reached.timely.sorted with same | partStep
      · exact ⟨fewer, same ▸ later⟩
      · refine ⟨fewer + 1, ?_⟩
        rw [State.run, partStep]
        exact later

/-- The part of a whole run is a run of its own, and a whole one too. -/
theorem part_finish (settings : Settings) (endpoints : List Endpoint) (calls : List Call)
    (number : Nat → Nat) (served : transport.IsServedBy endpoint server) :
    ∃ steps, (State.finish settings endpoints transport calls).part endpoint number =
        ((State.start endpoints calls).part endpoint number).run settings [endpoint]
          (.ofServer server) steps ∧
      (((State.start endpoints calls).part endpoint number).run settings [endpoint]
        (.ofServer server) steps).step settings [endpoint] (.ofServer server) = none := by
  obtain ⟨steps, same⟩ := Reachable.start.part_run served (3 * calls.length)
  refine ⟨steps, same, ?_⟩
  rw [← same, ← State.finish, step_eq_none_iff]
  constructor
  · rw [part, upcoming_finish]
    rfl
  · intro place member
    rw [List.mem_singleton.mp member, lane_part, Lane.live_renumbered, live_finish]
    rfl

/-- Two runs with the same part at the start have the same part at the end, whatever the calls to
other endpoints are and whatever the transport does with these. -/
theorem part_finish_congr {transport' : Transport} {calls' : List Call} {number' : Nat → Nat}
    (settings : Settings) (served : transport.IsServedBy endpoint server)
    (served' : transport'.IsServedBy endpoint server)
    (same : (State.start endpoints calls).part endpoint number =
      (State.start endpoints calls').part endpoint number') :
    (State.finish settings endpoints transport calls).part endpoint number =
      (State.finish settings endpoints transport' calls').part endpoint number' := by
  obtain ⟨steps, finish, rests⟩ := part_finish settings endpoints calls number served
  obtain ⟨steps', finish', rests'⟩ := part_finish settings endpoints calls' number' served'
  rw [← same] at finish' rests'
  rw [finish, finish']
  exact run_eq_of_rests rests rests'

end State

end ProxyControl.Dispatch
