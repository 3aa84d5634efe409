import ProxyControl.Dispatch.Lane
import ProxyControl.Dispatch.Route

/-!
# Runs

A run takes any number of calls through the lanes, one happening at a time: a call is submitted,
a round trip ends, or callers give up. The earliest happening comes first, and of those at one
instant the lanes' own come before new calls. A happening decides about one lane only, and that
lane hands over the next attempt at once if it is idle.
-/
namespace ProxyControl.Dispatch

structure State where
  /-- The attempts still to be submitted, in the order of their instants. -/
  upcoming : List Attempt
  lane : Endpoint → Lane := fun _ => {}
  record : Record := {}

/-- The earliest of some instants, the first of several equal ones. -/
def earliest? {α : Type} : List (Nanoseconds × α) → Option (Nanoseconds × α)
  | [] => none
  | first :: rest =>
    match earliest? rest with
    | none => some first
    | some other => if first.1 ≤ other.1 then some first else some other

namespace State

/-- The next turn of any lane. -/
def nextTurn? (settings : Settings) (endpoints : List Endpoint) (state : State) :
    Option (Nanoseconds × Endpoint × Turn) :=
  earliest? <| endpoints.filterMap fun endpoint =>
    ((state.lane endpoint).next? settings).map fun (instant, turn) => (instant, endpoint, turn)

/-- Changes one lane, lets it hand over, and records what has happened. -/
def advance (transport : Transport) (state : State) (endpoint : Endpoint)
    (instant : Nanoseconds) (lane : Lane) (submissions : List Attempt)
    (outcomes : List Outcome) : State :=
  let (lane, handovers) := lane.handOver transport state.record.handovers instant
  { state with
    lane := fun other => if other = endpoint then lane else state.lane other
    record := {
      submissions := state.record.submissions ++ submissions
      handovers := state.record.handovers ++ handovers
      outcomes := state.record.outcomes ++ outcomes } }

/-- The next call is submitted. -/
def submit (transport : Transport) (state : State) (attempt : Attempt) (upcoming : List Attempt) :
    State :=
  advance transport { state with upcoming } attempt.endpoint attempt.submitted
    ((state.lane attempt.endpoint).submit attempt) [attempt] []

/-- Whether an attempt with this result is made again. -/
def isRetried (settings : Settings) (attempt : Attempt) (result : Result Text) : Bool :=
  settings.retry && !attempt.isRetry && match result with
    | .error failure => failure.isRetryable
    | .ok _ => false

/-- The round trip on a lane ends with a result, and a failed attempt is made again at once. -/
def land (settings : Settings) (transport : Transport) (state : State) (endpoint : Endpoint)
    (instant : Nanoseconds) (result : Result Text) : State :=
  let lane := state.lane endpoint
  let landed := (lane.flight.map Flight.attempt).toList
  let retries := (landed.filter (isRetried settings · result)).map (·.again instant)
  advance transport state endpoint instant (retries.foldl Lane.submit lane.land) retries
    (landed.map fun attempt => ⟨attempt, instant, result⟩)

/-- Callers on a lane give up. -/
def expire (settings : Settings) (transport : Transport) (state : State) (endpoint : Endpoint)
    (instant : Nanoseconds) : State :=
  let lane := state.lane endpoint
  advance transport state endpoint instant (lane.expire settings instant) []
    ((lane.expired settings instant).map fun attempt =>
      ⟨attempt, instant, .error (attempt.timedOut settings)⟩)

def turn (settings : Settings) (transport : Transport) (state : State) (endpoint : Endpoint)
    (instant : Nanoseconds) : Turn → State
  | .landing result => state.land settings transport endpoint instant result
  | .expiry => state.expire settings transport endpoint instant

/-- The next happening; there is none once every call has its result. -/
def step (settings : Settings) (endpoints : List Endpoint) (transport : Transport)
    (state : State) : Option State :=
  match state.nextTurn? settings endpoints, state.upcoming with
  | none, [] => none
  | some (instant, endpoint, turn), [] => some (state.turn settings transport endpoint instant turn)
  | none, attempt :: rest => some (state.submit transport attempt rest)
  | some (instant, endpoint, turn), attempt :: rest =>
    -- at one instant the lane's turn comes before the new call
    if instant ≤ attempt.submitted then
      some (state.turn settings transport endpoint instant turn)
    else some (state.submit transport attempt rest)

/-- At most so many happenings. -/
def run (settings : Settings) (endpoints : List Endpoint) (transport : Transport) :
    Nat → State → State
  | 0, state => state
  | steps + 1, state =>
    match state.step settings endpoints transport with
    | none => state
    | some next => run settings endpoints transport steps next

end State

/-- Puts an attempt in front of all that are submitted no earlier. -/
def insertBySubmission (attempt : Attempt) : List Attempt → List Attempt
  | [] => [attempt]
  | other :: rest =>
    if attempt.submitted ≤ other.submitted then attempt :: other :: rest
    else other :: insertBySubmission attempt rest

/-- The first attempts of the calls that have a route; `caller` numbers the first call. -/
def firstAttempts (endpoints : List Endpoint) (caller : Nat) : List Call → List Attempt
  | [] => []
  | call :: rest =>
    let later := firstAttempts endpoints (caller + 1) rest
    match Route.of? endpoints call.command with
    | none => later
    | some route =>
      ⟨caller, false, route.endpoint, route.command, call.start⟩ :: later

def State.start (endpoints : List Endpoint) (calls : List Call) : State where
  upcoming := (firstAttempts endpoints 0 calls).foldr insertBySubmission []

/-- A call is submitted, and each of its two attempts ends: three happenings at most. -/
def State.finish (settings : Settings) (endpoints : List Endpoint) (transport : Transport)
    (calls : List Call) : State :=
  (State.start endpoints calls).run settings endpoints transport (3 * calls.length)

/-- The result of a call is that of its last attempt. One that never gets a result has had none
in time. -/
def Record.result (record : Record) (settings : Settings) (caller : Nat) (call : Call) :
    Result Text :=
  match record.outcomes.reverse.find? fun outcome => outcome.attempt.caller = caller with
  | some outcome => outcome.result
  | none => .error (.timeout settings.timeout call.command.text)

end ProxyControl.Dispatch
