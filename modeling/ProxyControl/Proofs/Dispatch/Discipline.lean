import ProxyControl.Proofs.Dispatch.Report

/-!
# Queueing disciplines

There are many ways to keep a line: with or without a bound, and with the places of those who have
given up or without them. All that a discipline owes is the order of those who still wait. Nothing
else about it ever shows: lanes under any discipline do step by step what the dispatcher's own do.
-/
namespace ProxyControl

namespace Dispatch

/-- A way to keep a line. -/
structure Discipline where
  Line : Type
  empty : Line
  /-- The attempts in line whose callers still wait, in order. -/
  waiting : Line → List Attempt
  join : Line → Attempt → Line
  /-- The line once those callers have given up who do not stay. -/
  leave : (Attempt → Bool) → Line → Line
  /-- The next attempt whose caller still waits, and the line behind it. -/
  next : Line → Option Attempt × Line
  waiting_empty : waiting empty = []
  waiting_join : ∀ line attempt, waiting (join line attempt) = waiting line ++ [attempt]
  waiting_leave : ∀ stays line, waiting (leave stays line) = (waiting line).filter stays
  fst_next : ∀ line, (next line).1 = (waiting line).head?
  waiting_next : ∀ line, waiting (next line).2 = (waiting line).tail

namespace Discipline

attribute [simp] waiting_empty waiting_join waiting_leave fst_next waiting_next

variable {discipline : Discipline}

/-! ### Posts -/

/-- An endpoint, and the line in front of it. -/
structure Post (discipline : Discipline) where
  flight : Option Flight := none
  line : discipline.Line := discipline.empty

namespace Post

/-- What shows of a post: its round trip, and those who wait. -/
def lane (post : discipline.Post) : Lane where
  flight := post.flight
  line := (discipline.waiting post.line).map some

def submit (post : discipline.Post) (attempt : Attempt) : discipline.Post :=
  { post with line := discipline.join post.line attempt }

def land (post : discipline.Post) : discipline.Post := { post with flight := none }

def expire (settings : Settings) (instant : Nanoseconds) (post : discipline.Post) :
    discipline.Post where
  flight := post.flight.filter fun flight => Lane.isOpen settings instant flight.attempt
  line := discipline.leave (Lane.isOpen settings instant) post.line

/-- What an idle post hands over at an instant: the next attempt in line, if there is one. -/
def handOver (transport : Transport) (history : List Handover) (instant : Nanoseconds)
    (post : discipline.Post) : discipline.Post × List Handover :=
  match post.flight, discipline.next post.line with
  | some _, _ => (post, [])
  | none, (none, line) => ({ post with line }, [])
  | none, (some attempt, line) =>
    ({ flight := some ⟨attempt, (transport history ⟨attempt, instant⟩).landing? instant⟩, line },
      [⟨attempt, instant⟩])

end Post

/-! ### Systems -/

/-- Posts at all endpoints. -/
structure System (discipline : Discipline) where
  upcoming : List Attempt
  post : Endpoint → discipline.Post := fun _ => {}
  record : Record := {}

namespace System

def nextTurn? (settings : Settings) (endpoints : List Endpoint) (system : discipline.System) :
    Option (Nanoseconds × Endpoint × Turn) :=
  earliest? <| endpoints.filterMap fun endpoint =>
    ((system.post endpoint).lane.next? settings).map fun (instant, turn) =>
      (instant, endpoint, turn)

/-- Changes one post, lets it hand over, and records what has happened. -/
def advance (transport : Transport) (system : discipline.System) (endpoint : Endpoint)
    (instant : Nanoseconds) (post : discipline.Post) (submissions : List Attempt)
    (outcomes : List Outcome) : discipline.System :=
  let (post, handovers) := post.handOver transport system.record.handovers instant
  { system with
    post := fun other => if other = endpoint then post else system.post other
    record := {
      submissions := system.record.submissions ++ submissions
      handovers := system.record.handovers ++ handovers
      outcomes := system.record.outcomes ++ outcomes } }

/-- The next call is submitted. -/
def submit (transport : Transport) (system : discipline.System) (attempt : Attempt)
    (upcoming : List Attempt) : discipline.System :=
  advance transport { system with upcoming } attempt.endpoint attempt.submitted
    ((system.post attempt.endpoint).submit attempt) [attempt] []

/-- The round trip at a post ends with a result, or callers give up. -/
def turn (settings : Settings) (transport : Transport) (system : discipline.System)
    (endpoint : Endpoint) (instant : Nanoseconds) : Turn → discipline.System
  | .landing result =>
    let post := system.post endpoint
    let landed := (post.flight.map Flight.attempt).toList
    let retries := (landed.filter (State.isRetried settings · result)).map (·.again instant)
    advance transport system endpoint instant (retries.foldl Post.submit post.land) retries
      (landed.map fun attempt => ⟨attempt, instant, result⟩)
  | .expiry =>
    let post := system.post endpoint
    advance transport system endpoint instant (post.expire settings instant) []
      ((post.lane.expired settings instant).map fun attempt =>
        ⟨attempt, instant, .error (attempt.timedOut settings)⟩)

/-- The next happening. -/
def step (settings : Settings) (endpoints : List Endpoint) (transport : Transport)
    (system : discipline.System) : Option discipline.System :=
  match system.nextTurn? settings endpoints, system.upcoming with
  | none, [] => none
  | some (instant, endpoint, turn), [] =>
    some (system.turn settings transport endpoint instant turn)
  | none, attempt :: rest => some (system.submit transport attempt rest)
  | some (instant, endpoint, turn), attempt :: rest =>
    if instant ≤ attempt.submitted then
      some (system.turn settings transport endpoint instant turn)
    else some (system.submit transport attempt rest)

/-- At most so many happenings. -/
def run (settings : Settings) (endpoints : List Endpoint) (transport : Transport) :
    Nat → discipline.System → discipline.System
  | 0, system => system
  | steps + 1, system =>
    match system.step settings endpoints transport with
    | none => system
    | some next => run settings endpoints transport steps next

end System

def start (discipline : Discipline) (endpoints : List Endpoint) (calls : List Call) :
    discipline.System where
  upcoming := (State.start endpoints calls).upcoming

/-- What comes of a dispatcher's calls where every line is kept by a discipline. -/
def report (discipline : Discipline) (dispatcher : Dispatcher) (transport : Transport)
    (calls : List Call) : Dispatcher.Report :=
  let system := (discipline.start dispatcher.endpoints calls).run dispatcher.settings
    dispatcher.endpoints transport (3 * calls.length)
  ⟨system.record, dispatcher.results system.record 0 calls⟩

/-! ### What shows of a system -/

/-- Only the time that callers have matters for when they give up. -/
theorem deadline_congr {settings other : Settings} (time : settings.timeout = other.timeout)
    (attempt : Attempt) : attempt.deadline settings = attempt.deadline other := by
  rw [Attempt.deadline, Attempt.deadline, time]

theorem isOpen_congr {settings other : Settings} (time : settings.timeout = other.timeout)
    (instant : Nanoseconds) : Lane.isOpen settings instant = Lane.isOpen other instant := by
  funext attempt
  rw [Lane.isOpen, Lane.isOpen, deadline_congr time]

/-- Whether a lane shows what a post shows. -/
structure Post.Shows (post : discipline.Post) (lane : Lane) : Prop where
  flight : post.flight = lane.flight
  waiting : discipline.waiting post.line = lane.waiting

namespace Post.Shows

variable {post : discipline.Post} {lane : Lane} (shows : post.Shows lane)
include shows

theorem live : post.lane.live = lane.live := by
  have waiting : post.lane.waiting = lane.waiting := by
    rw [← shows.waiting]
    simp [Post.lane, Lane.waiting]
  rw [Lane.live_eq, Lane.live_eq, waiting, Post.lane, shows.flight]

theorem submit (attempt : Attempt) : (post.submit attempt).Shows (lane.submit attempt) where
  flight := shows.flight
  waiting := by simp [Post.submit, shows.waiting]

theorem foldl_submit (attempts : List Attempt) :
    (attempts.foldl Post.submit post).Shows (attempts.foldl Lane.submit lane) := by
  induction attempts generalizing post lane with
  | nil => exact shows
  | cons attempt rest ih => exact ih (shows.submit attempt)

theorem land : post.land.Shows lane.land where
  flight := rfl
  waiting := shows.waiting

theorem expire {settings other : Settings} (time : settings.timeout = other.timeout)
    (instant : Nanoseconds) :
    (post.expire settings instant).Shows (lane.expire other instant) where
  flight := by simp only [Post.expire, Lane.expire, isOpen_congr time, shows.flight]
  waiting := by
    rw [Lane.waiting_expire, Post.expire, discipline.waiting_leave, isOpen_congr time,
      shows.waiting]

theorem expired {settings other : Settings} (time : settings.timeout = other.timeout)
    (instant : Nanoseconds) :
    post.lane.expired settings instant = lane.expired other instant := by
  rw [Lane.expired, Lane.expired, shows.live, isOpen_congr time]

theorem next? {settings other : Settings} (time : settings.timeout = other.timeout) :
    post.lane.next? settings = lane.next? other := by
  have deadlines : post.lane.live.map (·.deadline settings) =
      lane.live.map (·.deadline other) := by
    rw [shows.live]
    exact List.map_congr_left fun attempt _ => deadline_congr time attempt
  have flight : post.lane.flight = lane.flight := shows.flight
  rw [Lane.next?, Lane.next?, deadlines, flight]

/-- Whichever way the line is kept, the same attempt is handed over. -/
theorem handOver (transport : Transport) (history : List Handover) (instant : Nanoseconds) :
    (post.handOver transport history instant).1.Shows
        (lane.handOver transport history instant).1 ∧
      (post.handOver transport history instant).2 =
        (lane.handOver transport history instant).2 := by
  have next := discipline.fst_next post.line
  have rest := discipline.waiting_next post.line
  rw [shows.waiting] at next rest
  obtain ⟨flight, flying, same⟩ | ⟨idle, empty, same⟩ | ⟨attempt, line, idle, first, same⟩ :=
    lane.handOver_cases transport history instant
  · have busy : post.handOver transport history instant = (post, []) := by
      rw [Post.handOver, shows.flight, flying]
    rw [same, busy]
    exact ⟨shows, rfl⟩
  · rw [empty] at next rest
    have nobody : post.handOver transport history instant =
        ({ post with line := (discipline.next post.line).2 }, []) := by
      rw [Post.handOver, shows.flight, idle]
      split <;> simp_all
    rw [same, nobody]
    exact ⟨⟨shows.flight, rest⟩, rfl⟩
  · rw [first] at next rest
    have handed : post.handOver transport history instant =
        (⟨some ⟨attempt, (transport history ⟨attempt, instant⟩).landing? instant⟩,
          (discipline.next post.line).2⟩, [⟨attempt, instant⟩]) := by
      rw [Post.handOver, shows.flight, idle]
      split <;> simp_all
    rw [same, handed]
    exact ⟨⟨rfl, rest⟩, rfl⟩

end Post.Shows

/-- Whether a dispatcher's state shows what a system shows. -/
structure System.Shows (system : discipline.System) (state : State) : Prop where
  upcoming : system.upcoming = state.upcoming
  post : ∀ endpoint, (system.post endpoint).Shows (state.lane endpoint)
  record : system.record = state.record

namespace System.Shows

variable {system : discipline.System} {state : State} {settings other : Settings}
  {transport : Transport}

theorem nextTurn? (shows : system.Shows state) (time : settings.timeout = other.timeout)
    (endpoints : List Endpoint) :
    system.nextTurn? settings endpoints = state.nextTurn? other endpoints := by
  simp only [System.nextTurn?, State.nextTurn?, (shows.post _).next? time]

theorem advance (shows : system.Shows state) {upcoming : List Attempt} {endpoint : Endpoint}
    {instant : Nanoseconds} {post : discipline.Post} {lane : Lane} (place : post.Shows lane)
    (submissions : List Attempt) (outcomes : List Outcome) :
    (System.advance transport { system with upcoming } endpoint instant post submissions
      outcomes).Shows
      (State.advance transport { state with upcoming } endpoint instant lane submissions
        outcomes) := by
  obtain ⟨after, handed⟩ := place.handOver transport state.record.handovers instant
  constructor
  case upcoming => rfl
  case post =>
    intro other
    simp only [System.advance, State.advance, shows.record]
    split
    · exact after
    · exact shows.post other
  case record => simp only [System.advance, State.advance, shows.record, handed]

theorem submit (shows : system.Shows state) (attempt : Attempt) (rest : List Attempt) :
    (system.submit transport attempt rest).Shows (state.submit transport attempt rest) :=
  shows.advance ((shows.post attempt.endpoint).submit attempt) [attempt] []

theorem turn (shows : system.Shows state) (time : settings.timeout = other.timeout)
    (retry : settings.retry = other.retry) (endpoint : Endpoint) (instant : Nanoseconds)
    (turn : Turn) :
    (system.turn settings transport endpoint instant turn).Shows
      (state.turn other transport endpoint instant turn) := by
  have place := shows.post endpoint
  have upcoming : { system with upcoming := state.upcoming } = system := by
    rw [← shows.upcoming]
  cases turn with
  | landing result =>
    have sameRetried : State.isRetried settings = State.isRetried other := by
      funext attempt result
      simp only [State.isRetried, retry]
    -- the round trip is the same, so the same attempt ends and the same one is made again
    simp only [System.turn, State.turn, State.land, place.flight, sameRetried]
    rw [← upcoming]
    exact shows.advance (place.land.foldl_submit _) _ _
  | expiry =>
    have sameFailure : (fun attempt : Attempt => (⟨attempt, instant,
        .error (attempt.timedOut settings)⟩ : Outcome)) =
        fun attempt => ⟨attempt, instant, .error (attempt.timedOut other)⟩ := by
      funext attempt
      rw [Attempt.timedOut, Attempt.timedOut, time]
    simp only [System.turn, State.turn, State.expire, place.expired time, sameFailure]
    rw [← upcoming]
    exact shows.advance (place.expire time instant) _ _

/-- A system and a state that show the same go on alike, and stop alike. -/
theorem step (shows : system.Shows state) (time : settings.timeout = other.timeout)
    (retry : settings.retry = other.retry) (endpoints : List Endpoint) :
    Option.Rel System.Shows (system.step settings endpoints transport)
      (state.step other endpoints transport) := by
  -- what happens next depends on nothing but what shows
  rw [System.step, State.step, shows.nextTurn? time, shows.upcoming]
  cases state.nextTurn? other endpoints with
  | none =>
    cases state.upcoming with
    | nil => exact .none
    | cons attempt rest => exact .some (shows.submit attempt rest)
  | some due =>
    cases state.upcoming with
    | nil => exact .some (shows.turn time retry _ _ _)
    | cons attempt rest =>
      by_cases first : due.1 ≤ attempt.submitted
      · simp only [first, if_true]
        exact .some (shows.turn time retry _ _ _)
      · simp only [first, if_false]
        exact .some (shows.submit attempt rest)

theorem run (shows : system.Shows state) (time : settings.timeout = other.timeout)
    (retry : settings.retry = other.retry) (endpoints : List Endpoint) (steps : Nat) :
    (system.run settings endpoints transport steps).Shows
      (state.run other endpoints transport steps) := by
  induction steps generalizing system state with
  | zero => exact shows
  | succ steps ih =>
    have stepped : Option.Rel System.Shows (system.step settings endpoints transport)
        (state.step other endpoints transport) := shows.step time retry endpoints
    rw [System.run, State.run]
    generalize system.step settings endpoints transport = nextSystem at stepped ⊢
    generalize state.step other endpoints transport = nextState at stepped ⊢
    cases stepped with
    | none => exact shows
    | some next => exact ih next

end System.Shows

/-- At the start nobody is in line, however the line is kept. -/
theorem shows_start (discipline : Discipline) (endpoints : List Endpoint) (calls : List Call) :
    (discipline.start endpoints calls).Shows (State.start endpoints calls) where
  upcoming := rfl
  post _ := ⟨rfl, discipline.waiting_empty⟩
  record := rfl

end Discipline

end Dispatch

namespace Dispatcher

open Dispatch

/-- The same dispatcher with other room in its queues. -/
def withCapacity (dispatcher : Dispatcher) (capacity : Nat) (room : 0 < capacity) : Dispatcher where
  endpoints := dispatcher.endpoints
  settings := { dispatcher.settings with capacity }
  endpoints_ne_nil := dispatcher.endpoints_ne_nil
  capacity_pos := room
  timeout_pos := dispatcher.timeout_pos

/-- A result is taken from the record as it is, however much room there was. -/
theorem results_withCapacity (dispatcher : Dispatcher) {capacity : Nat} (room : 0 < capacity)
    (record : Record) (caller : Nat) (calls : List Call) :
    (dispatcher.withCapacity capacity room).results record caller calls =
      dispatcher.results record caller calls := by
  induction calls generalizing caller with
  | nil => rfl
  | cons call rest ih =>
    rw [results, results, ih]
    rfl

/-- However the lines are kept, and however much room the dispatcher's own queues have, the same
happens. -/
theorem dispatch_withCapacity (dispatcher : Dispatcher) {capacity : Nat} (room : 0 < capacity)
    (discipline : Discipline) (transport : Transport) (calls : List Call) :
    (dispatcher.withCapacity capacity room).dispatch transport calls =
      discipline.report dispatcher transport calls := by
  have shows : ((discipline.start dispatcher.endpoints calls).run dispatcher.settings
      dispatcher.endpoints transport (3 * calls.length)).Shows
      (State.finish (dispatcher.withCapacity capacity room).settings dispatcher.endpoints transport
        calls) := by
    refine (discipline.shows_start dispatcher.endpoints calls).run ?_ ?_ _ _ <;> rfl
  have record := shows.record.symm
  rw [dispatch, Discipline.report, results_withCapacity]
  simp only [withCapacity] at record ⊢
  rw [record]

end Dispatcher

end ProxyControl
