import ProxyControl.Dispatch.Basic

/-!
# Lanes

An endpoint answers one attempt at a time; the others stand in line. The first places of the
line are the queue, and behind them callers wait for a place in the queue. A caller who gives up
while waiting leaves the line, but a place in the queue stays taken until its turn.
-/
namespace ProxyControl.Dispatch

/-- An attempt that the transport has in hand, and when it will be done with it, if ever. -/
structure Flight where
  attempt : Attempt
  landing : Option (Nanoseconds × Result Text)
  deriving DecidableEq, Repr

structure Lane where
  flight : Option Flight := none
  /-- The places in line; an empty one is a caller's who has given up. -/
  line : List (Option Attempt) := []
  deriving DecidableEq, Repr

/-- What ends an attempt. -/
inductive Turn
  | expiry
  | landing (result : Result Text)
  deriving DecidableEq, Repr

namespace Lane

/-- The attempts whose callers still wait for a result. -/
def live (lane : Lane) : List Attempt :=
  (lane.flight.map Flight.attempt).toList ++ lane.line.filterMap id

def submit (lane : Lane) (attempt : Attempt) : Lane :=
  { lane with line := lane.line ++ [some attempt] }

/-- The first attempt in line whose caller still waits, and the line behind it. -/
def first? : List (Option Attempt) → Option (Attempt × List (Option Attempt))
  | [] => none
  | none :: line => first? line
  | some attempt :: line => some (attempt, line)

/-- The next turn of a lane. A result that comes just at the deadline comes too late. -/
def next? (settings : Settings) (lane : Lane) : Option (Nanoseconds × Turn) :=
  (lane.live.map (·.deadline settings)).min?.map fun deadline =>
    match lane.flight.bind Flight.landing with
    | some (instant, result) =>
      if instant < deadline then (instant, .landing result) else (deadline, .expiry)
    | none => (deadline, .expiry)

def isOpen (settings : Settings) (instant : Nanoseconds) (attempt : Attempt) : Bool :=
  instant < attempt.deadline settings

/-- The attempts whose callers give up by an instant. -/
def expired (settings : Settings) (instant : Nanoseconds) (lane : Lane) : List Attempt :=
  lane.live.filter (!isOpen settings instant ·)

/-- The line once the callers whose deadline has come have given up. -/
def lineAt (settings : Settings) (instant : Nanoseconds) (line : List (Option Attempt)) :
    List (Option Attempt) :=
  (line.take settings.capacity).map (·.filter (isOpen settings instant))
    ++ (line.drop settings.capacity).filter fun place => place.any (isOpen settings instant)

/-- A lane once the callers whose deadline has come have given up; a round trip for one of them
is abandoned. -/
def expire (settings : Settings) (instant : Nanoseconds) (lane : Lane) : Lane where
  flight := lane.flight.filter fun flight => isOpen settings instant flight.attempt
  line := lineAt settings instant lane.line

/-- A lane whose round trip is over. -/
def land (lane : Lane) : Lane := { lane with flight := none }

/-- What an idle lane hands over at an instant: the first attempt in line, if there is one. -/
def handOver (transport : Transport) (history : List Handover) (instant : Nanoseconds)
    (lane : Lane) : Lane × List Handover :=
  match lane.flight, first? lane.line with
  | some _, _ => (lane, [])
  | none, none => ({ lane with line := [] }, [])
  | none, some (attempt, line) =>
    let handover : Handover := ⟨attempt, instant⟩
    let landing := match transport history handover with
      | .never => none
      | .after delay result => some (instant + delay, result)
    ({ flight := some ⟨attempt, landing⟩, line }, [handover])

end Lane

end ProxyControl.Dispatch
