import ProxyControl.Argument
import ProxyControl.Endpoint
import ProxyControl.Event.Basic
import ProxyControl.Frame.Stream

/-!
# Listeners

A listener subscribes to a sink on a connection of its own and gives out the events that arrive
there one by one. The first refusal or the end of the connection is given out in their place and
closes the listener, and a closed listener gives out nothing but the failure that ended it.
-/
namespace ProxyControl

open Text

/-- Where a subscription's events come from. -/
structure Subscription where
  endpoint : Endpoint
  sink : Text
  flags : EventFlags
  deriving DecidableEq, Repr

/-- What comes in on a connection, which may stay open. -/
structure EventStream where
  bytes : List UInt8
  ending : Option Ending
  deriving DecidableEq, Repr

/-- What came of connecting and asking for events. -/
inductive Dialling
  | failed (reason : Text)
  | timedOut (limit : Nanoseconds)
  | connected (stream : EventStream)
  deriving DecidableEq, Repr

namespace Subscription

def command (subscription : Subscription) : Text := "show events " ++ subscription.sink

/-- The line that asks worker 1 for the events. -/
def line (subscription : Subscription) : Text :=
  let flags := subscription.flags.words.flatMap fun word => ' ' :: word
  "@@1 " ++ Command.severityDirective ++ ";" ++ subscription.command ++ flags ++ "\n"

def failure (subscription : Subscription) (reason : Text) : Failure :=
  subscription.endpoint.failure subscription.command reason

/-- What a frame delivers; a blank one delivers nothing. -/
def delivery? (subscription : Subscription) (frame : Text) : Option (Result Event) :=
  if isBlank frame then none
  else match Event.refusal? frame with
    | some refusal => some (.error (.protocol (some refusal.severity) refusal.message frame
        subscription.command))
    | none => some (.ok (.ofFrame frame))

/-- The frames of a stream; what has no delimiter yet while the connection is open is none. -/
def frames (subscription : Subscription) (stream : EventStream) : List Text :=
  let ending := stream.ending.getD (.failed [])
  (Incoming.mk stream.bytes ending).frames subscription.flags.delimiter

/-- What the end of a stream delivers. -/
def endDelivery (subscription : Subscription) : Ending → Result Event
  | .closed => .error (subscription.failure "event stream closed by peer")
  | .failed reason => .error (subscription.failure reason)

/-- Deliveries up to the first failure. -/
def untilFailure : List (Result Event) → List (Result Event)
  | [] => []
  | .ok event :: rest => .ok event :: untilFailure rest
  | .error failure :: _ => [.error failure]

/-- All that a stream delivers, in order. -/
def deliveries (subscription : Subscription) (stream : EventStream) : List (Result Event) :=
  untilFailure ((subscription.frames stream).filterMap subscription.delivery?
    ++ (stream.ending.map subscription.endDelivery).toList)

end Subscription

structure Listener where
  subscription : Subscription
  /-- What the connection still holds. -/
  arriving : List (Result Event)
  /-- What has been read ahead. -/
  buffer : List (Result Event) := []
  closed : Bool := false
  /-- The failure that was given out, if one was. -/
  failure : Option Failure := none
  deriving Repr

namespace Listener

/-- How many deliveries are read ahead. -/
def bufferSize : Nat := 256

/-- Reads ahead as far as the buffer allows. -/
def fill (listener : Listener) : Listener :=
  let room := bufferSize - listener.buffer.length
  { listener with
    buffer := listener.buffer ++ listener.arriving.take room
    arriving := listener.arriving.drop room }

def subscribe (endpoint : Endpoint) (sink : Text) (flags : EventFlags) (dialling : Dialling) :
    Result Listener := do
  let sink ← Argument.name "sink" sink
  let subscription : Subscription := { endpoint, sink, flags }
  match dialling with
  | .failed reason => throw (endpoint.failure (trimEnd subscription.line) reason)
  | .timedOut limit => throw (.timeout limit (trimEnd subscription.line))
  | .connected stream => pure (fill { subscription, arriving := subscription.deliveries stream })

def close (listener : Listener) : Listener :=
  { listener with closed := true, arriving := [], buffer := [] }

/-- What a closed listener gives out. -/
def closedFailure (listener : Listener) : Failure :=
  listener.failure.getD (listener.subscription.failure "event listener closed")

/-- The next event, or none while there is none to give. -/
def listen (listener : Listener) : Listener × Option (Result Event) :=
  if listener.closed then (listener, some (.error listener.closedFailure))
  else match listener.buffer with
    | [] => (listener, none)
    | .ok event :: buffer => (fill { listener with buffer }, some (.ok event))
    -- what arrived behind a failure is never given out
    | .error failure :: _ =>
      (close { listener with failure := listener.failure.or (some failure) },
        some (.error failure))

/-- Listening that is called off before anything arrives closes the listener. -/
def listenCancelled (listener : Listener) : Listener × Result Event :=
  if listener.closed then (listener, .error listener.closedFailure)
  else (listener.close, .error listener.close.closedFailure)

end Listener

end ProxyControl
