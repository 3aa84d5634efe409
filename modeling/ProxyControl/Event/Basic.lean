import ProxyControl.Date.Written
import ProxyControl.Frame.Basic

/-!
# Events

The proxy pushes the events of a sink as frames. A frame is a tag such as `<134>`, a time and a
message. The tag may be missing; where the time is missing or unreadable, the whole rest is the
message, and the event counts as having happened when it was received.
-/
namespace ProxyControl

open Text

inductive EventTime
  | written (moment : Moment)
  | received
  deriving DecidableEq, Repr

structure Event where
  time : EventTime
  message : Text
  deriving DecidableEq, Repr

namespace Event

/-- A frame without the priority tag in front of it, if it has one. -/
def withoutTag (text : Text) : Text :=
  match (after? ['<'] text).bind (cutFirst? (· == '>')) with
  | some (tag, rest) => if !tag.isEmpty && tag.all Char.isDigit then rest else text
  | none => text

/-- The event in a text without its tag. -/
def ofText (text : Text) : Event :=
  let (first, rest) := (cutFirst? (· == ' ') text).getD (text, [])
  match Date.rfc3339Time? first with
  | some moment => ⟨.written moment, trimStart rest⟩
  | none => ⟨.received, text⟩

def ofFrame (frame : Text) : Event := ofText (withoutTag (trim frame))

/-- The refusal in a frame, if it is one rather than an event. -/
def refusal? (frame : Text) : Option Refusal :=
  Frame.bracketedRefusal? (withoutTag (trim frame))

end Event

/-- Which events a subscription asks for, and how they are to be delimited. -/
structure EventFlags where
  /-- Wait for new events instead of ending with those at hand. -/
  wait : Bool := false
  /-- Leave out the events at hand. -/
  noHistory : Bool := false
  /-- End events with a zero byte instead of a newline. -/
  nul : Bool := false
  deriving DecidableEq, Repr

namespace EventFlags

/-- Nothing but new events. -/
def follow : EventFlags := { wait := true, noHistory := true }

def delimiter (flags : EventFlags) : Delimiter := if flags.nul then .nul else .newline

def words (flags : EventFlags) : List Text :=
  (if flags.wait then [("-w" : Text)] else []) ++ (if flags.noHistory then [("-n" : Text)] else [])
    ++ (if flags.nul then [("-0" : Text)] else [])

def toText (flags : EventFlags) : Text := join [' '] flags.words

end EventFlags

end ProxyControl
