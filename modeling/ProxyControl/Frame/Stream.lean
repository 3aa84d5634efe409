import ProxyControl.Command
import ProxyControl.Frame.Basic
import ProxyControl.Text.Utf8

/-!
# Streams of frames

Frames are cut from the bytes of a connection at the delimiter and decoded one by one. A round
trip writes one command and joins the frames that come back until the peer closes.
-/
namespace ProxyControl

inductive Ending
  | closed
  | failed (reason : Text)
  deriving DecidableEq, Repr

/-- All the bytes that a peer sends, and how its sending ends. -/
structure Incoming where
  bytes : List UInt8
  ending : Ending
  deriving DecidableEq, Repr

def Delimiter.byte : Delimiter → UInt8
  | .newline => 0x0A
  | .nul => 0x00

/-- The segments that a delimiter ends, and what is left after the last delimiter. -/
def segments (delimiter : UInt8) : List UInt8 → List (List UInt8) × List UInt8
  | [] => ([], [])
  | byte :: rest =>
    let (ended, left) := segments delimiter rest
    if byte = delimiter then ([] :: ended, left)
    else match ended with
      | [] => ([], byte :: left)
      | segment :: more => ((byte :: segment) :: more, left)

namespace Incoming

/-- A failure to read takes along what had arrived since the last delimiter. -/
def rawFrames (delimiter : Delimiter) (incoming : Incoming) : List (List UInt8) :=
  let (ended, left) := segments delimiter.byte incoming.bytes
  match incoming.ending with
  | .closed => if left.isEmpty then ended else ended ++ [left]
  | .failed _ => ended

def frames (delimiter : Delimiter) (incoming : Incoming) : List Text :=
  (incoming.rawFrames delimiter).map fun raw => Frame.clean delimiter (Text.Utf8.decodeLossy raw)

end Incoming

def withoutLastBlanks (frames : List Text) : List Text :=
  (frames.reverse.dropWhile (·.isEmpty)).reverse

/-- The answer that the frames make up. A payload is acknowledged by a blank line before the
answer proper. -/
def assemble (multiline : Bool) (frames : List Text) : Text :=
  let proper :=
    match frames with
    | [] :: rest => if multiline then rest else frames
    | _ => frames
  Text.joinLines (withoutLastBlanks proper)

/-- What one connection does: it may fail to take the command, and then it answers. -/
structure Connection where
  writeFailure : Option Text := none
  incoming : Incoming

/-- Why a round trip gives no answer. -/
inductive Breakdown
  | unwritten (reason : Text)
  | unread (reason : Text)
  /-- The peer has closed without a word. -/
  | unexpectedEnd
  deriving DecidableEq, Repr

def Breakdown.reason : Breakdown → Text
  | .unwritten reason | .unread reason => reason
  | .unexpectedEnd => "connection closed before any response was read"

structure RoundTrip where
  written : Text
  outcome : Except Breakdown Text

/-- The answer, or the reason why there is none. -/
def RoundTrip.answer (trip : RoundTrip) : Except Text Text :=
  trip.outcome.mapError Breakdown.reason

/-- Frames are collected until the peer closes; a failure to read leaves none of them. -/
def Incoming.outcome (multiline : Bool) (incoming : Incoming) : Except Breakdown Text :=
  match incoming.ending with
  | .failed reason => .error (.unread reason)
  | .closed =>
    let frames := incoming.frames .newline
    if frames.isEmpty then .error .unexpectedEnd else .ok (assemble multiline frames)

def Connection.roundTrip (connection : Connection) (command : Command) : RoundTrip :=
  match connection.writeFailure with
  | some reason => ⟨[], .error (.unwritten reason)⟩
  | none => ⟨command.wire, connection.incoming.outcome command.isMultiline⟩

end ProxyControl
