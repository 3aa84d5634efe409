import ProxyControl.Text.Lines
import ProxyControl.Text.Number
import ProxyControl.Text.Space

/-!
# Frames

An answer arrives in frames. Once severities are numbered, a refusal announces itself by a
marker such as `[3]:` in front; the severities 0 to 3 mean that the command failed, and all
others only inform.
-/
namespace ProxyControl

inductive Delimiter
  | newline
  | nul
  deriving DecidableEq, Repr

def Delimiter.char : Delimiter → Char
  | .newline => '\n'
  | .nul => '\x00'

/-- The delimiter of the other kind; a single one may stray to the front of a frame. -/
def Delimiter.stray : Delimiter → Char
  | .newline => '\x00'
  | .nul => '\n'

/-- The proxy's own account of why it refused something. -/
structure Refusal where
  severity : Nat
  message : Text
  deriving DecidableEq, Repr

inductive Frame
  | empty
  | ok (payload : Text)
  | error (refusal : Refusal)
  deriving DecidableEq, Repr

namespace Frame

def worstInformative : Nat := 3

def promptText : Text := "> "

def isFrameEnd (c : Char) : Bool := c == '\r' || c == '\n' || c == '\x00'

/-- A raw frame without one stray delimiter, then one prompt, in front, and without whatever
ends it. -/
def clean (delimiter : Delimiter) (raw : Text) : Text :=
  Text.dropEndWhile isFrameEnd
    (Text.withoutStart promptText (Text.withoutStart [delimiter.stray] raw))

/-- The digit of a severity that marks a failed command. -/
def failing? (marker : Char) : Option Nat :=
  (Text.digit? 10 marker).filter (· ≤ worstInformative)

/-- The refusal in a frame whose second character is a failing severity. -/
def refusal? : Text → Option Refusal
  | _ :: marker :: rest =>
    (failing? marker).map fun severity =>
      -- the colon behind the bracket may be missing, and so may the bracket
      let message := ((Text.after? "]:" rest).orElse fun _ => Text.after? "]" rest).getD rest
      ⟨severity, Text.trim message⟩
  | _ => none

/-- The refusal in a frame that begins with a whole marker such as `[3]`. Events may carry a
tag such as `<134>`, whose second character is a digit too, so for them the brackets count. -/
def bracketedRefusal? : Text → Option Refusal
  | '[' :: marker :: ']' :: rest =>
    (failing? marker).map fun severity => ⟨severity, Text.trim (Text.withoutStart ":" rest)⟩
  | _ => none

def decode (raw : Text) : Frame :=
  let text := clean .newline raw
  if text.isEmpty then .empty
  else match refusal? text with
    | some refusal => .error refusal
    | none => .ok text

/-- The refusal in the first line of an answer that is not blank at its end. -/
def answerRefusal? (answer : Text) : Option Refusal :=
  (((Text.lines answer).map Text.trimEnd).find? (!·.isEmpty)).bind refusal?

end Frame

end ProxyControl
