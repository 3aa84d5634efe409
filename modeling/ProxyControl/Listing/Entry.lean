import ProxyControl.Failure
import ProxyControl.Text.Number
import ProxyControl.Text.Space

/-!
# Entry lines

The line `name[:line] [options] filter filter ...`, in which line number, options and filters
may each be missing.
-/
namespace ProxyControl.Listing

open Text

structure EntryLine where
  name : Text
  lineNumber : Option UInt32
  /-- What stands between the brackets. -/
  options : Option Text
  filters : List Text
  deriving DecidableEq, Repr

namespace EntryLine

/-- A name, and the line number behind its last colon, if digits stand there. -/
def splitHead (head line : Text) : Result (Text × Option UInt32) :=
  match cutLast? (· == ':') head with
  | some (name, digits) =>
    -- a colon with anything else behind it belongs to the name
    if !digits.isEmpty && digits.all Char.isDigit then
      match u32? digits with
      | some n => .ok (name, some n)
      | none => .error (.unread (.stated "line number out of range") line)
    else .ok (head, none)
  | none => .ok (head, none)

/-- The bracketed options at the front of a text, and what follows them. -/
def splitOptions (text line : Text) : Result (Option Text × Text) :=
  match text with
  | '[' :: bracketed =>
    match cutFirst? (· == ']') bracketed with
    | some (options, rest) => .ok (some (trim options), rest)
    | none => .error (.unread (.stated "unterminated '[' in entry") line)
  | _ => .ok (none, text)

def read (raw : Text) : Result EntryLine := do
  let line := trim raw
  let head := line.takeWhile (!isSpace ·)
  let rest := trimStart (line.dropWhile (!isSpace ·))
  if head.isEmpty then throw (.unread (.missing "entry name") line)
  let (name, lineNumber) ← splitHead head line
  let (options, rest) ← splitOptions rest line
  pure { name, lineNumber, options, filters := words rest }

end EntryLine

end ProxyControl.Listing
