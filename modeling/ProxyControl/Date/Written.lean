import ProxyControl.Date.Calendar
import ProxyControl.Failure
import ProxyControl.Text.Number
import ProxyControl.Text.Space

/-!
# Written dates

The two forms in which the proxy writes dates: the one of certificate tools, such as
`Sep  8 14:45:39 2048 GMT`, and RFC 3339. Both stand for moments in UTC.
-/
namespace ProxyControl.Date

open Text

/-- A number of at most `most` digits, and what follows it. -/
def number? (least most : Nat) (text : Text) : Option (Nat × Text) :=
  let digits := (text.take most).takeWhile Char.isDigit
  if digits.length < least then none
  else (digits? 10 digits).map fun n => (n, text.drop digits.length)

/-- White space may stand in front of a number. -/
def spacedNumber? (most : Nat) (text : Text) : Option (Nat × Text) :=
  number? 1 most (trimStart text)

/-- A year of at most four digits, or of any length behind a sign. -/
def year? (text : Text) : Option (Int × Text) :=
  match trimStart text with
  | '-' :: rest => (number? 1 rest.length rest).map fun (n, after) => (-(n : Int), after)
  | '+' :: rest => (number? 1 rest.length rest).map fun (n, after) => ((n : Int), after)
  | rest => (number? 1 4 rest).map fun (n, after) => ((n : Int), after)

def monthNames : List Text :=
  ["jan", "feb", "mar", "apr", "may", "jun", "jul", "aug", "sep", "oct", "nov", "dec"]

/-- The first three letters as a month, in either case. -/
def month? (text : Text) : Option (Nat × Text) :=
  (monthNames.idxOf? (lowercase (text.take 3))).map fun index => (index + 1, text.drop 3)

/-- The years that dates can name. -/
def isYear (year : Int) : Bool := -262143 ≤ year && year ≤ 262142

/-- Reads `Mon DD hh:mm:ss YYYY GMT`; spaces between the parts may be missing. -/
def certificateTime? (text : Text) : Option Moment := do
  let (month, text) ← month? (join [' '] (words text))
  let (day, text) ← spacedNumber? 2 text
  let (hour, text) ← spacedNumber? 2 text
  let text ← after? ":" text
  let (minute, text) ← spacedNumber? 2 text
  let text ← after? ":" text
  let (second, text) ← spacedNumber? 2 text
  let (year, text) ← year? text
  let rest ← after? "GMT" (trimStart text)
  let time : CivilTime := { year, month, day, hour, minute, second }
  guard (rest.isEmpty && isYear year && time.isValid)
  pure (time.moment 0)

/-- Digits after a point, as nanoseconds; digits beyond the ninth are dropped. -/
def fraction? : Text → Option (Nat × Text)
  | '.' :: text =>
    (number? 1 9 text).map fun (n, rest) =>
      let width := text.length - rest.length
      (n * Nat.pow 10 (9 - width), rest.dropWhile Char.isDigit)
  | text => some (0, text)

/-- The seconds that a zone is ahead of UTC; hours and minutes stay below a full day. -/
def zone? : Text → Option Int
  | ['Z'] | ['z'] => some 0
  | sign :: text => do
    let negative ←
      if sign = '+' then some false
      else if sign = '-' || sign = '\u2212' then some true
      else none
    let (hours, text) ← number? 2 2 text
    let text ← after? ":" text
    let (minutes, text) ← number? 2 2 text
    guard (text.isEmpty && hours < 24 && minutes < 60)
    let offset : Int := hours * 3600 + minutes * 60
    pure (if negative then -offset else offset)
  | [] => none

/-- Reads `YYYY-MM-DD`. -/
def day? (text : Text) : Option (CivilTime × Text) := do
  let (year, text) ← number? 4 4 text
  let text ← after? "-" text
  let (month, text) ← number? 2 2 text
  let text ← after? "-" text
  let (day, text) ← number? 2 2 text
  pure (.midnight year month day, text)

/-- Reads `hh:mm:ss`, and a fraction if there is one, as a time of the given day. -/
def clockTime? (day : CivilTime) (text : Text) : Option (CivilTime × Text) := do
  let (hour, text) ← number? 2 2 text
  let text ← after? ":" text
  let (minute, text) ← number? 2 2 text
  let text ← after? ":" text
  let (second, text) ← number? 2 2 text
  let (nanos, text) ← fraction? text
  pure ({ day with hour, minute, second, nanos }, text)

/-- What may stand between a date and a time of day. -/
def isTimeMark (c : Char) : Bool := c == 'T' || c == 't' || c == ' '

/-- Reads `YYYY-MM-DDThh:mm:ss`, a fraction if there is one, and a zone. -/
def rfc3339Time? (text : Text) : Option Moment := do
  let (day, text) ← day? text
  let text ← match text with
    | c :: rest => if isTimeMark c then some rest else none
    | [] => none
  let (time, text) ← clockTime? day text
  let offset ← zone? text
  guard time.isValid
  pure (time.moment offset)

/-- A text that is no date, in the given line. The reason stops at the text: what the date library
has to say about it, which would follow behind a colon, is left out. -/
def unreadable (value line : Text) : Failure := .unread (.invalid "date" value) line

/-- A certificate date in the given line. -/
def ofCertificate (value line : Text) : Result Moment :=
  match certificateTime? value with
  | some moment => .ok moment
  | none => .error (unreadable value line)

/-- An RFC 3339 date in the given line; white space around it does not count. -/
def ofRfc3339 (value line : Text) : Result Moment :=
  match rfc3339Time? (trim value) with
  | some moment => .ok moment
  | none => .error (unreadable value line)

end ProxyControl.Date
