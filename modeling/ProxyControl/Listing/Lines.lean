import ProxyControl.Failure
import ProxyControl.Text.Lines
import ProxyControl.Text.Space

/-!
# Listings

Most answers list one thing a line, under a header that begins with `#`. A listing is read
either tolerantly, skipping the lines that make no sense, or strictly.
-/
namespace ProxyControl.Listing

open Text

def isComment (line : Text) : Bool := (trimStart line).head? == some '#'

def isData (line : Text) : Bool := !(isBlank line || isComment line)

/-- The lines that carry data, without the white space at their ends. -/
def dataLines (text : Text) : List Text := ((lines text).map trimEnd).filter isData

/-- One record per line that `read` understands. -/
def readLines {α : Type} (read : Text → Option α) (text : Text) : List α :=
  (dataLines text).filterMap read

/-- One record per line, or the failure of the first line that `read` rejects. -/
def readLinesStrictly {α : Type} (read : Text → Result α) (text : Text) : Result (List α) :=
  (dataLines text).mapM read

/-- A value that has to be there, without the white space around it. -/
def required (value what line : Text) : Result Text :=
  if isBlank value then .error (.unread (.missing what) line) else .ok (trim value)

/-- A value that has to be a number, for one way of reading numbers. -/
def number {α : Type} (read : Text → Option α) (value what line : Text) : Result α :=
  match read (trim value) with
  | some n => .ok n
  | none => .error (.unread (.invalid what value) line)

end ProxyControl.Listing
