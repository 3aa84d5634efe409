import ProxyControl.Listing.Lines

/-!
# Rows

A table has a header line and then one row of delimited fields a line. A row may have more
fields than its reader needs, but not fewer.
-/
namespace ProxyControl.Listing

open Text

inductive RowDelimiter
  | tab
  | pipe
  | comma
  | whitespace
  deriving DecidableEq, Repr

/-- The fields of a row; those between single characters are trimmed and may be empty. -/
def RowDelimiter.fields (delimiter : RowDelimiter) (line : Text) : List Text :=
  match delimiter with
  | .tab => (pieces (· == '\t') line).map trim
  | .pipe => (pieces (· == '|') line).map trim
  | .comma => (pieces (· == ',') line).map trim
  | .whitespace => words line

/-- The lines below the header that are not comments. -/
def dataRows (text : Text) : List Text :=
  ((((lines text).map trimEnd).filter (!isBlank ·)).drop 1).filter (·.head? != some '#')

/-- A failure to read a row reports the whole row. -/
def atRow (line : Text) : Failure → Failure
  | .parse fault _ _ => .unread fault line
  | failure => failure

def readRow {α : Type} (delimiter : RowDelimiter) (expected : Nat)
    (build : List Text → Result α) (line : Text) : Result α :=
  let row := delimiter.fields line
  if row.length < expected then .error (.unread (.shortRow expected row.length) line)
  else (build row).mapError (atRow line)

/-- One record per row, or the failure of the first bad row. -/
def readRows {α : Type} (delimiter : RowDelimiter) (expected : Nat)
    (build : List Text → Result α) (text : Text) : Result (List α) :=
  (dataRows text).mapM (readRow delimiter expected build)

end ProxyControl.Listing
