import ProxyControl.Command.Vocabulary
import ProxyControl.Listing.Entry
import ProxyControl.Listing.Fields
import ProxyControl.Listing.Lines
import ProxyControl.Request

/-!
# Certificate lists

A certificate list names certificates, each with options for binding and filters on the server
name. Adding an entry sends it as a payload line in the form in which listings show it.
-/
namespace ProxyControl

open Text Listing

structure CrtListEntry where
  certificate : Text
  lineNumber : Option UInt32 := none
  sslBindConfig : Option Text := none
  sniFilters : List Text := []
  deriving DecidableEq, Repr

namespace CrtListEntry

def ofLine (line : EntryLine) : CrtListEntry :=
  { certificate := line.name
    lineNumber := line.lineNumber
    sslBindConfig := line.options
    sniFilters := line.filters }

/-- The name that singles the entry out for deletion. -/
def reference (entry : CrtListEntry) : Text :=
  match entry.lineNumber with
  | some line => entry.certificate ++ ":" ++ decimal line.toNat
  | none => entry.certificate

/-- The line that adds the entry; it says nothing of line numbers. -/
def toText (entry : CrtListEntry) : Text :=
  let options : Text :=
    match entry.sslBindConfig with
    | some config => " [" ++ config ++ "]"
    | none => []
  entry.certificate ++ options ++ entry.sniFilters.flatMap fun filter => (" " : Text) ++ filter

end CrtListEntry

namespace CrtList

def list : Request (List Text) :=
  .query .showCrtLists fun text => .ok (readLines (fun line => (fields line).head?) text)

def entries (list : Text) : Request (List CrtListEntry) := .checked do
  let list ← Argument.name "crt-list" list
  pure (.query (.showCrtListEntries list) fun text =>
    .ok (readLines (fun line => (EntryLine.read line).toOption.map CrtListEntry.ofLine) text))

def add (list : Text) (entry : CrtListEntry) : Request Unit := .checked do
  let list ← Argument.name "crt-list" list
  let _ ← Argument.name "certificate" entry.certificate
  if entry.sniFilters.any (·.any isSpace) then
    throw (.invalidArgument "SNI filters must not contain whitespace")
  let line ← Argument.value "crt-list entry" entry.toText
  pure (.step .crtList .stage (.addCrtListEntry list line))

def delete (list entry : Text) : Request Unit := .checked do
  let list ← Argument.name "crt-list" list
  let entry ← Argument.name "crt-list entry" entry
  pure (.step .crtList .delete (.deleteCrtListEntry list entry))

end CrtList

end ProxyControl
