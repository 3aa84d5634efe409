import ProxyControl.Command.Vocabulary
import ProxyControl.Listing.Fields
import ProxyControl.Listing.Lines
import ProxyControl.Request

/-!
# ACLs

Listing, searching and changing access control lists. A search is answered by a line of
assignments, in which `match` says whether the value was found.
-/
namespace ProxyControl

open Text Listing

structure AclMatch where
  value : Text
  matchType : Text
  caseSensitive : Bool
  index : Option Text
  deriving DecidableEq, Repr

namespace Acl

/-- Reads the answer to a search: nothing, if the list does not hold the value. -/
def readMatch (text : Text) : Result (Option AclMatch) := do
  let line := (dataLines text).head?.getD []
  let field (name : Text) : Option Text := (assignments line).lookup name
  match field "match" with
  | none => throw (.unread (.missing "match field") line)
  | some verdict =>
    if verdict ≠ "yes" then pure none
    else
      let value ← required ((field "pattern").getD []) "pattern" line
      pure (some
        { value
          matchType := (field "type").getD []
          caseSensitive := field "case" != some "insensitive"
          index := field "idx" })

def title (id : PatternRef) : Text := "ACL " ++ id.toText

def list : Request (List PatternFile) :=
  .query (.showPatterns .acl) fun text => .ok (readLines (PatternFile.read · |>.toOption) text)

def entries (id : PatternRef) : Request (List PatternEntry) :=
  .about (title id) <| .query (.showPatternEntries .acl id) fun text =>
    .ok (readLines (PatternEntry.read · |>.toOption) text)

def search (id : PatternRef) (value : Text) : Request AclMatch := .checked do
  let value ← Argument.value "ACL value" value
  pure (.lookup (.getPattern .acl id value) (title id) (quoted value ++ " in " ++ title id)
    readMatch)

def add (id : PatternRef) (value : Text) : Request Unit := .checked do
  let value ← Argument.value "ACL value" value
  pure (.run (.addPattern .acl id value))

def delete (id : PatternRef) (value : Text) : Request Unit := .checked do
  let value ← Argument.value "ACL value" value
  pure (.run (.deletePattern .acl id value))

def clear (id : PatternRef) : Request Unit := .run (.clearPatterns .acl id)

end Acl

end ProxyControl
