import ProxyControl.Command.Vocabulary
import ProxyControl.Listing.Fields
import ProxyControl.Listing.Lines
import ProxyControl.Request

/-!
# Maps

Listing, searching and changing maps from keys to values. A search is answered by a line of
assignments, in which `found` or else `match` says whether the key was found.
-/
namespace ProxyControl

open Text Listing

structure MapMatch where
  key : Text
  value : Text
  deriving DecidableEq, Repr

namespace Map

/-- Reads the answer to a search: nothing, if the map does not hold the key. -/
def readMatch (text : Text) : Result (Option MapMatch) := do
  let line := (dataLines text).head?.getD []
  let field (name : Text) : Option Text := (assignments line).lookup name
  match (field "found").orElse fun _ => field "match" with
  | none => throw (.unread (.missing "found field") line)
  | some verdict =>
    if verdict ≠ "yes" then pure none
    else
      let key ← required ((field "key").getD []) "key" line
      pure (some { key, value := (field "value").getD [] })

def title (id : PatternRef) : Text := "map " ++ id.toText

def keyTitle (id : PatternRef) (key : Text) : Text := "key " ++ quoted key ++ " in " ++ title id

def list : Request (List PatternFile) :=
  .query (.showPatterns .map) fun text => .ok (readLines (PatternFile.read · |>.toOption) text)

def entries (id : PatternRef) : Request (List PatternEntry) :=
  .about (title id) <| .query (.showPatternEntries .map id) fun text =>
    .ok (readLines (PatternEntry.read · |>.toOption) text)

def search (id : PatternRef) (key : Text) : Request MapMatch := .checked do
  let key ← Argument.value "map key" key
  pure (.lookup (.getPattern .map id key) (title id) (keyTitle id key) readMatch)

def add (id : PatternRef) (key value : Text) : Request Unit := .checked do
  let key ← Argument.value "map key" key
  let value ← Argument.value "map value" value
  pure (.run (.addMapping id key value))

def addEntries (id : PatternRef) (payload : Text) : Request Unit := .checked do
  let payload ← Argument.payload "map entries" payload
  pure (.run (.addMappings id payload))

def set (id : PatternRef) (key value : Text) : Request Unit := .checked do
  let key ← Argument.value "map key" key
  let value ← Argument.value "map value" value
  pure (.about (keyTitle id key) (.run (.setMapping id key value)))

def delete (id : PatternRef) (key : Text) : Request Unit := .checked do
  let key ← Argument.value "map key" key
  pure (.run (.deletePattern .map id key))

def clear (id : PatternRef) : Request Unit := .run (.clearPatterns .map id)

end Map

end ProxyControl
