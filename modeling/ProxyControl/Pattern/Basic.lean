import ProxyControl.Argument
import ProxyControl.Resource
import ProxyControl.Text.Number

/-!
# Patterns

Maps and ACLs are lists of patterns, each with an element address and a key, and in a map with
a value. They are referred to by number or by file.
-/
namespace ProxyControl

open Text

inductive PatternKind
  | acl
  | map
  deriving DecidableEq, Repr

def PatternKind.word : PatternKind → Text
  | .acl => "acl"
  | .map => "map"

def PatternKind.resource : PatternKind → Resource
  | .acl => .acl
  | .map => .map

/-- How messages call a map or an ACL. -/
def PatternKind.title (kind : PatternKind) : Text := kind.resource.name

inductive PatternRef
  | id (number : UInt32)
  | file (name : Text)
  deriving DecidableEq, Repr

def PatternRef.ofFile (name : Text) : Result PatternRef :=
  (Argument.name "file name" name).map .file

def PatternRef.toText : PatternRef → Text
  | .id number => "#" ++ decimal number.toNat
  | .file name => name

/-- A line of the listing of all maps or all ACLs. -/
structure PatternFile where
  id : UInt32
  reference : Option Text
  description : Text
  deriving DecidableEq, Repr

namespace PatternFile

/-- Reads `id (reference) description`, in which the reference may be empty or missing. -/
def read (text : Text) : Result PatternFile := do
  let line := trim text
  let fault (reason : Text) : Failure := .unread (.stated reason) line
  let some (number, rest) := cutFirst? (· == ' ') line
    | throw (fault "expected id and description")
  let some id := u32? number | throw (fault "invalid pattern id")
  match trimStart rest with
  | '(' :: inner =>
    let some (reference, description) := cutFirst? (· == ')') inner
      | throw (fault "unterminated reference")
    let reference := trim reference
    pure
      { id
        reference := if reference.isEmpty then none else some reference
        description := trim description }
  | description => pure { id, reference := none, description }

end PatternFile

/-- A line of the listing of one map or ACL. -/
structure PatternEntry where
  id : UInt64
  key : Text
  value : Option Text
  deriving DecidableEq, Repr

namespace PatternEntry

/-- The number behind `0x`. -/
def address? (text : Text) : Option UInt64 := (after? "0x" text).bind hex64?

/-- Reads `0xaddress key value`, in which the value may be missing. -/
def read (text : Text) : Result PatternEntry := do
  let line := trim text
  let fault (reason : Text) : Failure := .unread (.stated reason) line
  let some (address, rest) := cutFirst? (· == ' ') line
    | throw (fault "expected element pointer and key")
  let (key, value) := (cutFirst? (· == ' ') rest).getD (rest, [])
  let some id := address? address | throw (fault "invalid element pointer")
  let value := trim value
  pure { id, key, value := if value.isEmpty then none else some value }

end PatternEntry

end ProxyControl
