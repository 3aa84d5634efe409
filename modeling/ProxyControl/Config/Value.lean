import ProxyControl.Text.Basic

/-!
# Configuration values

The values that a configuration can give to its keys. A key is a path of names, so that the
entries of one table can also reach into the tables below it.
-/
namespace ProxyControl.Config

open Text

abbrev Path := List Text

inductive Value
  | quoted (text : Text)
  | integer (value : Int)
  /-- A number that is no integer, as it is written. -/
  | decimal (written : Text)
  /-- A date, a time of day or both, as written. -/
  | moment (written : Text)
  | flag (value : Bool)
  | list (items : List Value)
  | table (entries : List (Path × Value))
  deriving Repr

abbrev Table := List (Path × Value)

namespace Value

def asText? : Value → Option Text
  | .quoted text => some text
  | _ => none

def asFlag? : Value → Option Bool
  | .flag value => some value
  | _ => none

/-- A number of at most `bits` bits. -/
def asUnsigned? (bits : Nat) : Value → Option Nat
  | .integer value => if 0 ≤ value && value < Int.pow 2 bits then some value.toNat else none
  | _ => none

end Value

namespace Table

/-- Whether neither of two paths leads through the value at the other. -/
def areApart (path other : Path) : Bool := !path.isPrefixOf other && !other.isPrefixOf path

/-- Whether every value has a place of its own. -/
def isConsistent : Table → Bool
  | [] => true
  | (path, _) :: rest => rest.all (fun (other, _) => areApart path other) && isConsistent rest

/-- Whether all keys are single names that are known. -/
def hasKeys (known : List Text) (table : Table) : Bool :=
  table.all fun (path, _) => known.any fun name => path = [name]

def value? (table : Table) (name : Text) : Option Value := table.lookup [name]

/-- The value of a key, or what stands in for it; a value of the wrong kind is refused. -/
def get? {α : Type} (table : Table) (name : Text) (missing : α) (read : Value → Option α) :
    Option α :=
  match table.value? name with
  | none => some missing
  | some value => read value

end Table

end ProxyControl.Config
