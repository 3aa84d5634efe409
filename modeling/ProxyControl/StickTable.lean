import ProxyControl.Listing.Fields
import ProxyControl.Listing.Lines
import ProxyControl.Command.Vocabulary
import ProxyControl.Request

/-!
# Stick tables

A table is announced by a comment line with its name, type and sizes; its entries follow as
assignments behind an address.
-/
namespace ProxyControl

open Text Listing

structure StickTable where
  name : Text := []
  keyType : Text := []
  size : UInt64 := 0
  used : UInt64 := 0
  deriving DecidableEq, Repr

namespace StickTable

def put (table : StickTable) (part : Text) : Option StickTable :=
  let (key, value) := keyValue part
  if key = "table" then some { table with name := value }
  else if key = "type" then some { table with keyType := value }
  else if key = "size" then (u64? value).map fun size => { table with size }
  else if key = "used" then (u64? value).map fun used => { table with used }
  else some table

/-- Reads `# table: name, type: type, size:n, used:n`; only the name must be there. -/
def read (text : Text) : Option StickTable := do
  let body ← after? "#" (trim text)
  let table ← (pieces (· == ',') body).foldlM put {}
  if table.name.isEmpty then none else some table

end StickTable

/-- A data column of an entry, for rates with the period that they are taken over. -/
structure StickData where
  name : Text
  period : Option UInt64
  value : Text
  deriving DecidableEq, Repr

structure StickEntry where
  address : UInt64
  key : Text := []
  useCount : UInt32 := 0
  expiresMs : Option UInt64 := none
  data : List StickData := []
  deriving DecidableEq, Repr

namespace StickEntry

/-- A column name, and the period in parentheses behind it. -/
def splitPeriod (column : Text) : Option (Text × Option UInt64) :=
  match cutFirst? (· == '(') column with
  | none => some (column, none)
  | some (name, period) => (before? ")" period).map fun period => (name, u64? period)

def put (entry : StickEntry) (assignment : Text) : Option StickEntry := do
  let (name, value) ← cutFirst? (· == '=') assignment
  if name = "key" then some { entry with key := value }
  else if name = "use" then (u32? value).map fun useCount => { entry with useCount }
  else if name = "exp" then some { entry with expiresMs := u64? value }
  else if name = "shard" then some entry
  else
    let (name, period) ← splitPeriod name
    some { entry with data := entry.data ++ [{ name, period, value }] }

/-- Reads `0xaddress: key=key use=n exp=ms name(period)=value ...`. -/
def read (text : Text) : Option StickEntry := do
  let (pointer, rest) ← cutAt? ": " (trim text)
  let address ← PatternEntry.address? pointer
  (words rest).foldlM put { address }

end StickEntry

namespace StickTable

def list : Request (List StickTable) :=
  .query .showTables fun text => .ok ((lines text).filterMap read)

def entries (table : Text) (filter : Option Text) : Request (List StickEntry) := .checked do
  let table ← Argument.name "table" table
  let filter ← filter.mapM (Argument.value "table filter")
  pure (.about ("table " ++ table) (.query (.showTableEntries table filter) fun text =>
    .ok (readLines StickEntry.read text)))

end StickTable

end ProxyControl
