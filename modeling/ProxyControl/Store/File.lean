import ProxyControl.Command.Vocabulary
import ProxyControl.Listing.Lines
import ProxyControl.Request

/-!
# Stored files

Certificates, CA files and CRL files lie in the proxy's memory under the path that they were
loaded from. A listing marks a file that is part of an open transaction with an asterisk.
-/
namespace ProxyControl

open Text

/-- The kinds of stored files; these are updated by transactions. -/
inductive FileKind
  | certificate
  | caFile
  | crlFile
  deriving DecidableEq, Repr

namespace FileKind

def resource : FileKind → Resource
  | .certificate => .certificate
  | .caFile => .caFile
  | .crlFile => .crlFile

def ofResource? : Resource → Option FileKind
  | .certificate => some .certificate
  | .caFile => some .caFile
  | .crlFile => some .crlFile
  | _ => none

def store : FileKind → Text
  | .certificate => "cert"
  | .caFile => "ca-file"
  | .crlFile => "crl-file"

end FileKind

structure StoredFile where
  path : Text
  description : Text
  inTransaction : Bool
  entries : Option UInt32
  deriving DecidableEq, Repr

namespace StoredFile

/-- What follows the last slash of a path. -/
def baseName (path : Text) : Text :=
  match cutLast? (· == '/') path with
  | some (_, name) => name
  | none => path

/-- Path and number of entries, which stands behind a dash if it is given at all. -/
def splitCount (line : Text) : Option (Text × Option UInt32) :=
  match cutAt? " - " line with
  | some (path, count) => (words count).head?.map fun count => (trim path, u32? count)
  | none => some (line, none)

def read (text : Text) : Option StoredFile := do
  let line := trim text
  let (path, entries) ← splitCount (withoutStart "*" line)
  if path.isEmpty || path.any isSpace then none
  else some { path, description := baseName path, inTransaction := startsWith "*" line, entries }

def list (kind : FileKind) : Request (List StoredFile) :=
  .query (.showStore kind.store) fun text => .ok (Listing.readLines read text)

def delete (kind : FileKind) (name : Text) : Request Unit := .checked do
  let name ← Argument.name "file name" name
  pure (.step kind.resource .delete (.deleteStored kind.store name))

end StoredFile

end ProxyControl
