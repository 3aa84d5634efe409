import ProxyControl.Command.Vocabulary
import ProxyControl.Request

/-!
# Versioned updates

A map or an ACL is replaced as a whole by preparing a new version of it, adding entries to that
version, and committing it. Every step names the version that was prepared.
-/
namespace ProxyControl

open Text

structure VersionedUpdate where
  kind : PatternKind
  id : PatternRef
  version : UInt64
  deriving DecidableEq, Repr

namespace VersionedUpdate

def announcement : Text := "New version created:"

/-- The number behind the last colon of the line that announces the version. -/
def readVersion (answer : Text) : Result UInt64 :=
  let line := ((lines answer).find? (contains announcement)).getD answer
  match cutLast? (· == ':') line with
  | none => .error (.unread (.missing "version number") line)
  | some (_, number) =>
    match u64? (trim number) with
    | some version => .ok version
    | none => .error (.unread (.stated "invalid version number") line)

def prepare (kind : PatternKind) (id : PatternRef) : Request VersionedUpdate :=
  .confirmed kind.resource .create (.preparePatterns kind id) fun answer =>
    (readVersion answer).map fun version => { kind, id, version }

def add (update : VersionedUpdate) (payload : Text) : Request Unit := .checked do
  let payload ← Argument.payload "entries" payload
  pure (.step update.kind.resource .stage
    (.addVersioned update.kind update.version update.id payload))

def commit (update : VersionedUpdate) : Request Unit :=
  .step update.kind.resource .commit (.commitVersion update.kind update.version update.id)

end VersionedUpdate

end ProxyControl
