import ProxyControl.Store.File

/-!
# Transactions

A stored file changes in steps: it is created empty or taken as it is, new contents are staged,
and the stage is committed or aborted. A step is sent only where the state allows it, and only
a confirmed step changes the state.
-/
namespace ProxyControl

open Text

namespace Transaction

inductive State
  | absent
  | empty
  | staged
  | committed
  deriving DecidableEq, Repr

def State.name : State → Text
  | .absent => "Absent"
  | .empty => "Empty"
  | .staged => "Staged"
  | .committed => "Committed"

inductive Action
  | create
  | set (payload : Text)
  | add (payload : Text)
  | commit
  | abort
  deriving DecidableEq, Repr

def Action.phase : Action → Phase
  | .create => .create
  | .set _ | .add _ => .stage
  | .commit => .commit
  | .abort => .abort

/-- The state after a confirmed action. -/
def Action.target : Action → State
  | .create => .empty
  | .set _ | .add _ => .staged
  | .commit => .committed
  | .abort => .absent

end Transaction

structure Transaction where
  kind : FileKind
  name : Text
  /-- Whether the file is there already and only gets new contents. -/
  existing : Bool
  state : Transaction.State := .absent
  deriving DecidableEq, Repr

namespace Transaction

def start (existing : Bool) (resource : Resource) (name : Text) : Result Transaction :=
  match FileKind.ofResource? resource with
  | none => .error (.invalidArgument (resource.name ++ " updates are not transactional"))
  | some kind => (Argument.name "object name" name).map fun name => { kind, name, existing }

/-- A transaction on a file that has yet to be created. -/
def forNew : Resource → Text → Result Transaction := start false

/-- A transaction on a file that is there. -/
def forExisting : Resource → Text → Result Transaction := start true

def allows (transaction : Transaction) (phase : Phase) : Bool :=
  match phase, transaction.state with
  | .create, .absent => !transaction.existing
  | .stage, .empty | .stage, .staged => true
  | .stage, .absent => transaction.existing
  | .commit, .staged | .abort, .staged => true
  | _, _ => false

def check (transaction : Transaction) (phase : Phase) : Result Unit :=
  if transaction.allows phase then .ok ()
  else .error (.invalidArgument ("cannot " ++ phase.name ++ " " ++ transaction.kind.resource.name
    ++ " " ++ quoted transaction.name ++ " in state " ++ transaction.state.name))

/-- The command for an action, if the transaction may take it now. -/
def command (transaction : Transaction) : Action → Result Command
  | .create => do
    transaction.check .create
    pure (.newStored transaction.kind.store transaction.name)
  | .set payload => do
    transaction.check .stage
    let payload ← Argument.payload "payload" payload
    pure (.setStored transaction.kind.store transaction.name payload)
  | .add payload => do
    if transaction.kind ≠ .caFile then
      throw (.invalidArgument ("incremental add is only supported for CA files, not "
        ++ transaction.kind.resource.name))
    transaction.check .stage
    let payload ← Argument.payload "payload" payload
    pure (.addStored transaction.kind.store transaction.name payload)
  | .commit => do
    transaction.check .commit
    pure (.commitStored transaction.kind.store transaction.name)
  | .abort => do
    transaction.check .abort
    pure (.abortStored transaction.kind.store transaction.name)

def request (transaction : Transaction) (action : Action) : Request Unit := .checked do
  let command ← transaction.command action
  pure (.step transaction.kind.resource action.phase command)

/-- Takes an action. Whatever fails leaves the transaction as it was. -/
def perform (send : Command → Result Text) (transaction : Transaction) (action : Action) :
    Transaction × Result Unit :=
  match (transaction.request action).perform send with
  | .ok () => ({ transaction with state := action.target }, .ok ())
  | .error failure => (transaction, .error failure)

end Transaction

end ProxyControl
