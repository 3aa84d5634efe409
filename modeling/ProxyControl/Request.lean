import ProxyControl.Argument
import ProxyControl.Command
import ProxyControl.Resource

/-!
# Requests

A request either refuses its arguments or asks the proxy one thing: it sends one command and
reads the answer. Reading is a function of the answer alone, so a request says all there is to
know about an operation before anything is sent.
-/
namespace ProxyControl

inductive Request (α : Type)
  | refused (failure : Failure)
  | ask (command : Command) (read : Text → Result α)

namespace Request

variable {α : Type}

/-- Carries a request out, given a way of sending a command and getting its answer. -/
def perform (send : Command → Result Text) : Request α → Result α
  | .refused failure => .error failure
  | .ask command read => (send command).bind read

/-- The command that would be sent. -/
def command? : Request α → Option Command
  | .refused _ => none
  | .ask command _ => some command

/-- A request whose arguments are checked first. -/
def checked : Result (Request α) → Request α
  | .error failure => .refused failure
  | .ok request => request

/-- Asks for an answer that is not a refusal, and reads it. -/
def query (command : Command) (read : Text → Result α) : Request α :=
  .ask command fun answer => do
    let answer ← accepted command.text answer
    (read answer).mapError (·.withCommand command.text)

/-- Asks for something to be done; any answer but a refusal will do. -/
def run (command : Command) : Request Unit := query command fun _ => .ok ()

/-- Asks for a step on a resource, and reads the answer that confirms it. -/
def confirmed (resource : Resource) (phase : Phase) (command : Command)
    (read : Text → Result α) : Request α :=
  .ask command fun answer => do
    resource.confirm phase command.text answer
    (read answer).mapError (·.withCommand command.text)

/-- Asks for a step on a resource, whose confirmation says nothing more. -/
def step (resource : Resource) (phase : Phase) (command : Command) : Request Unit :=
  confirmed resource phase command fun _ => .ok ()

/-- The words by which the proxy says that it does not know something. -/
def refersToMissing (message : Text) : Bool :=
  let message := Text.lowercase message
  Text.contains "not found" message || Text.contains "unknown" message
    || Text.contains "can't find" message

/-- A refusal for want of the thing asked about. -/
def asNotFound (what : Text) : Failure → Failure
  | .protocol severity message response command =>
    if refersToMissing message then .notFound what response command
    else .protocol severity message response command
  | failure => failure

/-- A request about a thing that may be missing. -/
def about (what : Text) : Request α → Request α
  | .refused failure => .refused failure
  | .ask command read => .ask command fun answer => (read answer).mapError (asNotFound what)

/-- Looks something up: an answer that says no is a thing not found. -/
def lookup (command : Command) (container what : Text)
    (read : Text → Result (Option α)) : Request α :=
  .ask command fun answer => do
    let answer ← (accepted command.text answer).mapError (asNotFound container)
    match ← (read answer).mapError (·.withCommand command.text) with
    | some found => pure found
    | none => throw (.notFound what answer command.text)

end Request

end ProxyControl
