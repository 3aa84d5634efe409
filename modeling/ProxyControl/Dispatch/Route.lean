import ProxyControl.Endpoint

/-!
# Routes

Which endpoint a command goes to. A worker without a socket of its own is reached through the
master, which is told in the command whom it is for.
-/
namespace ProxyControl.Dispatch

structure Route where
  endpoint : Endpoint
  command : Command
  deriving DecidableEq, Repr

def master? (endpoints : List Endpoint) : Option Endpoint :=
  endpoints.find? fun endpoint => endpoint.role = .master

def worker? (endpoints : List Endpoint) (process : UInt32) : Option Endpoint :=
  endpoints.find? fun endpoint => endpoint.role = .worker process

def firstWorker? (endpoints : List Endpoint) : Option Endpoint :=
  endpoints.find? fun endpoint => endpoint.role.isWorker

/-- The route to a worker: straight to its socket if it has one, else through the master. -/
def Route.toWorker? (endpoints : List Endpoint) (socket : Option Endpoint) (process : UInt32)
    (command : Command) : Option Route :=
  match socket with
  | some endpoint => some ⟨endpoint, command⟩
  | none => (master? endpoints).map fun master => ⟨master, command.forwarded process⟩

def Route.of? (endpoints : List Endpoint) (command : Command) : Option Route :=
  match command.target with
  | .master => (master? endpoints).map fun master => ⟨master, command⟩
  | .worker process => toWorker? endpoints (worker? endpoints process) process command
  | .default => toWorker? endpoints (firstWorker? endpoints) 1 command

def unroutable (command : Command) : Failure :=
  .invalidArgument ("no endpoint serves " ++ command.target.toText ++ " for `" ++ command.text
    ++ "`")

end ProxyControl.Dispatch
