import ProxyControl.Endpoint
import ProxyControl.Text.Space

/-!
# Configuration

Which sockets there are, and how commands are sent to them. A configuration can be at odds with
itself; `validate` says whether it can be used.
-/
namespace ProxyControl

open Text

structure WorkerSocket where
  path : Text
  /-- The worker's number, where it is not the place of the socket in the list. -/
  process : Option UInt32 := none
  deriving DecidableEq, Repr

structure Config where
  sockets : List WorkerSocket := []
  masterSocket : Option Text := none
  /-- How long one command may take, queueing included. -/
  timeoutSeconds : UInt64 := 30
  /-- How many commands may wait for a socket before their senders wait in turn. -/
  queueCapacity : UInt64 := 64
  /-- Whether a command that its socket did not carry is sent once more. -/
  retry : Bool := true
  deriving DecidableEq, Repr

/-- Settings that stand in the environment and take precedence. -/
structure Environment where
  socket : Option Text := none
  masterSocket : Option Text := none
  timeoutSeconds : Option Text := none
  deriving DecidableEq, Repr

namespace Environment

def socketVariable : Text := "HAPCTL_SOCKET"

def masterSocketVariable : Text := "HAPCTL_MASTER_SOCKET"

def timeoutVariable : Text := "HAPCTL_TIMEOUT_SECS"

def ofVariables (value? : Text → Option Text) : Environment where
  socket := value? socketVariable
  masterSocket := value? masterSocketVariable
  timeoutSeconds := value? timeoutVariable

end Environment

namespace Config

/-- One worker socket and the usual settings. -/
def single (path : Text) : Config := { sockets := [{ path }] }

def standard : Config := single Endpoint.standardPath

def withTimeout (config : Config) (seconds : Text) : Result Config :=
  match u64? (trim seconds) with
  | some timeoutSeconds => .ok { config with timeoutSeconds }
  | none => .error (.config
      (Environment.timeoutVariable ++ " must be a number, got " ++ quoted seconds))

/-- A socket from the environment replaces all worker sockets. -/
def overriddenBy (config : Config) (environment : Environment) : Result Config :=
  let config := match environment.socket with
    | some path => { config with sockets := [{ path }] }
    | none => config
  let config := match environment.masterSocket with
    | some path => { config with masterSocket := some path }
    | none => config
  match environment.timeoutSeconds with
  | some seconds => config.withTimeout seconds
  | none => .ok config

/-- Worker sockets without a number get their place in the list, counted from `first`. -/
def workerEndpoints (first : UInt32) : List WorkerSocket → List Endpoint
  | [] => []
  | socket :: rest =>
    .worker socket.path (socket.process.getD first) :: workerEndpoints (first + 1) rest

/-- The workers in the order of their sockets, then the master. -/
def endpoints (config : Config) : List Endpoint :=
  workerEndpoints 1 config.sockets ++ (config.masterSocket.map Endpoint.master).toList

/-- The first role that one of the roles before it has claimed already. -/
def contested? (seen : List Role) : List Role → Option Role
  | [] => none
  | role :: rest => if seen.contains role then some role else contested? (role :: seen) rest

def validate (config : Config) : Result Unit :=
  if config.sockets.isEmpty && config.masterSocket.isNone then
    .error (.config "at least one socket or a master socket is required")
  else if config.timeoutSeconds = 0 then .error (.config "timeout_secs must be positive")
  else if config.queueCapacity = 0 then .error (.config "queue_capacity must be positive")
  else match contested? [] (config.endpoints.map Endpoint.role) with
    | some role => .error (.config ("two sockets claim " ++ role.toText))
    | none => .ok ()

end Config

end ProxyControl
