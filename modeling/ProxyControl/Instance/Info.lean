import ProxyControl.Command.Vocabulary
import ProxyControl.Listing.Lines
import ProxyControl.Listing.Sections
import ProxyControl.Instance.Address
import ProxyControl.Request

/-!
# The proxy process

What the proxy says about itself: its version and counters, the access level of the
connection, the sockets on which it takes commands, and the number of captured errors.
-/
namespace ProxyControl

open Text Listing

inductive Level
  | admin
  | operator
  | user
  deriving DecidableEq, Repr

def Level.read (text : Text) : Result Level :=
  let word := trim text
  if word = "admin" then .ok .admin
  else if word = "operator" then .ok .operator
  else if word = "user" then .ok .user
  else .error (.unread (.stated "unknown CLI level") word)

inductive CliSocketAddress
  | unix (path : Text)
  | ip (address : SocketAddress)
  | other (text : Text)
  deriving DecidableEq, Repr

def CliSocketAddress.read (text : Text) : Result CliSocketAddress :=
  match after? "unix@" text with
  | some path => .ok (.unix path)
  | none =>
    match (after? "ipv4@" text).orElse fun _ => after? "ipv6@" text with
    | some address =>
      match SocketAddress.read? address with
      | some address => .ok (.ip address)
      | none => .error (.unread (.stated "invalid socket address") text)
    | none => .ok (.other text)

inductive CliSocketProcesses
  | all
  | some (processes : Text)
  deriving DecidableEq, Repr

structure CliSocket where
  address : CliSocketAddress
  level : Level
  processes : CliSocketProcesses
  deriving DecidableEq, Repr

/-- Reads address, level and processes; further words do not count. -/
def CliSocket.read (text : Text) : Result CliSocket :=
  match words text with
  | address :: level :: processes :: _ => do
    let address ← CliSocketAddress.read address
    let level ← Level.read level
    pure { address, level, processes := if processes = "all" then .all else .some processes }
  | _ => .error (.unread (.stated "expected address, level, and processes") text)

structure Info where
  name : Text := []
  version : Text := []
  releaseDate : Option Text := none
  node : Option Text := none
  pid : Option UInt32 := none
  nbthread : Option UInt32 := none
  uptimeSec : Option UInt64 := none
  maxConn : Option UInt64 := none
  currConns : Option UInt64 := none
  cumConns : Option UInt64 := none
  stopping : Bool := false
  deriving DecidableEq, Repr

namespace Info

def put (info : Info) (key value : Text) : Info :=
  if key = "Name" then { info with name := value }
  else if key = "Version" then { info with version := value }
  else if key = "Release_date" then { info with releaseDate := some value }
  else if key = "node" then { info with node := some value }
  else if key = "Pid" then { info with pid := u32? value }
  else if key = "Nbthread" then { info with nbthread := u32? value }
  else if key = "Uptime_sec" then { info with uptimeSec := u64? value }
  else if key = "Maxconn" then { info with maxConn := u64? value }
  else if key = "CurrConns" then { info with currConns := u64? value }
  else if key = "CumConns" then { info with cumConns := u64? value }
  else if key = "Stopping" then { info with stopping := value = "1" }
  else info

def shape : SectionShape Info where
  start _ := {}
  apply info key value _ := .ok (info.put key value)

def read (text : Text) : Result Info :=
  (shape.read text).map fun records => records.getLast?.getD {}

def request : Request Info := .query .showInfo read

end Info

namespace Instance

def level : Request Level := .query .showLevel Level.read

def sockets : Request (List CliSocket) :=
  .query .showSockets fun text => .ok (readLines (CliSocket.read · |>.toOption) text)

def errorTotalStart : Text := "Total events captured"

/-- The number at the end of the line that gives the total. -/
def readErrorTotal (text : Text) : Result UInt32 :=
  match (dataLines text).find? (startsWith errorTotalStart) with
  | none => .error (.unread (.missing "event total") ((lines text).head?.getD []))
  | some line =>
    let count := ((cutLast? (· == ' ') line).map (·.2)).getD line
    number u32? count "event count" line

def errors : Request UInt32 := .query .showErrors readErrorTotal

def backendErrors (backend : BackendId) (side : ErrorSide) : Request UInt32 := .checked do
  if let .name name := backend then
    let _ ← Argument.name "backend" name
  pure (.query (.showBackendErrors backend side) readErrorTotal)

end Instance

end ProxyControl
