import ProxyControl.Argument
import ProxyControl.Text.Number

/-!
# Servers and backends

The names by which commands refer to servers and backends, and the states that a server can be
put into.
-/
namespace ProxyControl

open Text

structure ServerRef where
  backend : Text
  server : Text
  deriving DecidableEq, Repr

namespace ServerRef

def ofNames (backend server : Text) : Result ServerRef := do
  let backend ← Argument.name "backend name" backend
  let server ← Argument.name "server name" server
  pure { backend, server }

def toText (ref : ServerRef) : Text := ref.backend ++ "/" ++ ref.server

end ServerRef

inductive ServerState
  | ready
  | drain
  | maint
  deriving DecidableEq, Repr

namespace ServerState

def all : List ServerState := [.ready, .drain, .maint]

def word : ServerState → Text
  | .ready => "ready"
  | .drain => "drain"
  | .maint => "maint"

def read (text : Text) : Result ServerState :=
  match all.find? fun state => state.word == text with
  | some state => .ok state
  | none =>
    .error (.invalidArgument
      ("unknown server state " ++ quoted text ++ ", expected one of ready, drain, maint"))

end ServerState

/-- A backend as the error log refers to it. -/
inductive BackendId
  | all
  | id (number : Int32)
  | name (text : Text)
  deriving DecidableEq

def BackendId.toText : BackendId → Text
  | .all => "-1"
  | .id number =>
    let n := number.toInt
    (if n < 0 then ['-'] else []) ++ decimal n.natAbs
  | .name text => text

/-- The side of an exchange that the error log is asked about. -/
inductive ErrorSide
  | all
  | request
  | response
  deriving DecidableEq, Repr

def ErrorSide.word : ErrorSide → Text
  | .all => []
  | .request => "request"
  | .response => "response"

end ProxyControl
