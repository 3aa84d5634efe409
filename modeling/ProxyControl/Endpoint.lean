import ProxyControl.Command
import ProxyControl.Failure

/-!
# Endpoints

An endpoint is a control socket together with the process behind it: the master, or one of the
workers.
-/
namespace ProxyControl

inductive Role
  | master
  | worker (process : UInt32)
  deriving DecidableEq, Repr

namespace Role

def toText : Role → Text
  | .master => "Master"
  | .worker process => "Worker(" ++ Text.decimal process.toNat ++ ")"

def isWorker : Role → Bool
  | .master => false
  | .worker _ => true

end Role

structure Endpoint where
  path : Text
  role : Role
  deriving DecidableEq, Repr

namespace Endpoint

def master (path : Text) : Endpoint := ⟨path, .master⟩

def worker (path : Text) (process : UInt32) : Endpoint := ⟨path, .worker process⟩

/-- Where the proxy listens when nothing else is said. -/
def standardPath : Text := "/var/run/haproxy.sock"

def standard : Endpoint := worker standardPath 1

def toText (endpoint : Endpoint) : Text :=
  match endpoint.role with
  | .master => "master@" ++ endpoint.path
  | .worker process => "worker " ++ Text.decimal process.toNat ++ "@" ++ endpoint.path

/-- A command that the endpoint's socket did not carry. -/
def failure (endpoint : Endpoint) (command reason : Text) : Failure :=
  .transport endpoint.toText reason command

end Endpoint

end ProxyControl
