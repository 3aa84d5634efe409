import ProxyControl.Text.Number

/-!
# Targets

Which of the proxy's processes a command is meant for. Workers are counted from one.
-/
namespace ProxyControl

inductive Target
  /-- The first worker with a socket of its own, or worker 1 behind the master. -/
  | default
  | master
  | worker (process : UInt32)
  deriving DecidableEq, Repr

def Target.toText : Target → Text
  | .default => "Default"
  | .master => "Master"
  | .worker process => "Worker(" ++ Text.decimal process.toNat ++ ")"

end ProxyControl
