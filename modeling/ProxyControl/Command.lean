import ProxyControl.Target
import ProxyControl.Text.Lines

/-!
# Commands

A command is one line of text, with or without a payload of further lines. On the wire it
follows the directive that makes the proxy number its severities; a payload is announced by
`<<` and ended by an empty line.
-/
namespace ProxyControl

structure Command where
  text : Text
  payload : Option Text := none
  target : Target := .default
  /-- The worker that the master is asked to pass the command on to. -/
  forwardedTo : Option UInt32 := none
  deriving DecidableEq, Repr

namespace Command

def ofText (text : Text) : Command := { text }

def withPayload (command : Command) (payload : Text) : Command :=
  { command with payload := some payload }

def sentTo (command : Command) (target : Target) : Command := { command with target }

def forwarded (command : Command) (process : UInt32) : Command :=
  { command with forwardedTo := some process }

def isMultiline (command : Command) : Bool := command.payload.isSome

def severityDirective : Text := "set severity-output number"

/-- The address of the worker behind the master, where there is one. -/
def address (command : Command) : Text :=
  match command.forwardedTo with
  | some process => "@" ++ Text.decimal process.toNat ++ " "
  | none => []

/-- What ends the command's line, the payload included. -/
def tail (command : Command) : Text :=
  match command.payload with
  | some payload => " <<\n" ++ Text.trimLineBreaks payload ++ "\n\n"
  | none => "\n"

/-- The exact text written to the socket. -/
def wire (command : Command) : Text :=
  command.address ++ severityDirective ++ ";" ++ command.text ++ command.tail

end Command

end ProxyControl
