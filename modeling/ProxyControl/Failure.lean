import ProxyControl.Text.Duration
import ProxyControl.Text.Quoted

/-!
# Failures

Every way in which a request to the proxy can fail, with the command it belongs to and, where
the proxy answered at all, the answer. The wording of each failure is fixed here and nowhere
else.
-/
namespace ProxyControl

/-- Why an argument is refused before anything is sent. -/
inductive ArgumentFault
  | blank (what : Text)
  | notAName (what name : Text)
  | notOneLine (what : Text)
  | stated (reason : Text)
  deriving DecidableEq, Repr

def ArgumentFault.reason : ArgumentFault → Text
  | .blank what => what ++ " must not be empty"
  | .notAName what name =>
    what ++ " " ++ Text.quoted name ++ " must not contain whitespace or ';'"
  | .notOneLine what => what ++ " must be a single line without ';'"
  | .stated reason => reason

/-- Why an answer cannot be read. -/
inductive ReadFault
  | missing (what : Text)
  | invalid (what value : Text)
  | shortRow (expected found : Nat)
  | stated (reason : Text)
  deriving DecidableEq, Repr

def ReadFault.reason : ReadFault → Text
  | .missing what => "missing " ++ what
  | .invalid what value => "invalid " ++ what ++ " " ++ Text.quoted value
  | .shortRow expected found =>
    "expected " ++ Text.decimal expected ++ " fields, found " ++ Text.decimal found
  | .stated reason => reason

inductive Failure
  | transport (endpoint source command : Text)
  | timeout (limit : Nanoseconds) (command : Text)
  | protocol (severity : Option Nat) (message response command : Text)
  | parse (fault : ReadFault) (line command : Text)
  | notFound (what response command : Text)
  | validation (fault : ArgumentFault)
  | config (reason : Text)
  deriving DecidableEq, Repr

namespace Failure

/-- A reading failure that does not know its command yet. -/
def unread (fault : ReadFault) (line : Text) : Failure := .parse fault line []

def invalidArgument (reason : Text) : Failure := .validation (.stated reason)

def message : Failure → Text
  | .transport endpoint source command =>
    "transport failure on " ++ endpoint ++ " for `" ++ command ++ "`: " ++ source
  | .timeout limit command => "no response within " ++ limit.toText ++ " for `" ++ command ++ "`"
  | .protocol _ message _ command => "HAProxy rejected `" ++ command ++ "`: " ++ message
  | .parse fault line command =>
    "failed to parse response to `" ++ command ++ "`: " ++ fault.reason
      ++ " (line: " ++ Text.quoted line ++ ")"
  | .notFound what _ command => what ++ " not found (`" ++ command ++ "`)"
  | .validation fault => "invalid argument: " ++ fault.reason
  | .config reason => "configuration error: " ++ reason

def command? : Failure → Option Text
  | .transport _ _ command | .timeout _ command | .protocol _ _ _ command
  | .parse _ _ command | .notFound _ _ command => some command
  | .validation _ | .config _ => none

/-- Names the command in a failure that does not name one. -/
def withCommand (text : Text) : Failure → Failure
  | .transport endpoint source [] => .transport endpoint source text
  | .timeout limit [] => .timeout limit text
  | .protocol severity message response [] => .protocol severity message response text
  | .parse fault line [] => .parse fault line text
  | .notFound what response [] => .notFound what response text
  | failure => failure

/-- Only a transport failure leaves open whether the command ever reached the proxy, so only
it is worth a second attempt. -/
def isRetryable : Failure → Bool
  | .transport _ _ _ => true
  | _ => false

def isNotFound : Failure → Bool
  | .notFound _ _ _ => true
  | _ => false

def isTimeout : Failure → Bool
  | .timeout _ _ => true
  | _ => false

end Failure

abbrev Result (α : Type) := Except Failure α

instance decidableEqResult {ε α : Type} [DecidableEq ε] [DecidableEq α] :
    DecidableEq (Except ε α)
  | .error first, .error second => decidable_of_iff (first = second) (by simp)
  | .ok first, .ok second => decidable_of_iff (first = second) (by simp)
  | .error _, .ok _ => .isFalse nofun
  | .ok _, .error _ => .isFalse nofun

end ProxyControl
