import ProxyControl.Failure
import ProxyControl.Frame.Basic

/-!
# Resources and confirmations

Commands that change a resource are answered in prose, in words that differ from resource to
resource. Which words confirm which step is fixed here. A refusal is a refusal whatever else
the answer says.
-/
namespace ProxyControl

inductive Resource
  | certificate
  | caFile
  | crlFile
  | crtList
  | ocspResponse
  | map
  | acl
  deriving DecidableEq, Repr

inductive Phase
  | create
  | stage
  | commit
  | abort
  | delete
  deriving DecidableEq, Repr

def Phase.name : Phase → Text
  | .create => "create"
  | .stage => "stage"
  | .commit => "commit"
  | .abort => "abort"
  | .delete => "delete"

/-- How the proxy confirms a step. -/
inductive Confirmation
  | oneOf (phrases : List Text)
  | silent
  deriving DecidableEq, Repr

namespace Resource

def name : Resource → Text
  | .certificate => "SSL certificate"
  | .caFile => "CA file"
  | .crlFile => "CRL file"
  | .crtList => "crt-list"
  | .ocspResponse => "OCSP response"
  | .map => "map"
  | .acl => "ACL"

/-- The word for the resource behind `show ssl` and its relatives. -/
def store? : Resource → Option Text
  | .certificate => some "cert"
  | .caFile => some "ca-file"
  | .crlFile => some "crl-file"
  | .crtList => some "crt-list"
  | .ocspResponse => some "ocsp-response"
  | .map | .acl => none

def confirmation? : Resource → Phase → Option Confirmation
  | .certificate, .create => some (.oneOf ["New empty certificate store"])
  | .caFile, .create => some (.oneOf ["New CA file created"])
  | .crlFile, .create => some (.oneOf ["New CRL file created"])
  | .certificate, .stage | .caFile, .stage | .crlFile, .stage =>
    some (.oneOf ["Transaction created", "Transaction updated"])
  | .certificate, .commit | .caFile, .commit | .crlFile, .commit => some (.oneOf ["Success!"])
  | .certificate, .abort | .caFile, .abort | .crlFile, .abort =>
    some (.oneOf ["Transaction aborted"])
  | .certificate, .delete | .caFile, .delete | .crlFile, .delete => some (.oneOf ["deleted!"])
  | .crtList, .stage => some (.oneOf ["Success!"])
  | .crtList, .delete => some (.oneOf ["deleted in crtlist"])
  | .ocspResponse, .stage => some (.oneOf ["OCSP Response updated"])
  | .map, .create | .acl, .create => some (.oneOf ["New version created:"])
  | .map, .stage | .map, .commit | .map, .delete => some .silent
  | .acl, .stage | .acl, .commit | .acl, .delete => some .silent
  | _, _ => none

/-- What stands in for the message of an answer that neither refuses nor confirms. -/
def unconfirmedMessage (resource : Resource) (phase : Phase) (answer : Text) : Text :=
  let message := Text.trim answer
  if message.isEmpty then resource.name ++ " " ++ phase.name ++ " returned no confirmation"
  else message

end Resource

/-- The failure that a refusal makes of an answer. -/
def Refusal.failure (refusal : Refusal) (command answer : Text) : Failure :=
  .protocol (some refusal.severity) refusal.message answer command

/-- An answer, unless it is a refusal. -/
def accepted (command answer : Text) : Result Text :=
  match Frame.answerRefusal? answer with
  | some refusal => .error (refusal.failure command answer)
  | none => .ok answer

/-- Whether an answer confirms the given step on a resource. -/
def Resource.confirm (resource : Resource) (phase : Phase) (command answer : Text) :
    Result Unit := do
  let answer ← accepted command answer
  match resource.confirmation? phase with
  | none =>
    throw (.invalidArgument (resource.name ++ " has no " ++ phase.name ++ " operation"))
  | some .silent => pure ()
  | some (.oneOf phrases) =>
    if phrases.any fun phrase => Text.contains phrase answer then pure ()
    else throw (.protocol none (resource.unconfirmedMessage phase answer) answer command)

end ProxyControl
