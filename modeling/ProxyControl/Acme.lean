import ProxyControl.Command.Vocabulary
import ProxyControl.Date.Written
import ProxyControl.Listing.Rows
import ProxyControl.Request

/-!
# ACME

The state of the certificates that the proxy renews by itself.
-/
namespace ProxyControl

open Text Listing

inductive AcmeState
  | running
  | scheduled
  | other (text : Text)
  deriving DecidableEq, Repr

def AcmeState.read (text : Text) : AcmeState :=
  if text = "Running" then .running
  else if text = "Scheduled" then .scheduled
  else .other text

structure AcmeCertificate where
  certificate : Text
  section_ : Text
  state : AcmeState
  expiresAt : Option Moment
  expiresIn : Text
  scheduledAt : Option Moment
  scheduledIn : Text
  deriving DecidableEq, Repr

namespace AcmeCertificate

/-- An empty column and a dash stand for no date. -/
def optionalDate (column : Text) : Result (Option Moment) :=
  let date := trim column
  if date.isEmpty || date = "-" then .ok none
  else (Date.ofRfc3339 date date).map some

def ofRow : List Text → Result AcmeCertificate
  | certificate :: section_ :: state :: expiresAt :: expiresIn :: scheduledAt :: scheduledIn :: _ =>
    do
      let certificate ← required certificate "certificate" certificate
      let expiresAt ← optionalDate expiresAt
      let scheduledAt ← optionalDate scheduledAt
      pure
        { certificate, section_, state := AcmeState.read state, expiresAt, expiresIn
          scheduledAt, scheduledIn }
  | row => .error (.unread (.shortRow 7 row.length) [])

def readAll : Text → Result (List AcmeCertificate) := readRows .tab 7 ofRow

def status : Request (List AcmeCertificate) := .query .acmeStatus readAll

def renew (certificate : Text) : Request Unit := .checked do
  let certificate ← Argument.name "certificate" certificate
  pure (.run (.acmeRenew certificate))

end AcmeCertificate

end ProxyControl
