import ProxyControl.Store.Certificate

/-!
# CRL files

A CRL file holds revocation lists under numbered headers. Within a list every serial number is
followed by the date of its revocation.
-/
namespace ProxyControl

open Text Listing

structure Revocation where
  serial : Text
  date : Moment
  deriving DecidableEq, Repr

structure RevocationList where
  filename : Text
  status : Option Text
  index : UInt32
  version : Option UInt32
  signatureAlgorithm : Option Text
  issuer : Text
  lastUpdate : Moment
  nextUpdate : Option Moment
  revoked : List Revocation
  deriving DecidableEq, Repr

namespace RevocationList

def header : Text := "Certificate Revocation List #"

def versionStart : Text := "Version "

inductive Key
  | filename
  | status
  | signatureAlgorithm
  | issuer
  | lastUpdate
  | nextUpdate
  | serialNumber
  | revocationDate
  deriving DecidableEq, Repr

def Key.all : List Key :=
  [.filename, .status, .signatureAlgorithm, .issuer, .lastUpdate, .nextUpdate, .serialNumber,
   .revocationDate]

def Key.word : Key → Text
  | .filename => "Filename"
  | .status => "Status"
  | .signatureAlgorithm => "Signature Algorithm"
  | .issuer => "Issuer"
  | .lastUpdate => "Last Update"
  | .nextUpdate => "Next Update"
  | .serialNumber => "Serial Number"
  | .revocationDate => "Revocation Date"

def Key.read? (text : Text) : Option Key := Key.all.find? fun key => key.word == text

structure Draft where
  filename : Text := []
  status : Option Text := none
  index : UInt32 := 0
  version : Option UInt32 := none
  signatureAlgorithm : Option Text := none
  issuer : Text := []
  lastUpdate : Option Moment := none
  nextUpdate : Option Moment := none
  /-- Serial numbers in order, each with its date once that was met. -/
  revoked : List (Text × Option Moment) := []
  deriving DecidableEq, Repr

/-- A new section takes over file name and status. -/
def Draft.start : Option Draft → Draft
  | some previous => { filename := previous.filename, status := previous.status }
  | none => {}

/-- Gives the last serial number its date, unless there is none or it has one. -/
def dateLast (date : Moment) : List (Text × Option Moment) → Option (List (Text × Option Moment))
  | [] => none
  | [(serial, none)] => some [(serial, some date)]
  | [(_, some _)] => none
  | first :: rest => (dateLast date rest).map (first :: ·)

def Draft.put (draft : Draft) (key : Key) (value line : Text) : Result Draft :=
  match key with
  | .filename => .ok { draft with filename := value }
  | .status => .ok { draft with status := some value }
  | .signatureAlgorithm => .ok { draft with signatureAlgorithm := some value }
  | .issuer => .ok { draft with issuer := value }
  | .lastUpdate => (Date.ofCertificate value line).map fun date =>
    { draft with lastUpdate := some date }
  | .nextUpdate => (Date.ofCertificate value line).map fun date =>
    { draft with nextUpdate := some date }
  | .serialNumber => (required value "serial number" line).map fun serial =>
    { draft with revoked := draft.revoked ++ [(serial, none)] }
  | .revocationDate => do
    let date ← Date.ofCertificate value line
    match dateLast date draft.revoked with
    | some revoked => pure { draft with revoked }
    | none => throw (.unread (.stated "revocation date without serial number") line)

def Draft.apply (draft : Draft) (key value line : Text) : Result Draft :=
  match after? header key with
  | some number =>
    (Listing.number u32? number "CRL index" line).map fun index => { draft with index }
  | none =>
    match after? versionStart key with
    | some version => .ok { draft with version := u32? (trim version) }
    | none =>
      match Key.read? key with
      | some key => draft.put key value line
      | none => .ok draft

def Draft.context (draft : Draft) : Text :=
  draft.filename ++ " " ++ header ++ decimal draft.index.toNat

def Draft.complete (draft : Draft) : Result RevocationList := do
  let revoked ← draft.revoked.mapM fun (serial, date) =>
    (X509.present date ("revocation date for serial " ++ serial) draft.context).map fun date =>
      ({ serial, date } : Revocation)
  let lastUpdate ← X509.present draft.lastUpdate "Last Update" draft.context
  pure
    { filename := draft.filename
      status := draft.status
      index := draft.index
      version := draft.version
      signatureAlgorithm := draft.signatureAlgorithm
      issuer := draft.issuer
      lastUpdate
      nextUpdate := draft.nextUpdate
      revoked }

def shape : SectionShape Draft where
  start := Draft.start
  isHeader := startsWith header
  apply := Draft.apply
  -- a section without a number is no list, and may lack whatever a list must have
  finish draft := if draft.index = 0 then .ok () else draft.complete.map fun _ => ()

def readAll (text : Text) : Result (List RevocationList) := do
  let drafts ← shape.read text
  (drafts.filter (·.index ≠ 0)).mapM Draft.complete

def request (name : Text) : Request (List RevocationList) := .checked do
  let name ← Argument.name "CRL file" name
  pure (.about ("CRL file " ++ name) (.query (.showStored "crl-file" name) readAll))

end RevocationList

end ProxyControl
