import ProxyControl.Date.Written
import ProxyControl.Listing.Lines
import ProxyControl.Listing.Sections
import ProxyControl.Store.File

/-!
# Certificates

The detailed view of a certificate is a block of `key: value` lines. Of several lines with one
key the last one counts, but the lines about the chain add up.
-/
namespace ProxyControl

open Text Listing

/-- What a certificate says about itself. -/
structure X509 where
  serial : Text
  notBefore : Moment
  notAfter : Moment
  subject : Text
  issuer : Text
  algorithm : Option Text
  sha1Fingerprint : Option Text
  subjectAltNames : List Text
  deriving DecidableEq, Repr

namespace X509

inductive Key
  | serial
  | notBefore
  | notAfter
  | subject
  | issuer
  | algorithm
  | fingerprint
  | altNames
  deriving DecidableEq, Repr

def Key.all : List Key :=
  [.serial, .notBefore, .notAfter, .subject, .issuer, .algorithm, .fingerprint, .altNames]

def Key.word : Key → Text
  | .serial => "Serial"
  | .notBefore => "notBefore"
  | .notAfter => "notAfter"
  | .subject => "Subject"
  | .issuer => "Issuer"
  | .algorithm => "Algorithm"
  | .fingerprint => "SHA1 FingerPrint"
  | .altNames => "Subject Alternative Name"

def Key.read? (text : Text) : Option Key := Key.all.find? fun key => key.word == text

/-- The fields that have been met so far. -/
structure Fields where
  serial : Option Text := none
  notBefore : Option Moment := none
  notAfter : Option Moment := none
  subject : Option Text := none
  issuer : Option Text := none
  algorithm : Option Text := none
  fingerprint : Option Text := none
  altNames : List Text := []
  deriving DecidableEq, Repr

/-- The names of a comma-separated list, each without its `DNS:`. -/
def readAltNames (value : Text) : List Text :=
  (((pieces (· == ',') value).map trim).filter (!·.isEmpty)).map (withoutStart "DNS:")

def Fields.put (fields : Fields) (key : Key) (value line : Text) : Result Fields :=
  match key with
  | .serial => (required value "serial" line).map fun serial =>
    { fields with serial := some serial }
  | .notBefore => (Date.ofCertificate value line).map fun date =>
    { fields with notBefore := some date }
  | .notAfter => (Date.ofCertificate value line).map fun date =>
    { fields with notAfter := some date }
  | .subject => .ok { fields with subject := some value }
  | .issuer => .ok { fields with issuer := some value }
  | .algorithm => .ok { fields with algorithm := some value }
  | .fingerprint => .ok { fields with fingerprint := some value }
  | .altNames => .ok { fields with altNames := readAltNames value }

/-- A field that must have been met; the context says where it was looked for. -/
def present {α : Type} (slot : Option α) (what context : Text) : Result α :=
  match slot with
  | some value => .ok value
  | none => .error (.unread (.missing what) context)

/-- Serial and validity must be there; the rest may be missing. -/
def Fields.complete (fields : Fields) (context : Text) : Result X509 := do
  let serial ← present fields.serial "serial" context
  let notBefore ← present fields.notBefore "notBefore" context
  let notAfter ← present fields.notAfter "notAfter" context
  pure
    { serial, notBefore, notAfter
      subject := fields.subject.getD []
      issuer := fields.issuer.getD []
      algorithm := fields.algorithm
      sha1Fingerprint := fields.fingerprint
      subjectAltNames := fields.altNames }

end X509

structure CertificateDetail where
  filename : Text
  status : Option Text
  x509 : X509
  chainSubjects : List Text
  chainIssuers : List Text
  ocspResponseKey : Option Text
  deriving DecidableEq, Repr

namespace CertificateDetail

inductive Key
  | filename
  | status
  | chainSubject
  | chainIssuer
  | ocspResponseKey
  deriving DecidableEq, Repr

def Key.all : List Key := [.filename, .status, .chainSubject, .chainIssuer, .ocspResponseKey]

def Key.word : Key → Text
  | .filename => "Filename"
  | .status => "Status"
  | .chainSubject => "Chain Subject"
  | .chainIssuer => "Chain Issuer"
  | .ocspResponseKey => "OCSP Response Key"

def Key.read? (text : Text) : Option Key := Key.all.find? fun key => key.word == text

structure Draft where
  filename : Text := []
  status : Option Text := none
  x509 : X509.Fields := {}
  chainSubjects : List Text := []
  chainIssuers : List Text := []
  ocspResponseKey : Option Text := none
  deriving DecidableEq, Repr

def Draft.put (draft : Draft) (key : Key) (value : Text) : Draft :=
  match key with
  | .filename => { draft with filename := value }
  | .status => { draft with status := some value }
  | .chainSubject => { draft with chainSubjects := draft.chainSubjects ++ [value] }
  | .chainIssuer => { draft with chainIssuers := draft.chainIssuers ++ [value] }
  | .ocspResponseKey => { draft with ocspResponseKey := some value }

def Draft.apply (draft : Draft) (key value line : Text) : Result Draft :=
  match X509.Key.read? key with
  | some key => (draft.x509.put key value line).map fun x509 => { draft with x509 }
  | none =>
    match Key.read? key with
    | some key => .ok (draft.put key value)
    | none => .ok draft

def Draft.complete (draft : Draft) : Result CertificateDetail := do
  let x509 ← draft.x509.complete draft.filename
  pure
    { filename := draft.filename
      status := draft.status
      x509
      chainSubjects := draft.chainSubjects
      chainIssuers := draft.chainIssuers
      ocspResponseKey := draft.ocspResponseKey }

def shape : SectionShape Draft where
  start _ := {}
  apply := Draft.apply
  finish draft := draft.complete.map fun _ => ()

def read (text : Text) : Result CertificateDetail := do
  let drafts ← shape.read text
  let some draft := drafts.getLast?
    | throw (.unread (.stated "empty certificate detail") [])
  draft.complete

def request (name : Text) : Request CertificateDetail := .checked do
  let name ← Argument.name "certificate" name
  pure (.about ("certificate " ++ name) (.query (.showStored "cert" name) read))

end CertificateDetail

end ProxyControl
