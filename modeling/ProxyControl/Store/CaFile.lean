import ProxyControl.Store.Certificate

/-!
# CA files

A CA file holds certificates under numbered headers. File name and status are stated once and
hold for all of them; everything else belongs to the section it stands in. A section with
number 0 is none.
-/
namespace ProxyControl

open Text Listing

structure CaCertificate where
  filename : Text
  status : Option Text
  index : UInt32
  x509 : X509
  deriving DecidableEq, Repr

namespace CaCertificate

def header : Text := "Certificate #"

structure Draft where
  filename : Text := []
  status : Option Text := none
  index : UInt32 := 0
  x509 : X509.Fields := {}
  deriving DecidableEq, Repr

/-- A new section takes over file name and status. -/
def Draft.start : Option Draft → Draft
  | some previous => { filename := previous.filename, status := previous.status }
  | none => {}

def Draft.apply (draft : Draft) (key value line : Text) : Result Draft :=
  match after? header key with
  | some number =>
    (Listing.number u32? number "certificate index" line).map fun index =>
      { draft with index }
  | none =>
    match X509.Key.read? key with
    | some key => (draft.x509.put key value line).map fun x509 => { draft with x509 }
    | none =>
      if key = "Filename" then .ok { draft with filename := value }
      else if key = "Status" then .ok { draft with status := some value }
      else .ok draft

def Draft.context (draft : Draft) : Text :=
  draft.filename ++ " " ++ header ++ decimal draft.index.toNat

def Draft.complete (draft : Draft) : Result CaCertificate := do
  let x509 ← draft.x509.complete draft.context
  pure { filename := draft.filename, status := draft.status, index := draft.index, x509 }

def shape : SectionShape Draft where
  start := Draft.start
  isHeader := startsWith header
  apply := Draft.apply
  finish draft := if draft.index = 0 then .ok () else draft.complete.map fun _ => ()

def readAll (text : Text) : Result (List CaCertificate) := do
  let drafts ← shape.read text
  (drafts.filter (·.index ≠ 0)).mapM Draft.complete

def request (name : Text) : Request (List CaCertificate) := .checked do
  let name ← Argument.name "CA file" name
  pure (.about ("CA file " ++ name) (.query (.showStored "ca-file" name) readAll))

end CaCertificate

end ProxyControl
