import ProxyControl.Store.Certificate

/-!
# OCSP responses

The revocation status of certificates, as certified by their issuers, for handing out along
with them.
-/
namespace ProxyControl

open Text Listing

structure OcspCertificate where
  id : Text
  path : Text
  deriving DecidableEq, Repr

/-- Reads `- id : path`. -/
def OcspCertificate.read (text : Text) : Option OcspCertificate := do
  let rest ← after? "-" (trim text)
  let (id, path) ← cutAt? " : " rest
  if isBlank id || isBlank path then none
  else some { id := trim id, path := trim path }

structure OcspResponse where
  responderId : Option Text
  producedAt : Moment
  hashAlgorithm : Option Text
  issuerNameHash : Option Text
  issuerKeyHash : Option Text
  serialNumber : Option Text
  certStatus : Text
  thisUpdate : Moment
  nextUpdate : Option Moment
  deriving DecidableEq, Repr

namespace OcspResponse

inductive Key
  | responderId
  | producedAt
  | hashAlgorithm
  | issuerNameHash
  | issuerKeyHash
  | serialNumber
  | certStatus
  | thisUpdate
  | nextUpdate
  deriving DecidableEq, Repr

def Key.all : List Key :=
  [.responderId, .producedAt, .hashAlgorithm, .issuerNameHash, .issuerKeyHash, .serialNumber,
   .certStatus, .thisUpdate, .nextUpdate]

def Key.word : Key → Text
  | .responderId => "Responder Id"
  | .producedAt => "Produced At"
  | .hashAlgorithm => "Hash Algorithm"
  | .issuerNameHash => "Issuer Name Hash"
  | .issuerKeyHash => "Issuer Key Hash"
  | .serialNumber => "Serial Number"
  | .certStatus => "Cert Status"
  | .thisUpdate => "This Update"
  | .nextUpdate => "Next Update"

def Key.read? (text : Text) : Option Key := Key.all.find? fun key => key.word == text

structure Draft where
  responderId : Option Text := none
  producedAt : Option Moment := none
  hashAlgorithm : Option Text := none
  issuerNameHash : Option Text := none
  issuerKeyHash : Option Text := none
  serialNumber : Option Text := none
  certStatus : Option Text := none
  thisUpdate : Option Moment := none
  nextUpdate : Option Moment := none
  deriving DecidableEq, Repr

def Draft.put (draft : Draft) (key : Key) (value line : Text) : Result Draft :=
  match key with
  | .responderId => .ok { draft with responderId := some value }
  | .producedAt => (Date.ofCertificate value line).map fun date =>
    { draft with producedAt := some date }
  | .hashAlgorithm => .ok { draft with hashAlgorithm := some value }
  | .issuerNameHash => .ok { draft with issuerNameHash := some value }
  | .issuerKeyHash => .ok { draft with issuerKeyHash := some value }
  | .serialNumber => .ok { draft with serialNumber := some value }
  | .certStatus => .ok { draft with certStatus := some value }
  | .thisUpdate => (Date.ofCertificate value line).map fun date =>
    { draft with thisUpdate := some date }
  | .nextUpdate => (Date.ofCertificate value line).map fun date =>
    { draft with nextUpdate := some date }

def Draft.apply (draft : Draft) (key value line : Text) : Result Draft :=
  match Key.read? key with
  | some key => draft.put key value line
  | none => .ok draft

def Draft.complete (draft : Draft) : Result OcspResponse := do
  let producedAt ← X509.present draft.producedAt "Produced At" []
  let thisUpdate ← X509.present draft.thisUpdate "This Update" []
  let certStatus ← X509.present draft.certStatus "Cert Status" []
  pure
    { responderId := draft.responderId
      producedAt
      hashAlgorithm := draft.hashAlgorithm
      issuerNameHash := draft.issuerNameHash
      issuerKeyHash := draft.issuerKeyHash
      serialNumber := draft.serialNumber
      certStatus
      thisUpdate
      nextUpdate := draft.nextUpdate }

def shape : SectionShape Draft where
  start _ := {}
  apply := Draft.apply

def read (text : Text) : Result OcspResponse := do
  let drafts ← shape.read text
  let some draft := drafts.getLast?
    | throw (.unread (.stated "empty OCSP response") [])
  draft.complete

def list : Request (List OcspCertificate) :=
  .query .showOcspResponses fun text => .ok (readLines OcspCertificate.read text)

def request (id : Text) : Request OcspResponse := .checked do
  let id ← Argument.name "OCSP certificate ID" id
  pure (.about ("OCSP response " ++ id) (.query (.showOcspResponse id) read))

def set (base64 : Text) : Request Unit := .checked do
  let base64 ← Argument.payload "OCSP response" base64
  pure (.step .ocspResponse .stage (.setOcspResponse base64))

def update (certificate : Text) : Request Unit := .checked do
  let certificate ← Argument.name "certificate" certificate
  pure (.run (.updateOcspResponse certificate))

end OcspResponse

end ProxyControl
