import ProxyControl.Acme
import ProxyControl.Instance.Info
import ProxyControl.Pattern.Acl
import ProxyControl.Pattern.Map
import ProxyControl.Pattern.VersionedUpdate
import ProxyControl.Server.State
import ProxyControl.Store.CaFile
import ProxyControl.Store.CrlFile
import ProxyControl.Store.Ocsp

/-!
# Readers fail in one way

Whoever reads an answer knows nothing of the command that it answers. All that a reader can
report is a line that makes no sense to it, and it leaves it to the request to name the command.
-/
namespace ProxyControl

open Text Listing

/-- A result that is no failure but that of a line that cannot be read. -/
def OnlyUnread {α : Type} (result : Result α) : Prop :=
  ∀ failure, result = .error failure → ∃ fault line, failure = .unread fault line

/-! ### Building readers -/

section

variable {α β : Type}

@[simp] theorem onlyUnread_ok (value : α) : OnlyUnread (.ok value) := by
  simp [OnlyUnread]

@[simp] theorem onlyUnread_pure (value : α) : OnlyUnread (pure value) := onlyUnread_ok value

@[simp] theorem onlyUnread_error (fault : ReadFault) (line : Text) :
    OnlyUnread (.error (.unread fault line) : Result α) := by
  rintro failure ⟨rfl⟩
  exact ⟨fault, line, rfl⟩

@[simp] theorem onlyUnread_throw (fault : ReadFault) (line : Text) :
    OnlyUnread (throw (.unread fault line) : Result α) :=
  onlyUnread_error fault line

theorem OnlyUnread.bind {result : Result α} {next : α → Result β} (reads : OnlyUnread result)
    (readsOn : ∀ value, OnlyUnread (next value)) : OnlyUnread (result >>= next) := by
  cases result with
  | ok value => exact readsOn value
  | error failure =>
    rintro other ⟨rfl⟩
    exact reads failure rfl

theorem OnlyUnread.map {result : Result α} (reads : OnlyUnread result) (f : α → β) :
    OnlyUnread (result.map f) := by
  cases result with
  | ok value => exact onlyUnread_ok (f value)
  | error failure =>
    rintro other ⟨rfl⟩
    exact reads failure rfl

theorem OnlyUnread.mapM {read : α → Result β} (reads : ∀ value, OnlyUnread (read value))
    (values : List α) : OnlyUnread (values.mapM read) := by
  induction values with
  | nil => exact onlyUnread_pure []
  | cons value rest ih =>
    rw [List.mapM_cons]
    exact (reads value).bind fun first => ih.bind fun others => onlyUnread_pure _

end

/-! ### Values -/

theorem onlyUnread_required (value what line : Text) : OnlyUnread (required value what line) := by
  unfold required
  split <;> simp

theorem onlyUnread_number {α : Type} (read : Text → Option α) (value what line : Text) :
    OnlyUnread (number read value what line) := by
  unfold number
  split <;> simp

theorem onlyUnread_ofCertificate (value line : Text) :
    OnlyUnread (Date.ofCertificate value line) := by
  unfold Date.ofCertificate Date.unreadable
  split <;> simp

theorem onlyUnread_ofRfc3339 (value line : Text) : OnlyUnread (Date.ofRfc3339 value line) := by
  unfold Date.ofRfc3339 Date.unreadable
  split <;> simp

theorem onlyUnread_present {α : Type} (slot : Option α) (what context : Text) :
    OnlyUnread (X509.present slot what context) := by
  cases slot <;> simp [X509.present]

/-! ### Sections -/

namespace Listing.SectionShape

variable {σ : Type} {shape : SectionShape σ}

/-- Reading sections fails only where taking in a line or ending a record does. -/
theorem onlyUnread_collect
    (takesIn : ∀ current key value line, OnlyUnread (shape.apply current key value line))
    (ends : ∀ current, OnlyUnread (shape.finish current)) (position : Position) (current : σ)
    (rest : List Text) : OnlyUnread (shape.collect position current rest) := by
  have next (current : σ) (line : Text) : OnlyUnread (shape.applyLine current line) :=
    takesIn current _ _ line
  -- what has been taken in so far may be anything
  induction rest generalizing position current with
  | nil =>
    unfold collect
    split
    · exact onlyUnread_ok []
    · exact (ends current).bind fun _ => onlyUnread_pure _
  | cons line rest ih =>
    unfold collect
    split
    next header =>
      -- only a record is ended by the header of the next one
      split
      next record =>
        exact (ends current).bind fun _ => (next _ line).bind fun opened =>
          (ih .record opened).bind fun _ => onlyUnread_pure _
      next =>
        exact (next _ line).bind fun opened => (ih .record opened).bind fun _ => onlyUnread_pure _
    next => exact (next current line).bind fun changed => ih _ changed

theorem onlyUnread_read
    (takesIn : ∀ current key value line, OnlyUnread (shape.apply current key value line))
    (ends : ∀ current, OnlyUnread (shape.finish current)) (text : Text) :
    OnlyUnread (shape.read text) :=
  onlyUnread_collect takesIn ends _ _ _

end Listing.SectionShape

theorem X509.Fields.onlyUnread_put (fields : X509.Fields) (key : X509.Key) (value line : Text) :
    OnlyUnread (fields.put key value line) := by
  cases key with
  | serial => exact (onlyUnread_required _ _ _).map _
  | notBefore => exact (onlyUnread_ofCertificate _ _).map _
  | notAfter => exact (onlyUnread_ofCertificate _ _).map _
  | _ => exact onlyUnread_ok _

theorem X509.Fields.onlyUnread_complete (fields : X509.Fields) (context : Text) :
    OnlyUnread (fields.complete context) :=
  (onlyUnread_present _ _ _).bind fun _ => (onlyUnread_present _ _ _).bind fun _ =>
    (onlyUnread_present _ _ _).bind fun _ => onlyUnread_pure _

namespace CertificateDetail

theorem onlyUnread_complete (draft : Draft) : OnlyUnread draft.complete :=
  (draft.x509.onlyUnread_complete _).bind fun _ => onlyUnread_pure _

theorem onlyUnread_read (text : Text) : OnlyUnread (read text) := by
  refine (SectionShape.onlyUnread_read ?_ ?_ text).bind fun drafts => ?_
  · intro draft key value line
    simp only [shape, Draft.apply]
    split
    · exact (draft.x509.onlyUnread_put _ _ _).map _
    · split <;> exact onlyUnread_ok _
  · exact fun draft => (onlyUnread_complete draft).map _
  · split
    · exact onlyUnread_complete _
    · exact onlyUnread_throw _ _

end CertificateDetail

namespace CaCertificate

theorem onlyUnread_complete (draft : Draft) : OnlyUnread draft.complete :=
  (draft.x509.onlyUnread_complete _).bind fun _ => onlyUnread_pure _

theorem onlyUnread_readAll (text : Text) : OnlyUnread (readAll text) := by
  refine (SectionShape.onlyUnread_read ?_ ?_ text).bind fun drafts =>
    OnlyUnread.mapM onlyUnread_complete _
  · intro draft key value line
    simp only [shape, Draft.apply]
    split
    · exact (onlyUnread_number _ _ _ _).map _
    · split
      · exact (draft.x509.onlyUnread_put _ _ _).map _
      · split
        · exact onlyUnread_ok _
        · split <;> exact onlyUnread_ok _
  · intro draft
    simp only [shape]
    split
    · exact onlyUnread_ok _
    · exact (onlyUnread_complete draft).map _

end CaCertificate

namespace RevocationList

theorem onlyUnread_put (draft : Draft) (key : Key) (value line : Text) :
    OnlyUnread (draft.put key value line) := by
  cases key with
  | lastUpdate => exact (onlyUnread_ofCertificate _ _).map _
  | nextUpdate => exact (onlyUnread_ofCertificate _ _).map _
  | serialNumber => exact (onlyUnread_required _ _ _).map _
  | revocationDate =>
    refine (onlyUnread_ofCertificate _ _).bind fun date => ?_
    -- a date needs a serial number that it is the date of
    split
    · exact onlyUnread_pure _
    · exact onlyUnread_throw _ _
  | _ => exact onlyUnread_ok _

theorem onlyUnread_complete (draft : Draft) : OnlyUnread draft.complete :=
  (OnlyUnread.mapM (fun _ => (onlyUnread_present _ _ _).map _) _).bind fun _ =>
    (onlyUnread_present _ _ _).bind fun _ => onlyUnread_pure _

theorem onlyUnread_readAll (text : Text) : OnlyUnread (readAll text) := by
  refine (SectionShape.onlyUnread_read ?_ ?_ text).bind fun drafts =>
    OnlyUnread.mapM onlyUnread_complete _
  · intro draft key value line
    simp only [shape, Draft.apply]
    split
    · exact (onlyUnread_number _ _ _ _).map _
    · split
      · exact onlyUnread_ok _
      · split
        · exact onlyUnread_put _ _ _ _
        · exact onlyUnread_ok _
  · intro draft
    simp only [shape]
    split
    · exact onlyUnread_ok _
    · exact (onlyUnread_complete draft).map _

end RevocationList

namespace OcspResponse

theorem onlyUnread_put (draft : Draft) (key : Key) (value line : Text) :
    OnlyUnread (draft.put key value line) := by
  cases key with
  | producedAt => exact (onlyUnread_ofCertificate _ _).map _
  | thisUpdate => exact (onlyUnread_ofCertificate _ _).map _
  | nextUpdate => exact (onlyUnread_ofCertificate _ _).map _
  | _ => exact onlyUnread_ok _

theorem onlyUnread_complete (draft : Draft) : OnlyUnread draft.complete :=
  (onlyUnread_present _ _ _).bind fun _ => (onlyUnread_present _ _ _).bind fun _ =>
    (onlyUnread_present _ _ _).bind fun _ => onlyUnread_pure _

theorem onlyUnread_read (text : Text) : OnlyUnread (read text) := by
  refine (SectionShape.onlyUnread_read ?_ ?_ text).bind fun drafts => ?_
  · intro draft key value line
    simp only [shape, Draft.apply]
    split
    · exact onlyUnread_put _ _ _ _
    · exact onlyUnread_ok _
  · exact fun _ => onlyUnread_ok _
  · split
    · exact onlyUnread_complete _
    · exact onlyUnread_throw _ _

end OcspResponse

theorem Info.onlyUnread_read (text : Text) : OnlyUnread (read text) :=
  (SectionShape.onlyUnread_read (fun _ _ _ _ => onlyUnread_ok _) (fun _ => onlyUnread_ok _)
    text).map _

/-! ### Rows -/

/-- A row may be built in any way that only fails to read. -/
theorem Listing.onlyUnread_readRows {α : Type} (delimiter : RowDelimiter) (expected : Nat)
    {build : List Text → Result α} (builds : ∀ row, OnlyUnread (build row)) (text : Text) :
    OnlyUnread (readRows delimiter expected build text) := by
  refine OnlyUnread.mapM (fun line => ?_) _
  simp only [readRow]
  split
  · exact onlyUnread_error _ _
  · cases built : build (delimiter.fields line) with
    | ok record => exact onlyUnread_ok record
    | error failure =>
      obtain ⟨fault, found, rfl⟩ := builds _ failure built
      exact onlyUnread_error fault line

theorem ServerStateRow.onlyUnread_readAll (text : Text) : OnlyUnread (readAll text) := by
  refine onlyUnread_readRows _ _ (fun row => ?_) text
  have column {α : Type} (read : Text → Option α) (value what line : Text) :
      OnlyUnread (number read value what line) := onlyUnread_number read value what line
  -- eight columns hold numbers, and the others may hold anything
  exact (column _ _ _ _).bind fun _ => (column _ _ _ _).bind fun _ =>
    (column _ _ _ _).bind fun _ => (column _ _ _ _).bind fun _ => (column _ _ _ _).bind fun _ =>
    (column _ _ _ _).bind fun _ => (column _ _ _ _).bind fun _ => (column _ _ _ _).bind fun _ =>
    onlyUnread_pure _

namespace AcmeCertificate

theorem onlyUnread_optionalDate (column : Text) : OnlyUnread (optionalDate column) := by
  simp only [optionalDate]
  split
  · exact onlyUnread_ok none
  · exact (onlyUnread_ofRfc3339 _ _).map _

theorem onlyUnread_readAll (text : Text) : OnlyUnread (readAll text) := by
  refine onlyUnread_readRows _ _ (fun row => ?_) text
  unfold ofRow
  split
  · exact (onlyUnread_required _ _ _).bind fun _ => (onlyUnread_optionalDate _).bind fun _ =>
      (onlyUnread_optionalDate _).bind fun _ => onlyUnread_pure _
  · exact onlyUnread_error _ _

end AcmeCertificate

/-! ### Single lines -/

theorem Level.onlyUnread_read (text : Text) : OnlyUnread (read text) := by
  simp only [read]
  split
  · exact onlyUnread_ok _
  · split
    · exact onlyUnread_ok _
    · split
      · exact onlyUnread_ok _
      · exact onlyUnread_error _ _

theorem Instance.onlyUnread_readErrorTotal (text : Text) : OnlyUnread (readErrorTotal text) := by
  unfold readErrorTotal
  split
  · exact onlyUnread_error _ _
  · exact onlyUnread_number _ _ _ _

theorem VersionedUpdate.onlyUnread_readVersion (answer : Text) :
    OnlyUnread (readVersion answer) := by
  simp only [readVersion]
  split
  · exact onlyUnread_error _ _
  · split
    · exact onlyUnread_ok _
    · exact onlyUnread_error _ _

theorem Acl.onlyUnread_readMatch (text : Text) : OnlyUnread (readMatch text) := by
  simp only [readMatch]
  split
  · exact onlyUnread_throw _ _
  · -- a line that says no need not say more
    split
    · exact onlyUnread_pure none
    · exact (onlyUnread_required _ _ _).bind fun _ => onlyUnread_pure _

theorem Map.onlyUnread_readMatch (text : Text) : OnlyUnread (readMatch text) := by
  simp only [readMatch]
  split
  · exact onlyUnread_throw _ _
  · split
    · exact onlyUnread_pure none
    · exact (onlyUnread_required _ _ _).bind fun _ => onlyUnread_pure _

end ProxyControl
