import ProxyControl.Proofs.Listing.Sections
import ProxyControl.Store.CaFile
import ProxyControl.Store.Ocsp

/-!
# What detailed views hold

What a detailed view must have is taken from the lines that the record comes of: of several lines
with one key the last one counts. Every line with the key of a date has a date for its value, even
where no record comes of it.
-/
namespace ProxyControl

open Text Listing

/-! ### Values -/

/-- A value that is there, without the white space around it. -/
def filled? (value : Text) : Option Text := if isBlank value then none else some (trim value)

theorem required_eq_ok_iff {value what line found : Text} :
    required value what line = .ok found ↔ filled? value = some found := by
  unfold required filled?
  split <;> simp

theorem number_eq_ok_iff {α : Type} {read : Text → Option α} {value what line : Text} {n : α} :
    number read value what line = .ok n ↔ read (trim value) = some n := by
  unfold number
  split <;> simp [*]

theorem ofCertificate_eq_ok_iff {value line : Text} {date : Moment} :
    Date.ofCertificate value line = .ok date ↔ Date.certificateTime? value = some date := by
  unfold Date.ofCertificate
  split <;> simp [*]

theorem X509.present_eq_ok_iff {α : Type} {slot : Option α} {what context : Text} {value : α} :
    present slot what context = .ok value ↔ slot = some value := by
  cases slot <;> simp [present]

/-! ### Certificates -/

namespace X509

theorem Key.read?_eq_some_iff {text : Text} {key : Key} :
    Key.read? text = some key ↔ key.word = text :=
  find?_word_eq_some_iff (by intro key; cases key <;> decide +kernel)

theorem Key.read?_word (key : Key) : Key.read? key.word = some key :=
  Key.read?_eq_some_iff.mpr rfl

/-- Serial and validity are what the last lines about them say. -/
structure IsTakenFrom (x509 : X509) (lines : List Text) : Prop where
  serial : (lastValue? "Serial" lines).bind filled? = some x509.serial
  notBefore : (lastValue? "notBefore" lines).bind Date.certificateTime? = some x509.notBefore
  notAfter : (lastValue? "notAfter" lines).bind Date.certificateTime? = some x509.notAfter

/-- A line changes the field that it is about and no other, and a date's line must be one. -/
theorem Fields.of_put_eq_ok {fields next : Fields} {key : Key} {value line : Text}
    (put : fields.put key value line = .ok next) :
    (next.serial = if key = .serial then filled? value else fields.serial) ∧
      (next.notBefore =
        if key = .notBefore then Date.certificateTime? value else fields.notBefore) ∧
      (next.notAfter =
        if key = .notAfter then Date.certificateTime? value else fields.notAfter) ∧
      (key = .notBefore ∨ key = .notAfter → (Date.certificateTime? value).isSome) := by
  cases key with
  | serial =>
    obtain ⟨serial, read, rfl⟩ := Result.map_eq_ok_iff.mp put
    simp [required_eq_ok_iff.mp read]
  | notBefore =>
    obtain ⟨date, read, rfl⟩ := Result.map_eq_ok_iff.mp put
    simp [ofCertificate_eq_ok_iff.mp read]
  | notAfter =>
    obtain ⟨date, read, rfl⟩ := Result.map_eq_ok_iff.mp put
    simp [ofCertificate_eq_ok_iff.mp read]
  | _ =>
    cases put
    simp

/-- All of it is what the last lines about it say, and what may be missing is empty without one. -/
structure IsStatedBy (x509 : X509) (lines : List Text) : Prop extends x509.IsTakenFrom lines where
  subject : x509.subject = (lastValue? "Subject" lines).getD []
  issuer : x509.issuer = (lastValue? "Issuer" lines).getD []
  algorithm : x509.algorithm = lastValue? "Algorithm" lines
  fingerprint : x509.sha1Fingerprint = lastValue? "SHA1 FingerPrint" lines
  altNames : x509.subjectAltNames =
    ((lastValue? "Subject Alternative Name" lines).map readAltNames).getD []

/-- The fields that may be missing hold the line's value as it stands. -/
theorem Fields.optional_of_put_eq_ok {fields next : Fields} {key : Key} {value line : Text}
    (put : fields.put key value line = .ok next) :
    (next.subject = if key = .subject then some value else fields.subject) ∧
      (next.issuer = if key = .issuer then some value else fields.issuer) ∧
      (next.algorithm = if key = .algorithm then some value else fields.algorithm) ∧
      (next.fingerprint = if key = .fingerprint then some value else fields.fingerprint) ∧
      (next.altNames = if key = .altNames then readAltNames value else fields.altNames) := by
  cases key with
  | serial =>
    obtain ⟨serial, -, rfl⟩ := Result.map_eq_ok_iff.mp put
    simp
  | notBefore =>
    obtain ⟨date, -, rfl⟩ := Result.map_eq_ok_iff.mp put
    simp
  | notAfter =>
    obtain ⟨date, -, rfl⟩ := Result.map_eq_ok_iff.mp put
    simp
  | _ =>
    cases put
    simp

/-- Records that hold a certificate, among other things. -/
structure IsHeldBy {σ : Type} (shape : SectionShape σ) (x509 : σ → Fields) : Prop where
  fresh : ∀ previous, x509 (shape.start previous) = {}
  puts : ∀ (key : Key) {current next : σ} {value line : Text},
    shape.apply current key.word value line = .ok next →
      (x509 current).put key value line = .ok (x509 next)
  keeps : ∀ {current next : σ} {other value line : Text}, Key.read? other = none →
    shape.apply current other value line = .ok next → x509 next = x509 current

namespace IsHeldBy

variable {σ : Type} {shape : SectionShape σ} {x509 : σ → Fields} (held : IsHeldBy shape x509)
include held

theorem isSetBy {β : Type} (key : Key) {slot : Fields → β} {readValue : Text → β}
    (puts : ∀ {fields next : Fields} {other : Key} {value line : Text},
      fields.put other value line = .ok next →
        slot next = if other = key then readValue value else slot fields) :
    shape.IsSetBy (fun draft => slot (x509 draft)) key.word readValue :=
  SectionShape.isSetBy_of_read? Key.read?_eq_some_iff key (fun taken => puts (held.puts _ taken))
    fun unknown taken => by rw [held.keeps unknown taken]

theorem tracks {β : Type} (key : Key) {slot : Fields → Option β} {readValue : Text → Option β}
    (fresh : slot {} = none)
    (puts : ∀ {fields next : Fields} {other : Key} {value line : Text},
      fields.put other value line = .ok next →
        slot next = if other = key then readValue value else slot fields) :
    shape.Tracks (fun draft => slot (x509 draft)) key.word readValue where
  fresh previous := by rw [held.fresh, fresh]
  step := held.isSetBy key puts

/-- What a certificate must have is what the last lines about it say, if they say it properly. -/
theorem required_eq {lines : List Text} {draft : σ} (gathered : shape.Gathers lines draft) :
    (x509 draft).serial = (lastValue? "Serial" lines).bind filled? ∧
      (x509 draft).notBefore = (lastValue? "notBefore" lines).bind Date.certificateTime? ∧
      (x509 draft).notAfter = (lastValue? "notAfter" lines).bind Date.certificateTime? := by
  have fromSerial : shape.Tracks (fun draft => (x509 draft).serial) "Serial" filled? :=
    held.tracks .serial rfl fun put => (Fields.of_put_eq_ok put).1
  have fromNotBefore :
      shape.Tracks (fun draft => (x509 draft).notBefore) "notBefore" Date.certificateTime? :=
    held.tracks .notBefore rfl fun put => (Fields.of_put_eq_ok put).2.1
  have fromNotAfter :
      shape.Tracks (fun draft => (x509 draft).notAfter) "notAfter" Date.certificateTime? :=
    held.tracks .notAfter rfl fun put => (Fields.of_put_eq_ok put).2.2.1
  exact ⟨gathered.slot_eq fromSerial, gathered.slot_eq fromNotBefore,
    gathered.slot_eq fromNotAfter⟩

theorem isTakenFrom {lines : List Text} {draft : σ} (gathered : shape.Gathers lines draft)
    {context : Text} {record : X509} (complete : (x509 draft).complete context = .ok record) :
    record.IsTakenFrom lines := by
  obtain ⟨fromSerial, fromNotBefore, fromNotAfter⟩ := held.required_eq gathered
  simp only [Fields.complete, Result.bind_eq_ok_iff, present_eq_ok_iff] at complete
  obtain ⟨serial, first, notBefore, second, notAfter, third, ⟨⟩⟩ := complete
  exact
    { serial := fromSerial.symm.trans first
      notBefore := fromNotBefore.symm.trans second
      notAfter := fromNotAfter.symm.trans third }

/-- A certificate is complete if the lines say what it must have. -/
theorem exists_complete {lines : List Text} {draft : σ} (gathered : shape.Gathers lines draft)
    {record : X509} (taken : record.IsTakenFrom lines) (context : Text) :
    ∃ found, (x509 draft).complete context = .ok found := by
  obtain ⟨serial, notBefore, notAfter⟩ := held.required_eq gathered
  rw [taken.serial] at serial
  rw [taken.notBefore] at notBefore
  rw [taken.notAfter] at notAfter
  simp [Fields.complete, Result.bind_eq_ok_iff, present_eq_ok_iff, serial, notBefore, notAfter,
    pure, Except.pure]

theorem isStatedBy {lines : List Text} {draft : σ} (gathered : shape.Gathers lines draft)
    {context : Text} {record : X509} (complete : (x509 draft).complete context = .ok record) :
    record.IsStatedBy lines := by
  have taken := held.isTakenFrom gathered complete
  simp only [Fields.complete, Result.bind_eq_ok_iff] at complete
  obtain ⟨serial, -, notBefore, -, notAfter, -, ⟨⟩⟩ := complete
  have fromSubject : shape.Tracks (fun draft => (x509 draft).subject) "Subject" some :=
    held.tracks .subject rfl fun put => (Fields.optional_of_put_eq_ok put).1
  have fromIssuer : shape.Tracks (fun draft => (x509 draft).issuer) "Issuer" some :=
    held.tracks .issuer rfl fun put => (Fields.optional_of_put_eq_ok put).2.1
  have fromAlgorithm : shape.Tracks (fun draft => (x509 draft).algorithm) "Algorithm" some :=
    held.tracks .algorithm rfl fun put => (Fields.optional_of_put_eq_ok put).2.2.1
  have fromFingerprint :
      shape.Tracks (fun draft => (x509 draft).fingerprint) "SHA1 FingerPrint" some :=
    held.tracks .fingerprint rfl fun put => (Fields.optional_of_put_eq_ok put).2.2.2.1
  -- the names are a list, which is empty where the other fields are missing
  have fromAltNames : shape.IsSetBy (fun draft => (x509 draft).altNames)
      "Subject Alternative Name" readAltNames :=
    held.isSetBy .altNames fun put => (Fields.optional_of_put_eq_ok put).2.2.2.2
  obtain ⟨previous, gone⟩ := gathered.exists_takeIn
  exact
    { taken with
      subject := by simp [gathered.slot_eq fromSubject]
      issuer := by simp [gathered.slot_eq fromIssuer]
      algorithm := by simp [gathered.slot_eq fromAlgorithm]
      fingerprint := by simp [gathered.slot_eq fromFingerprint]
      altNames := by rw [fromAltNames.slot_takeIn gone, held.fresh] }

/-- Neither of the two dates is taken in unless it is one. -/
theorem checks : ∀ key ∈ [("notBefore" : Text), "notAfter"],
    shape.Checks key Date.certificateTime? := by
  intro key member current value line next taken
  simp only [List.mem_cons, List.not_mem_nil, or_false] at member
  rcases member with rfl | rfl
  · exact (Fields.of_put_eq_ok (held.puts .notBefore taken)).2.2.2 (.inl rfl)
  · exact (Fields.of_put_eq_ok (held.puts .notAfter taken)).2.2.2 (.inr rfl)

end IsHeldBy

end X509

namespace CertificateDetail

theorem isHeldBy : X509.IsHeldBy shape Draft.x509 where
  fresh previous := rfl
  puts key {current next value line} taken := by
    simp only [shape, Draft.apply, X509.Key.read?_word, Result.map_eq_ok_iff] at taken
    obtain ⟨x509, put, rfl⟩ := taken
    exact put
  keeps {current next other value line} unknown taken := by
    simp only [shape, Draft.apply, unknown] at taken
    split at taken
    next key known =>
      cases taken
      cases key <;> rfl
    next =>
      cases taken
      rfl

theorem isTakenFrom_of_read {answer : Text} {detail : CertificateDetail}
    (read : CertificateDetail.read answer = .ok detail) :
    detail.x509.IsTakenFrom (contentLines answer) := by
  simp only [CertificateDetail.read, Result.bind_eq_ok_iff] at read
  obtain ⟨drafts, readAll, complete⟩ := read
  split at complete
  next draft last =>
    have gathered := SectionShape.gathers_of_read (fun _ => rfl) readAll last
    obtain ⟨x509, completed, ⟨⟩⟩ := Result.bind_eq_ok_iff.mp complete
    exact isHeldBy.isTakenFrom gathered completed
  next => cases complete

end CertificateDetail

/-! ### CA files -/

namespace CaCertificate

/-- What a line does. A header gives the section its number, and any other line is about the
certificate, about the file, or about nothing that is kept. -/
inductive Draft.Takes (draft : Draft) (key value line : Text) : Draft → Prop
  | header {number : Text} {index : UInt32} (found : after? header key = some number)
      (read : u32? (trim number) = some index) : draft.Takes key value line { draft with index }
  | field {field : X509.Key} {x509 : X509.Fields} (unnumbered : after? header key = none)
      (known : X509.Key.read? key = some field)
      (put : draft.x509.put field value line = .ok x509) :
      draft.Takes key value line { draft with x509 }
  | filename (same : key = "Filename") :
      draft.Takes key value line { draft with filename := value }
  | status (same : key = "Status") :
      draft.Takes key value line { draft with status := some value }
  | ignored (notFilename : key ≠ "Filename") (notStatus : key ≠ "Status") :
      draft.Takes key value line draft

theorem Draft.takes_of_apply {draft next : Draft} {key value line : Text}
    (taken : draft.apply key value line = .ok next) : draft.Takes key value line next := by
  unfold Draft.apply at taken
  split at taken
  next number found =>
    obtain ⟨index, read, rfl⟩ := Result.map_eq_ok_iff.mp taken
    exact .header found (number_eq_ok_iff.mp read)
  next unnumbered =>
    split at taken
    next field known =>
      obtain ⟨x509, put, rfl⟩ := Result.map_eq_ok_iff.mp taken
      exact .field unnumbered known put
    next =>
      split at taken
      next same =>
        cases taken
        exact .filename same
      next notFilename =>
        split at taken
        next same =>
          cases taken
          exact .status same
        next notStatus =>
          cases taken
          exact .ignored notFilename notStatus

theorem isHeldBy : X509.IsHeldBy shape Draft.x509 where
  fresh previous := by cases previous <;> rfl
  puts key {current next value line} taken := by
    have other : after? header key.word = none := by cases key <;> decide +kernel
    simp only [shape, Draft.apply, other, X509.Key.read?_word, Result.map_eq_ok_iff] at taken
    obtain ⟨x509, put, rfl⟩ := taken
    exact put
  keeps {current next other value line} unknown taken := by
    cases Draft.takes_of_apply taken with
    | field _ known =>
      rw [unknown] at known
      cases known
    | header | filename | status | ignored => rfl

/-- Each certificate comes of its own section. -/
theorem isTakenFrom_of_readAll {answer : Text} {certificates : List CaCertificate}
    (read : readAll answer = .ok certificates) :
    List.SublistForall₂ (fun certificate lines => certificate.x509.IsTakenFrom lines) certificates
      (recordLines (startsWith header) (contentLines answer)) := by
  obtain ⟨drafts, readAll, completed⟩ := Result.bind_eq_ok_iff.mp read
  refine SectionShape.sublistForall₂_of_filter (SectionShape.read_eq_ok readAll).1 completed ?_
  intro lines draft certificate gathered complete
  obtain ⟨x509, completed, ⟨⟩⟩ := Result.bind_eq_ok_iff.mp complete
  exact isHeldBy.isTakenFrom gathered completed

end CaCertificate

/-! ### OCSP responses -/

namespace OcspResponse

theorem Key.read?_eq_some_iff {text : Text} {key : Key} :
    Key.read? text = some key ↔ key.word = text :=
  find?_word_eq_some_iff (by intro key; cases key <;> decide +kernel)

/-- Times and status are what the last lines about them say. -/
structure IsTakenFrom (response : OcspResponse) (lines : List Text) : Prop where
  producedAt :
    (lastValue? "Produced At" lines).bind Date.certificateTime? = some response.producedAt
  thisUpdate :
    (lastValue? "This Update" lines).bind Date.certificateTime? = some response.thisUpdate
  nextUpdate : (lastValue? "Next Update" lines).bind Date.certificateTime? = response.nextUpdate
  certStatus : lastValue? "Cert Status" lines = some response.certStatus

theorem Draft.of_put_eq_ok {draft next : Draft} {key : Key} {value line : Text}
    (put : draft.put key value line = .ok next) :
    (next.producedAt =
        if key = .producedAt then Date.certificateTime? value else draft.producedAt) ∧
      (next.thisUpdate =
        if key = .thisUpdate then Date.certificateTime? value else draft.thisUpdate) ∧
      (next.nextUpdate =
        if key = .nextUpdate then Date.certificateTime? value else draft.nextUpdate) ∧
      (next.certStatus = if key = .certStatus then some value else draft.certStatus) ∧
      (key = .producedAt ∨ key = .thisUpdate ∨ key = .nextUpdate →
        (Date.certificateTime? value).isSome) := by
  cases key with
  | producedAt =>
    obtain ⟨date, read, rfl⟩ := Result.map_eq_ok_iff.mp put
    simp [ofCertificate_eq_ok_iff.mp read]
  | thisUpdate =>
    obtain ⟨date, read, rfl⟩ := Result.map_eq_ok_iff.mp put
    simp [ofCertificate_eq_ok_iff.mp read]
  | nextUpdate =>
    obtain ⟨date, read, rfl⟩ := Result.map_eq_ok_iff.mp put
    simp [ofCertificate_eq_ok_iff.mp read]
  | _ =>
    cases put
    simp

theorem apply_word (draft : Draft) (key : Key) (value line : Text) :
    draft.apply key.word value line = draft.put key value line := by
  rw [Draft.apply, Key.read?_eq_some_iff.mpr rfl]

theorem eq_of_apply {draft next : Draft} {other value line : Text}
    (unknown : Key.read? other = none) (taken : draft.apply other value line = .ok next) :
    next = draft := by
  rw [Draft.apply, unknown] at taken
  cases taken
  rfl

/-- A slot is tracked if every line that can be put in leaves it as it is or puts in its value. -/
theorem tracks {β : Type} (key : Key) {slot : Draft → Option β} {readValue : Text → Option β}
    (fresh : slot {} = none)
    (puts : ∀ {draft next : Draft} {other : Key} {value line : Text},
      draft.put other value line = .ok next →
        slot next = if other = key then readValue value else slot draft) :
    shape.Tracks slot key.word readValue :=
  SectionShape.tracks_of_read? Key.read?_eq_some_iff key (fun _ => fresh)
    (fun {current other value line next} taken => puts (by rw [← apply_word]; exact taken))
    fun unknown taken => by rw [eq_of_apply unknown taken]

theorem isTakenFrom_of_read {answer : Text} {response : OcspResponse}
    (read : OcspResponse.read answer = .ok response) :
    response.IsTakenFrom (contentLines answer) := by
  simp only [OcspResponse.read, Result.bind_eq_ok_iff] at read
  obtain ⟨drafts, readAll, complete⟩ := read
  split at complete
  next draft last =>
    have gathered := SectionShape.gathers_of_read (fun _ => rfl) readAll last
    simp only [Draft.complete, Result.bind_eq_ok_iff, X509.present_eq_ok_iff] at complete
    obtain ⟨producedAt, first, thisUpdate, second, certStatus, third, ⟨⟩⟩ := complete
    have produced : shape.Tracks Draft.producedAt "Produced At" Date.certificateTime? :=
      tracks .producedAt rfl fun put => (Draft.of_put_eq_ok put).1
    have this : shape.Tracks Draft.thisUpdate "This Update" Date.certificateTime? :=
      tracks .thisUpdate rfl fun put => (Draft.of_put_eq_ok put).2.1
    have next : shape.Tracks Draft.nextUpdate "Next Update" Date.certificateTime? :=
      tracks .nextUpdate rfl fun put => (Draft.of_put_eq_ok put).2.2.1
    have status : shape.Tracks Draft.certStatus "Cert Status" some :=
      tracks .certStatus rfl fun put => (Draft.of_put_eq_ok put).2.2.2.1
    exact
      { producedAt := (gathered.slot_eq produced).symm.trans first
        thisUpdate := (gathered.slot_eq this).symm.trans second
        nextUpdate := (gathered.slot_eq next).symm
        certStatus := by simp [← third, gathered.slot_eq status] }
  next => cases complete

/-- None of the dates is taken in unless it is one. -/
theorem checks : ∀ key ∈ [("Produced At" : Text), "This Update", "Next Update"],
    shape.Checks key Date.certificateTime? := by
  intro key member draft value line next taken
  have puts (key : Key) (taken : shape.apply draft key.word value line = .ok next) :=
    Draft.of_put_eq_ok ((apply_word draft key value line).symm.trans taken)
  simp only [List.mem_cons, List.not_mem_nil, or_false] at member
  rcases member with rfl | rfl | rfl
  · exact (puts .producedAt taken).2.2.2.2 (.inl rfl)
  · exact (puts .thisUpdate taken).2.2.2.2 (.inr (.inl rfl))
  · exact (puts .nextUpdate taken).2.2.2.2 (.inr (.inr rfl))

end OcspResponse

end ProxyControl
