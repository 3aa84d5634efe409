import ProxyControl.Proofs.Listing.Numbered
import ProxyControl.Proofs.Store.DetailView

/-!
# The certificates of a CA file

A CA file is shown certificate by certificate. Each comes of one section that is not numbered 0,
and what it says of itself stands in that section alone. File name and status are those that were
stated last.
-/
namespace ProxyControl.CaCertificate

open Text Listing

/-- What is shown of a section, with all that stands in front of it. -/
structure IsShownIn (certificate : CaCertificate) (before own : List Text) : Prop where
  index : sectionNumber? header own = some certificate.index
  x509 : certificate.x509.IsStatedBy own
  filename : certificate.filename = (lastValue? "Filename" (before ++ own)).getD []
  status : certificate.status = lastValue? "Status" (before ++ own)

theorem isNumbered : SectionShape.IsNumbered shape header Draft.index where
  isHeader := rfl
  fresh previous := by cases previous <;> rfl
  numbers {current next key value line number} found taken := by
    simp only [shape, Draft.apply, found, Result.map_eq_ok_iff] at taken
    obtain ⟨index, read, rfl⟩ := taken
    exact number_eq_ok_iff.mp read
  keeps {current next key value line} unnumbered taken := by
    cases Draft.takes_of_apply taken with
    | header found =>
      rw [unnumbered] at found
      cases found
    | field | filename | status | ignored => rfl

/-- File name and status change only where a line is about them. -/
theorem context_of_apply {draft next : Draft} {key value line : Text}
    (taken : draft.apply key value line = .ok next) :
    (next.filename = if key = "Filename" then value else draft.filename) ∧
      (next.status = if key = "Status" then some value else draft.status) := by
  have different : ("Filename" : Text) ≠ "Status" := by decide +kernel
  cases Draft.takes_of_apply taken with
  | header found =>
    have noHeader : after? header "Filename" = none ∧ after? header "Status" = none := by
      decide +kernel
    have other : key ≠ "Filename" ∧ key ≠ "Status" := by
      constructor <;> rintro rfl <;> simp [noHeader] at found
    simp [other]
  | field _ known =>
    have noField : X509.Key.read? "Filename" = none ∧ X509.Key.read? "Status" = none := by
      decide +kernel
    have other : key ≠ "Filename" ∧ key ≠ "Status" := by
      constructor <;> rintro rfl <;> simp [noField] at known
    simp [other]
  | filename same => simp [same, different]
  | status same => simp [same, different.symm]
  | ignored notFilename notStatus => simp [notFilename, notStatus]

theorem passesOn_filename : shape.PassesOn Draft.filename [] where
  none := rfl
  some _ := rfl

theorem passesOn_status : shape.PassesOn Draft.status none where
  none := rfl
  some _ := rfl

theorem isShownIn_of_complete {before own : List Text} {draft : Draft}
    (comes : shape.ComesOf before own draft)
    (number : sectionNumber? header own = some draft.index) {certificate : CaCertificate}
    (complete : draft.complete = .ok certificate) : certificate.IsShownIn before own := by
  obtain ⟨x509, completed, ⟨⟩⟩ := Result.bind_eq_ok_iff.mp complete
  have filename : shape.IsSetBy Draft.filename "Filename" id :=
    fun taken => (context_of_apply taken).1
  have status : shape.IsSetBy Draft.status "Status" some :=
    fun taken => (context_of_apply taken).2
  exact
    { index := number
      x509 := isHeldBy.isStatedBy comes.gathers completed
      filename := by simpa using comes.slot_eq filename passesOn_filename
      status := by
        rw [comes.slot_eq status passesOn_status]
        cases lastValue? "Status" (before ++ own) <;> rfl }

/-- There is one certificate for each header that is not numbered 0, in the order of the headers.
What it says of itself comes of its own section, and what it says of the file was stated last. -/
theorem shows_own_sections {name : Text} {command : Command}
    (asked : (request name).command? = some command) {send : Command → Result Text} {answer : Text}
    (answered : send command = .ok answer) {certificates : List CaCertificate}
    (performed : (request name).perform send = .ok certificates) :
    List.Forall₂ (fun part certificate => certificate.IsShownIn part.1 part.2)
      (numberedSections header answer) certificates := by
  have view : (DetailView.caFile name).request.command? = some command := asked
  have read : readAll answer = .ok certificates :=
    (DetailView.perform_answered view answered).1 certificates performed
  obtain ⟨drafts, readDrafts, completed⟩ := Result.bind_eq_ok_iff.mp read
  refine (isNumbered.forall₂_of_read readDrafts completed).imp ?_
  rintro part certificate ⟨draft, comes, number, complete⟩
  exact isShownIn_of_complete comes number complete

/-- Two certificates of one file, as the proxy shows them. What stands in front of the first, and in
the section that is numbered 0, is about the file only. -/
def twoCertificates : Text := joinLines
  [("Filename: old.pem" : Text), "Status: Unused", "Subject: /CN=Nobody",
    "Certificate #0:", "Filename: ca.pem", "Serial: 00",
    "Certificate #1:", "Serial: 0A", "notBefore: Jan  1 00:00:00 2020 GMT",
    "notAfter: Jan  1 00:00:00 2030 GMT", "Subject: /CN=Root", "Algorithm: RSA4096",
    "Subject Alternative Name: DNS:a.example, b.example",
    "Certificate #2:", "Status: Used", "Serial: 0B", "Serial: 0C",
    "notBefore: Jan  1 00:00:00 2020 GMT", "notAfter: Jan  1 00:00:00 2030 GMT"]

/-- Both are shown, the second one with nothing of the first. -/
theorem shows_own_sections_two :
    ∃ first second : X509,
      (request "ca.pem").perform (Dispatcher.usual.send (Dispatch.saying twoCertificates)) =
        .ok [⟨"ca.pem", some "Unused", 1, first⟩, ⟨"ca.pem", some "Used", 2, second⟩] ∧
      first.subject = "/CN=Root" ∧ second.subject = [] ∧ second.serial = "0C" ∧
      List.Forall₂ (fun part certificate => CaCertificate.IsShownIn certificate part.1 part.2)
        (numberedSections header twoCertificates)
        [⟨"ca.pem", some "Unused", 1, first⟩, ⟨"ca.pem", some "Used", 2, second⟩] := by
  have asked : (request "ca.pem").command? = some (.showStored "ca-file" "ca.pem") := by
    decide +kernel
  have answered : Dispatcher.usual.send (Dispatch.saying twoCertificates)
      (.showStored "ca-file" "ca.pem") = .ok twoCertificates := by decide +kernel
  have performed :
      (request "ca.pem").perform (Dispatcher.usual.send (Dispatch.saying twoCertificates)) =
        .ok [⟨"ca.pem", some "Unused", 1, ⟨"0A", ⟨1577836800, 0⟩, ⟨1893456000, 0⟩, "/CN=Root", [],
              some "RSA4096", none, ["a.example", "b.example"]⟩⟩,
            ⟨"ca.pem", some "Used", 2, ⟨"0C", ⟨1577836800, 0⟩, ⟨1893456000, 0⟩, [], [], none,
              none, []⟩⟩] := by
    decide +kernel
  exact ⟨_, _, performed, rfl, rfl, rfl, shows_own_sections asked answered performed⟩

end ProxyControl.CaCertificate
