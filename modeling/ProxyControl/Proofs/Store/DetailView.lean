import ProxyControl.Proofs.Argument
import ProxyControl.Proofs.Dispatch.Report
import ProxyControl.Proofs.Listing.Reading
import ProxyControl.Proofs.Request.Query
import ProxyControl.Proofs.Store.Revocations

/-!
# Detailed views

The views that show dates, and what each of them shows. A view that succeeds has found a date
wherever its answer states one, and what it must have comes of the answer. A date that cannot be
read is reported, whatever else the answer says.
-/
namespace ProxyControl

open Text Listing

/-! ### ACME -/

namespace AcmeCertificate

/-- What a column says of a date. An empty one and a dash say that there is none. -/
inductive IsDateColumn : Text → Option Moment → Prop
  | missing {column : Text} (dateless : column = [] ∨ column = "-") : IsDateColumn column none
  | date {column : Text} {moment : Moment} (read : Date.rfc3339Time? column = some moment) :
      IsDateColumn column (some moment)

/-- Name and dates are what the columns of a row say. -/
structure IsTakenFrom (certificate : AcmeCertificate) (columns : List Text) : Prop where
  name : ∃ column ∈ columns[0]?, filled? column = some certificate.certificate
  expiresAt : ∃ column ∈ columns[3]?, IsDateColumn column certificate.expiresAt
  scheduledAt : ∃ column ∈ columns[5]?, IsDateColumn column certificate.scheduledAt

theorem isDateColumn_of_optionalDate {column : Text} (trimmed : trim column = column)
    {date : Option Moment} (read : optionalDate column = .ok date) : IsDateColumn column date := by
  simp only [optionalDate, trimmed] at read
  split at read
  next dateless =>
    cases read
    exact .missing (by simpa using dateless)
  next =>
    obtain ⟨moment, found, rfl⟩ := Result.map_eq_ok_iff.mp read
    refine .date ?_
    unfold Date.ofRfc3339 at found
    rw [trimmed] at found
    split at found
    next read =>
      cases found
      exact read
    next => cases found

theorem isTakenFrom_of_ofRow {columns : List Text}
    (trimmed : ∀ column ∈ columns, trim column = column) {certificate : AcmeCertificate}
    (read : ofRow columns = .ok certificate) : certificate.IsTakenFrom columns := by
  unfold ofRow at read
  split at read
  next name section_ state expiresAt expiresIn scheduledAt scheduledIn more =>
    simp only [Result.bind_eq_ok_iff] at read
    obtain ⟨found, first, expires, second, scheduled, third, ⟨⟩⟩ := read
    exact
      { name := ⟨name, rfl, required_eq_ok_iff.mp first⟩
        expiresAt := ⟨expiresAt, rfl, isDateColumn_of_optionalDate (trimmed _ (by simp)) second⟩
        scheduledAt :=
          ⟨scheduledAt, rfl, isDateColumn_of_optionalDate (trimmed _ (by simp)) third⟩ }
  next => cases read

theorem isTakenFrom_of_readAll {answer : Text} {certificates : List AcmeCertificate}
    (read : readAll answer = .ok certificates) :
    List.Forall₂ (fun row certificate => IsTakenFrom certificate (RowDelimiter.tab.fields row))
      (dataRows answer) certificates := by
  refine (Result.mapM_eq_ok_iff.mp read).imp fun row certificate read => ?_
  simp only [readRow] at read
  split at read
  next => cases read
  next =>
    refine isTakenFrom_of_ofRow ?_ (Result.mapError_eq_ok_iff.mp read)
    simp only [RowDelimiter.fields, List.mem_map]
    rintro _ ⟨piece, -, rfl⟩
    exact trim_trim piece

end AcmeCertificate

/-! ### The views -/

/-- The views that show dates, by what they show. -/
inductive DetailView : Type → Type
  | certificate (name : Text) : DetailView CertificateDetail
  | caFile (name : Text) : DetailView (List CaCertificate)
  | crlFile (name : Text) : DetailView (List RevocationList)
  | ocspResponse (id : Text) : DetailView OcspResponse
  | acmeStatus : DetailView (List AcmeCertificate)

namespace DetailView

variable {α : Type}

def request : DetailView α → Request α
  | .certificate name => CertificateDetail.request name
  | .caFile name => CaCertificate.request name
  | .crlFile name => RevocationList.request name
  | .ocspResponse id => OcspResponse.request id
  | .acmeStatus => AcmeCertificate.status

/-- What is made of an answer. -/
def read : DetailView α → Text → Result α
  | .certificate _ => CertificateDetail.read
  | .caFile _ => CaCertificate.readAll
  | .crlFile _ => RevocationList.readAll
  | .ocspResponse _ => OcspResponse.read
  | .acmeStatus => AcmeCertificate.readAll

/-- The keys of the lines that state dates. -/
def dateKeys : DetailView α → List Text
  | .certificate _ | .caFile _ => ["notBefore", "notAfter"]
  | .crlFile _ => ["Last Update", "Next Update", "Revocation Date"]
  | .ocspResponse _ => ["Produced At", "This Update", "Next Update"]
  | .acmeStatus => []

/-- The columns that state dates, counted from 0. -/
def dateColumns : DetailView α → List Nat
  | .acmeStatus => [3, 5]
  | _ => []

/-- Wherever an answer states a date it can be read as one, no matter what becomes of it. -/
structure DatesReadable (view : DetailView α) (answer : Text) : Prop where
  lines : ∀ line ∈ lines answer, (keyValue line).1 ∈ view.dateKeys →
    ∃ date, Date.ofCertificate (keyValue line).2 line = .ok date
  columns : ∀ row ∈ dataRows answer, ∀ index ∈ view.dateColumns,
    ∀ column ∈ (RowDelimiter.tab.fields row)[index]?,
      ∃ date, AcmeCertificate.IsDateColumn column date

/-- What a view must have is what its answer says; each record comes of lines of its own. -/
def TakenFrom : DetailView α → α → Text → Prop
  | .certificate _, detail, answer => detail.x509.IsTakenFrom (contentLines answer)
  | .caFile _, certificates, answer =>
    List.SublistForall₂ (fun certificate lines => certificate.x509.IsTakenFrom lines) certificates
      (recordLines (startsWith CaCertificate.header) (contentLines answer))
  | .crlFile _, lists, answer =>
    List.SublistForall₂ RevocationList.IsTakenFrom lists
      (recordLines (startsWith RevocationList.header) (contentLines answer))
  | .ocspResponse _, response, answer => response.IsTakenFrom (contentLines answer)
  | .acmeStatus, certificates, answer =>
    List.Forall₂ (fun row certificate => certificate.IsTakenFrom (RowDelimiter.tab.fields row))
      (dataRows answer) certificates

theorem takenFrom_of_read {view : DetailView α} {answer : Text} {value : α}
    (read : view.read answer = .ok value) : view.TakenFrom value answer := by
  cases view with
  | certificate name => exact CertificateDetail.isTakenFrom_of_read read
  | caFile name => exact CaCertificate.isTakenFrom_of_readAll read
  | crlFile name => exact RevocationList.isTakenFrom_of_readAll read
  | ocspResponse id => exact OcspResponse.isTakenFrom_of_read read
  | acmeStatus => exact AcmeCertificate.isTakenFrom_of_readAll read

/-- Sections are read only if all their dates are. -/
theorem lines_of_checks {σ : Type} {shape : SectionShape σ} {keys : List Text}
    (checks : ∀ key ∈ keys, shape.Checks key Date.certificateTime?) (named : [] ∉ keys)
    {answer : Text} {records : List σ} (read : shape.read answer = .ok records) :
    ∀ line ∈ Text.lines answer, (keyValue line).1 ∈ keys →
      ∃ date, Date.ofCertificate (keyValue line).2 line = .ok date := by
  intro line member keyed
  have nonempty : (keyValue line).1 ≠ [] := fun empty => named (empty ▸ keyed)
  obtain ⟨date, found⟩ :=
    Option.isSome_iff_exists.mp ((checks _ keyed).isSome_of_read nonempty read member rfl)
  exact ⟨date, ofCertificate_eq_ok_iff.mpr found⟩

theorem datesReadable_of_read {view : DetailView α} {answer : Text} {value : α}
    (read : view.read answer = .ok value) : view.DatesReadable answer := by
  cases view with
  | certificate name =>
    obtain ⟨drafts, readAll, -⟩ := Result.bind_eq_ok_iff.mp read
    exact
      { lines := lines_of_checks CertificateDetail.isHeldBy.checks (by decide +kernel) readAll
        columns := by simp [dateColumns] }
  | caFile name =>
    obtain ⟨drafts, readAll, -⟩ := Result.bind_eq_ok_iff.mp read
    exact
      { lines := lines_of_checks CaCertificate.isHeldBy.checks (by decide +kernel) readAll
        columns := by simp [dateColumns] }
  | crlFile name =>
    obtain ⟨drafts, readAll, -⟩ := Result.bind_eq_ok_iff.mp read
    exact
      { lines := lines_of_checks RevocationList.checks (by decide +kernel) readAll
        columns := by simp [dateColumns] }
  | ocspResponse id =>
    obtain ⟨drafts, readAll, -⟩ := Result.bind_eq_ok_iff.mp read
    exact
      { lines := lines_of_checks OcspResponse.checks (by decide +kernel) readAll
        columns := by simp [dateColumns] }
  | acmeStatus =>
    -- every row became a certificate, and that states both dates of its row
    have taken := AcmeCertificate.isTakenFrom_of_readAll read
    refine { lines := by simp [dateKeys], columns := ?_ }
    intro row member index isDate column inRow
    obtain ⟨certificate, states⟩ := exists_of_mem_left taken member
    simp only [dateColumns, List.mem_cons, List.not_mem_nil, or_false] at isDate
    rcases isDate with rfl | rfl
    · obtain ⟨expires, there, reads⟩ := states.expiresAt
      obtain rfl : expires = column := Option.mem_unique there inRow
      exact ⟨_, reads⟩
    · obtain ⟨scheduled, there, reads⟩ := states.scheduledAt
      obtain rfl : scheduled = column := Option.mem_unique there inRow
      exact ⟨_, reads⟩

theorem onlyUnread_read (view : DetailView α) (answer : Text) : OnlyUnread (view.read answer) := by
  cases view with
  | certificate name => exact CertificateDetail.onlyUnread_read answer
  | caFile name => exact CaCertificate.onlyUnread_readAll answer
  | crlFile name => exact RevocationList.onlyUnread_readAll answer
  | ocspResponse id => exact OcspResponse.onlyUnread_read answer
  | acmeStatus => exact AcmeCertificate.onlyUnread_readAll answer

/-! ### Asking for a view -/

/-- What asks under a name that is checked asks under the name that was given. -/
theorem eq_of_command?_name {what text : Text} {next : Text → Request α} {command : Command}
    (asked : (Request.checked (Argument.name what text >>= fun name => pure (next name))).command?
      = some command) :
    Request.checked (Argument.name what text >>= fun name => pure (next name)) = next text ∧
      (next text).command? = some command := by
  obtain ⟨name, passed, onward⟩ := Request.of_command?_bind asked
  obtain ⟨rfl, -⟩ := Argument.name_eq_ok passed
  rw [passed]
  exact ⟨rfl, onward⟩

/-- Every view is a query, for the most part about a thing that may be missing. -/
theorem request_cases {view : DetailView α} {command : Command}
    (asked : view.request.command? = some command) :
    view.request = .query command view.read ∨
      ∃ what, view.request = .about what (.query command view.read) := by
  cases view with
  | certificate name =>
    obtain ⟨same, onward⟩ := eq_of_command?_name asked
    cases onward
    exact .inr ⟨_, same⟩
  | caFile name =>
    obtain ⟨same, onward⟩ := eq_of_command?_name asked
    cases onward
    exact .inr ⟨_, same⟩
  | crlFile name =>
    obtain ⟨same, onward⟩ := eq_of_command?_name asked
    cases onward
    exact .inr ⟨_, same⟩
  | ocspResponse id =>
    obtain ⟨same, onward⟩ := eq_of_command?_name asked
    cases onward
    exact .inr ⟨_, same⟩
  | acmeStatus =>
    -- the status of all certificates is asked for without a name
    cases asked
    exact .inl rfl

/-- An answered view succeeds only with what is read of the answer. An answer that is no refusal
is read, or else reported as one that cannot be. -/
theorem perform_answered {view : DetailView α} {command : Command}
    (asked : view.request.command? = some command) {send : Command → Result Text} {answer : Text}
    (answered : send command = .ok answer) :
    (∀ value, view.request.perform send = .ok value → view.read answer = .ok value) ∧
      (Frame.answerRefusal? answer = none → (∃ value, view.read answer = .ok value) ∨
        ∃ fault line, view.request.perform send = .error (.parse fault line command.text)) := by
  have query : (∀ value, (Request.query command view.read).perform send = .ok value →
        view.read answer = .ok value) ∧
      (Frame.answerRefusal? answer = none → (∃ value, view.read answer = .ok value) ∨
        ∃ fault line, (Request.query command view.read).perform send =
          .error (.parse fault line command.text)) := by
    cases marked : Frame.answerRefusal? answer with
    | some refusal =>
      rw [Request.perform_query_of_some answered marked]
      simp
    | none =>
      rw [Request.perform_query_of_none answered marked]
      refine ⟨fun value => Result.mapError_eq_ok_iff.mp, fun _ => ?_⟩
      cases read : view.read answer with
      | ok value => exact .inl ⟨value, rfl⟩
      | error failure =>
        obtain ⟨fault, line, rfl⟩ := view.onlyUnread_read answer failure read
        exact .inr ⟨fault, line, rfl⟩
  rcases request_cases asked with same | ⟨what, same⟩
  · rw [same]
    exact query
  · -- what the view is about matters only where the answer refuses
    rw [same, Request.perform_about_query what answered]
    refine ⟨fun value performed => query.1 value (Result.mapError_eq_ok_iff.mp performed),
      fun unmarked => (query.2 unmarked).imp_right ?_⟩
    rintro ⟨fault, line, failed⟩
    rw [failed]
    exact ⟨fault, line, rfl⟩

end DetailView

/-- No view hides a date: if it succeeds, every date of the answer is one, and whatever the view
must have is what the answer states. If a date is none, the failure says so. -/
theorem shows_dates {α : Type} {view : DetailView α} {command : Command}
    (asked : view.request.command? = some command) {send : Command → Result Text} {answer : Text}
    (answered : send command = .ok answer) :
    (∀ value, view.request.perform send = .ok value →
      view.DatesReadable answer ∧ view.TakenFrom value answer) ∧
    (Frame.answerRefusal? answer = none → ¬ view.DatesReadable answer →
      ∃ fault line, view.request.perform send = .error (.parse fault line command.text)) := by
  obtain ⟨succeeds, fails⟩ := DetailView.perform_answered asked answered
  constructor
  · intro value performed
    have read := succeeds value performed
    exact ⟨DetailView.datesReadable_of_read read, DetailView.takenFrom_of_read read⟩
  · intro unmarked unreadable
    refine (fails unmarked).resolve_left ?_
    rintro ⟨value, read⟩
    exact unreadable (DetailView.datesReadable_of_read read)

/-- A list with one revocation, as the proxy shows it. -/
def oneRevocation : Text := joinLines
  [("Certificate Revocation List #1:" : Text), "Last Update: Sep  8 14:45:39 2048 GMT",
    "Serial Number: 0A", "Revocation Date: Sep  8 14:45:39 2048 GMT"]

/-- A list is shown with its dates. In front of all lists a date that is none is reported, although
no list would show it. -/
theorem shows_dates_revoked :
    (∃ lists, (DetailView.crlFile "a.crl").request.perform
        (Dispatcher.usual.send (Dispatch.saying oneRevocation)) = .ok lists ∧
      (DetailView.crlFile "a.crl").DatesReadable oneRevocation ∧
      (DetailView.crlFile "a.crl").TakenFrom lists oneRevocation) ∧
    ∃ fault line, (DetailView.crlFile "a.crl").request.perform
        (Dispatcher.usual.send (Dispatch.saying ("Next Update: soon\n" ++ oneRevocation))) =
      .error (.parse fault line (Command.showStored "crl-file" "a.crl").text) := by
  have asked : (DetailView.crlFile "a.crl").request.command? =
      some (.showStored "crl-file" "a.crl") := by decide +kernel
  constructor
  · have answered : Dispatcher.usual.send (Dispatch.saying oneRevocation)
        (.showStored "crl-file" "a.crl") = .ok oneRevocation := by decide +kernel
    have performed : (DetailView.crlFile "a.crl").request.perform
        (Dispatcher.usual.send (Dispatch.saying oneRevocation)) =
          .ok [⟨[], none, 1, none, none, [], ⟨2483189139, 0⟩, none,
            [⟨"0A", ⟨2483189139, 0⟩⟩]⟩] := by decide +kernel
    exact ⟨_, performed, (shows_dates asked answered).1 _ performed⟩
  · -- the line that stands in front of the header is the one that is no date
    have answered : Dispatcher.usual.send
        (Dispatch.saying ("Next Update: soon\n" ++ oneRevocation))
          (.showStored "crl-file" "a.crl") = .ok ("Next Update: soon\n" ++ oneRevocation) := by
      decide +kernel
    refine (shows_dates asked answered).2 (by decide +kernel) fun readable => ?_
    obtain ⟨date, read⟩ :=
      readable.lines "Next Update: soon" (by decide +kernel) (by decide +kernel)
    have unread : Date.certificateTime? (keyValue "Next Update: soon").2 = none := by
      decide +kernel
    rw [ofCertificate_eq_ok_iff, unread] at read
    cases read

end ProxyControl
