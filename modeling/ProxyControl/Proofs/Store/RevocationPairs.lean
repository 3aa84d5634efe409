import ProxyControl.Proofs.Listing.Numbered
import ProxyControl.Proofs.Store.DetailView

/-!
# Serial numbers and their dates

A CRL file is shown list by list. Each comes of one section that is not numbered 0, and pairs its
serial numbers with the dates behind them, one date for each. An answer that pairs them otherwise is
reported as one that cannot be read.
-/
namespace ProxyControl

open Text Listing

/-- Lines about revocations in which serial numbers and dates do not go together. -/
inductive IsMispaired : List (Text × Text) → Prop
  /-- A serial number has no date. -/
  | undated {before after : List (Text × Text)} {line : Text × Text}
      (serial : line.1 = "Serial Number")
      (next : ∀ other ∈ after.head?, other.1 ≠ "Revocation Date") :
      IsMispaired (before ++ line :: after)
  /-- A date has no serial number in front of it. -/
  | unannounced {after : List (Text × Text)} {line : Text × Text}
      (date : line.1 = "Revocation Date") : IsMispaired (line :: after)
  /-- A serial number has two dates. -/
  | twice {before after : List (Text × Text)} {first second : Text × Text}
      (date : first.1 = "Revocation Date") (again : second.1 = "Revocation Date") :
      IsMispaired (before ++ first :: second :: after)

/-- Lines that are mispaired are so behind any pair that they begin with. -/
theorem IsMispaired.of_pair {first second : Text × Text} {rest : List (Text × Text)}
    (serial : first.1 = "Serial Number") (date : second.1 = "Revocation Date")
    (mispaired : IsMispaired (first :: second :: rest)) : IsMispaired rest := by
  have different : ("Serial Number" : Text) ≠ "Revocation Date" := by decide +kernel
  generalize same : first :: second :: rest = lines at mispaired
  cases mispaired with
  | @undated before after line undated next =>
    -- neither line of the pair is a serial number without a date
    match before with
    | [] =>
      cases same
      exact absurd date (next second rfl)
    | [_] =>
      cases same
      exact absurd (undated.symm.trans date) different
    | _ :: _ :: before =>
      cases same
      exact .undated undated next
  | unannounced unannounced =>
    cases same
    exact absurd (serial.symm.trans unannounced) different
  | @twice before after one other once again =>
    match before with
    | [] =>
      cases same
      exact absurd (serial.symm.trans once) different
    | [_] =>
      cases same
      exact .unannounced again
    | _ :: _ :: before =>
      cases same
      exact .twice once again

theorem not_isMispaired {entries : List (List (Text × Text))} {revoked : List Revocation}
    (stated : List.Forall₂ Revocation.IsStatedBy entries revoked) :
    ¬ IsMispaired entries.flatten := by
  induction stated with
  | nil =>
    intro mispaired
    generalize same : ([] : List (List (Text × Text))).flatten = lines at mispaired
    cases mispaired <;> simp at same
  | cons pair _ ih =>
    obtain ⟨serial, date, rfl, -, -⟩ := pair
    exact fun mispaired => ih (mispaired.of_pair rfl rfl)

namespace RevocationList

/-- What is shown of a section. -/
structure IsShownIn (list : RevocationList) (lines : List Text) : Prop where
  index : sectionNumber? header lines = some list.index
  taken : list.IsTakenFrom lines

theorem index_of_put {draft next : Draft} {key : Key} {value line : Text}
    (put : draft.put key value line = .ok next) : next.index = draft.index := by
  cases key with
  | lastUpdate | nextUpdate | serialNumber =>
    obtain ⟨read, -, rfl⟩ := Result.map_eq_ok_iff.mp put
    rfl
  | revocationDate =>
    obtain ⟨date, -, revokes⟩ := Result.bind_eq_ok_iff.mp put
    split at revokes <;> cases revokes
    rfl
  | _ =>
    cases put
    rfl

theorem isNumbered : SectionShape.IsNumbered shape header Draft.index where
  isHeader := rfl
  fresh previous := by cases previous <;> rfl
  numbers {current next key value line number} found taken := by
    simp only [shape, Draft.apply, found, Result.map_eq_ok_iff] at taken
    obtain ⟨index, read, rfl⟩ := taken
    exact number_eq_ok_iff.mp read
  keeps {current next key value line} unnumbered taken := by
    cases Draft.takes_of_apply taken with
    | header found =>
      rw [unnumbered] at found
      cases found
    | known _ put => exact index_of_put put
    | version | ignored => rfl

theorem isShownIn_of_readAll {answer : Text} {lists : List RevocationList}
    (read : readAll answer = .ok lists) :
    List.Forall₂ (fun part list => list.IsShownIn part.2) (numberedSections header answer)
      lists := by
  obtain ⟨drafts, readDrafts, completed⟩ := Result.bind_eq_ok_iff.mp read
  refine (isNumbered.forall₂_of_read readDrafts completed).imp ?_
  rintro part list ⟨draft, comes, number, complete⟩
  have sameIndex : list.index = draft.index := by
    simp only [Draft.complete, Result.bind_eq_ok_iff] at complete
    obtain ⟨revoked, -, lastUpdate, -, ⟨⟩⟩ := complete
    rfl
  exact
    { index := sameIndex ▸ number
      taken := isTakenFrom_of_complete comes.gathers complete }

/-- There is one list for each header that is not numbered 0, in the order of the headers, and it
pairs the serial numbers of its own section with the dates behind them. Where a section leaves a
serial number or a date without the other, the failure says that the answer cannot be read. -/
theorem pairs_revocations {name : Text} {command : Command}
    (asked : (request name).command? = some command) {send : Command → Result Text} {answer : Text}
    (answered : send command = .ok answer) :
    (∀ lists, (request name).perform send = .ok lists →
      List.Forall₂ (fun part list => list.IsShownIn part.2) (numberedSections header answer)
        lists) ∧
    (Frame.answerRefusal? answer = none → ∀ part ∈ numberedSections header answer,
      IsMispaired (revocationLines part.2) →
        ∃ fault line, (request name).perform send = .error (.parse fault line command.text)) := by
  have view : (DetailView.crlFile name).request.command? = some command := asked
  obtain ⟨succeeds, fails⟩ := DetailView.perform_answered view answered
  constructor
  · exact fun lists performed => isShownIn_of_readAll (succeeds lists performed)
  · intro unmarked part member mispaired
    refine (fails unmarked).resolve_left ?_
    rintro ⟨lists, read⟩
    -- a list would have been shown of the section, with a date for every serial number
    obtain ⟨list, shown⟩ := exists_of_mem_left (isShownIn_of_readAll read) member
    obtain ⟨entries, flat, stated⟩ := shown.taken.revoked
    rw [flat] at mispaired
    exact not_isMispaired stated mispaired

/-- Two lists of one file, as the proxy shows them. The section that is numbered 0 is no list. -/
def twoLists : Text := joinLines
  [("Filename: a.crl" : Text), "Certificate Revocation List #0:", "Serial Number: 00",
    "Certificate Revocation List #1:", "Last Update: Sep  8 14:45:39 2048 GMT",
    "Serial Number: 0A", "Revocation Date: Sep  8 14:45:39 2048 GMT", "Serial Number: 0B",
    "Revocation Date: Jan  1 00:00:00 2020 GMT",
    "Certificate Revocation List #2:", "Last Update: Sep  8 14:45:39 2048 GMT"]

/-- Both lists are shown, and a serial number that has no date in the second one is reported. -/
theorem pairs_revocations_two :
    (∃ lists, (request "a.crl").perform (Dispatcher.usual.send (Dispatch.saying twoLists)) =
        .ok lists ∧
      lists.map (·.revoked) = [[⟨"0A", ⟨2483189139, 0⟩⟩, ⟨"0B", ⟨1577836800, 0⟩⟩], []] ∧
      List.Forall₂ (fun part list => IsShownIn list part.2) (numberedSections header twoLists)
        lists) ∧
    ∃ fault line, (request "a.crl").perform
        (Dispatcher.usual.send (Dispatch.saying (twoLists ++ "\nSerial Number: 0C"))) =
      .error (.parse fault line (Command.showStored "crl-file" "a.crl").text) := by
  have asked : (request "a.crl").command? = some (.showStored "crl-file" "a.crl") := by
    decide +kernel
  constructor
  · have answered : Dispatcher.usual.send (Dispatch.saying twoLists)
        (.showStored "crl-file" "a.crl") = .ok twoLists := by decide +kernel
    have performed :
        (request "a.crl").perform (Dispatcher.usual.send (Dispatch.saying twoLists)) =
          .ok [⟨"a.crl", none, 1, none, none, [], ⟨2483189139, 0⟩, none,
              [⟨"0A", ⟨2483189139, 0⟩⟩, ⟨"0B", ⟨1577836800, 0⟩⟩]⟩,
            ⟨"a.crl", none, 2, none, none, [], ⟨2483189139, 0⟩, none, []⟩] := by
      decide +kernel
    exact ⟨_, performed, rfl, (pairs_revocations asked answered).1 _ performed⟩
  · have answered : Dispatcher.usual.send
        (Dispatch.saying (twoLists ++ "\nSerial Number: 0C")) (.showStored "crl-file" "a.crl") =
          .ok (twoLists ++ "\nSerial Number: 0C") := by decide +kernel
    have unmarked : Frame.answerRefusal? (twoLists ++ "\nSerial Number: 0C") = none := by
      decide +kernel
    obtain ⟨part, member, stated⟩ :
        ∃ part ∈ numberedSections header (twoLists ++ "\nSerial Number: 0C"),
          revocationLines part.2 = [(("Serial Number" : Text), ("0C" : Text))] := by
      decide +kernel
    have mispaired : IsMispaired [(("Serial Number" : Text), ("0C" : Text))] :=
      @IsMispaired.undated [] [] ("Serial Number", "0C") rfl (by simp)
    exact (pairs_revocations asked answered).2 unmarked part member (stated ▸ mispaired)

end RevocationList

end ProxyControl
