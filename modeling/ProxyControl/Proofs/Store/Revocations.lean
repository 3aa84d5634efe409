import ProxyControl.Proofs.Store.Details
import ProxyControl.Store.CrlFile

/-!
# Revocations

A revocation list states each revocation in two lines, a serial number and the date that belongs
to it. A list that is read has as many dates as serial numbers, and has left none of them out.
-/
namespace ProxyControl

open Text Listing

/-- The lines in which revocations are stated, as keys and values. -/
def revocationLines (lines : List Text) : List (Text × Text) :=
  (lines.map keyValue).filter fun line => line.1 = "Serial Number" ∨ line.1 = "Revocation Date"

/-- A revocation is stated in two lines, its serial number first. -/
def Revocation.IsStatedBy (lines : List (Text × Text)) (revocation : Revocation) : Prop :=
  ∃ serial date : Text,
    lines = [(("Serial Number" : Text), serial), (("Revocation Date" : Text), date)] ∧
    filled? serial = some revocation.serial ∧
    Date.certificateTime? date = some revocation.date

namespace RevocationList

/-- The updates are what the last lines about them say, and all lines about revocations are
revocations, line by line. -/
structure IsTakenFrom (list : RevocationList) (lines : List Text) : Prop where
  lastUpdate : (lastValue? "Last Update" lines).bind Date.certificateTime? = some list.lastUpdate
  nextUpdate : (lastValue? "Next Update" lines).bind Date.certificateTime? = list.nextUpdate
  revoked : ∃ entries, revocationLines lines = entries.flatten ∧
    List.Forall₂ Revocation.IsStatedBy entries list.revoked

theorem Key.read?_eq_some_iff {text : Text} {key : Key} :
    Key.read? text = some key ↔ key.word = text :=
  find?_word_eq_some_iff (by intro key; cases key <;> decide +kernel)

theorem Key.word_inj {first second : Key} : first.word = second.word ↔ first = second := by
  refine ⟨fun same => ?_, congrArg word⟩
  have read := Key.read?_eq_some_iff.mpr same
  rw [Key.read?_eq_some_iff.mpr rfl] at read
  exact (Option.some.inj read).symm

/-- A line changes the date that it is about and no other, and it must be one. -/
theorem Draft.of_put_eq_ok {draft next : Draft} {key : Key} {value line : Text}
    (put : draft.put key value line = .ok next) :
    (next.lastUpdate =
        if key = .lastUpdate then Date.certificateTime? value else draft.lastUpdate) ∧
      (next.nextUpdate =
        if key = .nextUpdate then Date.certificateTime? value else draft.nextUpdate) ∧
      (key = .lastUpdate ∨ key = .nextUpdate ∨ key = .revocationDate →
        (Date.certificateTime? value).isSome) := by
  cases key with
  | lastUpdate =>
    obtain ⟨date, read, rfl⟩ := Result.map_eq_ok_iff.mp put
    simp [ofCertificate_eq_ok_iff.mp read]
  | nextUpdate =>
    obtain ⟨date, read, rfl⟩ := Result.map_eq_ok_iff.mp put
    simp [ofCertificate_eq_ok_iff.mp read]
  | serialNumber =>
    obtain ⟨serial, -, rfl⟩ := Result.map_eq_ok_iff.mp put
    simp
  | revocationDate =>
    obtain ⟨date, read, revokes⟩ := Result.bind_eq_ok_iff.mp put
    split at revokes
    · cases revokes
      simp [ofCertificate_eq_ok_iff.mp read]
    · cases revokes
  | _ =>
    cases put
    simp

theorem apply_word (draft : Draft) (key : Key) (value line : Text) :
    draft.apply key.word value line = draft.put key value line := by
  have noHeader : after? header key.word = none := by cases key <;> decide +kernel
  have noVersion : after? versionStart key.word = none := by cases key <;> decide +kernel
  simp only [Draft.apply, noHeader, noVersion, Key.read?_eq_some_iff.mpr rfl]

/-- What a line does. A header gives the section its number, and of the other lines only those with
a known key and those about the version matter. -/
inductive Draft.Takes (draft : Draft) (key value line : Text) : Draft → Prop
  | header {number : Text} {index : UInt32} (found : after? header key = some number)
      (read : u32? (trim number) = some index) : draft.Takes key value line { draft with index }
  | version (version : Option UInt32) : draft.Takes key value line { draft with version }
  | known {field : Key} {next : Draft} (read : Key.read? key = some field)
      (put : draft.put field value line = .ok next) : draft.Takes key value line next
  | ignored : draft.Takes key value line draft

theorem Draft.takes_of_apply {draft next : Draft} {key value line : Text}
    (taken : draft.apply key value line = .ok next) : draft.Takes key value line next := by
  unfold Draft.apply at taken
  split at taken
  next number found =>
    obtain ⟨index, read, rfl⟩ := Result.map_eq_ok_iff.mp taken
    exact .header found (number_eq_ok_iff.mp read)
  next =>
    split at taken
    next =>
      cases taken
      exact .version _
    next =>
      split at taken
      next field read => exact .known read taken
      next =>
        cases taken
        exact .ignored

/-- Headers and version lines say nothing that a list must have. -/
theorem frame_of_apply {draft next : Draft} {other value line : Text}
    (unknown : Key.read? other = none) (taken : draft.apply other value line = .ok next) :
    next.lastUpdate = draft.lastUpdate ∧ next.nextUpdate = draft.nextUpdate ∧
      next.revoked = draft.revoked := by
  cases Draft.takes_of_apply taken with
  | known read =>
    rw [unknown] at read
    cases read
  | header | version | ignored => exact ⟨rfl, rfl, rfl⟩

theorem tracks {β : Type} (key : Key) {slot : Draft → Option β} {readValue : Text → Option β}
    (fresh : ∀ previous, slot (Draft.start previous) = none)
    (puts : ∀ {draft next : Draft} {other : Key} {value line : Text},
      draft.put other value line = .ok next →
        slot next = if other = key then readValue value else slot draft)
    (keeps : ∀ {draft next : Draft}, next.lastUpdate = draft.lastUpdate ∧
      next.nextUpdate = draft.nextUpdate ∧ next.revoked = draft.revoked → slot next = slot draft) :
    shape.Tracks slot key.word readValue :=
  SectionShape.tracks_of_read? Key.read?_eq_some_iff key fresh
    (fun {current other value line next} taken => puts (by rw [← apply_word]; exact taken))
    fun unknown taken => keeps (frame_of_apply unknown taken)

theorem tracks_lastUpdate :
    shape.Tracks Draft.lastUpdate "Last Update" Date.certificateTime? :=
  tracks .lastUpdate (fun previous => by cases previous <;> rfl)
    (fun put => (Draft.of_put_eq_ok put).1) fun same => same.1

theorem tracks_nextUpdate :
    shape.Tracks Draft.nextUpdate "Next Update" Date.certificateTime? :=
  tracks .nextUpdate (fun previous => by cases previous <;> rfl)
    (fun put => (Draft.of_put_eq_ok put).2.1) fun same => same.2.1

/-- None of the dates is taken in unless it is one. -/
theorem checks : ∀ key ∈ [("Last Update" : Text), "Next Update", "Revocation Date"],
    shape.Checks key Date.certificateTime? := by
  intro key member draft value line next taken
  have puts (key : Key) (taken : shape.apply draft key.word value line = .ok next) :=
    Draft.of_put_eq_ok ((apply_word draft key value line).symm.trans taken)
  simp only [List.mem_cons, List.not_mem_nil, or_false] at member
  rcases member with rfl | rfl | rfl
  · exact (puts .lastUpdate taken).2.2 (.inl rfl)
  · exact (puts .nextUpdate taken).2.2 (.inr (.inl rfl))
  · exact (puts .revocationDate taken).2.2 (.inr (.inr rfl))

/-! ### Revocations -/

theorem dateLast_eq_some {date : Moment} {revoked dated : List (Text × Option Moment)}
    (dates : dateLast date revoked = some dated) :
    ∃ front serial, revoked = front ++ [(serial, none)] ∧
      dated = front ++ [(serial, some date)] := by
  fun_induction dateLast date revoked generalizing dated with
  | case1 => cases dates
  | case2 serial =>
    cases dates
    exact ⟨[], serial, rfl, rfl⟩
  | case3 => cases dates
  | case4 first rest _ _ ih =>
    obtain ⟨others, behind, rfl⟩ := Option.map_eq_some_iff.mp dates
    obtain ⟨front, serial, rfl, rfl⟩ := ih behind
    exact ⟨first :: front, serial, rfl, rfl⟩

/-- The lines about one revocation, whose date may still be to come. -/
inductive IsEntry : List (Text × Text) → Text × Option Moment → Prop
  | undated {value serial : Text} (read : filled? value = some serial) :
      IsEntry [(Key.serialNumber.word, value)] (serial, none)
  | dated {value written serial : Text} {date : Moment} (read : filled? value = some serial)
      (dates : Date.certificateTime? written = some date) :
      IsEntry [(Key.serialNumber.word, value), (Key.revocationDate.word, written)]
        (serial, some date)

/-- What a line does to the revocations, given the lines that they have been stated in. -/
theorem Draft.isEntry_of_put {draft next : Draft} {key : Key} {value line : Text}
    (put : draft.put key value line = .ok next) {entries : List (List (Text × Text))}
    (stated : List.Forall₂ IsEntry entries draft.revoked) :
    ∃ after, List.Forall₂ IsEntry after next.revoked ∧
      after.flatten = entries.flatten ++
        if key = .serialNumber ∨ key = .revocationDate then [(key.word, value)] else [] := by
  cases key with
  | serialNumber =>
    obtain ⟨serial, read, rfl⟩ := Result.map_eq_ok_iff.mp put
    have entry := IsEntry.undated (required_eq_ok_iff.mp read)
    exact ⟨_, List.rel_append stated (.cons entry .nil), by simp⟩
  | revocationDate =>
    obtain ⟨date, read, revokes⟩ := Result.bind_eq_ok_iff.mp put
    split at revokes
    next revoked dates =>
      cases revokes
      -- the date goes to the last serial number, which has none yet
      obtain ⟨front, serial, before, rfl⟩ := dateLast_eq_some dates
      rw [before] at stated
      have earlier := List.forall₂_take_append entries front [(serial, none)] stated
      have last := List.forall₂_drop_append entries front [(serial, none)] stated
      have whole := List.take_append_drop front.length entries
      generalize List.take front.length entries = ahead, List.drop front.length entries = behind
        at earlier last whole
      subst whole
      cases last with
      | cons entry none =>
        cases none
        cases entry with
        | undated found =>
          have entry := IsEntry.dated found (ofCertificate_eq_ok_iff.mp read)
          exact ⟨_, List.rel_append earlier (.cons entry .nil), by simp⟩
    next => cases revokes
  | lastUpdate =>
    obtain ⟨date, -, rfl⟩ := Result.map_eq_ok_iff.mp put
    exact ⟨entries, stated, by simp⟩
  | nextUpdate =>
    obtain ⟨date, -, rfl⟩ := Result.map_eq_ok_iff.mp put
    exact ⟨entries, stated, by simp⟩
  | _ =>
    cases put
    exact ⟨entries, stated, by simp⟩

theorem revocationLines_concat (lines : List Text) (line : Text) :
    revocationLines (lines ++ [line]) = revocationLines lines ++
      if (keyValue line).1 = Key.serialNumber.word ∨ (keyValue line).1 = Key.revocationDate.word
        then [keyValue line] else [] := by
  rw [revocationLines, List.map_append, List.filter_append, List.map_singleton,
    List.filter_singleton, ← revocationLines]
  congr 1
  split <;> simp_all [Key.word]

/-- The lines about revocations are the entries that they make, one after the other. -/
theorem isEntry_of_gathers {lines : List Text} {draft : Draft}
    (gathered : shape.Gathers lines draft) :
    ∃ entries, List.Forall₂ IsEntry entries draft.revoked ∧
      entries.flatten = revocationLines lines := by
  induction gathered with
  | start previous => cases previous <;> exact ⟨[], .nil, rfl⟩
  | @line seen current next line gathered taken ih =>
    obtain ⟨entries, stated, same⟩ := ih
    rw [SectionShape.applyLine_eq] at taken
    rw [revocationLines_concat]
    -- a line whose key is unknown states no revocation and changes none
    cases known : Key.read? (keyValue line).1 with
    | none =>
      have other (key : Key) : (keyValue line).1 ≠ key.word := fun same => by
        rw [Key.read?_eq_some_iff.mpr same.symm] at known
        cases known
      rw [(frame_of_apply known taken).2.2, if_neg (by simp [other]), List.append_nil]
      exact ⟨entries, stated, same⟩
    | some key =>
      have word := Key.read?_eq_some_iff.mp known
      rw [← word] at taken
      obtain ⟨after, stated, flat⟩ :=
        Draft.isEntry_of_put ((apply_word _ _ _ _).symm.trans taken) stated
      have pair : keyValue line = (key.word, (keyValue line).2) := by rw [word]
      refine ⟨after, stated, ?_⟩
      rw [flat, same, pair]
      simp only [Key.word_inj]

/-- A list that is complete has a date for every serial number. -/
theorem isStatedBy_of_complete {entries : List (List (Text × Text))}
    {drafts : List (Text × Option Moment)} {revoked : List Revocation} {context : Text}
    (stated : List.Forall₂ IsEntry entries drafts)
    (dated : (drafts.mapM fun (serial, date) =>
      (X509.present date ("revocation date for serial " ++ serial) context).map fun date =>
        ({ serial, date } : Revocation)) = .ok revoked) :
    List.Forall₂ Revocation.IsStatedBy entries revoked := by
  rw [Result.mapM_eq_ok_iff] at dated
  induction stated generalizing revoked with
  | nil =>
    cases dated
    exact .nil
  | @cons entry draft entries drafts first _ ih =>
    cases dated with
    | @cons _ revocation _ others present rest =>
      refine .cons ?_ (ih rest)
      obtain ⟨date, found, rfl⟩ := Result.map_eq_ok_iff.mp present
      have found := X509.present_eq_ok_iff.mp found
      -- an undated entry has no date that could be present
      cases first with
      | undated => cases found
      | dated read dates =>
        cases found
        exact ⟨_, _, rfl, read, dates⟩

theorem isTakenFrom_of_complete {lines : List Text} {draft : Draft}
    (gathered : shape.Gathers lines draft) {list : RevocationList}
    (complete : draft.complete = .ok list) : list.IsTakenFrom lines := by
  simp only [Draft.complete, Result.bind_eq_ok_iff, X509.present_eq_ok_iff] at complete
  obtain ⟨revoked, dated, lastUpdate, last, ⟨⟩⟩ := complete
  obtain ⟨entries, stated, flat⟩ := isEntry_of_gathers gathered
  exact
    { lastUpdate := (gathered.slot_eq tracks_lastUpdate).symm.trans last
      nextUpdate := (gathered.slot_eq tracks_nextUpdate).symm
      revoked := ⟨entries, flat.symm, isStatedBy_of_complete stated dated⟩ }

/-- Each list comes of its own section. -/
theorem isTakenFrom_of_readAll {answer : Text} {lists : List RevocationList}
    (read : readAll answer = .ok lists) :
    List.SublistForall₂ IsTakenFrom lists
      (recordLines (startsWith header) (contentLines answer)) := by
  obtain ⟨drafts, readAll, completed⟩ := Result.bind_eq_ok_iff.mp read
  exact SectionShape.sublistForall₂_of_filter (SectionShape.read_eq_ok readAll).1 completed
    fun gathered complete => isTakenFrom_of_complete gathered complete

end RevocationList

end ProxyControl
