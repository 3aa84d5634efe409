import ProxyControl.Proofs.Listing.Sections

/-!
# Numbered sections

Some answers have a number in each header, and a section with the number 0 is no record. Of every
other section comes one record, and they stand in the order of their headers. A record may take
over what the lines in front of its section say.
-/
namespace ProxyControl.Listing

open Text

/-- The number in the header that a section begins with. -/
def sectionNumber? (header : Text) (lines : List Text) : Option UInt32 := do
  let first ← lines.head?
  let number ← after? header (keyValue first).1
  u32? (trim number)

/-- Each section together with all lines in front of it. -/
def placed (front : List Text) : List (List Text) → List (List Text × List Text)
  | [] => []
  | lines :: rest => (front, lines) :: placed (front ++ lines) rest

theorem mem_of_mem_placed {front : List Text} {sections : List (List Text)}
    {part : List Text × List Text} (member : part ∈ placed front sections) :
    part.2 ∈ sections := by
  induction sections generalizing front with
  | nil => cases member
  | cons lines rest ih =>
    rcases List.mem_cons.mp member with rfl | behind
    · exact List.mem_cons_self
    · exact List.mem_cons_of_mem lines (ih behind)

/-- The sections of an answer that are not numbered 0, each with the lines in front of it. -/
def numberedSections (header answer : Text) : List (List Text × List Text) :=
  let (front, sections) := cutSections (startsWith header) (contentLines answer)
  (placed front sections).filter fun part => sectionNumber? header part.2 ≠ some 0

/-- Where drafts are kept as their parts are, and then completed, each record is one of a part that
is kept. -/
theorem forall₂_filter {ι σ α : Type} {R : ι → σ → Prop} {keepPart : ι → Bool} {keep : σ → Bool}
    (same : ∀ {part draft}, R part draft → keepPart part = keep draft) {complete : σ → Result α}
    {parts : List ι} {drafts : List σ} {records : List α} (made : List.Forall₂ R parts drafts)
    (completed : (drafts.filter keep).mapM complete = .ok records) :
    List.Forall₂ (fun part record => ∃ draft, R part draft ∧ complete draft = .ok record)
      (parts.filter keepPart) records := by
  rw [Result.mapM_eq_ok_iff] at completed
  induction made generalizing records with
  | nil =>
    cases completed
    exact .nil
  | @cons part draft parts drafts first _ ih =>
    rw [List.filter_cons] at completed ⊢
    rw [same first]
    split at completed
    next kept =>
      rw [if_pos kept]
      cases completed with
      | cons complete others => exact .cons ⟨draft, first, complete⟩ (ih others)
    next dropped =>
      rw [if_neg dropped]
      exact ih completed

namespace SectionShape

variable {σ α : Type} {shape : SectionShape σ}

/-! ### Records and what stands in front -/

variable (shape) in
/-- A record that comes of its own lines, with other lines in front of them. -/
inductive ComesOf : List Text → List Text → σ → Prop
  | first {lines : List Text} {record : σ}
      (taken : shape.takeIn (shape.start none) lines = .ok record) : ComesOf [] lines record
  | next {before own lines : List Text} {previous record : σ}
      (comes : ComesOf before own previous)
      (taken : shape.takeIn (shape.start (some previous)) lines = .ok record) :
      ComesOf (before ++ own) lines record

theorem ComesOf.gathers {before own : List Text} {record : σ}
    (comes : shape.ComesOf before own record) : shape.Gathers own record := by
  cases comes with
  | first taken => exact Gathers.takeIn (.start none) taken
  | @next _ _ _ previous _ _ taken => exact Gathers.takeIn (.start (some previous)) taken

theorem comesOf_of_readSections {before own : List Text} {previous : σ}
    (comes : shape.ComesOf before own previous) {sections : List (List Text)} {records : List σ}
    (read : shape.readSections previous sections = .ok records) :
    List.Forall₂ (fun part record => shape.ComesOf part.1 part.2 record)
      (placed (before ++ own) sections) records := by
  induction sections generalizing before own previous records with
  | nil =>
    cases read
    exact .nil
  | cons lines sections ih =>
    simp only [readSections, Result.bind_eq_ok_iff] at read
    obtain ⟨record, taken, -, -, others, readOn, same⟩ := read
    cases same
    have comes := ComesOf.next comes taken
    exact .cons comes (ih comes readOn)

variable (shape) in
/-- A part of a record that passes on to the next one. -/
structure PassesOn (slot : σ → α) (initial : α) : Prop where
  none : slot (shape.start none) = initial
  some : ∀ previous, slot (shape.start (some previous)) = slot previous

/-- What is passed on is what the last line with the key says up to the end of the section. -/
theorem ComesOf.slot_eq {slot : σ → α} {key : Text} {readValue : Text → α} {initial : α}
    (isSet : shape.IsSetBy slot key readValue) (passes : shape.PassesOn slot initial)
    {before own : List Text} {record : σ} (comes : shape.ComesOf before own record) :
    slot record = ((lastValue? key (before ++ own)).map readValue).getD initial := by
  induction comes with
  | first taken => rw [isSet.slot_takeIn taken, passes.none, List.nil_append]
  | @next before own lines previous record comes taken ih =>
    rw [isSet.slot_takeIn taken, passes.some, ih, lastValue?_append key (before ++ own)]
    cases lastValue? key lines <;> rfl

/-! ### Records and their numbers -/

/-- Records with a number, which is that of the header. -/
structure IsNumbered (shape : SectionShape σ) (header : Text) (index : σ → UInt32) : Prop where
  isHeader : shape.isHeader = startsWith header
  fresh : ∀ previous, index (shape.start previous) = 0
  numbers : ∀ {current next : σ} {key value line number : Text}, after? header key = some number →
    shape.apply current key value line = .ok next → u32? (trim number) = some (index next)
  keeps : ∀ {current next : σ} {key value line : Text}, after? header key = none →
    shape.apply current key value line = .ok next → index next = index current

namespace IsNumbered

variable {header : Text} {index : σ → UInt32} (numbered : IsNumbered shape header index)
include numbered

theorem index_takeIn {lines : List Text}
    (inside : ∀ line ∈ lines, shape.isHeader (keyValue line).1 = false) {current next : σ}
    (taken : shape.takeIn current lines = .ok next) : index next = index current := by
  induction lines generalizing current with
  | nil =>
    cases taken
    rfl
  | cons line lines ih =>
    obtain ⟨first, others⟩ := List.forall_mem_cons.mp inside
    rw [takeIn, List.foldlM_cons, Result.bind_eq_ok_iff] at taken
    obtain ⟨after, applied, onward⟩ := taken
    have unnumbered : after? header (keyValue line).1 = none := by
      rw [numbered.isHeader, startsWith] at first
      simpa using first
    rw [ih others onward, numbered.keeps unnumbered applied]

theorem sectionNumber?_of_takeIn {header' : Text} {body : List Text}
    (opens : shape.isHeader (keyValue header').1 = true)
    (inside : ∀ line ∈ body, shape.isHeader (keyValue line).1 = false) {current next : σ}
    (taken : shape.takeIn current (header' :: body) = .ok next) :
    sectionNumber? header (header' :: body) = some (index next) := by
  rw [takeIn, List.foldlM_cons, Result.bind_eq_ok_iff] at taken
  obtain ⟨after, applied, onward⟩ := taken
  rw [numbered.isHeader, startsWith, Option.isSome_iff_exists] at opens
  obtain ⟨number, found⟩ := opens
  rw [numbered.index_takeIn inside onward, ← numbered.numbers found applied]
  simp [sectionNumber?, found]

/-- A record that comes of a section has the number of its header. -/
theorem sectionNumber?_of_comesOf {before own : List Text} {record : σ}
    (comes : shape.ComesOf before own record)
    (whole : ∃ header body, own = header :: body ∧ shape.isHeader (keyValue header).1 = true ∧
      ∀ line ∈ body, shape.isHeader (keyValue line).1 = false) :
    sectionNumber? header own = some (index record) := by
  obtain ⟨first, body, rfl, opens, inside⟩ := whole
  cases comes with
  | first taken => exact numbered.sectionNumber?_of_takeIn opens inside taken
  | next _ taken => exact numbered.sectionNumber?_of_takeIn opens inside taken

/-- Where the records that are not numbered 0 are completed, each comes of one of the sections that
are not numbered 0, in their order. -/
theorem forall₂_of_read {answer : Text} {drafts : List σ} (read : shape.read answer = .ok drafts)
    {complete : σ → Result α} {records : List α}
    (completed : (drafts.filter (index · ≠ 0)).mapM complete = .ok records) :
    List.Forall₂ (fun part record => ∃ draft, shape.ComesOf part.1 part.2 draft ∧
        sectionNumber? header part.2 = some (index draft) ∧ complete draft = .ok record)
      (numberedSections header answer) records := by
  obtain ⟨⟨front, sections⟩, same⟩ :
      ∃ cut, cutSections shape.isHeader (contentLines answer) = cut := ⟨_, rfl⟩
  have cut := isCut_iff.mpr same
  rw [read_eq_readCut, same, readCut, Result.bind_eq_ok_iff] at read
  rw [numberedSections, ← numbered.isHeader, same]
  obtain ⟨preamble, taken, made⟩ := read
  split at made
  next headless =>
    -- what comes of the lines in front has no number, so it is left out
    subst headless
    have unnumbered : index preamble = 0 := by
      rw [numbered.index_takeIn cut.front taken, numbered.fresh]
    have none : drafts.filter (index · ≠ 0) = [] := by
      split at made
      · cases made
        rfl
      · obtain ⟨-, -, same⟩ := Result.bind_eq_ok_iff.mp made
        cases same
        simp [unnumbered]
    rw [none] at completed
    cases completed
    exact .nil
  next =>
    have whole := (List.forall₂_and_left _ _).mpr
      ⟨fun part member => cut.sections part.2 (mem_of_mem_placed member),
        comesOf_of_readSections (.first taken) made⟩
    have placedNumbers := whole.imp fun part draft section_ =>
      And.intro section_.2 (numbered.sectionNumber?_of_comesOf section_.2 section_.1)
    refine (forall₂_filter ?_ placedNumbers completed).imp ?_
    · rintro part draft ⟨-, number⟩
      simp [number]
    · rintro part record ⟨draft, ⟨comes, number⟩, complete⟩
      exact ⟨draft, comes, number, complete⟩

end IsNumbered

end SectionShape

end ProxyControl.Listing
