import Mathlib.Data.List.Forall2
import ProxyControl.Listing.Sections
import ProxyControl.Proofs.Result
import ProxyControl.Proofs.Text.Cutting

/-!
# What records are made of

The lines of an answer are cut at its headers, and reading it is reading its sections one after the
other. A reading that succeeds has taken in every line, those in front of the first header included.
Each record comes of its own section. What it holds under a key is what the last line with that key
says in the section.
-/
namespace ProxyControl.Listing

open Text

/-! ### Keys -/

/-- The value of the last line with the given key. -/
def lastValue? (key : Text) (lines : List Text) : Option Text :=
  ((lines.map keyValue).filter (·.1 = key)).getLast?.map (·.2)

theorem lastValue?_concat (key : Text) (lines : List Text) (line : Text) :
    lastValue? key (lines ++ [line]) =
      if (keyValue line).1 = key then some (keyValue line).2 else lastValue? key lines := by
  rw [lastValue?, List.map_append, List.filter_append]
  by_cases keyed : (keyValue line).1 = key
  · simp [keyed]
  · simp [keyed, lastValue?]

theorem lastValue?_append (key : Text) (first second : List Text) :
    lastValue? key (first ++ second) = (lastValue? key second).or (lastValue? key first) := by
  rw [lastValue?, List.map_append, List.filter_append, List.getLast?_append, Option.map_or]
  rfl

theorem key_of_isBlank {line : Text} (blank : isBlank line = true) : (keyValue line).1 = [] := by
  have whole : cutFirst? (· == ':') line = none := by
    refine cutFirst?_eq_none fun colon => ?_
    cases List.all_eq_true.mp blank ':' colon
  rw [keyValue, whole]
  exact trim_eq_nil_iff.mpr blank

/-- Keys are told by their words, if each word leads to its own key. -/
theorem find?_word_eq_some_iff {κ : Type} {word : κ → Text} {all : List κ}
    (found : ∀ key, (all.find? fun other => word other == word key) = some key) {text : Text}
    {key : κ} : (all.find? fun other => word other == text) = some key ↔ word key = text := by
  constructor
  · exact fun same => by simpa using List.find?_some same
  · rintro rfl
    exact found key

/-! ### Sections -/

/-- The lines of an answer that say anything. -/
def contentLines (text : Text) : List Text := (lines text).filter (!isBlank ·)

/-- Lines cut at headers: those in front of the first header, and each header with the lines that
follow it. -/
def cutSections (isHeader : Text → Bool) : List Text → List Text × List (List Text)
  | [] => ([], [])
  | line :: rest =>
    let (front, sections) := cutSections isHeader rest
    if isHeader (keyValue line).1 then ([], (line :: front) :: sections)
    else (line :: front, sections)

/-- The lines that each record comes of. Without headers there is one record of all lines. -/
def recordLines (isHeader : Text → Bool) (lines : List Text) : List (List Text) :=
  let (front, sections) := cutSections isHeader lines
  if sections = [] then [front].filter (!·.isEmpty) else sections

theorem append_flatten_cutSections (isHeader : Text → Bool) (lines : List Text) :
    (cutSections isHeader lines).1 ++ (cutSections isHeader lines).2.flatten = lines := by
  induction lines with
  | nil => rfl
  | cons line rest ih =>
    simp only [cutSections]
    split <;> simp [ih]

/-- Lines that are cut at their headers: nothing is lost, and no part has a header inside. -/
structure IsCut (isHeader : Text → Bool) (lines front : List Text) (sections : List (List Text)) :
    Prop where
  whole : lines = front ++ sections.flatten
  front : ∀ line ∈ front, isHeader (keyValue line).1 = false
  sections : ∀ part ∈ sections, ∃ header body, part = header :: body ∧
    isHeader (keyValue header).1 = true ∧ ∀ line ∈ body, isHeader (keyValue line).1 = false

/-- There is one way of cutting lines at their headers. -/
theorem isCut_iff {isHeader : Text → Bool} {lines front : List Text}
    {sections : List (List Text)} :
    IsCut isHeader lines front sections ↔ cutSections isHeader lines = (front, sections) := by
  constructor
  · rintro ⟨rfl, inFront, inSections⟩
    -- lines without a header go in front of what the others are cut into
    have ahead {lines : List Text} (inside : ∀ line ∈ lines, isHeader (keyValue line).1 = false)
        {rest : List Text} {sections : List (List Text)}
        (cut : cutSections isHeader rest = ([], sections)) :
        cutSections isHeader (lines ++ rest) = (lines, sections) := by
      induction lines with
      | nil => exact cut
      | cons line lines ih =>
        obtain ⟨first, others⟩ := List.forall_mem_cons.mp inside
        simp [cutSections, ih others, first]
    apply ahead inFront
    induction sections with
    | nil => rfl
    | cons part sections ih =>
      obtain ⟨⟨header, body, rfl, opens, inside⟩, others⟩ := List.forall_mem_cons.mp inSections
      simp [cutSections, ahead inside (ih others), opens]
  · intro cut
    induction lines generalizing front sections with
    | nil =>
      cases cut
      exact ⟨rfl, List.forall_mem_nil _, List.forall_mem_nil _⟩
    | cons line rest ih =>
      have behind : IsCut isHeader rest (cutSections isHeader rest).1
        (cutSections isHeader rest).2 := ih rfl
      simp only [cutSections] at cut
      split at cut
      next header =>
        cases cut
        refine ⟨congrArg (line :: ·) behind.whole, List.forall_mem_nil _,
          List.forall_mem_cons.mpr ⟨?_, behind.sections⟩⟩
        exact ⟨line, _, rfl, header, behind.front⟩
      next inside =>
        cases cut
        refine ⟨congrArg (line :: ·) behind.whole,
          List.forall_mem_cons.mpr ⟨by simpa using inside, behind.front⟩, behind.sections⟩

theorem cutSections_of_forall {isHeader : Text → Bool} (headless : ∀ key, isHeader key = false)
    (lines : List Text) : cutSections isHeader lines = (lines, []) := by
  induction lines with
  | nil => rfl
  | cons line rest ih => simp [cutSections, ih, headless]

/-- Where a list is read member by member, each member has its record. -/
theorem exists_of_mem_left {α β : Type} {R : α → β → Prop} {values : List α}
    {records : List β} (made : List.Forall₂ R values records) {value : α}
    (member : value ∈ values) : ∃ record, R value record := by
  induction made with
  | nil => cases member
  | cons first _ ih =>
    rcases List.mem_cons.mp member with rfl | behind
    · exact ⟨_, first⟩
    · exact ih behind

namespace SectionShape

variable {σ α β : Type} {shape : SectionShape σ}

theorem applyLine_eq (current : σ) (line : Text) : shape.applyLine current line =
    shape.apply current (keyValue line).1 (keyValue line).2 line :=
  rfl

/-! ### Section by section -/

section

variable (shape)

/-- A record after some lines, taken in one after the other. -/
def takeIn (record : σ) (lines : List Text) : Result σ := lines.foldlM shape.applyLine record

/-- One record per section. Each is begun with the record or preamble before it, and finished
before the next one is begun. -/
def readSections (previous : σ) : List (List Text) → Result (List σ)
  | [] => .ok []
  | lines :: rest => do
    let record ← shape.takeIn (shape.start (some previous)) lines
    shape.finish record
    let others ← readSections record rest
    pure (record :: others)

/-- The records of lines that are cut at their headers. Without headers the lines in front make a
record, if there are any. -/
def readCut (front : List Text) (sections : List (List Text)) : Result (List σ) := do
  let preamble ← shape.takeIn (shape.start none) front
  if sections = [] then
    if front = [] then pure []
    else do
      shape.finish preamble
      pure [preamble]
  else shape.readSections preamble sections

theorem collect_record (current : σ) (rest : List Text) :
    shape.collect .record current rest = (do
      let record ← shape.takeIn current (cutSections shape.isHeader rest).1
      shape.finish record
      let others ← shape.readSections record (cutSections shape.isHeader rest).2
      pure (record :: others)) := by
  induction rest generalizing current with
  | nil => rfl
  | cons line rest ih =>
    rw [collect, cutSections]
    split
    next header =>
      -- the header ends this record and begins the next one
      simp [takeIn, readSections, ih]
    next inside =>
      simp [takeIn, ih]

theorem collect_preamble (current : σ) (rest : List Text) :
    shape.collect .preamble current rest = (do
      let preamble ← shape.takeIn current (cutSections shape.isHeader rest).1
      if (cutSections shape.isHeader rest).2 = [] then do
        shape.finish preamble
        pure [preamble]
      else shape.readSections preamble (cutSections shape.isHeader rest).2) := by
  induction rest generalizing current with
  | nil => rfl
  | cons line rest ih =>
    rw [collect, cutSections]
    split
    next header =>
      simp [takeIn, readSections, collect_record]
    next inside =>
      simp [takeIn, ih]

theorem read_eq_readCut (text : Text) : shape.read text =
    shape.readCut (cutSections shape.isHeader (contentLines text)).1
      (cutSections shape.isHeader (contentLines text)).2 := by
  have read : shape.read text = shape.collect .start (shape.start none) (contentLines text) := rfl
  rw [read, readCut]
  cases content : contentLines text with
  | nil => rfl
  | cons line rest =>
    have preamble : shape.collect .start (shape.start none) (line :: rest) =
        shape.collect .preamble (shape.start none) (line :: rest) := by
      rw [collect, collect]
      simp
    rw [preamble, collect_preamble]
    -- without headers all lines stand in front, so these are not none
    have whole := append_flatten_cutSections shape.isHeader (line :: rest)
    refine bind_congr fun record => ?_
    split
    next headless =>
      rw [headless, List.flatten_nil, List.append_nil] at whole
      rw [whole, if_neg (List.cons_ne_nil line rest)]
    next => rfl

end

/-! ### Gathering -/

variable (shape) in
/-- A record that comes of some lines, taken in one after the other. -/
inductive Gathers : List Text → σ → Prop
  | start (previous : Option σ) : Gathers [] (shape.start previous)
  | line {seen : List Text} {current next : σ} {line : Text} (gathered : Gathers seen current)
      (taken : shape.applyLine current line = .ok next) : Gathers (seen ++ [line]) next

theorem Gathers.exists_of_mem {seen : List Text} {current : σ}
    (gathered : shape.Gathers seen current) :
    ∀ line ∈ seen, ∃ before after, shape.applyLine before line = .ok after := by
  induction gathered with
  | start previous => simp
  | line gathered taken ih =>
    intro line member
    rcases List.mem_append.mp member with earlier | last
    · exact ih line earlier
    · obtain rfl := List.mem_singleton.mp last
      exact ⟨_, _, taken⟩

theorem Gathers.takeIn {seen lines : List Text} {current next : σ}
    (gathered : shape.Gathers seen current) (taken : shape.takeIn current lines = .ok next) :
    shape.Gathers (seen ++ lines) next := by
  induction lines generalizing seen current with
  | nil =>
    cases taken
    simpa using gathered
  | cons line lines ih =>
    rw [SectionShape.takeIn, List.foldlM_cons, Result.bind_eq_ok_iff] at taken
    obtain ⟨after, first, others⟩ := taken
    simpa using ih (gathered.line first) others

theorem gathers_of_readSections {previous : σ} {sections : List (List Text)} {records : List σ}
    (read : shape.readSections previous sections = .ok records) :
    List.Forall₂ shape.Gathers sections records := by
  induction sections generalizing previous records with
  | nil =>
    cases read
    exact .nil
  | cons lines sections ih =>
    simp only [readSections, Result.bind_eq_ok_iff] at read
    obtain ⟨record, taken, -, -, others, readOn, same⟩ := read
    cases same
    exact .cons (Gathers.takeIn (.start (some previous)) taken) (ih readOn)

/-- What is read of a text: every line is gathered, and each record comes of its own lines. -/
theorem read_eq_ok {text : Text} {records : List σ} (read : shape.read text = .ok records) :
    List.Forall₂ shape.Gathers (recordLines shape.isHeader (contentLines text)) records ∧
      ∃ front, shape.Gathers (cutSections shape.isHeader (contentLines text)).1 front := by
  rw [read_eq_readCut, readCut, Result.bind_eq_ok_iff] at read
  obtain ⟨preamble, taken, made⟩ := read
  have gathered := Gathers.takeIn (.start none) taken
  refine ⟨?_, preamble, gathered⟩
  simp only [recordLines]
  split at made
  next headless =>
    rw [if_pos headless]
    split at made
    next empty =>
      cases made
      simp [empty]
    next lines =>
      obtain ⟨-, -, same⟩ := Result.bind_eq_ok_iff.mp made
      cases same
      simpa [lines] using gathered
  next headers =>
    rw [if_neg headers]
    exact gathers_of_readSections made

/-- A reading that succeeds has taken in every line that says anything. -/
theorem exists_applyLine_of_read {text : Text} {records : List σ}
    (read : shape.read text = .ok records) :
    ∀ line ∈ contentLines text, ∃ before after, shape.applyLine before line = .ok after := by
  obtain ⟨made, front, gathered⟩ := read_eq_ok read
  intro line member
  rw [← append_flatten_cutSections shape.isHeader (contentLines text), List.mem_append,
    List.mem_flatten] at member
  -- no record comes of the lines in front, but they were gathered all the same
  rcases member with before | ⟨section_, isSection, inside⟩
  · exact gathered.exists_of_mem line before
  · have listed : section_ ∈ recordLines shape.isHeader (contentLines text) := by
      have some := List.ne_nil_of_mem isSection
      simpa [recordLines, some] using isSection
    obtain ⟨record, gathered⟩ := exists_of_mem_left made listed
    exact gathered.exists_of_mem line inside

/-- Without headers the last record comes of all lines. -/
theorem gathers_of_read {text : Text} {records : List σ} {record : σ}
    (headless : ∀ key, shape.isHeader key = false) (read : shape.read text = .ok records)
    (last : records.getLast? = some record) : shape.Gathers (contentLines text) record := by
  have made := (read_eq_ok read).1
  simp only [recordLines, cutSections_of_forall headless, if_true] at made
  cases content : contentLines text with
  | nil =>
    rw [content] at made
    cases made
    cases last
  | cons line rest =>
    rw [content] at made
    cases made with
    | cons gathered none =>
      cases none
      cases last
      exact gathered

/-- Some of the records are completed, in their order and each from the lines that it comes of. -/
theorem sublistForall₂_of_filter {complete : σ → Result α} {keep : σ → Bool}
    {isTakenFrom : α → List Text → Prop} {drafts : List σ} {records : List α}
    {sections : List (List Text)} (made : List.Forall₂ shape.Gathers sections drafts)
    (completed : (drafts.filter keep).mapM complete = .ok records)
    (takes : ∀ {lines draft record}, shape.Gathers lines draft → complete draft = .ok record →
      isTakenFrom record lines) :
    List.SublistForall₂ isTakenFrom records sections := by
  rw [Result.mapM_eq_ok_iff] at completed
  induction made generalizing records with
  | nil =>
    cases completed
    exact .nil
  | @cons lines draft sections drafts gathered _ ih =>
    rw [List.filter_cons] at completed
    split at completed
    next kept =>
      cases completed with
      | cons complete others => exact .cons (takes gathered complete) (ih others)
    next => exact .cons_right (ih completed)

/-! ### Parts of a record -/

variable (shape) in
/-- Whatever is taken in under a key has a value of the right form. -/
def Checks (key : Text) (readValue : Text → Option β) : Prop :=
  ∀ current value line next, shape.apply current key value line = .ok next →
    (readValue value).isSome

variable (shape) in
/-- A part of a record that holds the value last met under a key. -/
structure Tracks (slot : σ → Option β) (key : Text) (readValue : Text → Option β) : Prop where
  fresh : ∀ previous, slot (shape.start previous) = none
  step : ∀ {current other value line next}, shape.apply current other value line = .ok next →
    slot next = if other = key then readValue value else slot current

variable (shape) in
/-- A part of a record that the lines with one key set, and no others. -/
def IsSetBy (slot : σ → α) (key : Text) (readValue : Text → α) : Prop :=
  ∀ {current other value line next}, shape.apply current other value line = .ok next →
    slot next = if other = key then readValue value else slot current

/-- What is set by a key is what the last line with that key says, or what it was before. -/
theorem IsSetBy.slot_takeIn {slot : σ → α} {key : Text} {readValue : Text → α}
    (isSet : shape.IsSetBy slot key readValue) {current next : σ} {lines : List Text}
    (taken : shape.takeIn current lines = .ok next) :
    slot next = ((lastValue? key lines).map readValue).getD (slot current) := by
  induction lines generalizing current with
  | nil =>
    cases taken
    rfl
  | cons line lines ih =>
    rw [takeIn, List.foldlM_cons, Result.bind_eq_ok_iff] at taken
    obtain ⟨after, first, others⟩ := taken
    rw [applyLine_eq] at first
    have alone : lastValue? key [line] =
        if (keyValue line).1 = key then some (keyValue line).2 else none :=
      lastValue?_concat key [] line
    rw [ih others, isSet first, ← List.singleton_append, lastValue?_append, alone]
    -- a later line with the key counts, and else it is this one's turn
    cases lastValue? key lines with
    | some value => rfl
    | none =>
      by_cases keyed : (keyValue line).1 = key
      · rw [if_pos keyed, if_pos keyed]
        rfl
      · rw [if_neg keyed, if_neg keyed]
        rfl

theorem Gathers.exists_takeIn {seen : List Text} {current : σ}
    (gathered : shape.Gathers seen current) :
    ∃ previous, shape.takeIn (shape.start previous) seen = .ok current := by
  induction gathered with
  | start previous => exact ⟨previous, rfl⟩
  | line gathered taken ih =>
    obtain ⟨previous, before⟩ := ih
    refine ⟨previous, ?_⟩
    rw [SectionShape.takeIn, List.foldlM_append, ← SectionShape.takeIn, before, Result.ok_bind,
      List.foldlM_cons, taken]
    rfl

theorem Gathers.slot_eq {slot : σ → Option β} {key : Text} {readValue : Text → Option β}
    (tracks : shape.Tracks slot key readValue) {seen : List Text} {current : σ}
    (gathered : shape.Gathers seen current) :
    slot current = (lastValue? key seen).bind readValue := by
  obtain ⟨previous, taken⟩ := gathered.exists_takeIn
  rw [IsSetBy.slot_takeIn tracks.step taken, tracks.fresh]
  cases lastValue? key seen <;> rfl

/-- Where keys are told by their words, it is enough to know what each of them does. -/
theorem isSetBy_of_read? {κ : Type} [DecidableEq κ] {word : κ → Text} {read? : Text → Option κ}
    (reads : ∀ {text key}, read? text = some key ↔ word key = text) (key : κ)
    {slot : σ → α} {readValue : Text → α}
    (known : ∀ {current other value line next},
      shape.apply current (word other) value line = .ok next →
        slot next = if other = key then readValue value else slot current)
    (unknown : ∀ {current other value line next}, read? other = none →
      shape.apply current other value line = .ok next → slot next = slot current) :
    shape.IsSetBy slot (word key) readValue := by
  intro current other value line next taken
  cases found : read? other with
  | none =>
    have different : other ≠ word key := fun same => by
      rw [reads.mpr same.symm] at found
      cases found
    rw [unknown found taken, if_neg different]
  | some another =>
    obtain rfl := reads.mp found
    have same : word another = word key ↔ another = key := by
      refine ⟨fun same => ?_, congrArg word⟩
      rw [reads.mpr same.symm] at found
      exact (Option.some.inj found).symm
    simp only [known taken, same]

theorem tracks_of_read? {κ : Type} [DecidableEq κ] {word : κ → Text} {read? : Text → Option κ}
    (reads : ∀ {text key}, read? text = some key ↔ word key = text) (key : κ)
    {slot : σ → Option β} {readValue : Text → Option β}
    (fresh : ∀ previous, slot (shape.start previous) = none)
    (known : ∀ {current other value line next},
      shape.apply current (word other) value line = .ok next →
        slot next = if other = key then readValue value else slot current)
    (unknown : ∀ {current other value line next}, read? other = none →
      shape.apply current other value line = .ok next → slot next = slot current) :
    shape.Tracks slot (word key) readValue where
  fresh := fresh
  step := isSetBy_of_read? reads key known unknown

/-- Where a reading succeeds, every value under a key that is checked has the right form. -/
theorem Checks.isSome_of_read {key : Text} {readValue : Text → Option β}
    (checks : shape.Checks key readValue) (named : key ≠ []) {text : Text} {records : List σ}
    (read : shape.read text = .ok records) {line : Text} (member : line ∈ lines text)
    (keyed : (keyValue line).1 = key) : (readValue (keyValue line).2).isSome := by
  -- a line that has a key is not blank, so it was not passed over
  have content : line ∈ contentLines text := by
    refine List.mem_filter.mpr ⟨member, ?_⟩
    rw [Bool.not_eq_true', ← Bool.not_eq_true]
    exact fun blank => named (keyed ▸ key_of_isBlank blank)
  obtain ⟨before, after, taken⟩ := exists_applyLine_of_read read line content
  rw [applyLine_eq, keyed] at taken
  exact checks _ _ _ _ taken

end SectionShape

end ProxyControl.Listing
