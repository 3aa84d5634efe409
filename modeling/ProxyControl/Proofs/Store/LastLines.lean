import ProxyControl.Proofs.Store.Details

/-!
# Certificates by their lines

What a certificate's view holds is said by the lines of the answer, whatever stands between them.
Under most keys the last line counts, and under the two about the chain all of them do. So an answer
may be put in any other order, as long as lines with one key stay in theirs.
-/
namespace ProxyControl

open Text Listing

/-! ### Lines with one key -/

namespace Listing

/-- The lines with a key, in order. -/
def linesWith (key : Text) (lines : List Text) : List Text :=
  lines.filter fun line => (keyValue line).1 = key

/-- The values of the lines with a key, in order. -/
def values (key : Text) (lines : List Text) : List Text :=
  (linesWith key lines).map fun line => (keyValue line).2

theorem lastValue?_eq_getLast? (key : Text) (lines : List Text) :
    lastValue? key lines = (values key lines).getLast? := by
  rw [lastValue?, values, linesWith, List.filter_map, List.getLast?_map, List.getLast?_map,
    Option.map_map]
  rfl

/-- A line that has a key says something. -/
theorem linesWith_contentLines {key : Text} (named : key ≠ []) (text : Text) :
    linesWith key (contentLines text) = linesWith key (lines text) := by
  rw [linesWith, linesWith, contentLines, List.filter_filter]
  refine List.filter_congr fun line _ => ?_
  cases blank : isBlank line with
  | false => simp
  | true => simp [key_of_isBlank blank, named.symm]

theorem lastValue?_congr {key : Text} {first second : List Text}
    (same : linesWith key first = linesWith key second) :
    lastValue? key first = lastValue? key second := by
  rw [lastValue?_eq_getLast?, lastValue?_eq_getLast?, values, values, same]

namespace SectionShape

variable {σ : Type} {shape : SectionShape σ}

variable (shape) in
/-- A part of a record that the lines with one key add to, and no others. -/
def Collects (slot : σ → List Text) (key : Text) : Prop :=
  ∀ {current other value line next}, shape.apply current other value line = .ok next →
    slot next = if other = key then slot current ++ [value] else slot current

theorem Collects.slot_takeIn {slot : σ → List Text} {key : Text}
    (collects : shape.Collects slot key) {current next : σ} {lines : List Text}
    (taken : shape.takeIn current lines = .ok next) :
    slot next = slot current ++ values key lines := by
  induction lines generalizing current with
  | nil =>
    cases taken
    simp [values, linesWith]
  | cons line lines ih =>
    rw [takeIn, List.foldlM_cons, Result.bind_eq_ok_iff] at taken
    obtain ⟨after, first, others⟩ := taken
    rw [applyLine_eq] at first
    rw [ih others, collects first]
    by_cases keyed : (keyValue line).1 = key <;> simp [values, linesWith, keyed]

end SectionShape

end Listing

/-! ### Alternative names -/

namespace Text

/-- Parts that do not hold the mark between them fall into pieces as they were. -/
theorem pieces_at_join {mark : Char} {parts : List Text} (some : parts ≠ [])
    (apart : ∀ part ∈ parts, mark ∉ part) : pieces (· == mark) (join [mark] parts) = parts := by
  refine pieces_join (by simp) some fun part member c inside => ?_
  rw [beq_eq_false_iff_ne]
  rintro rfl
  exact apart part member inside

/-- Any text is put together from such parts. -/
theorem exists_join (mark : Char) (text : Text) :
    ∃ parts, parts ≠ [] ∧ (∀ part ∈ parts, mark ∉ part) ∧ text = join [mark] parts := by
  induction text with
  | nil => exact ⟨[[]], by simp, by simp, rfl⟩
  | cons c rest ih =>
    obtain ⟨parts, some, apart, rfl⟩ := ih
    obtain ⟨first, more, rfl⟩ := List.exists_cons_of_ne_nil some
    by_cases between : c = mark
    · exact ⟨[] :: first :: more, by simp, by simpa using apart, by simp [join, between]⟩
    · obtain ⟨inside, others⟩ := List.forall_mem_cons.mp apart
      refine ⟨(c :: first) :: more, by simp, ?_, ?_⟩
      · exact List.forall_mem_cons.mpr ⟨by simp [Ne.symm between, inside], others⟩
      · cases more <;> simp [join]

end Text

namespace X509

/-- What a part of a list stands for: nothing if it is blank, and otherwise its name, which may have
one `DNS:` in front of it. -/
inductive StandsFor (part : Text) : Option Text → Prop
  | blank (empty : isBlank part = true) : StandsFor part none
  | marked {name : Text} (whole : trim part = "DNS:" ++ name) : StandsFor part (some name)
  | plain (full : isBlank part = false) (unmarked : ¬ "DNS:" <+: trim part) :
      StandsFor part (some (trim part))

/-- A value lists the names that the parts between its commas stand for. -/
def Lists (value : Text) (names : List Text) : Prop :=
  ∃ parts slots, parts ≠ [] ∧ (∀ part ∈ parts, ',' ∉ part) ∧ value = join [','] parts ∧
    List.Forall₂ StandsFor parts slots ∧ names = slots.filterMap id

/-- The name that a part stands for, if it stands for one. -/
def name? (part : Text) : Option Text :=
  if isBlank part then none else some (withoutStart "DNS:" (trim part))

theorem standsFor_iff {part : Text} {slot : Option Text} :
    StandsFor part slot ↔ name? part = slot := by
  rw [name?]
  constructor
  · rintro (empty | @⟨name, whole⟩ | ⟨full, unmarked⟩)
    · rw [if_pos empty]
    · -- a part with the mark in front is not blank
      have full : ¬ isBlank part = true := fun empty => by
        rw [trim_eq_nil_iff.mpr empty] at whole
        exact absurd (List.append_eq_nil_iff.mp whole.symm).1 (by decide +kernel)
      rw [if_neg full, whole, withoutStart, after?_eq_some_iff.mpr rfl, Option.getD_some]
    · have kept : withoutStart "DNS:" (trim part) = trim part :=
        withoutStart_eq_iff.mpr ⟨[], rfl, .inr ⟨rfl, unmarked⟩⟩
      rw [if_neg (by simp [full]), kept]
  · rintro rfl
    split
    next empty => exact .blank empty
    next full =>
      obtain ⟨taken, whole, rfl | ⟨rfl, unmarked⟩⟩ :=
        withoutStart_eq_iff.mp (Eq.refl (withoutStart "DNS:" (trim part)))
      · exact .marked whole
      · rw [List.nil_append] at whole
        rw [← whole]
        exact .plain (by simpa using full) unmarked

theorem readAltNames_eq (value : Text) :
    readAltNames value = (pieces (· == ',') value).filterMap name? := by
  rw [readAltNames]
  induction pieces (· == ',') value with
  | nil => rfl
  | cons part parts ih =>
    cases blank : isBlank part with
    | true =>
      have empty : trim part = [] := trim_eq_nil_iff.mpr blank
      simpa [name?, blank, empty] using ih
    | false =>
      have full : trim part ≠ [] := fun empty => by simp [trim_eq_nil_iff.mp empty] at blank
      simpa [name?, blank, full] using ih

/-- A list is read as the names that it lists. -/
theorem lists_iff {value : Text} {names : List Text} :
    Lists value names ↔ readAltNames value = names := by
  have slots_iff (parts : List Text) (slots : List (Option Text)) :
      List.Forall₂ StandsFor parts slots ↔ parts.map name? = slots := by
    rw [← List.forall₂_eq_eq_eq, List.forall₂_map_left_iff]
    exact ⟨fun stand => stand.imp fun _ _ => standsFor_iff.mp,
      fun named => named.imp fun _ _ => standsFor_iff.mpr⟩
  rw [readAltNames_eq]
  constructor
  · rintro ⟨parts, slots, some, apart, rfl, stand, rfl⟩
    rw [pieces_at_join some apart, ← (slots_iff parts slots).mp stand, List.filterMap_map]
    rfl
  · rintro rfl
    obtain ⟨parts, some, apart, rfl⟩ := exists_join ',' value
    refine ⟨parts, parts.map name?, some, apart, rfl, (slots_iff parts _).mpr rfl, ?_⟩
    rw [pieces_at_join some apart, List.filterMap_map]
    rfl

/-! ### Lines that can be taken in -/

/-- Only a serial and a date can be refused, whatever has been taken in before. -/
theorem Fields.exists_put_iff {fields : Fields} {key : Key} {value line : Text} :
    (∃ next, fields.put key value line = .ok next) ↔
      (key = .serial → (filled? value).isSome) ∧
        (key = .notBefore ∨ key = .notAfter → (Date.certificateTime? value).isSome) := by
  cases key <;>
    simp [put, Result.map_eq_ok_iff, required_eq_ok_iff, ofCertificate_eq_ok_iff,
      Option.isSome_iff_exists]

end X509

namespace CertificateDetail

/-- Whether a line can be taken in: a serial must be there, and a date must be one. -/
structure IsReadable (line : Text) : Prop where
  serial : (keyValue line).1 = "Serial" → (filled? (keyValue line).2).isSome
  date : (keyValue line).1 = "notBefore" ∨ (keyValue line).1 = "notAfter" →
    (Date.certificateTime? (keyValue line).2).isSome

/-- A blank line has no key, so it says nothing that could be refused. -/
theorem IsReadable.of_isBlank {line : Text} (blank : isBlank line = true) : IsReadable line := by
  have unnamed := key_of_isBlank blank
  constructor
  · intro keyed
    exact absurd (unnamed.symm.trans keyed) (by decide +kernel)
  · rintro (keyed | keyed) <;> exact absurd (unnamed.symm.trans keyed) (by decide +kernel)

theorem Key.read?_eq_some_iff {text : Text} {key : Key} :
    Key.read? text = some key ↔ key.word = text :=
  find?_word_eq_some_iff (by intro key; cases key <;> decide +kernel)

/-- No key is about the certificate and about its file at once. -/
theorem Key.x509_word (key : Key) : X509.Key.read? key.word = none := by
  cases key <;> decide +kernel

theorem Draft.exists_apply_iff {draft : Draft} {line : Text} :
    (∃ next, shape.applyLine draft line = .ok next) ↔ IsReadable line := by
  rw [SectionShape.applyLine_eq]
  have words : IsReadable line ↔
      (X509.Key.read? (keyValue line).1 = some .serial → (filled? (keyValue line).2).isSome) ∧
        (X509.Key.read? (keyValue line).1 = some .notBefore ∨
            X509.Key.read? (keyValue line).1 = some .notAfter →
          (Date.certificateTime? (keyValue line).2).isSome) := by
    simp only [X509.Key.read?_eq_some_iff]
    exact ⟨fun readable => ⟨fun keyed => readable.serial keyed.symm, fun keyed =>
        readable.date (keyed.imp Eq.symm Eq.symm)⟩,
      fun ⟨serial, date⟩ => ⟨fun keyed => serial keyed.symm, fun keyed =>
        date (keyed.imp Eq.symm Eq.symm)⟩⟩
  rw [words]
  change (∃ next, draft.apply _ _ _ = .ok next) ↔ _
  cases known : X509.Key.read? (keyValue line).1 with
  | some key =>
    have put : (∃ next, draft.apply (keyValue line).1 (keyValue line).2 line = .ok next) ↔
        ∃ next, draft.x509.put key (keyValue line).2 line = .ok next := by
      simp [Draft.apply, known, Result.map_eq_ok_iff]
    rw [put, X509.Fields.exists_put_iff]
    simp
  | none =>
    simp only [Draft.apply, known]
    cases Key.read? (keyValue line).1 <;> simp

theorem exists_takeIn_iff {draft : Draft} {lines : List Text} :
    (∃ next, shape.takeIn draft lines = .ok next) ↔ ∀ line ∈ lines, IsReadable line := by
  induction lines generalizing draft with
  | nil => simp [SectionShape.takeIn, pure, Except.pure]
  | cons line lines ih =>
    simp only [SectionShape.takeIn, List.foldlM_cons, Result.bind_eq_ok_iff,
      List.forall_mem_cons]
    constructor
    · rintro ⟨next, after, first, others⟩
      exact ⟨Draft.exists_apply_iff.mp ⟨after, first⟩, ih.mp ⟨next, others⟩⟩
    · rintro ⟨readable, others⟩
      obtain ⟨after, first⟩ : ∃ after, shape.applyLine draft line = .ok after :=
        Draft.exists_apply_iff.mpr readable
      obtain ⟨next, taken⟩ : ∃ next, shape.takeIn after lines = .ok next := ih.mpr others
      exact ⟨next, after, first, taken⟩

theorem Draft.apply_word {draft : Draft} {key : Key} {value line : Text} :
    draft.apply key.word value line = .ok (draft.put key value) := by
  rw [apply, key.x509_word, Key.read?_eq_some_iff.mpr rfl]

/-- Other lines are about the certificate, if they are about anything. -/
theorem Draft.eq_of_apply {draft next : Draft} {other value line : Text}
    (unknown : Key.read? other = none) (taken : draft.apply other value line = .ok next) :
    next = { draft with x509 := next.x509 } := by
  unfold apply at taken
  split at taken
  next key known =>
    obtain ⟨x509, -, rfl⟩ := Result.map_eq_ok_iff.mp taken
    rfl
  next =>
    rw [unknown] at taken
    cases taken
    rfl

/-- A part of a draft that is not about the certificate is changed by one key if it is changed by
none of the others. -/
theorem of_apply {β : Type} (key : Key) {slot : Draft → β} {change : Draft → Text → β}
    (puts : ∀ draft other value,
      slot (Draft.put draft other value) = if other = key then change draft value else slot draft)
    (keeps : ∀ (draft : Draft) x509, slot { draft with x509 } = slot draft)
    {current next : Draft} {other value line : Text}
    (taken : shape.apply current other value line = .ok next) :
    slot next = if other = key.word then change current value else slot current := by
  cases found : Key.read? other with
  | none =>
    -- the key is none of the five, so at most the certificate is changed
    have different : other ≠ key.word := fun same => by
      rw [Key.read?_eq_some_iff.mpr same.symm] at found
      cases found
    rw [Draft.eq_of_apply found taken, keeps, if_neg different]
  | some another =>
    obtain rfl := Key.read?_eq_some_iff.mp found
    have same : another.word = key.word ↔ another = key := by
      refine ⟨fun same => ?_, congrArg Key.word⟩
      rw [Key.read?_eq_some_iff.mpr same.symm] at found
      exact (Option.some.inj found).symm
    cases Draft.apply_word.symm.trans taken
    simp only [puts, same]

/-- A part of a draft that is not about the certificate holds what the last line with its key
says. -/
theorem slot_takeIn {β : Type} (key : Key) {slot : Draft → β} {readValue : Text → β}
    (puts : ∀ draft other value,
      slot (Draft.put draft other value) = if other = key then readValue value else slot draft)
    (keeps : ∀ (draft : Draft) x509, slot { draft with x509 } = slot draft)
    {current next : Draft} {lines : List Text} (taken : shape.takeIn current lines = .ok next) :
    slot next = ((lastValue? key.word lines).map readValue).getD (slot current) := by
  have isSet : shape.IsSetBy slot key.word readValue := of_apply key puts keeps
  exact isSet.slot_takeIn taken

/-- One about the chain holds what all lines with its key say. -/
theorem chain_takeIn (key : Key) {slot : Draft → List Text}
    (puts : ∀ draft other value,
      slot (Draft.put draft other value) =
        if other = key then slot draft ++ [value] else slot draft)
    (keeps : ∀ (draft : Draft) x509, slot { draft with x509 } = slot draft)
    {current next : Draft} {lines : List Text} (taken : shape.takeIn current lines = .ok next) :
    slot next = slot current ++ values key.word lines := by
  have collects : shape.Collects slot key.word := of_apply key puts keeps
  exact collects.slot_takeIn taken

end CertificateDetail

/-! ### What lines state -/

namespace X509.IsStatedBy

theorem congr {x509 : X509} {first second : List Text} (stated : x509.IsStatedBy first)
    (last : ∀ key : Key, lastValue? key.word second = lastValue? key.word first) :
    x509.IsStatedBy second where
  serial := (congrArg (Option.bind · filled?) (last .serial)).trans stated.serial
  notBefore :=
    (congrArg (Option.bind · Date.certificateTime?) (last .notBefore)).trans stated.notBefore
  notAfter :=
    (congrArg (Option.bind · Date.certificateTime?) (last .notAfter)).trans stated.notAfter
  subject := stated.subject.trans (congrArg (Option.getD · []) (last .subject).symm)
  issuer := stated.issuer.trans (congrArg (Option.getD · []) (last .issuer).symm)
  algorithm := stated.algorithm.trans (last .algorithm).symm
  fingerprint := stated.fingerprint.trans (last .fingerprint).symm
  altNames := stated.altNames.trans
    (congrArg (fun value => (Option.map readAltNames value).getD []) (last .altNames).symm)

theorem unique {first second : X509} {lines : List Text} (one : first.IsStatedBy lines)
    (other : second.IsStatedBy lines) : first = second := by
  cases first
  cases second
  simp only [mk.injEq]
  exact ⟨Option.some.inj (one.serial.symm.trans other.serial),
    Option.some.inj (one.notBefore.symm.trans other.notBefore),
    Option.some.inj (one.notAfter.symm.trans other.notAfter),
    one.subject.trans other.subject.symm, one.issuer.trans other.issuer.symm,
    one.algorithm.trans other.algorithm.symm, one.fingerprint.trans other.fingerprint.symm,
    one.altNames.trans other.altNames.symm⟩

theorem lists {x509 : X509} {lines : List Text} (stated : x509.IsStatedBy lines) :
    Lists ((lastValue? "Subject Alternative Name" lines).getD []) x509.subjectAltNames := by
  rw [lists_iff, stated.altNames]
  cases lastValue? "Subject Alternative Name" lines <;> rfl

end X509.IsStatedBy

namespace CertificateDetail

/-- All that a view holds is what the last lines about it say, but what it holds about the chain is
what all lines about it say. -/
structure IsStatedBy (detail : CertificateDetail) (lines : List Text) : Prop where
  x509 : detail.x509.IsStatedBy lines
  altNames : X509.Lists ((lastValue? "Subject Alternative Name" lines).getD [])
    detail.x509.subjectAltNames
  filename : detail.filename = (lastValue? "Filename" lines).getD []
  status : detail.status = lastValue? "Status" lines
  ocspResponseKey : detail.ocspResponseKey = lastValue? "OCSP Response Key" lines
  chainSubjects : detail.chainSubjects = values "Chain Subject" lines
  chainIssuers : detail.chainIssuers = values "Chain Issuer" lines

/-- The keys that a view reads. -/
def keys : List Text := X509.Key.all.map X509.Key.word ++ Key.all.map Key.word

theorem x509_word_mem_keys (key : X509.Key) : key.word ∈ keys := by
  cases key <;> decide +kernel

theorem word_mem_keys (key : Key) : key.word ∈ keys := by
  cases key <;> decide +kernel

/-- Lines that agree under every key that is read state the same. -/
theorem IsStatedBy.congr {detail : CertificateDetail} {first second : List Text}
    (stated : detail.IsStatedBy first)
    (same : ∀ key ∈ keys, linesWith key second = linesWith key first) :
    detail.IsStatedBy second := by
  have last (key : Key) : lastValue? key.word second = lastValue? key.word first :=
    lastValue?_congr (same key.word (word_mem_keys key))
  have all (key : Key) : values key.word second = values key.word first := by
    rw [values, values, same key.word (word_mem_keys key)]
  have x509 : detail.x509.IsStatedBy second :=
    stated.x509.congr fun key => lastValue?_congr (same key.word (x509_word_mem_keys key))
  exact
    { x509
      altNames := x509.lists
      filename := stated.filename.trans (congrArg (Option.getD · []) (last .filename).symm)
      status := stated.status.trans (last .status).symm
      ocspResponseKey := stated.ocspResponseKey.trans (last .ocspResponseKey).symm
      chainSubjects := stated.chainSubjects.trans (all .chainSubject).symm
      chainIssuers := stated.chainIssuers.trans (all .chainIssuer).symm }

theorem IsStatedBy.unique {first second : CertificateDetail} {lines : List Text}
    (one : first.IsStatedBy lines) (other : second.IsStatedBy lines) : first = second := by
  cases first
  cases second
  simp only [mk.injEq]
  exact ⟨one.filename.trans other.filename.symm, one.status.trans other.status.symm,
    one.x509.unique other.x509, one.chainSubjects.trans other.chainSubjects.symm,
    one.chainIssuers.trans other.chainIssuers.symm,
    one.ocspResponseKey.trans other.ocspResponseKey.symm⟩

private theorem getD_map_some {α : Type} (slot : Option α) : (slot.map some).getD none = slot := by
  cases slot <;> rfl

/-- What is taken in from some lines is what they state. -/
theorem isStatedBy_of_takeIn {lines : List Text} {draft : Draft} {detail : CertificateDetail}
    (taken : shape.takeIn (shape.start none) lines = .ok draft)
    (complete : draft.complete = .ok detail) : detail.IsStatedBy lines := by
  have gathered : shape.Gathers lines draft := SectionShape.Gathers.takeIn (.start none) taken
  obtain ⟨x509, completed, ⟨⟩⟩ := Result.bind_eq_ok_iff.mp complete
  have stated := isHeldBy.isStatedBy gathered completed
  constructor
  case x509 => exact stated
  case altNames => exact stated.lists
  case filename =>
    have last : draft.filename = ((lastValue? "Filename" lines).map id).getD [] :=
      slot_takeIn .filename (fun _ key _ => by cases key <;> rfl) (fun _ _ => rfl) taken
    rwa [Option.map_id, id_eq] at last
  case status =>
    have last : draft.status = ((lastValue? "Status" lines).map some).getD none :=
      slot_takeIn .status (fun _ key _ => by cases key <;> rfl) (fun _ _ => rfl) taken
    rwa [getD_map_some] at last
  case ocspResponseKey =>
    have last : draft.ocspResponseKey =
        ((lastValue? "OCSP Response Key" lines).map some).getD none :=
      slot_takeIn .ocspResponseKey (fun _ key _ => by cases key <;> rfl) (fun _ _ => rfl) taken
    rwa [getD_map_some] at last
  case chainSubjects =>
    have all : draft.chainSubjects = [] ++ values "Chain Subject" lines :=
      chain_takeIn .chainSubject (fun _ key _ => by cases key <;> rfl) (fun _ _ => rfl) taken
    rwa [List.nil_append] at all
  case chainIssuers =>
    have all : draft.chainIssuers = [] ++ values "Chain Issuer" lines :=
      chain_takeIn .chainIssuer (fun _ key _ => by cases key <;> rfl) (fun _ _ => rfl) taken
    rwa [List.nil_append] at all

theorem read_eq_ok_iff {text : Text} {detail : CertificateDetail} :
    read text = .ok detail ↔ ∃ draft,
      shape.takeIn (shape.start none) (contentLines text) = .ok draft ∧
        draft.complete = .ok detail := by
  have headless : cutSections shape.isHeader (contentLines text) = (contentLines text, []) :=
    cutSections_of_forall (fun _ => rfl) _
  simp only [read, SectionShape.read_eq_readCut, headless, SectionShape.readCut, if_true]
  cases contentLines text with
  | nil =>
    -- without lines there is nothing to complete
    have incomplete : ¬ Draft.complete {} = .ok detail := by
      simp [Draft.complete, X509.Fields.complete, X509.present, bind, Except.bind]
    constructor
    · intro failed
      cases failed
    · rintro ⟨draft, ⟨⟩, complete⟩
      exact absurd complete incomplete
  | cons line rest =>
    simp only [Result.bind_eq_ok_iff, reduceCtorEq, if_false]
    constructor
    · rintro ⟨drafts, ⟨draft, taken, ⟨-, -, ⟨⟩⟩⟩, complete⟩
      exact ⟨draft, taken, complete⟩
    · rintro ⟨draft, taken, complete⟩
      -- a section ends well just if it can be completed
      have finished : shape.finish draft = .ok () :=
        Result.map_eq_ok_iff.mpr ⟨detail, complete, rfl⟩
      exact ⟨[draft], ⟨draft, taken, (), finished, rfl⟩, complete⟩

/-- An answer is read just if every line can be and the required ones are there, and then as what
its lines state. -/
theorem read_eq_ok_iff_isStatedBy {text : Text} {detail : CertificateDetail} :
    read text = .ok detail ↔
      detail.IsStatedBy (lines text) ∧ ∀ line ∈ lines text, IsReadable line := by
  have named : ∀ key ∈ keys, key ≠ [] := by decide +kernel
  have content : ∀ key ∈ keys, linesWith key (contentLines text) = linesWith key (lines text) :=
    fun key isKey => linesWith_contentLines (named key isKey) text
  rw [read_eq_ok_iff]
  constructor
  · rintro ⟨draft, taken, complete⟩
    refine ⟨(isStatedBy_of_takeIn taken complete).congr fun key isKey => (content key isKey).symm,
      fun line member => ?_⟩
    cases blank : isBlank line with
    | true => exact .of_isBlank blank
    | false =>
      exact exists_takeIn_iff.mp ⟨draft, taken⟩ line (List.mem_filter.mpr ⟨member, by simp [blank]⟩)
  · rintro ⟨stated, all⟩
    obtain ⟨draft, taken⟩ :
        ∃ draft, shape.takeIn (shape.start none) (contentLines text) = .ok draft :=
      exists_takeIn_iff.mpr fun line member => all line (List.mem_filter.mp member).1
    have stated := stated.congr content
    -- what is taken in can be completed, and then it is what the lines state
    obtain ⟨x509, completed⟩ := isHeldBy.exists_complete
      (SectionShape.Gathers.takeIn (.start none) taken) stated.x509.toIsTakenFrom draft.filename
    have complete : draft.complete = .ok _ := Result.bind_eq_ok_iff.mpr ⟨x509, completed, rfl⟩
    refine ⟨draft, taken, ?_⟩
    rw [complete, (isStatedBy_of_takeIn taken complete).unique stated]

/-! ### Other orders -/

/-- Lines that agree under every key that is read are read alike. -/
theorem read_congr {text other : Text} {detail : CertificateDetail}
    (same : ∀ key ∈ keys, linesWith key (lines other) = linesWith key (lines text))
    (read : read text = .ok detail) : CertificateDetail.read other = .ok detail := by
  obtain ⟨stated, readable⟩ := read_eq_ok_iff_isStatedBy.mp read
  refine read_eq_ok_iff_isStatedBy.mpr ⟨stated.congr same, fun line member => ?_⟩
  by_cases isKey : (keyValue line).1 ∈ keys
  · -- a line with a key that is read stands in the other answer too
    have keyed : line ∈ linesWith (keyValue line).1 (lines other) :=
      List.mem_filter.mpr ⟨member, decide_eq_true rfl⟩
    rw [same _ isKey] at keyed
    exact readable line (List.mem_filter.mp keyed).1
  · constructor
    · intro keyed
      exact absurd (keyed ▸ x509_word_mem_keys .serial) isKey
    · rintro (keyed | keyed)
      · exact absurd (keyed ▸ x509_word_mem_keys .notBefore) isKey
      · exact absurd (keyed ▸ x509_word_mem_keys .notAfter) isKey

/-- Whether a line has a key that is read. -/
def isRelated (line : Text) : Bool := keys.contains (keyValue line).1

theorem linesWith_filter_isRelated {key : Text} (isKey : key ∈ keys) (lines : List Text) :
    linesWith key (lines.filter isRelated) = linesWith key lines := by
  rw [linesWith, linesWith, List.filter_filter]
  refine List.filter_congr fun line _ => ?_
  by_cases keyed : (keyValue line).1 = key <;> simp [isRelated, keyed, isKey]

/-- The same lines in another order, in which lines with one key follow one another as before. -/
structure IsReordering (before after : List Text) : Prop where
  perm : after.Perm before
  inOrder : ∀ key, linesWith key after = linesWith key before

/-- What an answer says about a certificate, and which other answers say the same. -/
structure IsReadByLines (text : Text) (detail : CertificateDetail) : Prop where
  stated : detail.IsStatedBy (lines text)
  /-- Lines with other keys make no difference, whatever they are and wherever they stand. -/
  unrelated : ∀ other, (lines other).filter isRelated = (lines text).filter isRelated →
    read other = .ok detail
  reordered : ∀ other, IsReordering (lines text) (lines other) → read other = .ok detail

/-- A certificate is read line by line: under most keys the last line counts, and under those about
the chain all of them do, in whatever order the answer puts them. -/
theorem reads_by_lines {text : Text} {detail : CertificateDetail} (read : read text = .ok detail) :
    IsReadByLines text detail where
  stated := (read_eq_ok_iff_isStatedBy.mp read).1
  unrelated other same := by
    refine read_congr (fun key isKey => ?_) read
    rw [← linesWith_filter_isRelated isKey (lines other), same, linesWith_filter_isRelated isKey]
  reordered other reordering := read_congr (fun key _ => reordering.inOrder key) read

/-- A certificate whose view says some things twice. -/
def repeated : Text := joinLines
  [("Filename: old.pem" : Text), "Serial: 0A", "Chain Subject: /CN=Root",
    "Subject Alternative Name: DNS:old.example", "notBefore: Jan  1 00:00:00 2020 GMT",
    "Serial: 0B", "Filename: site.pem", "notAfter: Jan  1 00:00:00 2030 GMT",
    "Subject Alternative Name: DNS:a.example, , DNS:DNS:b.example", "Chain Subject: /CN=Root",
    "Chain Subject: /CN=Other"]

/-- What is said last counts, the chain adds up, and a note in front of it all does not matter. -/
theorem reads_by_lines_repeated :
    let detail : CertificateDetail :=
      { filename := "site.pem"
        status := none
        x509 := ⟨"0B", ⟨1577836800, 0⟩, ⟨1893456000, 0⟩, [], [], none, none,
          ["a.example", "DNS:b.example"]⟩
        chainSubjects := ["/CN=Root", "/CN=Root", "/CN=Other"]
        chainIssuers := []
        ocspResponseKey := none }
    read repeated = .ok detail ∧ read ("Note: Serial: 0C\n" ++ repeated) = .ok detail ∧
      IsReadByLines repeated detail := by
  intro detail
  have read : read repeated = .ok detail := by decide +kernel
  have byLines := reads_by_lines read
  exact ⟨read, byLines.unrelated _ (by decide +kernel), byLines⟩

end CertificateDetail

end ProxyControl
