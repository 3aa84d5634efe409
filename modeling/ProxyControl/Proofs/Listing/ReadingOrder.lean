import ProxyControl.Proofs.Listing.Sections

/-!
# The order of reading

Reading an answer is a series of steps. Lines are taken in one after the other, and a header ends
the record in work before the next one is begun from it. What is read is every record that has
ended, or the failure of the first step that fails, whatever kind of record it is.
-/
namespace ProxyControl.Listing

open Text

/-- What is done in reading sections. -/
inductive Step
  /-- A fresh record is begun from the one in work. -/
  | opens
  | takes (line : Text)
  /-- The record in work is checked, and belongs to those that are read. -/
  | ends
  deriving DecidableEq, Repr

def sectionSteps (lines : List Text) : List Step := .opens :: (lines.map .takes ++ [.ends])

/-- The steps for lines that are cut at their headers. Without headers there is one record, begun
before any step is done, and of no lines there is none. -/
def steps (front : List Text) (sections : List (List Text)) : List Step :=
  front.map .takes ++
    if sections = [] then if front = [] then [] else [.ends]
    else sections.flatMap sectionSteps

/-- The record in work, and those that have ended. -/
structure Progress (σ : Type) where
  current : σ
  records : List σ

namespace SectionShape

variable {σ : Type} (shape : SectionShape σ)

def advance (progress : Progress σ) : Step → Result (Progress σ)
  | .opens => .ok { progress with current := shape.start (some progress.current) }
  | .takes line => (shape.applyLine progress.current line).map fun current =>
    { progress with current }
  | .ends => (shape.finish progress.current).map fun _ =>
    { progress with records := progress.records ++ [progress.current] }

/-- What some steps lead to, if none of them fails. -/
def carryOut (steps : List Step) : Result (Progress σ) :=
  steps.foldlM shape.advance { current := shape.start none, records := [] }

/-! ### Steps -/

theorem foldlM_takes (current : σ) (records : List σ) (lines : List Text) :
    (lines.map .takes).foldlM shape.advance ⟨current, records⟩ =
      (shape.takeIn current lines).map fun next => ⟨next, records⟩ := by
  induction lines generalizing current with
  | nil => rfl
  | cons line lines ih =>
    rw [List.map_cons, List.foldlM_cons, takeIn, List.foldlM_cons, advance]
    cases shape.applyLine current line with
    | error failure => rfl
    | ok next => exact ih next

theorem foldlM_ends (current : σ) (records : List σ) :
    [Step.ends].foldlM shape.advance ⟨current, records⟩ =
      (shape.finish current).map fun _ => ⟨current, records ++ [current]⟩ := by
  rw [List.foldlM_cons, advance]
  cases shape.finish current <;> rfl

/-- The steps of a section make one record of it, and leave it in work. -/
theorem foldlM_sectionSteps (previous : σ) (records : List σ) (lines : List Text) :
    (sectionSteps lines).foldlM shape.advance ⟨previous, records⟩ = (do
      let record ← shape.takeIn (shape.start (some previous)) lines
      shape.finish record
      pure ⟨record, records ++ [record]⟩) := by
  have opened : (sectionSteps lines).foldlM shape.advance ⟨previous, records⟩ =
      (lines.map Step.takes ++ [Step.ends]).foldlM shape.advance
        ⟨shape.start (some previous), records⟩ := rfl
  rw [opened, List.foldlM_append, foldlM_takes]
  cases shape.takeIn (shape.start (some previous)) lines with
  | error failure => rfl
  | ok record => exact foldlM_ends shape record records

theorem foldlM_sections (previous : σ) (records : List σ) (sections : List (List Text)) :
    ((sections.flatMap sectionSteps).foldlM shape.advance ⟨previous, records⟩).map
        Progress.records =
      (shape.readSections previous sections).map (records ++ ·) := by
  induction sections generalizing previous records with
  | nil => exact congrArg Except.ok (List.append_nil records).symm
  | cons lines sections ih =>
    rw [List.flatMap_cons, List.foldlM_append, foldlM_sectionSteps, readSections, bind_assoc]
    cases shape.takeIn (shape.start (some previous)) lines with
    | error failure => rfl
    | ok record =>
      rw [Result.ok_bind, Result.ok_bind]
      cases shape.finish record with
      | error failure => rfl
      | ok =>
        rw [Result.ok_bind, Result.ok_bind]
        refine (ih record (records ++ [record])).trans ?_
        cases shape.readSections record sections with
        | error failure => rfl
        | ok others => exact congrArg Except.ok (List.append_assoc records [record] others)

/-- The steps lead to the records that are read of the sections. -/
theorem map_carryOut_steps (front : List Text) (sections : List (List Text)) :
    (shape.carryOut (steps front sections)).map Progress.records =
      shape.readCut front sections := by
  rw [carryOut, steps, List.foldlM_append, foldlM_takes, readCut]
  cases shape.takeIn (shape.start none) front with
  | error failure => rfl
  | ok preamble =>
    rw [Result.ok_bind]
    change (List.foldlM shape.advance ⟨preamble, []⟩ _).map _ = _
    split
    · split
      · rfl
      · rw [foldlM_ends]
        cases shape.finish preamble <;> rfl
    · rw [foldlM_sections]
      cases shape.readSections preamble sections <;> rfl

/-- A step adds to the records only where one ends. -/
theorem length_records_of_advance {progress next : Progress σ} {step : Step}
    (advanced : shape.advance progress step = .ok next) :
    next.records.length = progress.records.length + [step].count .ends := by
  cases step with
  | opens =>
    cases advanced
    rfl
  | takes line =>
    obtain ⟨current, -, rfl⟩ := Result.map_eq_ok_iff.mp advanced
    rfl
  | ends =>
    obtain ⟨-, -, rfl⟩ := Result.map_eq_ok_iff.mp advanced
    simp

theorem length_records_of_foldlM {progress last : Progress σ} {steps : List Step}
    (carried : steps.foldlM shape.advance progress = .ok last) :
    last.records.length = progress.records.length + steps.count .ends := by
  induction steps generalizing progress with
  | nil =>
    cases carried
    rfl
  | cons step steps ih =>
    rw [List.foldlM_cons, Result.bind_eq_ok_iff] at carried
    obtain ⟨next, advanced, onward⟩ := carried
    rw [ih onward, shape.length_records_of_advance advanced, Nat.add_assoc,
      ← List.count_append, List.singleton_append]

/-! ### Reading -/

/-- What it is to read lines in order, once they are cut at their headers. -/
structure IsReadInOrder (lines front : List Text) (sections : List (List Text))
    (result : Result (List σ)) : Prop where
  cut : IsCut shape.isHeader lines front sections
  eq_readCut : result = shape.readCut front sections
  /-- All steps are done, and the records are those that have ended, each of them once. -/
  succeeds : ∀ records, result = .ok records ↔
    ∃ last, shape.carryOut (steps front sections) = .ok ⟨last, records⟩
  ended : ∀ records, result = .ok records → records.length = (steps front sections).count .ends
  /-- The failure is that of a step before which all others were done. -/
  fails : ∀ failure, result = .error failure ↔
    ∃ before step after reached, steps front sections = before ++ step :: after ∧
      shape.carryOut before = .ok reached ∧ shape.advance reached step = .error failure

/-- Whatever the records are made of, an answer is read section by section, and in that order it
fails first where a step does. -/
theorem reads_in_order (text : Text) :
    ∃ front sections, shape.IsReadInOrder (contentLines text) front sections (shape.read text) := by
  have read := shape.read_eq_readCut text
  refine ⟨_, _, isCut_iff.mpr rfl, read, ?_, ?_, ?_⟩
  all_goals rw [read, ← map_carryOut_steps]
  · intro records
    rw [Result.map_eq_ok_iff]
    constructor
    · rintro ⟨⟨last, records⟩, carried, rfl⟩
      exact ⟨last, carried⟩
    · rintro ⟨last, carried⟩
      exact ⟨_, carried, rfl⟩
  · intro records made
    obtain ⟨last, carried, rfl⟩ := Result.map_eq_ok_iff.mp made
    simpa using shape.length_records_of_foldlM carried
  · intro failure
    rw [Result.map_eq_error_iff, carryOut, Result.foldlM_eq_error_iff]
    rfl

end SectionShape

end ProxyControl.Listing
