import ProxyControl.Proofs.Result
import ProxyControl.Proofs.Text.Occurrence
import ProxyControl.Resource

/-!
# What an answer amounts to

An answer is a refusal or is accepted. One that is accepted confirms a step if there is such a step
for the resource, and the answer holds one of the phrases for it, if there are any.
-/
namespace ProxyControl

open Text

variable {command answer : Text}

theorem accepted_eq_ok_iff {other : Text} :
    accepted command answer = .ok other ↔ Frame.answerRefusal? answer = none ∧ other = answer := by
  rw [accepted]
  cases Frame.answerRefusal? answer with
  | some refusal => simp
  | none => simp [eq_comm]

theorem accepted_eq_refused_iff {severity : Nat} {message : Text} :
    accepted command answer = .error (.protocol (some severity) message answer command) ↔
      Frame.answerRefusal? answer = some ⟨severity, message⟩ := by
  rw [accepted]
  cases Frame.answerRefusal? answer with
  | some refusal =>
    obtain ⟨found, said⟩ := refusal
    simp [Refusal.failure]
  | none => simp

/-- What an answer has to hold for a confirmation. A silent one asks for nothing. -/
def Confirmation.IsGivenBy (answer : Text) : Confirmation → Prop
  | .oneOf phrases => ∃ phrase ∈ phrases, phrase <:+: answer
  | .silent => True

namespace Resource

variable {resource : Resource} {phase : Phase}

theorem confirm_of_refused {refusal : Refusal}
    (refused : Frame.answerRefusal? answer = some refusal) :
    resource.confirm phase command answer = .error (refusal.failure command answer) := by
  rw [confirm, accepted, refused]
  rfl

/-- Without a refusal, the resource must have the step and the answer must confirm it. -/
theorem confirm_cases (resource : Resource) (phase : Phase) (command : Text)
    (unmarked : Frame.answerRefusal? answer = none) :
    (resource.confirm phase command answer = .ok () ∧
        ∃ confirmation, resource.confirmation? phase = some confirmation ∧
          confirmation.IsGivenBy answer) ∨
      ((∃ fault, resource.confirm phase command answer = .error (.validation fault)) ∧
        resource.confirmation? phase = none) ∨
      ∃ phrases, resource.confirmation? phase = some (.oneOf phrases) ∧
        resource.confirm phase command answer =
          .error (.protocol none (resource.unconfirmedMessage phase answer) answer command) ∧
        ¬ ∃ phrase ∈ phrases, phrase <:+: answer := by
  simp only [confirm, accepted, unmarked, bind, Except.bind]
  cases resource.confirmation? phase with
  | none => exact .inr (.inl ⟨⟨_, rfl⟩, rfl⟩)
  | some confirmation =>
    cases confirmation with
    | silent => exact .inl ⟨rfl, _, rfl, trivial⟩
    | oneOf phrases =>
      -- a phrase may stand anywhere in the answer
      have found : (phrases.any fun phrase => contains phrase answer) = true ↔
          ∃ phrase ∈ phrases, phrase <:+: answer := by
        simp only [List.any_eq_true, contains_iff]
      cases confirms : phrases.any fun phrase => contains phrase answer with
      | true => exact .inl ⟨by simp [confirms]; rfl, _, rfl, found.mp confirms⟩
      | false =>
        refine .inr (.inr ⟨phrases, rfl, by simp [confirms]; rfl, fun given => ?_⟩)
        rw [found.mpr given] at confirms
        cases confirms

theorem confirm_eq_ok_iff : resource.confirm phase command answer = .ok () ↔
    Frame.answerRefusal? answer = none ∧
      ∃ confirmation, resource.confirmation? phase = some confirmation ∧
        confirmation.IsGivenBy answer := by
  cases marked : Frame.answerRefusal? answer with
  | some refusal => simp [confirm_of_refused marked]
  | none =>
    rcases resource.confirm_cases phase command marked with
      ⟨confirms, given⟩ | ⟨⟨fault, fails⟩, unknown⟩ | ⟨phrases, known, fails, absent⟩
    · simp [confirms, given]
    · simp [fails, unknown]
    · simpa [fails, known, Confirmation.IsGivenBy] using absent

/-- An answer that does not confirm a step is a refusal only if it is marked as one. -/
theorem confirm_eq_refused_iff {severity : Nat} {message : Text} :
    resource.confirm phase command answer =
        .error (.protocol (some severity) message answer command) ↔
      Frame.answerRefusal? answer = some ⟨severity, message⟩ := by
  cases marked : Frame.answerRefusal? answer with
  | some refusal =>
    obtain ⟨found, said⟩ := refusal
    simp [confirm_of_refused marked, Refusal.failure]
  | none =>
    rcases resource.confirm_cases phase command marked with
      ⟨confirms, -⟩ | ⟨⟨fault, fails⟩, -⟩ | ⟨phrases, -, fails, -⟩
    · simp [confirms]
    · simp [fails]
    · simp [fails]

end Resource

end ProxyControl
