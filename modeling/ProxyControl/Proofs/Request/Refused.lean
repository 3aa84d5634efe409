import ProxyControl.Proofs.Dispatch.Report
import ProxyControl.Proofs.Request.Query
import ProxyControl.Proofs.Resource

/-!
# Refused commands

A command may be sent to have something done, to have its answer read, or as a step on a resource.
Each time the answer is judged anew, and each time in the same way: it is a refusal with a severity
and a message exactly if it is marked with them, whatever else it says. What is no refusal is good
enough for the first two, and the third still looks for a confirmation.
-/
namespace ProxyControl

open Request

variable {α : Type} {command : Command} {send : Command → Result Text} {answer : Text}

namespace Request

theorem perform_query_ok (answered : send command = .ok answer) :
    (query command .ok).perform send = accepted command.text answer := by
  rw [perform_query answered]
  cases accepted command.text answer <;> rfl

theorem perform_run (answered : send command = .ok answer) :
    (run command).perform send = (accepted command.text answer).map fun _ => () := by
  rw [run, perform_query answered]
  cases accepted command.text answer <;> rfl

/-- Whatever is read, the answer is fetched in one way. -/
theorem perform_query_eq_bind (read : Text → Result α) :
    (query command read).perform send =
      ((query command .ok).perform send).bind fun answer =>
        (read answer).mapError (·.withCommand command.text) := by
  cases answered : send command with
  | error failure =>
    -- nothing has been answered, so there is nothing to read
    rw [query, query, perform, perform, answered]
    rfl
  | ok answer => rw [perform_query answered, perform_query_ok answered]

end Request

/-- Nothing but the marker decides whether an answer is a refusal, whichever way it is taken. -/
structure IsJudgedAlike (send : Command → Result Text) (command : Command) (answer : Text) :
    Prop where
  /-- Whoever has a command carried out gets the refusal, -/
  run (severity : Nat) (message : Text) :
    (run command).perform send =
        .error (.protocol (some severity) message answer command.text) ↔
      Frame.answerRefusal? answer = some ⟨severity, message⟩
  /-- so does whoever wants to read the answer, -/
  query (severity : Nat) (message : Text) :
    (query command .ok).perform send =
        .error (.protocol (some severity) message answer command.text) ↔
      Frame.answerRefusal? answer = some ⟨severity, message⟩
  /-- and so does whoever waits for a step to be confirmed, be there such a step or not. -/
  confirm (resource : Resource) (phase : Phase) (severity : Nat) (message : Text) :
    resource.confirm phase command.text answer =
        .error (.protocol (some severity) message answer command.text) ↔
      Frame.answerRefusal? answer = some ⟨severity, message⟩
  /-- An answer without a marker is good enough for the first two, -/
  accepted (unmarked : Frame.answerRefusal? answer = none) :
    (Request.run command).perform send = .ok () ∧
      (Request.query command .ok).perform send = .ok answer
  /-- and confirms a step that there is, if it holds what the step is confirmed by. -/
  confirmed (unmarked : Frame.answerRefusal? answer = none) (resource : Resource) (phase : Phase) :
    resource.confirm phase command.text answer = .ok () ↔
      ∃ confirmation, resource.confirmation? phase = some confirmation ∧
        confirmation.IsGivenBy answer

/-- An answer is judged alike whichever way it is taken, and whatever is read of it, is read behind
the same check. -/
theorem judges_alike (answered : send command = .ok answer) :
    IsJudgedAlike send command answer ∧
      ∀ {α : Type} (read : Text → Result α),
        (query command read).perform send =
          ((query command .ok).perform send).bind fun answer =>
            (read answer).mapError (·.withCommand command.text) := by
  refine ⟨?_, fun read => perform_query_eq_bind read⟩
  constructor
  case run =>
    intro severity message
    rw [perform_run answered, Result.map_eq_error_iff, accepted_eq_refused_iff]
  case query =>
    intro severity message
    rw [perform_query_ok answered, accepted_eq_refused_iff]
  case confirm => exact fun resource phase severity message => Resource.confirm_eq_refused_iff
  case accepted =>
    intro unmarked
    have passes : accepted command.text answer = .ok answer :=
      accepted_eq_ok_iff.mpr ⟨unmarked, rfl⟩
    rw [perform_run answered, perform_query_ok answered, passes]
    exact ⟨rfl, rfl⟩
  case confirmed =>
    intro unmarked resource phase
    rw [Resource.confirm_eq_ok_iff, and_iff_right unmarked]

/-- A marked answer to a commit is a refusal, although it holds the words for a success. -/
theorem judges_alike_commit :
    Frame.answerRefusal? "\n[3]: No ongoing transaction! Success!\n" =
        some ⟨3, "No ongoing transaction! Success!"⟩ ∧
      IsJudgedAlike
        (Dispatcher.usual.send (Dispatch.saying "\n[3]: No ongoing transaction! Success!\n"))
        (.ofText "commit ssl cert site.pem") "\n[3]: No ongoing transaction! Success!\n" :=
  have answered : Dispatcher.usual.send
      (Dispatch.saying "\n[3]: No ongoing transaction! Success!\n")
      (.ofText "commit ssl cert site.pem") =
        .ok "\n[3]: No ongoing transaction! Success!\n" := by decide +kernel
  ⟨by decide +kernel, (judges_alike answered).1⟩

end ProxyControl
