import ProxyControl.Dispatch.Dispatcher
import ProxyControl.Proofs.Resource

/-!
# Queries

A request asks only if every check passes. A query ends in one of two ways once it is answered:
the answer is a refusal, or it is read. A reading that fails is reported under the command that
was sent. A step is read only if its answer confirms it.
-/
namespace ProxyControl

/-- A far end that says the same whatever it is asked. -/
def Dispatch.saying (answer : Text) : Dispatch.Transport := fun _ _ => .after 1 (.ok answer)

namespace Request

variable {α : Type} {command : Command} {read : Text → Result α} {send : Command → Result Text}
  {answer : Text}

/-- A request that asks has passed its check. -/
theorem of_command?_bind {β : Type} {check : Result β} {next : β → Result (Request α)}
    (asked : (checked (check >>= next)).command? = some command) :
    ∃ value, check = .ok value ∧ (checked (next value)).command? = some command := by
  cases checks : check with
  | error failure =>
    rw [checks] at asked
    cases asked
  | ok value =>
    rw [checks] at asked
    exact ⟨value, rfl, asked⟩

/-- What is read of an answer is read behind the check for a refusal. -/
theorem perform_query (answered : send command = .ok answer) :
    (query command read).perform send = (accepted command.text answer).bind fun answer =>
      (read answer).mapError (·.withCommand command.text) := by
  rw [query, perform, answered]
  rfl

theorem perform_query_of_none (answered : send command = .ok answer)
    (unmarked : Frame.answerRefusal? answer = none) :
    (query command read).perform send = (read answer).mapError (·.withCommand command.text) := by
  rw [perform_query answered, accepted, unmarked]
  rfl

theorem perform_query_of_some {refusal : Refusal} (answered : send command = .ok answer)
    (marked : Frame.answerRefusal? answer = some refusal) :
    (query command read).perform send = .error (refusal.failure command.text answer) := by
  rw [perform_query answered, accepted, marked]
  rfl

theorem perform_query_eq_ok_iff {value : α} :
    (query command read).perform send = .ok value ↔
      ∃ answer, send command = .ok answer ∧ Frame.answerRefusal? answer = none ∧
        read answer = .ok value := by
  refine Result.bind_eq_ok_iff.trans (exists_congr fun answer => and_congr_right fun _ => ?_)
  simp only [Result.bind_eq_ok_iff, accepted_eq_ok_iff, Result.mapError_eq_ok_iff]
  exact ⟨fun ⟨_, ⟨unmarked, same⟩, reads⟩ => ⟨unmarked, same ▸ reads⟩,
    fun ⟨unmarked, reads⟩ => ⟨answer, ⟨unmarked, rfl⟩, reads⟩⟩

/-- An answer that is no refusal is read, and may say no. -/
theorem perform_lookup_of_none {container what : Text} {read : Text → Result (Option α)}
    (answered : send command = .ok answer) (unmarked : Frame.answerRefusal? answer = none) :
    (lookup command container what read).perform send =
      ((read answer).mapError (·.withCommand command.text)).bind fun found =>
        found.elim (.error (.notFound what answer command.text)) .ok := by
  simp only [lookup, perform, answered, bind, Except.bind, accepted, unmarked, Except.mapError]
  cases read answer with
  | error failure => rfl
  | ok found => cases found <;> rfl

/-- What a query is about matters only where the answer is at fault. -/
theorem perform_about_query (what : Text) (answered : send command = .ok answer) :
    (about what (query command read)).perform send =
      ((query command read).perform send).mapError (asNotFound what) := by
  simp only [about, query, perform, answered, Except.bind]

theorem perform_confirmed_eq_ok_iff {resource : Resource} {phase : Phase} {value : α} :
    (confirmed resource phase command read).perform send = .ok value ↔
      ∃ answer, send command = .ok answer ∧ resource.confirm phase command.text answer = .ok () ∧
        read answer = .ok value := by
  refine Result.bind_eq_ok_iff.trans (exists_congr fun answer => and_congr_right fun _ => ?_)
  rw [Result.bind_eq_ok_iff]
  simp only [Result.mapError_eq_ok_iff]
  exact ⟨fun ⟨(), confirms, reads⟩ => ⟨confirms, reads⟩,
    fun ⟨confirms, reads⟩ => ⟨(), confirms, reads⟩⟩

end Request

end ProxyControl
