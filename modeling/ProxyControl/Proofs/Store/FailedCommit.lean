import ProxyControl.Proofs.Store.Lifecycle

/-!
# Failed commits

A commit that has failed is answered in prose: the answer repeats the name of the file and goes
on to say why nothing was committed. What tells it from a commit that has worked is one phrase,
looked for in the whole answer. So a failed commit is reported as long as the phrase is nowhere
in the answer; the name of the file, which every answer repeats, must not hold it either.
-/
namespace ProxyControl.Transaction

open Dispatch Text

/-- An answer to the commit of a named file that is no refusal and says that the commit has
failed, and not that it has worked. -/
structure SaysFailed (name answer : Text) : Prop where
  unmarked : Frame.answerRefusal? answer = none
  echo : ∃ first ∈ (lines answer).head?, ("Committing " ++ name : Text) <+: first
  reason : ∃ line ∈ (lines answer).tail, ("Can't commit" : Text) <+: line
  noSuccess : ("Success!" : Text) ∉ lines answer

instance (name answer : Text) : Decidable (SaysFailed name answer) :=
  decidable_of_iff
    (Frame.answerRefusal? answer = none ∧
      (∃ first ∈ (lines answer).head?, ("Committing " ++ name : Text) <+: first) ∧
      (∃ line ∈ (lines answer).tail, ("Can't commit" : Text) <+: line) ∧
      ("Success!" : Text) ∉ lines answer)
    ⟨fun ⟨unmarked, echo, reason, noSuccess⟩ => ⟨unmarked, echo, reason, noSuccess⟩,
      fun ⟨unmarked, echo, reason, noSuccess⟩ => ⟨unmarked, echo, reason, noSuccess⟩⟩

/-- What the failure of a commit says. -/
def commitFailure (transaction : Transaction) (answer : Text) : Failure :=
  .protocol none (transaction.kind.resource.unconfirmedMessage .commit answer) answer
    (Command.commitStored transaction.kind.store transaction.name).text

theorem confirm_of_unconfirmed {kind : FileKind} {action : Action} {text answer : Text}
    (unmarked : Frame.answerRefusal? answer = none)
    (unconfirmed : ¬ action.IsConfirmed kind answer) :
    kind.resource.confirm action.phase text answer =
      .error (.protocol none (kind.resource.unconfirmedMessage action.phase answer) answer
        text) := by
  rcases kind.resource.confirm_cases action.phase text unmarked with
    ⟨confirms, -⟩ | ⟨-, unknown⟩ | ⟨phrases, -, fails, -⟩
  · exact absurd (confirm_eq_ok_iff.mp confirms) unconfirmed
  · rw [confirmation?_eq] at unknown
    cases unknown
  · exact fails

/-- A commit is confirmed by one phrase, in whatever line it stands. -/
theorem isConfirmed_commit_iff {kind : FileKind} {answer : Text}
    (unmarked : Frame.answerRefusal? answer = none) :
    Action.commit.IsConfirmed kind answer ↔
      ∃ line ∈ lines answer, ("Success!" : Text) <:+: line := by
  have nonempty : ("Success!" : Text) ≠ [] := by simp [ofString_eq]
  have whole : ∀ c ∈ ("Success!" : Text), isLineBreak c = false := by
    simp [ofString_eq, isLineBreak]
  rw [← infix_iff_exists_line nonempty whole]
  simp [Action.IsConfirmed, Action.literals, unmarked]

section Commit

variable {transaction : Transaction} {send : Command → Result Text} {answer : Text}

theorem perform_commit (staged : transaction.state = .staged) :
    (transaction.request .commit).perform send =
      (send (.commitStored transaction.kind.store transaction.name)).bind
        (transaction.kind.resource.confirm .commit
          (Command.commitStored transaction.kind.store transaction.name).text) := by
  have allowed : transaction.check .commit = .ok () :=
    check_eq_ok (by simp [allows, staged])
  have request : transaction.request .commit = .step transaction.kind.resource .commit
      (.commitStored transaction.kind.store transaction.name) := by
    rw [Transaction.request, Transaction.command, allowed]
    rfl
  rw [request, perform_step]

variable (staged : transaction.state = .staged)
  (answered : send (.commitStored transaction.kind.store transaction.name) = .ok answer)
  (unmarked : Frame.answerRefusal? answer = none)
include staged answered unmarked

theorem perform_of_phrase (phrase : ∃ line ∈ lines answer, ("Success!" : Text) <:+: line) :
    transaction.perform send .commit = ({ transaction with state := .committed }, .ok ()) := by
  have confirmed : transaction.kind.resource.confirm Action.commit.phase
      (Command.commitStored transaction.kind.store transaction.name).text answer = .ok () :=
    confirm_eq_ok_iff.mpr ((isConfirmed_commit_iff unmarked).mpr phrase)
  rw [perform, perform_commit staged, answered]
  simp only [Except.bind]
  rw [show transaction.kind.resource.confirm .commit _ answer = _ from confirmed]
  rfl

theorem perform_of_no_phrase
    (noPhrase : ¬ ∃ line ∈ lines answer, ("Success!" : Text) <:+: line) :
    transaction.perform send .commit =
      (transaction, .error (transaction.commitFailure answer)) := by
  have unconfirmed : transaction.kind.resource.confirm Action.commit.phase
      (Command.commitStored transaction.kind.store transaction.name).text answer =
        .error (transaction.commitFailure answer) :=
    confirm_of_unconfirmed unmarked (mt (isConfirmed_commit_iff unmarked).mp noPhrase)
  rw [perform, perform_commit staged, answered]
  simp only [Except.bind]
  rw [show transaction.kind.resource.confirm .commit _ answer = _ from unconfirmed]

end Commit

/-- The first line of an answer repeats the name, and the phrase if the name holds it. -/
theorem SaysFailed.exists_line {name answer : Text} (failed : SaysFailed name answer)
    (inName : ("Success!" : Text) <:+: name) :
    ∃ line ∈ lines answer, ("Success!" : Text) <:+: line := by
  obtain ⟨first, isFirst, echo⟩ := failed.echo
  refine ⟨first, List.mem_of_mem_head? isFirst, ?_⟩
  have inEcho : ("Success!" : Text) <:+: ("Committing " ++ name : Text) :=
    inName.trans (List.suffix_append _ name).isInfix
  exact inEcho.trans echo.isInfix

/-- A failed commit is reported, and leaves what was staged, exactly if no line of the answer holds
the phrase that confirms a commit. A file whose name holds it is never reported. -/
theorem reports_failed_commit {existing : Bool} {resource : Resource} {name : Text}
    {opened transaction : Transaction} (accepted : start existing resource name = .ok opened)
    (staged : transaction = { opened with state := .staged }) {send : Command → Result Text}
    {answer : Text}
    (answered : send (.commitStored transaction.kind.store name) = .ok answer)
    (failed : SaysFailed name answer) :
    (transaction.perform send .commit =
        (transaction, .error (transaction.commitFailure answer)) ↔
      ∀ line ∈ lines answer, ¬ ("Success!" : Text) <:+: line) ∧
    (("Success!" : Text) <:+: name →
      transaction.perform send .commit = ({ transaction with state := .committed }, .ok ())) := by
  obtain ⟨kind, -, -, rfl⟩ := start_eq_ok accepted
  subst staged
  have commits := perform_of_phrase rfl answered failed.unmarked
  have stays := perform_of_no_phrase rfl answered failed.unmarked
  refine ⟨⟨fun reported line member holds => ?_, fun none => stays (by simpa using none)⟩,
    fun inName => commits (failed.exists_line inName)⟩
  rw [commits ⟨line, member, holds⟩] at reported
  simp at reported

def failedAnswer (name : Text) : Text :=
  "Committing " ++ name ++ "\nCan't commit: no certificate found in the CA file"

/-- A far end that takes whatever is staged for a named file, and fails to commit it. -/
def failing (name : Text) : Transport := fun _ handover =>
  .after 1 (.ok
    (if handover.attempt.command.isMultiline then "Transaction updated" else failedAnswer name))

/-- A CA file without a certificate is not committed, and what was staged stays. -/
theorem reports_failed_commit_caFile :
    ∃ opened, start true .caFile "ca.pem" = .ok opened ∧
      SaysFailed "ca.pem" (failedAnswer "ca.pem") ∧
      (opened.takeAll .usual [⟨.set "pem", failing "ca.pem"⟩]).state = .staged ∧
      { opened with state := .staged }.perform (Dispatcher.usual.send (failing "ca.pem")) .commit =
        ({ opened with state := .staged },
          .error ({ opened with state := .staged }.commitFailure (failedAnswer "ca.pem"))) := by
  have opened : start true .caFile "ca.pem" =
      .ok { kind := .caFile, name := "ca.pem", existing := true } := by decide +kernel
  have answered : Dispatcher.usual.send (failing "ca.pem")
      (.commitStored FileKind.caFile.store "ca.pem") = .ok (failedAnswer "ca.pem") := by
    decide +kernel
  have failed : SaysFailed "ca.pem" (failedAnswer "ca.pem") := by decide +kernel
  refine ⟨_, opened, failed, by decide +kernel, ?_⟩
  exact (reports_failed_commit opened rfl answered failed).1.mpr (by decide +kernel)

/-- A file whose name holds the phrase counts as committed though its commit has failed. -/
theorem failed_commit_of_misleading_name :
    ∃ opened, start true .caFile "Success!.pem" = .ok opened ∧
      SaysFailed "Success!.pem" (failedAnswer "Success!.pem") ∧
      (opened.takeAll .usual [⟨.set "pem", failing "Success!.pem"⟩]).state = .staged ∧
      { opened with state := .staged }.perform
          (Dispatcher.usual.send (failing "Success!.pem")) .commit =
        ({ opened with state := .committed }, .ok ()) := by
  have opened : start true .caFile "Success!.pem" =
      .ok { kind := .caFile, name := "Success!.pem", existing := true } := by decide +kernel
  exact ⟨_, opened, by decide +kernel, by decide +kernel, by decide +kernel⟩

end ProxyControl.Transaction
