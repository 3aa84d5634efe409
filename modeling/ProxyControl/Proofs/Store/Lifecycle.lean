import ProxyControl.Store.Transaction
import ProxyControl.Proofs.Argument
import ProxyControl.Proofs.Dispatch.SingleCall
import ProxyControl.Proofs.Resource

/-!
# The life of a transaction

A machine with four states says what a transaction may do. Every run of a transaction, whatever
is asked of it and whatever the proxy answers, takes the arrows of that machine: an action sends
its command exactly where there is an arrow, and the arrow is taken exactly when the proxy
confirms the action. So nothing is committed or aborted that was not staged.
-/
namespace ProxyControl.Transaction

open Dispatch

/-! ### The machine -/

/-- Where contents may be staged. A file that is there already need not be created first. -/
inductive Stageable (existing : Bool) : State → Prop
  | absent (updates : existing = true) : Stageable existing .absent
  | empty : Stageable existing .empty
  | staged : Stageable existing .staged

inductive Arrow (kind : FileKind) (existing : Bool) : State → Action → State → Prop
  | create (isNew : existing = false) : Arrow kind existing .absent .create .empty
  | set {state : State} {payload : Text} (stageable : Stageable existing state) :
      Arrow kind existing state (.set payload) .staged
  | add {state : State} {payload : Text} (caFile : kind = .caFile)
      (stageable : Stageable existing state) : Arrow kind existing state (.add payload) .staged
  | commit : Arrow kind existing .staged .commit .committed
  | abort : Arrow kind existing .staged .abort .absent

namespace Action

def verb : Action → Text
  | .create => "new"
  | .set _ => "set"
  | .add _ => "add"
  | .commit => "commit"
  | .abort => "abort"

def contents? : Action → Option Text
  | .set payload | .add payload => some payload
  | .create | .commit | .abort => none

/-- Whether the action ends what was staged before. -/
def IsFinal (action : Action) : Prop := action = .commit ∨ action = .abort

/-- The words of which one confirms the action on a file. -/
def literals (kind : FileKind) : Action → List Text
  | .create =>
    match kind with
    | .certificate => ["New empty certificate store"]
    | .caFile => ["New CA file created"]
    | .crlFile => ["New CRL file created"]
  | .set _ | .add _ => ["Transaction created", "Transaction updated"]
  | .commit => ["Success!"]
  | .abort => ["Transaction aborted"]

/-- An answer that confirms the action: no refusal, and the words for it. -/
def IsConfirmed (kind : FileKind) (action : Action) (answer : Text) : Prop :=
  Frame.answerRefusal? answer = none ∧ ∃ literal ∈ action.literals kind, literal <:+: answer

/-- The line for the action on a named file. -/
def line (kind : FileKind) (name : Text) (action : Action) : Command :=
  .ofText (action.verb ++ " ssl " ++ kind.store ++ " " ++ name)

/-- The command for the action on a named file: its line, and the contents below it. -/
inductive Sends (kind : FileKind) (name : Text) (action : Action) : Command → Prop
  | bare (nothing : action.contents? = none) : Sends kind name action (action.line kind name)
  | block {payload body : Text} (contents : action.contents? = some payload)
      (checked : Argument.payload "payload" payload = .ok body) :
      Sends kind name action ((action.line kind name).withPayload body)

end Action

theorem Arrow.target_eq {kind : FileKind} {existing : Bool} {state target : State}
    {action : Action} (arrow : Arrow kind existing state action target) :
    target = action.target := by
  cases arrow <;> rfl

/-! ### Commands -/

section Commands

variable {transaction : Transaction}

theorem allows_stage_iff :
    transaction.allows .stage = true ↔ Stageable transaction.existing transaction.state := by
  constructor
  · intro allowed
    cases state : transaction.state with
    | absent => exact .absent (by simpa [allows, state] using allowed)
    | empty => exact .empty
    | staged => exact .staged
    | committed => simp [allows, state] at allowed
  · intro stageable
    generalize state : transaction.state = current at stageable
    cases stageable with
    | absent updates => simp [allows, state, updates]
    | empty => simp [allows, state]
    | staged => simp [allows, state]

/-- The phase of an action is allowed exactly where there is an arrow for it, but for additions to
what is no CA file. -/
theorem allows_iff {action : Action} :
    transaction.allows action.phase = true ∧
        ((∃ payload, action = .add payload) → transaction.kind = .caFile) ↔
      ∃ target, Arrow transaction.kind transaction.existing transaction.state action target := by
  constructor
  · rintro ⟨allowed, caFile⟩
    cases action with
    | create =>
      cases state : transaction.state <;> simp [allows, Action.phase, state] at allowed
      exact ⟨.empty, .create allowed⟩
    | set payload => exact ⟨.staged, .set (allows_stage_iff.mp allowed)⟩
    | add payload => exact ⟨.staged, .add (caFile ⟨payload, rfl⟩) (allows_stage_iff.mp allowed)⟩
    | commit =>
      cases state : transaction.state <;> simp [allows, Action.phase, state] at allowed
      exact ⟨.committed, .commit⟩
    | abort =>
      cases state : transaction.state <;> simp [allows, Action.phase, state] at allowed
      exact ⟨.absent, .abort⟩
  · rintro ⟨target, arrow⟩
    generalize state : transaction.state = current at arrow
    cases arrow with
    | create isNew => simp [allows, Action.phase, state, isNew]
    | set stageable => exact ⟨allows_stage_iff.mpr (state ▸ stageable), by simp⟩
    | add caFile stageable => exact ⟨allows_stage_iff.mpr (state ▸ stageable), fun _ => caFile⟩
    | commit => simp [allows, Action.phase, state]
    | abort => simp [allows, Action.phase, state]

/-- Why an action sends nothing. -/
def Action.IsRefused (transaction : Transaction) (action : Action) : Prop :=
  (¬ ∃ target, Arrow transaction.kind transaction.existing transaction.state action target) ∨
    ∃ payload, action.contents? = some payload ∧ Text.isBlank payload = true

theorem check_eq_ok {phase : Phase} (allowed : transaction.allows phase = true) :
    transaction.check phase = .ok () := if_pos allowed

theorem check_eq_error {phase : Phase} (forbidden : ¬ transaction.allows phase = true) :
    ∃ fault, transaction.check phase = .error (.validation fault) :=
  ⟨_, if_neg forbidden⟩

theorem command_of_bare {action : Action} (nothing : action.contents? = none) :
    transaction.command action =
      (transaction.check action.phase).map
        fun _ => action.line transaction.kind transaction.name := by
  cases action with
  | create | commit | abort => rfl
  | set payload | add payload => cases nothing

theorem command_of_contents {action : Action} {payload : Text}
    (contents : action.contents? = some payload)
    (caFile : (∃ payload, action = .add payload) → transaction.kind = .caFile) :
    transaction.command action = (do
      transaction.check action.phase
      let body ← Argument.payload "payload" payload
      pure ((action.line transaction.kind transaction.name).withPayload body)) := by
  cases action with
  | create | commit | abort => cases contents
  | set payload =>
    cases contents
    rfl
  | add payload =>
    cases contents
    simp only [command, caFile ⟨_, rfl⟩, ne_eq, not_true_eq_false, if_false]
    rfl

theorem command_add {payload : Text} (other : transaction.kind ≠ .caFile) :
    ∃ fault, transaction.command (.add payload) = .error (.validation fault) := by
  simp only [command, ne_eq, other, not_false_eq_true, if_true]
  exact ⟨_, rfl⟩

/-- An action either has a command, which is sent where there is an arrow, or is invalid. -/
theorem command_cases (transaction : Transaction) (action : Action) :
    (∃ command, transaction.command action = .ok command ∧
      action.Sends transaction.kind transaction.name command ∧ command.target = .default ∧
      ∃ target, Arrow transaction.kind transaction.existing transaction.state action target) ∨
    (action.IsRefused transaction ∧
      ∃ fault, transaction.command action = .error (.validation fault)) := by
  by_cases arrow : ∃ target,
      Arrow transaction.kind transaction.existing transaction.state action target
  · -- every check of the state passes, so only the contents can be at fault
    obtain ⟨allowed, caFile⟩ := allows_iff.mpr arrow
    have checked := check_eq_ok allowed
    cases contents : action.contents? with
    | none =>
      exact .inl ⟨_, by rw [command_of_bare contents, checked]; rfl, .bare contents, rfl, arrow⟩
    | some payload =>
      rw [command_of_contents contents caFile, checked]
      cases blank : Text.isBlank payload with
      | true =>
        rw [Argument.payload_of_isBlank blank]
        exact .inr ⟨.inr ⟨payload, contents, blank⟩, _, rfl⟩
      | false =>
        obtain ⟨body, passed⟩ := Argument.exists_payload_of_not_isBlank blank
        rw [passed]
        exact .inl ⟨_, rfl, .block contents passed, rfl, arrow⟩
  · -- additions look at the kind of file before the state
    refine .inr ⟨.inl arrow, ?_⟩
    rw [← allows_iff, not_and_or] at arrow
    by_cases caFile : (∃ payload, action = .add payload) → transaction.kind = .caFile
    · obtain ⟨fault, failed⟩ := check_eq_error (arrow.resolve_right (not_not_intro caFile))
      refine ⟨fault, ?_⟩
      cases contents : action.contents? with
      | none =>
        rw [command_of_bare contents, failed]
        rfl
      | some payload =>
        rw [command_of_contents contents caFile, failed]
        rfl
    · rw [Classical.not_imp] at caFile
      obtain ⟨⟨payload, rfl⟩, other⟩ := caFile
      exact command_add other

end Commands

/-! ### Answers -/

theorem confirmation?_eq (kind : FileKind) (action : Action) :
    kind.resource.confirmation? action.phase = some (.oneOf (action.literals kind)) := by
  cases kind <;> cases action <;> rfl

theorem confirm_eq_ok_iff {kind : FileKind} {action : Action} {text answer : Text} :
    kind.resource.confirm action.phase text answer = .ok () ↔ action.IsConfirmed kind answer := by
  rw [Resource.confirm_eq_ok_iff, confirmation?_eq, Action.IsConfirmed]
  simp [Confirmation.IsGivenBy]

/-- A request for a step ends as its answer confirms it or not. -/
theorem perform_step (send : Command → Result Text) (resource : Resource) (phase : Phase)
    (command : Command) :
    (Request.step resource phase command).perform send =
      (send command).bind (resource.confirm phase command.text) := by
  have read (answer : Text) : (do
      resource.confirm phase command.text answer
      (Except.ok () : Result Unit).mapError (·.withCommand command.text)) =
      resource.confirm phase command.text answer := by
    cases resource.confirm phase command.text answer <;> rfl
  simp only [Request.step, Request.confirmed, Request.perform, read]

/-! ### Runs -/

/-- One thing asked of a transaction, and what the far end does with the command. -/
structure Step where
  action : Action
  transport : Transport

/-- What comes of a step. -/
structure Entry where
  before : State
  step : Step
  sent : List Command
  result : Result Unit
  after : State

variable (dispatcher : Dispatcher)

def take (transaction : Transaction) (step : Step) : Transaction :=
  (transaction.perform (dispatcher.send step.transport) step.action).1

def entry (transaction : Transaction) (step : Step) : Entry where
  before := transaction.state
  step := step
  sent := dispatcher.sent step.transport (transaction.request step.action)
  result := (transaction.perform (dispatcher.send step.transport) step.action).2
  after := (transaction.take dispatcher step).state

/-- What comes of some steps, one after the other. -/
def log : Transaction → List Step → List Entry
  | _, [] => []
  | transaction, step :: rest =>
    transaction.entry dispatcher step :: log (transaction.take dispatcher step) rest

def takeAll (transaction : Transaction) (steps : List Step) : Transaction :=
  steps.foldl (take dispatcher) transaction

/-- A command on the wire, by its route and, when the transport fails, twice. -/
def IsCarried (command : Command) (sent : List Command) : Prop :=
  ∃ route, Route.of? dispatcher.endpoints command = some route ∧
    (sent = [route.command] ∨ sent = [route.command, route.command])

/-- What the machine says about a step. -/
inductive Lawful (kind : FileKind) (existing : Bool) (name : Text) (entry : Entry) : Prop
  | confirmed {command : Command} {answer : Text}
      (arrow : Arrow kind existing entry.before entry.step.action entry.after)
      (sends : entry.step.action.Sends kind name command)
      (carried : IsCarried dispatcher command entry.sent)
      (answered : dispatcher.send entry.step.transport command = .ok answer)
      (confirms : entry.step.action.IsConfirmed kind answer)
      (succeeds : entry.result = .ok ())
  | unconfirmed {command : Command} {target : State} {failure : Failure}
      (arrow : Arrow kind existing entry.before entry.step.action target)
      (sends : entry.step.action.Sends kind name command)
      (carried : IsCarried dispatcher command entry.sent)
      (none : ∀ answer, dispatcher.send entry.step.transport command = .ok answer →
        ¬ entry.step.action.IsConfirmed kind answer)
      (fails : entry.result = .error failure)
      (stays : entry.after = entry.before)
  | refused {fault : ArgumentFault}
      (forbidden : (¬ ∃ target, Arrow kind existing entry.before entry.step.action target) ∨
        ∃ payload, entry.step.action.contents? = some payload ∧ Text.isBlank payload = true)
      (silent : entry.sent = [])
      (fails : entry.result = .error (.validation fault))
      (stays : entry.after = entry.before)

/-- A way through the machine. -/
inductive Path (kind : FileKind) (existing : Bool) (name : Text) :
    State → List Entry → State → Prop
  | rest {state : State} : Path kind existing name state [] state
  | step {last : State} {entry : Entry} {log : List Entry}
      (lawful : Lawful dispatcher kind existing name entry)
      (onward : Path kind existing name entry.after log last) :
      Path kind existing name entry.before (entry :: log) last

section Steps

variable {transaction : Transaction} {step : Step}

theorem take_of_ok
    (done : dispatcher.perform step.transport (transaction.request step.action) = .ok ()) :
    transaction.take dispatcher step = { transaction with state := step.action.target } ∧
      (transaction.entry dispatcher step).result = .ok () := by
  rw [Dispatcher.perform] at done
  simp only [take, entry, perform, done, and_self]

theorem take_of_error {failure : Failure}
    (failed : dispatcher.perform step.transport (transaction.request step.action) =
      .error failure) :
    transaction.take dispatcher step = transaction ∧
      (transaction.entry dispatcher step).result = .error failure := by
  rw [Dispatcher.perform] at failed
  simp only [take, entry, perform, failed, and_self]

/-- A step changes the state and nothing else. -/
theorem take_frame (transaction : Transaction) (step : Step) :
    (transaction.take dispatcher step).kind = transaction.kind ∧
      (transaction.take dispatcher step).existing = transaction.existing ∧
      (transaction.take dispatcher step).name = transaction.name := by
  cases done : dispatcher.perform step.transport (transaction.request step.action) with
  | ok =>
    rw [(take_of_ok dispatcher done).1]
    exact ⟨rfl, rfl, rfl⟩
  | error failure =>
    rw [(take_of_error dispatcher done).1]
    exact ⟨rfl, rfl, rfl⟩

/-- An action with a command sends it, and succeeds exactly if the answer confirms it. -/
private theorem lawful_of_command {command : Command} {target : State}
    (made : transaction.command step.action = .ok command)
    (sends : step.action.Sends transaction.kind transaction.name command)
    (toDefault : command.target = .default)
    (arrow : Arrow transaction.kind transaction.existing transaction.state step.action target) :
    Lawful dispatcher transaction.kind transaction.existing transaction.name
      (transaction.entry dispatcher step) := by
  have request : transaction.request step.action =
      .step transaction.kind.resource step.action.phase command := by
    rw [Transaction.request, made]
    rfl
  obtain ⟨route, routed⟩ := Route.exists_of_default dispatcher.endpoints_ne_nil toDefault
  have carried : IsCarried dispatcher command (transaction.entry dispatcher step).sent := by
    refine ⟨route, routed, ?_⟩
    simp only [entry, request]
    exact dispatcher.sent_ask step.transport _ routed
  have performed : dispatcher.perform step.transport (transaction.request step.action) =
      (dispatcher.send step.transport command).bind
        (transaction.kind.resource.confirm step.action.phase command.text) := by
    rw [request]
    exact perform_step _ _ _ _
  cases answered : dispatcher.send step.transport command with
  | error failure =>
    -- the command was sent, and no answer has come back
    rw [answered] at performed
    obtain ⟨stays, fails⟩ := take_of_error dispatcher performed
    exact .unconfirmed arrow sends carried (by simp [entry, answered]) fails
      (congrArg Transaction.state stays)
  | ok answer =>
    rw [answered] at performed
    cases confirms : transaction.kind.resource.confirm step.action.phase command.text answer with
    | ok =>
      obtain ⟨moves, succeeds⟩ := take_of_ok dispatcher (performed.trans confirms)
      refine .confirmed ?_ sends carried answered (confirm_eq_ok_iff.mp confirms) succeeds
      rw [arrow.target_eq] at arrow
      simpa [entry, moves] using arrow
    | error failure =>
      obtain ⟨stays, fails⟩ := take_of_error dispatcher (performed.trans confirms)
      refine .unconfirmed arrow sends carried ?_ fails (congrArg Transaction.state stays)
      -- the answer that came is the only one there is
      intro other same confirmed
      obtain rfl : other = answer := Except.ok.inj (same.symm.trans answered)
      have confirms' : transaction.kind.resource.confirm step.action.phase command.text other =
          .ok () := confirm_eq_ok_iff.mpr confirmed
      rw [confirms] at confirms'
      cases confirms'

/-- An action without a command sends nothing and changes nothing. -/
private theorem lawful_of_refused {fault : ArgumentFault}
    (refused : step.action.IsRefused transaction)
    (failed : transaction.command step.action = .error (.validation fault)) :
    Lawful dispatcher transaction.kind transaction.existing transaction.name
      (transaction.entry dispatcher step) := by
  have request : transaction.request step.action = .refused (.validation fault) := by
    rw [Transaction.request, failed]
    rfl
  have performed : dispatcher.perform step.transport (transaction.request step.action) =
      .error (.validation fault) := by
    rw [request]
    rfl
  obtain ⟨stays, fails⟩ := take_of_error dispatcher performed
  refine .refused refused ?_ fails (congrArg Transaction.state stays)
  simp only [entry, request]
  rfl

/-- Every step keeps to the machine. -/
theorem lawful_entry (transaction : Transaction) (step : Step) :
    Lawful dispatcher transaction.kind transaction.existing transaction.name
      (transaction.entry dispatcher step) := by
  rcases transaction.command_cases step.action with
    ⟨command, made, sends, toDefault, target, arrow⟩ | ⟨refused, fault, failed⟩
  · exact lawful_of_command dispatcher made sends toDefault arrow
  · exact lawful_of_refused dispatcher refused failed

/-- Every run goes its way through the machine. -/
theorem path_log (transaction : Transaction) (steps : List Step) :
    Path dispatcher transaction.kind transaction.existing transaction.name transaction.state
      (transaction.log dispatcher steps) (transaction.takeAll dispatcher steps).state := by
  induction steps generalizing transaction with
  | nil => exact .rest
  | cons step rest ih =>
    have onward := ih (transaction.take dispatcher step)
    obtain ⟨kind, existing, name⟩ := take_frame dispatcher transaction step
    -- the machine of the rest is the same one, as a step changes the state only
    rw [kind, existing, name] at onward
    exact .step (lawful_entry dispatcher transaction step) onward

end Steps

/-! ### What a run through the machine shows -/

namespace Path

variable {dispatcher} {kind : FileKind} {existing : Bool} {name : Text}

/-- Nothing leaves the last state, and nothing is sent there. -/
theorem silent {log : List Entry} {first last : State}
    (path : Path dispatcher kind existing name first log last) (closed : first = .committed) :
    ∀ entry ∈ log, entry.sent = [] ∧ entry.after = .committed := by
  induction path with
  | rest => simp
  | @step last entry log lawful onward ih =>
    have none : ¬ ∃ target, Arrow kind existing entry.before entry.step.action target := by
      rintro ⟨target, arrow⟩
      rw [closed] at arrow
      generalize entry.step.action = action at arrow
      -- contents are not staged once they are committed
      cases arrow with
      | set stageable | add _ stageable => cases stageable
    cases lawful with
    | confirmed arrow => exact absurd ⟨_, arrow⟩ none
    | unconfirmed arrow => exact absurd ⟨_, arrow⟩ none
    | refused forbidden silent fails stays =>
      have after : entry.after = .committed := stays.trans closed
      intro other member
      rcases List.mem_cons.mp member with rfl | later
      · exact ⟨silent, after⟩
      · exact ih after other later

theorem split {earlier later : List Entry} {entry : Entry} {first last : State}
    (path : Path dispatcher kind existing name first (earlier ++ entry :: later) last) :
    Path dispatcher kind existing name first earlier entry.before ∧
      Lawful dispatcher kind existing name entry ∧
      Path dispatcher kind existing name entry.after later last := by
  induction earlier generalizing first with
  | nil =>
    cases path with
    | step lawful onward => exact ⟨.rest, lawful, onward⟩
  | cons head earlier ih =>
    cases path with
    | step lawful onward =>
      obtain ⟨before, here, after⟩ := ih onward
      exact ⟨.step lawful before, here, after⟩

theorem eq_of_nil {first last : State}
    (path : Path dispatcher kind existing name first [] last) : first = last := by
  cases path
  rfl

end Path

/-- A record in which contents have been staged, with no confirmed commit or abort since. -/
def IsBacked (log : List Entry) : Prop :=
  ∃ earlier stage later, log = earlier ++ stage :: later ∧
    stage.step.action.contents? ≠ none ∧ stage.result = .ok () ∧
    ∀ entry ∈ later, entry.step.action.IsFinal → entry.result ≠ .ok ()

/-- An arrow to the staged state stages contents. -/
theorem Arrow.contents {kind : FileKind} {existing : Bool} {state : State} {action : Action}
    (arrow : Arrow kind existing state action .staged) : action.contents? ≠ none := by
  cases arrow <;> simp [Action.contents?]

theorem Arrow.source_of_isFinal {kind : FileKind} {existing : Bool} {state target : State}
    {action : Action} (arrow : Arrow kind existing state action target)
    (isFinal : action.IsFinal) : state = .staged := by
  rcases isFinal with rfl | rfl <;> cases arrow <;> rfl

/-- Only a confirmed stage leads to the staged state, and only a confirmed commit or abort leads
out of it. -/
theorem Path.isBacked {dispatcher : Dispatcher} {kind : FileKind} {existing : Bool} {name : Text}
    {log : List Entry} {first last : State}
    (path : Path dispatcher kind existing name first log last) (idle : first ≠ .staged)
    (staged : last = .staged) : IsBacked log := by
  -- the last entry either stages, or fails and leaves the stage of those before it
  induction log using List.reverseRecOn generalizing last with
  | nil => exact absurd (path.eq_of_nil.trans staged) idle
  | append_singleton log entry ih =>
    obtain ⟨before, lawful, onward⟩ := path.split
    have after : entry.after = .staged := onward.eq_of_nil.trans staged
    -- an entry that fails leaves the last stage open, and finds it open
    have kept {failure : Failure} (fails : entry.result = .error failure)
        (stays : entry.after = entry.before) : IsBacked (log ++ [entry]) := by
      obtain ⟨earlier, stage, later, rfl, contents, succeeds, open'⟩ :=
        ih before (stays.symm.trans after)
      refine ⟨earlier, stage, later ++ [entry], by simp, contents, succeeds, ?_⟩
      intro other member isFinal
      rcases List.mem_append.mp member with inLater | now
      · exact open' other inLater isFinal
      · rw [List.mem_singleton.mp now, fails]
        exact nofun
    cases lawful with
    | confirmed arrow sends carried answered confirms succeeds =>
      rw [after] at arrow
      exact ⟨log, entry, [], rfl, arrow.contents, succeeds, by simp⟩
    | unconfirmed arrow sends carried none fails stays => exact kept fails stays
    | refused forbidden silent fails stays => exact kept fails stays

/-- What a record of a transaction shows. -/
structure Lifecycle (dispatcher : Dispatcher) (kind : FileKind) (existing : Bool) (name : Text)
    (log : List Entry) (state : State) : Prop where
  /-- It is a way through the machine, from where nothing is open. -/
  path : Path dispatcher kind existing name .absent log state
  /-- After a commit nothing is sent. -/
  terminal : ∀ earlier entry later, log = earlier ++ entry :: later →
    entry.after = .committed → ∀ other ∈ later, other.sent = []
  /-- Whatever is committed or aborted was staged before. -/
  backed : ∀ earlier entry later, log = earlier ++ entry :: later →
    entry.step.action.IsFinal → entry.sent ≠ [] → IsBacked earlier

theorem Path.lifecycle {dispatcher : Dispatcher} {kind : FileKind} {existing : Bool} {name : Text}
    {log : List Entry} {state : State}
    (path : Path dispatcher kind existing name .absent log state) :
    Lifecycle dispatcher kind existing name log state := by
  constructor
  case path => exact path
  case terminal =>
    rintro earlier entry later rfl committed other member
    exact (path.split.2.2.silent committed other member).1
  case backed =>
    rintro earlier entry later rfl isFinal sent
    obtain ⟨before, lawful, -⟩ := path.split
    apply before.isBacked (by simp)
    cases lawful with
    | confirmed arrow => exact arrow.source_of_isFinal isFinal
    | unconfirmed arrow => exact arrow.source_of_isFinal isFinal
    | refused forbidden silent => exact absurd silent sent

/-- A transaction that is opened has no state yet, and goes by the name that was checked. -/
theorem start_eq_ok {existing : Bool} {resource : Resource} {name : Text}
    {transaction : Transaction} (opened : start existing resource name = .ok transaction) :
    ∃ kind, FileKind.ofResource? resource = some kind ∧
      Argument.name "object name" name = .ok name ∧ transaction = { kind, name, existing } := by
  unfold start at opened
  cases found : FileKind.ofResource? resource with
  | none => simp [found] at opened
  | some kind =>
    simp only [found] at opened
    cases checked : Argument.name "object name" name with
    | error failure => simp [checked, Except.map] at opened
    | ok text =>
      obtain ⟨rfl, -⟩ := Argument.name_eq_ok checked
      simp only [checked, Except.map, Except.ok.injEq] at opened
      exact ⟨kind, rfl, rfl, opened.symm⟩

/-- Whatever is asked of a transaction, in any order, and whatever the proxy answers, the
transaction goes its way through the machine. -/
theorem keeps_to_machine (dispatcher : Dispatcher) {existing : Bool} {resource : Resource}
    {name : Text} {transaction : Transaction}
    (opened : start existing resource name = .ok transaction) (steps : List Step) :
    FileKind.ofResource? resource = some transaction.kind ∧
      Lifecycle dispatcher transaction.kind existing name (transaction.log dispatcher steps)
        (transaction.takeAll dispatcher steps).state := by
  obtain ⟨kind, found, -, rfl⟩ := start_eq_ok opened
  exact ⟨found, (path_log dispatcher { kind, name, existing } steps).lifecycle⟩

/-- A far end that confirms whatever is staged and whatever is committed. -/
def agreeable : Transport := fun _ handover =>
  .after 1 (.ok
    (if handover.attempt.command.isMultiline then "Transaction created" else "Success!"))

/-- A certificate that is there already is replaced in two steps. -/
theorem keeps_to_machine_certificate :
    ∃ transaction, start true .certificate "site.pem" = .ok transaction ∧
      (FileKind.ofResource? .certificate = some transaction.kind ∧
        Lifecycle .usual transaction.kind true "site.pem"
          (transaction.log .usual [⟨.set "pem", agreeable⟩, ⟨.commit, agreeable⟩])
          (transaction.takeAll .usual [⟨.set "pem", agreeable⟩, ⟨.commit, agreeable⟩]).state) ∧
      (transaction.takeAll .usual
        [⟨.set "pem", agreeable⟩, ⟨.commit, agreeable⟩]).state = .committed :=
  have opened : start true .certificate "site.pem" =
      .ok { kind := .certificate, name := "site.pem", existing := true } := by decide +kernel
  ⟨_, opened, keeps_to_machine .usual opened _, by decide +kernel⟩

end ProxyControl.Transaction
