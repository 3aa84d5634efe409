import ProxyControl.Pattern.VersionedUpdate
import ProxyControl.Proofs.Request.Query
import ProxyControl.Proofs.Store.Lifecycle
import ProxyControl.Proofs.Text.Number

/-!
# The version of an update

An update is prepared exactly if the answer announces a version. From then on the update is about
that version of that list: whatever becomes of an addition, the ones behind it and the commit go to
the same version, and an addition that has nothing to add is not sent at all.
-/
namespace ProxyControl.VersionedUpdate

open Dispatch Text

/-! ### Announcements -/

/-- A version is named behind the last colon of a line; white space around it does not count. -/
def IsNamedIn (line : Text) (version : UInt64) : Prop :=
  ∃ front number, line = front ++ ':' :: number ∧ ':' ∉ number ∧
    IsDecimal (trim number) version.toNat

/-- An answer that announces a version: it is no refusal, it holds the announcement, and the first
line that holds it names the version. -/
structure Announces (answer : Text) (version : UInt64) : Prop where
  unmarked : Frame.answerRefusal? answer = none
  named : ∃ before line after, lines answer = before ++ line :: after ∧
    (∀ other ∈ before, ¬ announcement <:+: other) ∧ announcement <:+: line ∧
      IsNamedIn line version

theorem isNamedIn_iff {line : Text} {version : UInt64} :
    IsNamedIn line version ↔ ∃ front number, cutLast? (· == ':') line = some (front, number) ∧
      u64? (trim number) = some version := by
  constructor
  · rintro ⟨front, number, rfl, last, written⟩
    refine ⟨front, number, cutLast?_append_cons rfl front fun c member => ?_,
      u64?_eq_some_iff.mpr written⟩
    rw [beq_eq_false_iff_ne]
    rintro rfl
    exact last member
  · rintro ⟨front, number, cut, read⟩
    obtain ⟨c, rfl, colon, clean⟩ := of_cutLast?_eq_some cut
    obtain rfl : c = ':' := by simpa using colon
    refine ⟨front, number, rfl, fun member => ?_, u64?_eq_some_iff.mp read⟩
    have other := clean ':' member
    cases other

/-- The version is read from the first line that holds the announcement. -/
theorem readVersion_eq_ok_iff {answer line : Text} {before after : List Text} {version : UInt64}
    (cut : lines answer = before ++ line :: after)
    (earlier : ∀ other ∈ before, ¬ announcement <:+: other) (announced : announcement <:+: line) :
    readVersion answer = .ok version ↔ IsNamedIn line version := by
  have found : (lines answer).find? (contains announcement) = some line := by
    refine List.find?_eq_some_iff_append.mpr ⟨contains_iff.mpr announced, before, after, cut, ?_⟩
    intro other member
    rw [Bool.not_eq_true', ← Bool.not_eq_true, contains_iff]
    exact earlier other member
  rw [isNamedIn_iff, readVersion, found, Option.getD_some]
  cases cutLast? (· == ':') line with
  | none => simp
  | some parts =>
    obtain ⟨front, number⟩ := parts
    cases read : u64? (trim number) <;> simp [read]

theorem confirmation?_create (kind : PatternKind) :
    kind.resource.confirmation? .create = some (.oneOf [announcement]) := by
  cases kind <;> rfl

/-- An update is prepared exactly if its version is announced. -/
theorem perform_prepare_eq_ok_iff {send : Command → Result Text} {kind : PatternKind}
    {id : PatternRef} {update : VersionedUpdate} :
    (prepare kind id).perform send = .ok update ↔
      ∃ answer version, send (.preparePatterns kind id) = .ok answer ∧ Announces answer version ∧
        update = ⟨kind, id, version⟩ := by
  have nonempty : announcement ≠ [] := by simp [announcement, ofString_eq]
  have whole : ∀ c ∈ announcement, isLineBreak c = false := by
    simp [announcement, ofString_eq, isLineBreak]
  rw [prepare, Request.perform_confirmed_eq_ok_iff]
  simp only [Resource.confirm_eq_ok_iff, confirmation?_create, Option.some.injEq, exists_eq_left',
    Confirmation.IsGivenBy, List.mem_singleton, exists_eq_left, Result.map_eq_ok_iff]
  -- the announcement confirms wherever it stands, and the version is read in the first line with it
  constructor
  · rintro ⟨answer, answered, ⟨unmarked, held⟩, version, read, rfl⟩
    obtain ⟨before, line, after, cut, earlier, announced⟩ :=
      (infix_iff_exists_first_line nonempty whole).mp held
    have named := (readVersion_eq_ok_iff cut earlier announced).mp read
    exact ⟨answer, version, answered,
      ⟨unmarked, before, line, after, cut, earlier, announced, named⟩, rfl⟩
  · rintro ⟨answer, version, answered, ⟨unmarked, before, line, after, cut, earlier, announced,
      named⟩, rfl⟩
    have held := (infix_iff_exists_first_line nonempty whole).mpr
      ⟨before, line, after, cut, earlier, announced⟩
    have read := (readVersion_eq_ok_iff cut earlier announced).mpr named
    exact ⟨answer, answered, ⟨unmarked, held⟩, version, read, rfl⟩

/-! ### Steps -/

/-- What may be asked of an update. -/
inductive Action
  | add (payload : Text)
  | commit
  deriving DecidableEq, Repr

namespace Action

def phase : Action → Phase
  | .add _ => .stage
  | .commit => .commit

def request (update : VersionedUpdate) : Action → Request Unit
  | .add payload => update.add payload
  | .commit => update.commit

/-- What an action sends: the verb, the kind of list, the version and the list, and the payload
below. -/
inductive Sends (kind : PatternKind) (id : PatternRef) (version : UInt64) : Action → Command → Prop
  | add {payload body : Text} (notBlank : isBlank payload = false)
      (checked : Argument.payload "entries" payload = .ok body) :
      Sends kind id version (.add payload)
        (Command.withPayload (.ofText ("add " ++ kind.word ++ " @" ++ decimal version.toNat ++ " "
          ++ id.toText)) body)
  | commit : Sends kind id version .commit
      (.ofText ("commit " ++ kind.word ++ " @" ++ decimal version.toNat ++ " " ++ id.toText))

/-- An action is a step on the list, or has nothing to send. -/
theorem request_cases (update : VersionedUpdate) (action : Action) :
    (∃ command, action.request update = .step update.kind.resource action.phase command ∧
      Sends update.kind update.id update.version action command ∧ command.target = .default) ∨
    ∃ payload, action = .add payload ∧ isBlank payload = true ∧
      action.request update = .refused (.validation (.blank "entries")) := by
  cases action with
  | commit => exact .inl ⟨_, rfl, .commit, rfl⟩
  | add payload =>
    cases blank : isBlank payload with
    | true =>
      refine .inr ⟨payload, rfl, blank, ?_⟩
      rw [request, VersionedUpdate.add, Argument.payload_of_isBlank blank]
      rfl
    | false =>
      obtain ⟨body, passed⟩ : ∃ body, Argument.payload "entries" payload = .ok body :=
        Argument.exists_payload_of_not_isBlank blank
      refine .inl ⟨_, ?_, .add blank passed, rfl⟩
      rw [request, VersionedUpdate.add, passed]
      rfl

/-- The answer to an action has nothing to confirm. -/
theorem confirmation?_phase (kind : PatternKind) (action : Action) :
    kind.resource.confirmation? action.phase = some .silent := by
  cases kind <;> cases action <;> rfl

/-- So it is enough that it is no refusal. -/
theorem perform_step_eq_ok_iff {send : Command → Result Text} {kind : PatternKind}
    {action : Action} {command : Command} :
    (Request.step kind.resource action.phase command).perform send = .ok () ↔
      ∃ answer, send command = .ok answer ∧ Frame.answerRefusal? answer = none := by
  rw [Request.step, Request.perform_confirmed_eq_ok_iff]
  simp [Resource.confirm_eq_ok_iff, confirmation?_phase, Confirmation.IsGivenBy]

end Action

/-! ### Runs -/

/-- One thing asked of an update, and what the far end does with the command. -/
structure Step where
  action : Action
  transport : Transport

/-- What comes of a step. -/
structure Entry where
  before : VersionedUpdate
  step : Step
  sent : List Command
  result : Result Unit

/-- What there is to go on with: an addition leaves the update as it is, whatever comes of it, and
a commit uses it up. -/
def next (update : VersionedUpdate) : Action → Option VersionedUpdate
  | .add _ => some update
  | .commit => none

variable (dispatcher : Dispatcher)

def entry (update : VersionedUpdate) (step : Step) : Entry where
  before := update
  step := step
  sent := dispatcher.sent step.transport (step.action.request update)
  result := dispatcher.perform step.transport (step.action.request update)

/-- What comes of some steps, one after the other. Behind a commit there are no more. -/
def log : Option VersionedUpdate → List Step → List Entry
  | none, _ => []
  | some _, [] => []
  | some update, step :: rest =>
    update.entry dispatcher step :: log (update.next step.action) rest

/-- What has to come of a step on a version of a list. -/
inductive Lawful (update : VersionedUpdate) (entry : Entry) : Prop
  | sent {command : Command} (before : entry.before = update)
      (sends : entry.step.action.Sends update.kind update.id update.version command)
      (carried : Transaction.IsCarried dispatcher command entry.sent)
      (succeeds : entry.result = .ok () ↔
        ∃ answer, dispatcher.send entry.step.transport command = .ok answer ∧
          Frame.answerRefusal? answer = none)
  | refused {payload : Text} (before : entry.before = update)
      (adds : entry.step.action = .add payload) (blank : isBlank payload = true)
      (silent : entry.sent = [])
      (fails : entry.result = .error (.validation (.blank "entries")))

/-- Every step is about the version of the update. -/
theorem lawful_entry (update : VersionedUpdate) (step : Step) :
    Lawful dispatcher update (update.entry dispatcher step) := by
  rcases step.action.request_cases update with
    ⟨command, asked, sends, toDefault⟩ | ⟨payload, adds, blank, refused⟩
  · -- a command for any process has a route, so it is sent
    obtain ⟨route, routed⟩ := Route.exists_of_default dispatcher.endpoints_ne_nil toDefault
    refine .sent rfl sends ⟨route, routed, ?_⟩ ?_
    · simp only [entry, asked]
      exact dispatcher.sent_ask step.transport _ routed
    · simp only [entry, asked]
      exact Action.perform_step_eq_ok_iff
  · refine .refused rfl adds blank ?_ ?_
    · simp only [entry, refused]
      rfl
    · simp only [entry, refused]
      rfl

/-- And so is every step of a run. -/
theorem lawful_of_mem_log {update : VersionedUpdate} {steps : List Step} {entry : Entry}
    (member : entry ∈ log dispatcher (some update) steps) : Lawful dispatcher update entry := by
  induction steps with
  | nil => cases member
  | cons step rest ih =>
    rcases List.mem_cons.mp member with rfl | later
    · exact lawful_entry dispatcher update step
    · -- what there is to go on with is the same update, or none
      cases action : step.action with
      | add payload =>
        rw [action] at later
        exact ih later
      | commit =>
        rw [action] at later
        simp [next, log] at later

/-- Additions, each with the far end that it meets, and a commit. -/
def steps (additions : List (Text × Transport)) (closing : Transport) : List Step :=
  additions.map (fun (payload, transport) => ⟨.add payload, transport⟩) ++ [⟨.commit, closing⟩]

/-- No addition keeps the others from being made, nor the commit. -/
theorem map_step_log (update : VersionedUpdate) (additions : List (Text × Transport))
    (closing : Transport) :
    (log dispatcher (some update) (steps additions closing)).map Entry.step =
      steps additions closing := by
  induction additions with
  | nil => rfl
  | cons addition rest ih => exact congrArg _ ih

/-- An update is prepared exactly if the answer announces its version, and all that is asked of it
goes to that version, up to the commit. -/
theorem keeps_to_version (opening : Transport) (kind : PatternKind) (id : PatternRef) :
    (∀ update, dispatcher.perform opening (prepare kind id) = .ok update ↔
      ∃ answer version, dispatcher.send opening (.preparePatterns kind id) = .ok answer ∧
        Announces answer version ∧ update = ⟨kind, id, version⟩) ∧
    ∀ update, dispatcher.perform opening (prepare kind id) = .ok update →
      ∀ additions closing,
        (log dispatcher (some update) (steps additions closing)).map Entry.step =
            steps additions closing ∧
          ∀ entry ∈ log dispatcher (some update) (steps additions closing),
            Lawful dispatcher ⟨kind, id, update.version⟩ entry := by
  refine ⟨fun update => perform_prepare_eq_ok_iff, fun update prepared additions closing => ?_⟩
  obtain ⟨answer, version, -, -, rfl⟩ := perform_prepare_eq_ok_iff.mp prepared
  exact ⟨map_step_log dispatcher _ additions closing,
    fun entry member => lawful_of_mem_log dispatcher member⟩

/-- Three additions: the first one fails, the second has nothing to add, and the third is made. -/
def mixed : List (Text × Transport) :=
  [("example.com web", saying "[3]: Out of memory"), (" \n", saying ""),
    ("example.org api", saying "")]

/-- Neither a failure nor an empty addition takes an update away from its version. -/
theorem keeps_to_version_mixed :
    ∃ update,
      Dispatcher.usual.perform (saying "New version created: 7\n") (prepare .map (.id 1)) =
          .ok update ∧
        (log .usual (some update) (steps mixed (saying ""))).map (·.sent.map Command.text) =
          ([["add map @7 #1"], [], ["add map @7 #1"], ["commit map @7 #1"]] : List (List Text)) ∧
        (log .usual (some update) (steps mixed (saying ""))).map Entry.result =
          ([.error (.protocol (some 3) "Out of memory" "[3]: Out of memory" "add map @7 #1"),
            .error (.validation (.blank "entries")), .ok (), .ok ()] : List (Result Unit)) ∧
        ∀ entry ∈ log .usual (some update) (steps mixed (saying "")),
          Lawful .usual ⟨.map, .id 1, 7⟩ entry :=
  have prepared :
      Dispatcher.usual.perform (saying "New version created: 7\n") (prepare .map (.id 1)) =
        .ok ⟨.map, .id 1, 7⟩ := by decide +kernel
  ⟨_, prepared, by decide +kernel, by decide +kernel,
    ((keeps_to_version .usual _ .map (.id 1)).2 _ prepared mixed (saying "")).2⟩

end ProxyControl.VersionedUpdate
