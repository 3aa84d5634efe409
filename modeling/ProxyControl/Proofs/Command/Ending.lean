import ProxyControl.Event.Listener
import ProxyControl.Proofs.Dispatch.Report
import ProxyControl.Proofs.Dispatch.Sending
import ProxyControl.Proofs.Operation
import ProxyControl.Proofs.Request.Query
import ProxyControl.Proofs.Result
import ProxyControl.Proofs.Text.Cutting
import ProxyControl.Proofs.Text.Number

/-!
# How command lines end

A line that ends in `<<` behind a blank makes a far end wait for a payload. The vocabulary keeps
the mark to the commands that have one, and the checks look for what would end a line or a word.
So the line of a command without a payload ends in the mark exactly if the argument at its end
does.
-/
namespace ProxyControl

open Text

/-! ### Lines that open a payload -/

/-- The rule by which a far end takes the lines behind this one for a payload. -/
def OpensPayload (line : Text) : Prop := (" <<" : Text) <:+ trimEnd line

instance : DecidablePred OpensPayload := fun line =>
  inferInstanceAs (Decidable ((" <<" : Text) <:+ trimEnd line))

/-- Behind a blank, an argument opens a payload if it is the mark or ends in it. -/
theorem opensPayload_append_iff {front argument : Text} (blank : front.getLast? = some ' ')
    (notBlank : isBlank argument = false) :
    OpensPayload (front ++ argument) ↔ trimEnd argument = "<<" ∨ OpensPayload argument := by
  obtain ⟨before, rfl⟩ := List.getLast?_eq_some_iff.mp blank
  obtain ⟨backwards, kept⟩ : ∃ backwards : Text, trimEnd argument = backwards.reverse :=
    ⟨_, (List.reverse_reverse _).symm⟩
  have mark : ("<<" : Text) = ['<', '<'].reverse := by rw [ofString_eq]; rfl
  have spaced : (" <<" : Text) = ['<', '<', ' '].reverse := by rw [ofString_eq]; rfl
  have whole : before ++ [' '] ++ backwards.reverse =
      (backwards ++ ' ' :: before.reverse).reverse := by simp
  rw [OpensPayload, OpensPayload, trimEnd_append notBlank, kept, mark, spaced, whole,
    List.reverse_suffix, List.reverse_suffix, List.reverse_inj]
  -- the mark takes three characters, the blank in front of a short argument among them
  match backwards with
  | [] => simp
  | [last] => simp
  | [last, other] => simp [eq_comm]
  | last :: other :: third :: rest => simp [eq_comm]

/-- A line that ends in anything else opens none. -/
theorem not_opensPayload_of_getLast? {line : Text} {c : Char} (last : line.getLast? = some c)
    (inside : isSpace c = false) (other : c ≠ '<') : ¬ OpensPayload line := by
  obtain ⟨before, rfl⟩ := List.getLast?_eq_some_iff.mp last
  have whole : trimEnd (before ++ [c]) = before ++ [c] := by
    rw [trimEnd, dropEndWhile_concat, if_neg (by simp [inside])]
  rw [OpensPayload, whole, ofString_eq]
  rintro ⟨front, same⟩
  have ends := congrArg List.getLast? same
  simp at ends
  exact other ends.symm

/-! ### Commands and what they end in -/

/-- What stands at the end of a command's line: an argument behind a blank, a word or a number of
the vocabulary's own, or the mark itself. -/
inductive Command.EndsIn (command : Command) : Option Text → Prop
  | argument {front argument : Text} (text : command.text = front ++ argument)
      (blank : front.getLast? = some ' ') (notBlank : isBlank argument = false) :
      EndsIn command (some argument)
  | word (last : command.text.getLast?.any fun c => !isSpace c && c != '<') : EndsIn command none
  | payload {body : Text} (contents : command.payload = some body) : EndsIn command none

namespace Command

variable {command : Command}

theorem endsIn_of_append {front back : Text} (text : command.text = front ++ back)
    (last : back.getLast?.any fun c => !isSpace c && c != '<') : command.EndsIn none := by
  refine .word ?_
  rw [text, List.getLast?_append]
  cases ends : back.getLast? with
  | none =>
    rw [ends] at last
    cases last
  | some c =>
    rw [ends] at last
    exact last

/-- No digit is taken for white space or for part of the mark. -/
theorem endsIn_of_decimal {front : Text} {n : Nat} (text : command.text = front ++ decimal n) :
    command.EndsIn none := by
  have last := List.getLast_mem (decimal_ne_nil n)
  have other : (decimal n).getLast (decimal_ne_nil n) ≠ '<' :=
    fun mark => not_mem_decimal rfl n (mark ▸ last)
  refine endsIn_of_append text ?_
  rw [List.getLast?_eq_some_getLast (decimal_ne_nil n)]
  simp [isSpace_of_mem_decimal last, other]

/-- The lines that a command is on end in the mark exactly if the argument at its end does. -/
theorem EndsIn.opensPayload_iff {last : Option Text} (ends : command.EndsIn last)
    (bare : command.payload = none) (front : Text) :
    OpensPayload (front ++ command.text) ↔
      ∃ argument ∈ last, trimEnd argument = "<<" ∨ OpensPayload argument := by
  cases ends with
  | @argument before argument text blank notBlank =>
    have spaced : (front ++ before).getLast? = some ' ' :=
      List.mem_getLast?_append_of_mem_getLast? blank
    rw [text, ← List.append_assoc, opensPayload_append_iff spaced notBlank]
    simp
  | word last =>
    cases ends : command.text.getLast? with
    | none =>
      rw [ends] at last
      cases last
    | some c =>
      obtain ⟨inside, other⟩ : isSpace c = false ∧ c ≠ '<' := by simpa [ends] using last
      have ends : (front ++ command.text).getLast? = some c :=
        List.mem_getLast?_append_of_mem_getLast? ends
      exact iff_of_false (not_opensPayload_of_getLast? ends inside other) (by simp)
  | payload contents =>
    rw [bare] at contents
    cases contents

theorem endsIn_onPattern {argument : Text} (notBlank : isBlank argument = false) (verb : Text)
    (kind : PatternKind) (id : PatternRef) :
    (onPattern verb kind id argument).EndsIn (some argument) :=
  .argument rfl (by simp [ofString_eq, List.getLast?_cons]) notBlank

theorem endsIn_onStored {argument : Text} (notBlank : isBlank argument = false)
    (verb store : Text) : (onStored verb store argument).EndsIn (some argument) :=
  .argument rfl (by simp [ofString_eq, List.getLast?_cons]) notBlank

theorem endsIn_showTableEntries {table : Text} {filter : Option Text}
    (named : isBlank table = false) (given : ∀ text ∈ filter, isBlank text = false) :
    (showTableEntries table filter).EndsIn (some (filter.getD table)) := by
  cases filter with
  | none => exact .argument rfl (by decide +kernel) named
  | some text => exact .argument rfl (by simp [ofString_eq, List.getLast?_cons]) (given text rfl)

theorem endsIn_showServersState {backend : Option Text}
    (given : ∀ text ∈ backend, isBlank text = false) :
    (showServersState backend).EndsIn backend := by
  cases backend with
  | none => exact .word (by decide +kernel)
  | some text => exact .argument rfl (by decide +kernel) (given text rfl)

end Command

theorem PatternRef.IsChecked.isBlank {ref : PatternRef} (checked : ref.IsChecked) :
    isBlank ref.toText = false := by
  cases checked with
  | id number =>
    rw [toText, ofString_eq]
    rfl
  | @file name ref made =>
    obtain ⟨checked, passed, rfl⟩ := Result.map_eq_ok_iff.mp made
    obtain ⟨rfl, notBlank, -⟩ := Argument.name_eq_ok passed
    exact notBlank

theorem PatternRef.IsChecked.endsIn {ref : PatternRef} (checked : ref.IsChecked) (verb : Text)
    (kind : PatternKind) : (Command.onPatterns verb kind ref).EndsIn (some ref.toText) :=
  .argument rfl (by simp [ofString_eq, List.getLast?_cons]) checked.isBlank

/-! ### Requests -/

/-- A request whose command, if it has one, ends in a given argument. -/
def Request.EndsIn {α : Type} (request : Request α) (last : Option Text) : Prop :=
  ∀ command ∈ request.command?, command.EndsIn last

namespace Request

variable {α : Type} {command : Command} {last : Option Text}

theorem endsIn_refused (failure : Failure) : (refused failure : Request α).EndsIn last := by
  simp [EndsIn, command?]

theorem endsIn_ask {read : Text → Result α} (ends : command.EndsIn last) :
    (ask command read).EndsIn last := by
  rintro _ ⟨⟩
  exact ends

theorem endsIn_about {what : Text} {request : Request α} (ends : request.EndsIn last) :
    (about what request).EndsIn last := by
  cases request <;> exact ends

/-- A check hands on what it was given, which is then known not to be blank. -/
theorem endsIn_name {what text : Text} {next : Text → Result (Request α)}
    (passes : isBlank text = false → (checked (next text)).EndsIn last) :
    (checked (Argument.name what text >>= next)).EndsIn last := by
  intro command asked
  obtain ⟨passed, checks, onward⟩ := of_command?_bind asked
  obtain ⟨rfl, notBlank, -⟩ := Argument.name_eq_ok checks
  exact passes notBlank command onward

theorem endsIn_value {what text : Text} {next : Text → Result (Request α)}
    (passes : isBlank text = false → (checked (next text)).EndsIn last) :
    (checked (Argument.value what text >>= next)).EndsIn last := by
  intro command asked
  obtain ⟨passed, checks, onward⟩ := of_command?_bind asked
  obtain ⟨rfl, notBlank, -⟩ := Argument.value_eq_ok checks
  exact passes notBlank command onward

/-- What may be left out is checked if it is given. -/
theorem endsIn_optionalValue {what : Text} {text : Option Text}
    {next : Option Text → Result (Request α)}
    (passes : (∀ given ∈ text, isBlank given = false) → (checked (next text)).EndsIn last) :
    (checked (text.mapM (Argument.value what) >>= next)).EndsIn last := by
  intro command asked
  obtain ⟨passed, checks, onward⟩ := of_command?_bind asked
  obtain ⟨rfl, given⟩ := Argument.mapM_value_eq_ok checks
  exact passes given command onward

/-- What has a payload may end in anything. -/
theorem endsIn_payload {what text : Text} {next : Text → Result (Request α)}
    (passes : ∀ body, (checked (next body)).EndsIn last) :
    (checked (Argument.payload what text >>= next)).EndsIn last := by
  intro command asked
  obtain ⟨body, -, onward⟩ := of_command?_bind asked
  exact passes body command onward

end Request

/-! ### Operations -/

/-- The argument at the end of the line that an operation's command is on, if one stands there. -/
def Operation.lastArgument? {α : Type} : Operation α → Option Text
  | .backendErrors (.name name) .all => some name
  | .aclEntries id _ | .clearAcl id _ | .mapEntries id _ | .clearMap id _ | .prepare _ id _ =>
    some id.toText
  | .commitVersion update _ => some update.id.toText
  | .searchAcl _ _ value | .addToAcl _ _ value | .deleteFromAcl _ _ value => some value
  | .searchMap _ _ key | .deleteFromMap _ _ key => some key
  | .addToMap _ _ _ value | .setInMap _ _ _ value => some value
  | .deleteFile _ name | .readCertificate name | .readCaFile name | .readCrlFile name => some name
  | .transact transaction _ action =>
    if action.contents?.isSome then none else some transaction.name
  | .crtListEntries list => some list
  | .deleteFromCrtList _ entry => some entry
  | .ocspResponse id => some id
  | .updateOcspResponse certificate | .acmeRenew certificate => some certificate
  | .tableEntries table filter => some (filter.getD table)
  | .serverStates backend => backend
  | .setServerAddress _ _ address none => some address
  | _ => none

theorem Command.endsIn_showBackendErrors {backend : BackendId} (side : ErrorSide)
    (named : ∀ name, backend = .name name → isBlank name = false) :
    (showBackendErrors backend side).EndsIn
      (Operation.backendErrors backend side).lastArgument? := by
  cases side with
  | request => cases backend <;> exact endsIn_of_append rfl (by decide +kernel)
  | response => cases backend <;> exact endsIn_of_append rfl (by decide +kernel)
  | all =>
    cases backend with
    | all => exact .word (by decide +kernel)
    | id number => exact endsIn_of_decimal (List.append_assoc _ _ _).symm
    | name name => exact .argument rfl (by decide +kernel) (named name rfl)

/-- Files are named at the end of the commands that have no payload. -/
theorem Transaction.IsOpened.endsIn {transaction : Transaction} (opened : transaction.IsOpened)
    {action : Transaction.Action} {command : Command}
    (made : transaction.command action = .ok command) :
    command.EndsIn (if action.contents?.isSome then none else some transaction.name) := by
  obtain ⟨existing, resource, name, first, started, state, rfl⟩ := opened
  obtain ⟨kind, -, checked, rfl⟩ := Transaction.start_eq_ok started
  obtain ⟨-, notBlank, -⟩ := Argument.name_eq_ok checked
  rcases command_cases _ action with ⟨sent, same, sends, -⟩ | ⟨-, fault, failed⟩
  · obtain rfl := Except.ok.inj (same.symm.trans made)
    cases sends with
    | bare nothing =>
      rw [nothing]
      exact .argument rfl (by simp [ofString_eq, List.getLast?_cons]) notBlank
    | block contents checked =>
      rw [contents]
      exact .payload rfl
  · rw [made] at failed
    cases failed

section

open Request Command

/-- Every operation asks with a command that ends in its last argument, or refuses. -/
theorem Operation.endsIn_request {α : Type} (operation : Operation α) :
    operation.request.EndsIn operation.lastArgument? := by
  cases operation with
  | level => exact endsIn_ask (.word (by decide +kernel))
  | sockets => exact endsIn_ask (.word (by decide +kernel))
  | info => exact endsIn_ask (.word (by decide +kernel))
  | errors => exact endsIn_ask (.word (by decide +kernel))
  | backendErrors backend side =>
    cases backend with
    | all => exact endsIn_ask (endsIn_showBackendErrors side nofun)
    | id number => exact endsIn_ask (endsIn_showBackendErrors side nofun)
    | name name =>
      refine endsIn_name fun notBlank => endsIn_ask (endsIn_showBackendErrors side ?_)
      rintro _ ⟨⟩
      exact notBlank
  | listAcls => exact endsIn_ask (.word (by decide +kernel))
  | aclEntries id made => exact endsIn_about (endsIn_ask (made.endsIn _ _))
  | searchAcl id made value =>
    exact endsIn_value fun notBlank => endsIn_ask (endsIn_onPattern notBlank _ _ _)
  | addToAcl id made value =>
    exact endsIn_value fun notBlank => endsIn_ask (endsIn_onPattern notBlank _ _ _)
  | deleteFromAcl id made value =>
    exact endsIn_value fun notBlank => endsIn_ask (endsIn_onPattern notBlank _ _ _)
  | clearAcl id made => exact endsIn_ask (made.endsIn _ _)
  | listMaps => exact endsIn_ask (.word (by decide +kernel))
  | mapEntries id made => exact endsIn_about (endsIn_ask (made.endsIn _ _))
  | searchMap id made key =>
    exact endsIn_value fun notBlank => endsIn_ask (endsIn_onPattern notBlank _ _ _)
  | addToMap id made key value =>
    refine endsIn_value fun _ => endsIn_value fun notBlank => endsIn_ask ?_
    exact .argument rfl (by simp [ofString_eq, List.getLast?_cons]) notBlank
  | addAllToMap id made payload => exact endsIn_payload fun body => endsIn_ask (.payload rfl)
  | setInMap id made key value =>
    refine endsIn_value fun _ => endsIn_value fun notBlank => endsIn_about (endsIn_ask ?_)
    exact .argument rfl (by simp [ofString_eq, List.getLast?_cons]) notBlank
  | deleteFromMap id made key =>
    exact endsIn_value fun notBlank => endsIn_ask (endsIn_onPattern notBlank _ _ _)
  | clearMap id made => exact endsIn_ask (made.endsIn _ _)
  | prepare kind id made => exact endsIn_ask (made.endsIn _ _)
  | addToVersion update made payload => exact endsIn_payload fun body => endsIn_ask (.payload rfl)
  | commitVersion update made =>
    exact endsIn_ask (.argument rfl (by simp [ofString_eq, List.getLast?_cons]) made.isBlank)
  | listFiles kind => cases kind <;> exact endsIn_ask (.word (by decide +kernel))
  | deleteFile kind name =>
    exact endsIn_name fun notBlank => endsIn_ask (endsIn_onStored notBlank _ _)
  | readCertificate name =>
    exact endsIn_name fun notBlank => endsIn_about (endsIn_ask (endsIn_onStored notBlank _ _))
  | readCaFile name =>
    exact endsIn_name fun notBlank => endsIn_about (endsIn_ask (endsIn_onStored notBlank _ _))
  | readCrlFile name =>
    exact endsIn_name fun notBlank => endsIn_about (endsIn_ask (endsIn_onStored notBlank _ _))
  | transact transaction opened action =>
    -- the file's name was checked when the transaction was opened, not by this request
    intro command asked
    obtain ⟨made, checks, onward⟩ := of_command?_bind asked
    cases onward
    exact opened.endsIn checks
  | listCrtLists => exact endsIn_ask (.word (by decide +kernel))
  | crtListEntries list =>
    exact endsIn_name fun notBlank => endsIn_ask (.argument rfl (by decide +kernel) notBlank)
  | addToCrtList list entry =>
    refine endsIn_name fun _ => endsIn_name fun _ => ?_
    split
    · exact endsIn_refused _
    · -- the entry goes into the payload, behind the line with the list's name
      exact endsIn_value fun _ => endsIn_ask (.payload rfl)
  | deleteFromCrtList list entry =>
    refine endsIn_name fun _ => endsIn_name fun notBlank => endsIn_ask ?_
    exact .argument rfl (by simp [ofString_eq, List.getLast?_cons]) notBlank
  | listOcspResponses => exact endsIn_ask (.word (by decide +kernel))
  | ocspResponse id =>
    refine endsIn_name fun notBlank => endsIn_about (endsIn_ask ?_)
    exact .argument rfl (by decide +kernel) notBlank
  | setOcspResponse base64 => exact endsIn_payload fun body => endsIn_ask (.payload rfl)
  | updateOcspResponse certificate =>
    exact endsIn_name fun notBlank => endsIn_ask (.argument rfl (by decide +kernel) notBlank)
  | listTables => exact endsIn_ask (.word (by decide +kernel))
  | tableEntries table filter =>
    exact endsIn_name fun named => endsIn_optionalValue fun given =>
      endsIn_about (endsIn_ask (endsIn_showTableEntries named given))
  | acmeStatus => exact endsIn_ask (.word (by decide +kernel))
  | acmeRenew certificate =>
    exact endsIn_name fun notBlank => endsIn_ask (.argument rfl (by decide +kernel) notBlank)
  | serverStates backend =>
    exact endsIn_optionalValue fun given => endsIn_ask (endsIn_showServersState given)
  | setServerState server made state =>
    cases state <;> exact endsIn_about (endsIn_ask (endsIn_of_append rfl (by decide +kernel)))
  | setServerWeight server made weight =>
    simp only [request, ServerRef.setWeight]
    split
    · exact endsIn_refused _
    · exact endsIn_about (endsIn_ask (endsIn_of_decimal rfl))
  | setServerAddress server made address port =>
    refine endsIn_name fun notBlank => endsIn_about (endsIn_ask ?_)
    -- a port that is given stands behind the address
    cases port with
    | none => exact .argument rfl (by simp [ofString_eq, List.getLast?_cons]) notBlank
    | some port => exact endsIn_of_decimal rfl

end

/-! ### Subscriptions -/

namespace Subscription

/-- The sink, unless flags follow it. -/
def lastArgument? (subscription : Subscription) : Option Text :=
  if subscription.flags.words = [] then some subscription.sink else none

/-- A subscription's line without what ends it. -/
def lineText (subscription : Subscription) : Text :=
  subscription.command ++ subscription.flags.words.flatMap fun word => ' ' :: word

theorem endsIn (subscription : Subscription) (named : isBlank subscription.sink = false) :
    (Command.ofText subscription.lineText).EndsIn subscription.lastArgument? := by
  unfold lastArgument?
  split
  next bare =>
    have text : subscription.lineText = "show events " ++ subscription.sink := by
      simp [lineText, bare, command]
    exact .argument text (by decide +kernel) named
  next flagged =>
    refine Command.endsIn_of_append rfl ?_
    -- every flag is a word that ends in a letter or a digit
    generalize subscription.flags = flags at flagged ⊢
    obtain ⟨wait, noHistory, nul⟩ := flags
    revert flagged
    cases wait <;> cases noHistory <;> cases nul <;> decide +kernel

end Subscription

/-! ### What is written -/

/-- The texts that are written without a payload, each with the argument at its end. -/
inductive IsWritten : Text → Option Text → Prop
  | command {α : Type} {dispatcher : Dispatcher} {transport : Dispatch.Transport}
      {operation : Operation α} {handover : Dispatch.Handover}
      (handed : handover ∈ dispatcher.handovers transport operation.request)
      (bare : handover.attempt.command.payload = none) :
      IsWritten handover.attempt.command.wire operation.lastArgument?
  | subscription {subscription : Subscription}
      (checked : Argument.name "sink" subscription.sink = .ok subscription.sink) :
      IsWritten subscription.line subscription.lastArgument?

/-- A line without a payload opens one exactly if the argument at its end is the mark or ends in
it. -/
theorem opens_payload_iff {text : Text} {last : Option Text} (written : IsWritten text last) :
    ∃ line, text = line ++ "\n" ∧ (OpensPayload line ↔
      ∃ argument ∈ last, trimEnd argument = "<<" ∨ OpensPayload argument) := by
  cases written with
  | @command α dispatcher transport operation handover handed bare =>
    -- a handover sends the operation's command behind an address, which changes no ending
    obtain ⟨command, asked, same⟩ := Dispatcher.command_of_mem_handovers handed
    have ends := operation.endsIn_request command asked
    have bare : command.payload = none := by rwa [same] at bare
    refine ⟨handover.attempt.command.address ++ Command.severityDirective ++ ";" ++ command.text,
      ?_, ends.opensPayload_iff bare _⟩
    rw [same]
    simp [Command.wire, Command.tail, bare, Command.address]
  | @subscription subscription checked =>
    obtain ⟨-, named, -⟩ := Argument.name_eq_ok checked
    refine ⟨"@@1 " ++ Command.severityDirective ++ ";" ++ subscription.lineText, ?_,
      (subscription.endsIn named).opensPayload_iff rfl _⟩
    simp [Subscription.line, Subscription.lineText]

/-- An address in an ACL opens nothing. -/
theorem opens_payload_iff_addToAcl :
    ∃ handover ∈ Dispatcher.usual.handovers Transaction.agreeable
        (Operation.addToAcl (.id 1) (.id 1) "10.0.0.1").request,
      ∃ line, handover.attempt.command.wire = line ++ "\n" ∧ ¬ OpensPayload line := by
  have handed : (⟨⟨0, false, .standard, .ofText "add acl #1 10.0.0.1", 0⟩, 0⟩ : Dispatch.Handover) ∈
      Dispatcher.usual.handovers Transaction.agreeable
        (Operation.addToAcl (.id 1) (.id 1) "10.0.0.1").request := by decide +kernel
  obtain ⟨line, wire, opens⟩ := opens_payload_iff (.command handed rfl)
  refine ⟨_, handed, line, wire, ?_⟩
  rw [opens]
  rintro ⟨_, ⟨⟩, mark⟩
  revert mark
  decide +kernel

/-- A certificate whose name is the mark itself is asked for in a line that opens a payload. -/
theorem readCertificate_opens_payload :
    ∃ handover ∈ Dispatcher.usual.handovers Transaction.agreeable
        (Operation.readCertificate "<<").request,
      handover.attempt.command.payload = none ∧
        handover.attempt.command.wire =
          "set severity-output number;show ssl cert <<" ++ "\n" ∧
        OpensPayload "set severity-output number;show ssl cert <<" := by
  decide +kernel

end ProxyControl
