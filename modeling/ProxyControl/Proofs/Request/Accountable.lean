import ProxyControl.Proofs.Listing.Reading
import ProxyControl.Proofs.Store.Lifecycle
import ProxyControl.StickTable
import ProxyControl.Store.CrtList

/-!
# Accountable requests

Whatever a client can ask, the request refuses its arguments itself, and a failure to make sense
of the answer names the command and keeps the answer as it came.
-/
namespace ProxyControl

open Text

/-- The answer that a failure goes back to. -/
def Failure.response? : Failure → Option Text
  | .protocol _ _ response _ | .notFound _ response _ => some response
  | _ => none

/-- A failure to make sense of the answer to a command. -/
structure Failure.Accounts (text answer : Text) (failure : Failure) : Prop where
  command : failure.command? = some text
  response : ∀ response ∈ failure.response?, response = answer

/-! ### Words in front -/

namespace Text

def StartsWithLetter (text : Text) : Prop := ∃ c ∈ text.head?, c.isAlpha = true

/-- Two texts that differ before either of them ends. -/
def Departs (text other : Text) : Prop := ((text.zip other).any fun (c, d) => c != d) = true

section

variable {text other : Text}

@[simp] theorem startsWithLetter_cons {c : Char} {rest : Text} :
    StartsWithLetter (c :: rest) ↔ c.isAlpha = true := by
  simp [StartsWithLetter]

@[simp] theorem length_ofString (literal : String) :
    (ofString literal).length = literal.toList.length := by
  rw [ofString_eq]

@[simp] theorem startsWithLetter_ofString (literal : String) :
    StartsWithLetter (ofString literal) ↔ StartsWithLetter literal.toList := by
  rw [ofString_eq]

@[simp] theorem StartsWithLetter.append (worded : text.StartsWithLetter) (rest : Text) :
    StartsWithLetter (text ++ rest) := by
  obtain ⟨c, first, letter⟩ := worded
  refine ⟨c, ?_, letter⟩
  rw [List.head?_append, Option.mem_def.mp first]
  rfl

@[simp] theorem departs_nil : ¬ Departs [] other := by simp [Departs]

@[simp] theorem departs_cons {c d : Char} :
    Departs (c :: text) (d :: other) ↔ c ≠ d ∨ Departs text other := by
  simp [Departs]

@[simp] theorem departs_ofString (literal : String) :
    Departs (ofString literal) other ↔ Departs literal.toList other := by
  rw [ofString_eq]

/-- What a text differs in, it differs in at its own place. -/
@[simp] theorem departs_append {first second : Text} :
    Departs (first ++ second) other ↔
      Departs first other ∨ Departs second (other.drop first.length) := by
  induction first generalizing other with
  | nil => simp
  | cons c first ih =>
    cases other with
    | nil => simp [Departs]
    | cons d other => simp [ih, or_assoc]

theorem Departs.not_prefix (departs : Departs text other) : ¬ other <+: text := by
  rintro ⟨rest, rfl⟩
  rw [departs_append, List.drop_length] at departs
  rcases departs with front | behind
  · induction other with
    | nil => exact departs_nil front
    | cons c other ih =>
      rcases departs_cons.mp front with ne | front
      · exact ne rfl
      · exact ih front
  · -- nothing is left to differ from
    simp [Departs] at behind

end

end Text

/-- A command as it is worded: it begins with a letter, and not with the directive. -/
structure Command.IsWorded (command : Command) : Prop where
  letter : command.text.StartsWithLetter
  departs : command.text.Departs "set severity-output number".toList

@[simp] theorem Command.isWorded_ofText (text : Text) :
    (ofText text).IsWorded ↔
      text.StartsWithLetter ∧ text.Departs "set severity-output number".toList :=
  ⟨fun worded => ⟨worded.letter, worded.departs⟩, fun worded => ⟨worded.1, worded.2⟩⟩

@[simp] theorem Command.isWorded_withPayload (command : Command) (payload : Text) :
    (command.withPayload payload).IsWorded ↔ command.IsWorded :=
  ⟨fun worded => ⟨worded.letter, worded.departs⟩, fun worded => ⟨worded.letter, worded.departs⟩⟩

/-! ### Requests -/

/-- A request that fails over its arguments before it asks, and over the answer afterwards. -/
inductive Request.IsAccountable {α : Type} : Request α → Prop
  | refused (fault : ArgumentFault) : IsAccountable (.refused (.validation fault))
  | ask {command : Command} {read : Text → Result α} (worded : command.IsWorded)
      (reads : ∀ answer failure, read answer = .error failure →
        failure.Accounts command.text answer) : IsAccountable (.ask command read)

namespace Request

variable {α β : Type} {command : Command}

/-- Naming the command in a reading failure completes it. -/
theorem accounts_withCommand {result : Result α} (reads : OnlyUnread result) {failure : Failure}
    (failed : result.mapError (·.withCommand command.text) = .error failure) (answer : Text) :
    failure.Accounts command.text answer := by
  cases result with
  | ok value => cases failed
  | error other =>
    obtain ⟨fault, line, rfl⟩ := reads other rfl
    cases failed
    exact ⟨rfl, by simp [Failure.response?, Failure.unread, Failure.withCommand]⟩

theorem accounts_of_refusal (refusal : Refusal) (text answer : Text) :
    (refusal.failure text answer).Accounts text answer :=
  ⟨rfl, by simp [Failure.response?, Refusal.failure]⟩

theorem accounts_asNotFound {failure : Failure} {text answer : Text} (what : Text)
    (accounts : failure.Accounts text answer) : (asNotFound what failure).Accounts text answer := by
  cases failure with
  | protocol severity message response command =>
    -- the command and the answer are kept, whether or not something turns out to be missing
    simp only [asNotFound]
    split
    · exact ⟨accounts.command, accounts.response⟩
    · exact accounts
  | _ => exact accounts

theorem isAccountable_query (worded : command.IsWorded) {read : Text → Result α}
    (reads : ∀ answer, OnlyUnread (read answer)) : (query command read).IsAccountable := by
  refine .ask worded fun answer failure failed => ?_
  unfold accepted at failed
  cases refused : Frame.answerRefusal? answer with
  | some refusal =>
    rw [refused] at failed
    cases failed
    exact accounts_of_refusal refusal _ _
  | none =>
    rw [refused] at failed
    exact accounts_withCommand (reads answer) failed answer

theorem isAccountable_run (worded : command.IsWorded) : (run command).IsAccountable :=
  isAccountable_query worded fun _ => onlyUnread_ok ()

/-- An answer that does not confirm a step is kept, whether it refuses or not. -/
theorem accounts_of_confirm {resource : Resource} {phase : Phase} {text answer : Text}
    (known : resource.confirmation? phase ≠ none) {failure : Failure}
    (failed : resource.confirm phase text answer = .error failure) :
    failure.Accounts text answer := by
  cases refused : Frame.answerRefusal? answer with
  | some refusal =>
    rw [Resource.confirm_of_refused refused] at failed
    cases failed
    exact accounts_of_refusal refusal _ _
  | none =>
    rcases resource.confirm_cases phase text refused with
      ⟨confirms, -⟩ | ⟨-, unknown⟩ | ⟨phrases, -, fails, -⟩
    · rw [confirms] at failed
      cases failed
    · exact absurd unknown known
    · -- there are words to look for, and an answer without them is kept
      rw [fails] at failed
      cases failed
      exact ⟨rfl, by simp [Failure.response?]⟩

theorem isAccountable_confirmed (worded : command.IsWorded) {resource : Resource}
    {phase : Phase} (known : resource.confirmation? phase ≠ none) {read : Text → Result α}
    (reads : ∀ answer, OnlyUnread (read answer)) :
    (confirmed resource phase command read).IsAccountable := by
  refine .ask worded fun answer failure failed => ?_
  cases confirms : resource.confirm phase command.text answer with
  | error refusal =>
    rw [confirms] at failed
    cases failed
    exact accounts_of_confirm known confirms
  | ok _ =>
    rw [confirms] at failed
    exact accounts_withCommand (reads answer) failed answer

theorem isAccountable_step (worded : command.IsWorded) {resource : Resource} {phase : Phase}
    (known : resource.confirmation? phase ≠ none) : (step resource phase command).IsAccountable :=
  isAccountable_confirmed worded known fun _ => onlyUnread_ok ()

theorem isAccountable_about (what : Text) {request : Request α}
    (accountable : request.IsAccountable) : (about what request).IsAccountable := by
  cases accountable with
  | refused fault => exact .refused fault
  | @ask command read worded reads =>
    refine .ask worded fun answer failure failed => ?_
    cases result : read answer with
    | ok value =>
      rw [result] at failed
      cases failed
    | error other =>
      rw [result] at failed
      cases failed
      exact accounts_asNotFound what (reads answer other result)

theorem isAccountable_lookup (worded : command.IsWorded) (container what : Text)
    {read : Text → Result (Option α)} (reads : ∀ answer, OnlyUnread (read answer)) :
    (lookup command container what read).IsAccountable := by
  refine .ask worded fun answer failure failed => ?_
  unfold accepted at failed
  cases refused : Frame.answerRefusal? answer with
  | some refusal =>
    rw [refused] at failed
    cases failed
    exact accounts_asNotFound container (accounts_of_refusal refusal _ _)
  | none =>
    simp only [refused, Except.mapError, bind, Except.bind] at failed
    cases found : read answer with
    | error other =>
      rw [found] at failed
      cases failed
      exact accounts_withCommand (reads answer) (by rw [found]; rfl) answer
    | ok value =>
      rw [found] at failed
      cases value with
      | some record => cases failed
      | none =>
        -- an answer that says no is kept as it came
        cases failed
        exact ⟨rfl, by simp [Failure.response?]⟩

/-! ### Arguments -/

/-- A result that is no failure but that of an argument. -/
def OnlyRefused (result : Result α) : Prop :=
  ∀ failure, result = .error failure → ∃ fault, failure = .validation fault

@[simp] theorem onlyRefused_error (fault : ArgumentFault) :
    OnlyRefused (.error (.validation fault) : Result α) := by
  rintro failure ⟨rfl⟩
  exact ⟨fault, rfl⟩

private theorem onlyRefused_check {text : Text} {breaks : Char → Bool}
    {blank broken : ArgumentFault} :
    OnlyRefused (if isBlank text then .error (.validation blank)
      else if text.any breaks then .error (.validation broken) else .ok text) := by
  split
  · exact onlyRefused_error blank
  · split
    · exact onlyRefused_error broken
    · exact nofun

theorem onlyRefused_name (what text : Text) : OnlyRefused (Argument.name what text) :=
  onlyRefused_check

theorem onlyRefused_value (what text : Text) : OnlyRefused (Argument.value what text) :=
  onlyRefused_check

theorem onlyRefused_payload (what text : Text) : OnlyRefused (Argument.payload what text) := by
  cases blank : isBlank text with
  | true =>
    rw [Argument.payload_of_isBlank blank]
    exact onlyRefused_error _
  | false =>
    obtain ⟨body, passed⟩ := Argument.exists_payload_of_not_isBlank blank
    rw [passed]
    exact nofun

theorem onlyRefused_optional (what : Text) (given : Option Text) :
    OnlyRefused (given.mapM (Argument.value what)) := by
  cases given with
  | none => exact nofun
  | some text =>
    intro failure failed
    cases checked : Argument.value what text with
    | error fault =>
      simp only [Option.mapM_some, checked] at failed
      cases failed
      exact onlyRefused_value what text _ checked
    | ok text => simp [checked] at failed

/-- A check that fails is answered for by its argument. -/
theorem isAccountable_bind {check : Result β} {next : β → Result (Request α)}
    (refuses : OnlyRefused check)
    (passes : ∀ value, (checked (next value)).IsAccountable) :
    (checked (check >>= next)).IsAccountable := by
  cases result : check with
  | error failure =>
    obtain ⟨fault, rfl⟩ := refuses failure result
    exact .refused fault
  | ok value => exact passes value

end Request

/-! ### Operations -/

/-- A step of a transaction is checked against its state before anything is sent. -/
theorem Transaction.isAccountable_request (transaction : Transaction) (action : Action) :
    (transaction.request action).IsAccountable := by
  rcases transaction.command_cases action with ⟨command, made, sends, -⟩ | ⟨-, fault, failed⟩
  · -- every step that a transaction can take is confirmed in known words
    have known : transaction.kind.resource.confirmation? action.phase ≠ none := by
      rw [confirmation?_eq]
      exact nofun
    have worded : command.IsWorded := by
      cases sends <;> cases action <;> simp [Action.line, Action.verb]
    rw [request, made]
    exact Request.isAccountable_step worded known
  · rw [request, failed]
    exact .refused fault

/-- The requests that a client can make, whatever it puts into them: references may come without
a check, and a transaction may be in any state. -/
inductive Request.IsMade : {α : Type} → Request α → Prop
  | level : IsMade Instance.level
  | sockets : IsMade Instance.sockets
  | info : IsMade Info.request
  | errors : IsMade Instance.errors
  | backendErrors (backend : BackendId) (side : ErrorSide) :
    IsMade (Instance.backendErrors backend side)
  | listAcls : IsMade Acl.list
  | aclEntries (id : PatternRef) : IsMade (Acl.entries id)
  | searchAcl (id : PatternRef) (value : Text) : IsMade (Acl.search id value)
  | addToAcl (id : PatternRef) (value : Text) : IsMade (Acl.add id value)
  | deleteFromAcl (id : PatternRef) (value : Text) : IsMade (Acl.delete id value)
  | clearAcl (id : PatternRef) : IsMade (Acl.clear id)
  | listMaps : IsMade Map.list
  | mapEntries (id : PatternRef) : IsMade (Map.entries id)
  | searchMap (id : PatternRef) (key : Text) : IsMade (Map.search id key)
  | addToMap (id : PatternRef) (key value : Text) : IsMade (Map.add id key value)
  | addAllToMap (id : PatternRef) (payload : Text) : IsMade (Map.addEntries id payload)
  | setInMap (id : PatternRef) (key value : Text) : IsMade (Map.set id key value)
  | deleteFromMap (id : PatternRef) (key : Text) : IsMade (Map.delete id key)
  | clearMap (id : PatternRef) : IsMade (Map.clear id)
  | prepare (kind : PatternKind) (id : PatternRef) : IsMade (VersionedUpdate.prepare kind id)
  | addToVersion (update : VersionedUpdate) (payload : Text) : IsMade (update.add payload)
  | commitVersion (update : VersionedUpdate) : IsMade update.commit
  | listFiles (kind : FileKind) : IsMade (StoredFile.list kind)
  | deleteFile (kind : FileKind) (name : Text) : IsMade (StoredFile.delete kind name)
  | readCertificate (name : Text) : IsMade (CertificateDetail.request name)
  | readCaFile (name : Text) : IsMade (CaCertificate.request name)
  | readCrlFile (name : Text) : IsMade (RevocationList.request name)
  | transact (transaction : Transaction) (action : Transaction.Action) :
    IsMade (transaction.request action)
  | listCrtLists : IsMade CrtList.list
  | crtListEntries (list : Text) : IsMade (CrtList.entries list)
  | addToCrtList (list : Text) (entry : CrtListEntry) : IsMade (CrtList.add list entry)
  | deleteFromCrtList (list entry : Text) : IsMade (CrtList.delete list entry)
  | listOcspResponses : IsMade OcspResponse.list
  | ocspResponse (id : Text) : IsMade (OcspResponse.request id)
  | setOcspResponse (base64 : Text) : IsMade (OcspResponse.set base64)
  | updateOcspResponse (certificate : Text) : IsMade (OcspResponse.update certificate)
  | listTables : IsMade StickTable.list
  | tableEntries (table : Text) (filter : Option Text) : IsMade (StickTable.entries table filter)
  | acmeStatus : IsMade AcmeCertificate.status
  | acmeRenew (certificate : Text) : IsMade (AcmeCertificate.renew certificate)
  | serverStates (backend : Option Text) : IsMade (ServerStateRow.list backend)
  | setServerState (server : ServerRef) (state : ServerState) : IsMade (server.setState state)
  | setServerWeight (server : ServerRef) (weight : UInt16) : IsMade (server.setWeight weight)
  | setServerAddress (server : ServerRef) (address : Text) (port : Option UInt16) :
    IsMade (server.setAddress address port)

namespace Request

/-- Every request can account for its failures. -/
theorem IsMade.isAccountable {α : Type} {request : Request α} (made : request.IsMade) :
    request.IsAccountable := by
  -- in each case the arguments are checked in turn, and then one of a few kinds of request is made
  cases made with
  | level => exact isAccountable_query (by simp [Command.showLevel]) Level.onlyUnread_read
  | sockets => exact isAccountable_query (by simp [Command.showSockets]) fun _ => onlyUnread_ok _
  | info => exact isAccountable_query (by simp [Command.showInfo]) Info.onlyUnread_read
  | errors =>
    exact isAccountable_query (by simp [Command.showErrors]) Instance.onlyUnread_readErrorTotal
  | backendErrors backend side =>
    have worded : (Command.showBackendErrors backend side).IsWorded := by
      unfold Command.showBackendErrors
      split <;> simp
    simp only [Instance.backendErrors]
    split
    · exact isAccountable_bind (onlyRefused_name _ _) fun _ =>
        isAccountable_query worded Instance.onlyUnread_readErrorTotal
    · exact isAccountable_query worded Instance.onlyUnread_readErrorTotal
  | listAcls =>
    exact isAccountable_query (by simp [Command.showPatterns]) fun _ => onlyUnread_ok _
  | aclEntries id =>
    refine isAccountable_about _ (isAccountable_query ?_ fun _ => onlyUnread_ok _)
    simp [Command.showPatternEntries, Command.onPatterns]
  | searchAcl id value =>
    refine isAccountable_bind (onlyRefused_value _ _) fun value => ?_
    refine isAccountable_lookup ?_ _ _ Acl.onlyUnread_readMatch
    simp [Command.getPattern, Command.onPattern]
  | addToAcl id value =>
    refine isAccountable_bind (onlyRefused_value _ _) fun value => isAccountable_run ?_
    simp [Command.addPattern, Command.onPattern]
  | deleteFromAcl id value =>
    refine isAccountable_bind (onlyRefused_value _ _) fun value => isAccountable_run ?_
    simp [Command.deletePattern, Command.onPattern]
  | clearAcl id =>
    exact isAccountable_run (by simp [Command.clearPatterns, Command.onPatterns])
  | listMaps =>
    exact isAccountable_query (by simp [Command.showPatterns]) fun _ => onlyUnread_ok _
  | mapEntries id =>
    refine isAccountable_about _ (isAccountable_query ?_ fun _ => onlyUnread_ok _)
    simp [Command.showPatternEntries, Command.onPatterns]
  | searchMap id key =>
    refine isAccountable_bind (onlyRefused_value _ _) fun key => ?_
    refine isAccountable_lookup ?_ _ _ Map.onlyUnread_readMatch
    simp [Command.getPattern, Command.onPattern]
  | addToMap id key value =>
    refine isAccountable_bind (onlyRefused_value _ _) fun key =>
      isAccountable_bind (onlyRefused_value _ _) fun value => isAccountable_run ?_
    simp [Command.addMapping]
  | addAllToMap id payload =>
    refine isAccountable_bind (onlyRefused_payload _ _) fun body => isAccountable_run ?_
    simp [Command.addMappings]
  | setInMap id key value =>
    refine isAccountable_bind (onlyRefused_value _ _) fun key =>
      isAccountable_bind (onlyRefused_value _ _) fun value =>
        isAccountable_about _ (isAccountable_run ?_)
    simp [Command.setMapping]
  | deleteFromMap id key =>
    refine isAccountable_bind (onlyRefused_value _ _) fun key => isAccountable_run ?_
    simp [Command.deletePattern, Command.onPattern]
  | clearMap id =>
    exact isAccountable_run (by simp [Command.clearPatterns, Command.onPatterns])
  | prepare kind id =>
    refine isAccountable_confirmed ?_ (by cases kind <;> exact nofun)
      fun answer => (VersionedUpdate.onlyUnread_readVersion answer).map _
    simp [Command.preparePatterns, Command.onPatterns]
  | addToVersion update payload =>
    refine isAccountable_bind (onlyRefused_payload _ _) fun body =>
      isAccountable_step ?_ (by cases update.kind <;> exact nofun)
    simp [Command.addVersioned]
  | commitVersion update =>
    refine isAccountable_step ?_ (by cases update.kind <;> exact nofun)
    simp [Command.commitVersion]
  | listFiles kind =>
    exact isAccountable_query (by simp [Command.showStore]) fun _ => onlyUnread_ok _
  | deleteFile kind name =>
    refine isAccountable_bind (onlyRefused_name _ _) fun name =>
      isAccountable_step ?_ (by cases kind <;> exact nofun)
    simp [Command.deleteStored, Command.onStored]
  | readCertificate name =>
    refine isAccountable_bind (onlyRefused_name _ _) fun name =>
      isAccountable_about _ (isAccountable_query ?_ CertificateDetail.onlyUnread_read)
    simp [Command.showStored, Command.onStored]
  | readCaFile name =>
    refine isAccountable_bind (onlyRefused_name _ _) fun name =>
      isAccountable_about _ (isAccountable_query ?_ CaCertificate.onlyUnread_readAll)
    simp [Command.showStored, Command.onStored]
  | readCrlFile name =>
    refine isAccountable_bind (onlyRefused_name _ _) fun name =>
      isAccountable_about _ (isAccountable_query ?_ RevocationList.onlyUnread_readAll)
    simp [Command.showStored, Command.onStored]
  | transact transaction action => exact transaction.isAccountable_request action
  | listCrtLists =>
    exact isAccountable_query (by simp [Command.showCrtLists]) fun _ => onlyUnread_ok _
  | crtListEntries list =>
    refine isAccountable_bind (onlyRefused_name _ _) fun list =>
      isAccountable_query ?_ fun _ => onlyUnread_ok _
    simp [Command.showCrtListEntries]
  | addToCrtList list entry =>
    refine isAccountable_bind (onlyRefused_name _ _) fun list =>
      isAccountable_bind (onlyRefused_name _ _) fun certificate => ?_
    -- a filter with white space in it is refused
    split
    · exact .refused _
    · refine isAccountable_bind (onlyRefused_value _ _) fun line => isAccountable_step ?_ nofun
      simp [Command.addCrtListEntry]
  | deleteFromCrtList list entry =>
    refine isAccountable_bind (onlyRefused_name _ _) fun list =>
      isAccountable_bind (onlyRefused_name _ _) fun entry => isAccountable_step ?_ nofun
    simp [Command.deleteCrtListEntry]
  | listOcspResponses =>
    exact isAccountable_query (by simp [Command.showOcspResponses]) fun _ => onlyUnread_ok _
  | ocspResponse id =>
    refine isAccountable_bind (onlyRefused_name _ _) fun id =>
      isAccountable_about _ (isAccountable_query ?_ OcspResponse.onlyUnread_read)
    simp [Command.showOcspResponse]
  | setOcspResponse base64 =>
    refine isAccountable_bind (onlyRefused_payload _ _) fun body => isAccountable_step ?_ nofun
    simp [Command.setOcspResponse]
  | updateOcspResponse certificate =>
    refine isAccountable_bind (onlyRefused_name _ _) fun name => isAccountable_run ?_
    simp [Command.updateOcspResponse]
  | listTables =>
    exact isAccountable_query (by simp [Command.showTables]) fun _ => onlyUnread_ok _
  | tableEntries table filter =>
    refine isAccountable_bind (onlyRefused_name _ _) fun table =>
      isAccountable_bind (onlyRefused_optional _ _) fun filter =>
        isAccountable_about _ (isAccountable_query ?_ fun _ => onlyUnread_ok _)
    cases filter <;> simp [Command.showTableEntries]
  | acmeStatus =>
    exact isAccountable_query (by simp [Command.acmeStatus]) AcmeCertificate.onlyUnread_readAll
  | acmeRenew certificate =>
    refine isAccountable_bind (onlyRefused_name _ _) fun name => isAccountable_run ?_
    simp [Command.acmeRenew]
  | serverStates backend =>
    refine isAccountable_bind (onlyRefused_optional _ _) fun backend =>
      isAccountable_query ?_ ServerStateRow.onlyUnread_readAll
    cases backend <;> simp [Command.showServersState]
  | setServerState server state =>
    exact isAccountable_about _ (isAccountable_run (by simp [Command.setServerState]))
  | setServerWeight server weight =>
    simp only [ServerRef.setWeight]
    -- a weight that is too large is refused
    split
    · exact .refused _
    · exact isAccountable_about _ (isAccountable_run (by simp [Command.setServerWeight]))
  | setServerAddress server address port =>
    refine isAccountable_bind (onlyRefused_name _ _) fun address =>
      isAccountable_about _ (isAccountable_run ?_)
    cases port <;> simp [Command.setServerAddress]

end Request

end ProxyControl
