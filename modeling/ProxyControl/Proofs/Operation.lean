import ProxyControl.Acme
import ProxyControl.Instance.Info
import ProxyControl.Pattern.Acl
import ProxyControl.Pattern.Map
import ProxyControl.Pattern.VersionedUpdate
import ProxyControl.Proofs.Command.Line
import ProxyControl.Proofs.Store.Lifecycle
import ProxyControl.Server.State
import ProxyControl.StickTable
import ProxyControl.Store.CaFile
import ProxyControl.Store.CrlFile
import ProxyControl.Store.CrtList
import ProxyControl.Store.Ocsp

/-!
# All operations

A catalogue of everything that can be asked of the proxy, with every argument that a caller can
give. Each operation either refuses its arguments or asks with one command, whatever the
arguments are.
-/
namespace ProxyControl

open Text

/-! ### Requests -/

/-- A request whose command, if it has one, is read as one. -/
def Request.IsOne {α : Type} (request : Request α) : Prop :=
  ∀ command ∈ request.command?, command.IsOne

namespace Request

variable {α : Type} {command : Command}

@[simp] theorem isOne_refused (failure : Failure) : (refused failure : Request α).IsOne := by
  simp [IsOne, command?]

@[simp] theorem isOne_ask (read : Text → Result α) : (ask command read).IsOne ↔ command.IsOne := by
  simp [IsOne, command?]

@[simp] theorem isOne_query (read : Text → Result α) :
    (query command read).IsOne ↔ command.IsOne :=
  isOne_ask _

@[simp] theorem isOne_run : (run command).IsOne ↔ command.IsOne := isOne_ask _

@[simp] theorem isOne_confirmed (resource : Resource) (phase : Phase) (read : Text → Result α) :
    (confirmed resource phase command read).IsOne ↔ command.IsOne :=
  isOne_ask _

@[simp] theorem isOne_step (resource : Resource) (phase : Phase) :
    (step resource phase command).IsOne ↔ command.IsOne :=
  isOne_ask _

@[simp] theorem isOne_lookup (container what : Text) (read : Text → Result (Option α)) :
    (lookup command container what read).IsOne ↔ command.IsOne :=
  isOne_ask _

@[simp] theorem isOne_about (what : Text) (request : Request α) :
    (about what request).IsOne ↔ request.IsOne := by
  cases request <;> rfl

@[simp] theorem checked_pure (request : Request α) : checked (pure request) = request := rfl

/-- A check that fails leaves nothing to be sent. -/
theorem isOne_bind {β : Type} {check : Result β} {next : β → Result (Request α)}
    (passes : ∀ value, check = .ok value → (checked (next value)).IsOne) :
    (checked (check >>= next)).IsOne := by
  cases checks : check with
  | error failure => exact isOne_refused failure
  | ok value => exact passes value checks

end Request

/-! ### The catalogue -/

/-- A transaction as it was opened, in any state. -/
def Transaction.IsOpened (transaction : Transaction) : Prop :=
  ∃ existing resource name opened, start existing resource name = .ok opened ∧
    ∃ state, transaction = { opened with state }

/-- The command for an action names the transaction's file as it was checked. -/
theorem Transaction.IsOpened.isOne {transaction : Transaction} (opened : transaction.IsOpened)
    {action : Transaction.Action} {command : Command}
    (made : transaction.command action = .ok command) : command.IsOne := by
  have named : IsLine transaction.name := by
    obtain ⟨existing, resource, name, first, started, state, rfl⟩ := opened
    obtain ⟨kind, -, checked, rfl⟩ := Transaction.start_eq_ok started
    exact Argument.isLine_of_name checked
  have line : IsLine (action.line transaction.kind transaction.name).text := by
    simp only [Transaction.Action.line, Command.ofText, isLine_append, named]
    cases action <;> simp [Transaction.Action.verb, Argument.breaksValue]
  rcases transaction.command_cases action with ⟨sent, same, sends, -⟩ | ⟨-, fault, failed⟩
  · obtain rfl := Except.ok.inj (same.symm.trans made)
    cases sends with
    | bare nothing => exact ⟨line, by simp [Transaction.Action.line, Command.ofText]⟩
    | block contents checked =>
      exact ⟨line, by simpa [Command.withPayload] using Argument.payload_eq_ok checked⟩
  · rw [made] at failed
    cases failed

/-- What can be asked for, by the type of the answer. -/
inductive Operation : Type → Type
  | level : Operation Level
  | sockets : Operation (List CliSocket)
  | info : Operation Info
  | errors : Operation UInt32
  | backendErrors (backend : BackendId) (side : ErrorSide) : Operation UInt32
  | listAcls : Operation (List PatternFile)
  | aclEntries (id : PatternRef) (made : id.IsChecked) : Operation (List PatternEntry)
  | searchAcl (id : PatternRef) (made : id.IsChecked) (value : Text) : Operation AclMatch
  | addToAcl (id : PatternRef) (made : id.IsChecked) (value : Text) : Operation Unit
  | deleteFromAcl (id : PatternRef) (made : id.IsChecked) (value : Text) : Operation Unit
  | clearAcl (id : PatternRef) (made : id.IsChecked) : Operation Unit
  | listMaps : Operation (List PatternFile)
  | mapEntries (id : PatternRef) (made : id.IsChecked) : Operation (List PatternEntry)
  | searchMap (id : PatternRef) (made : id.IsChecked) (key : Text) : Operation MapMatch
  | addToMap (id : PatternRef) (made : id.IsChecked) (key value : Text) : Operation Unit
  | addAllToMap (id : PatternRef) (made : id.IsChecked) (payload : Text) : Operation Unit
  | setInMap (id : PatternRef) (made : id.IsChecked) (key value : Text) : Operation Unit
  | deleteFromMap (id : PatternRef) (made : id.IsChecked) (key : Text) : Operation Unit
  | clearMap (id : PatternRef) (made : id.IsChecked) : Operation Unit
  | prepare (kind : PatternKind) (id : PatternRef) (made : id.IsChecked) :
      Operation VersionedUpdate
  | addToVersion (update : VersionedUpdate) (made : update.id.IsChecked) (payload : Text) :
      Operation Unit
  | commitVersion (update : VersionedUpdate) (made : update.id.IsChecked) : Operation Unit
  | listFiles (kind : FileKind) : Operation (List StoredFile)
  | deleteFile (kind : FileKind) (name : Text) : Operation Unit
  | readCertificate (name : Text) : Operation CertificateDetail
  | readCaFile (name : Text) : Operation (List CaCertificate)
  | readCrlFile (name : Text) : Operation (List RevocationList)
  | transact (transaction : Transaction) (opened : transaction.IsOpened)
      (action : Transaction.Action) : Operation Unit
  | listCrtLists : Operation (List Text)
  | crtListEntries (list : Text) : Operation (List CrtListEntry)
  | addToCrtList (list : Text) (entry : CrtListEntry) : Operation Unit
  | deleteFromCrtList (list entry : Text) : Operation Unit
  | listOcspResponses : Operation (List OcspCertificate)
  | ocspResponse (id : Text) : Operation OcspResponse
  | setOcspResponse (base64 : Text) : Operation Unit
  | updateOcspResponse (certificate : Text) : Operation Unit
  | listTables : Operation (List StickTable)
  | tableEntries (table : Text) (filter : Option Text) : Operation (List StickEntry)
  | acmeStatus : Operation (List AcmeCertificate)
  | acmeRenew (certificate : Text) : Operation Unit
  | serverStates (backend : Option Text) : Operation (List ServerStateRow)
  | setServerState (server : ServerRef) (made : server.IsChecked) (state : ServerState) :
      Operation Unit
  | setServerWeight (server : ServerRef) (made : server.IsChecked) (weight : UInt16) :
      Operation Unit
  | setServerAddress (server : ServerRef) (made : server.IsChecked) (address : Text)
      (port : Option UInt16) : Operation Unit

namespace Operation

def request {α : Type} : Operation α → Request α
  | .level => Instance.level
  | .sockets => Instance.sockets
  | .info => Info.request
  | .errors => Instance.errors
  | .backendErrors backend side => Instance.backendErrors backend side
  | .listAcls => Acl.list
  | .aclEntries id _ => Acl.entries id
  | .searchAcl id _ value => Acl.search id value
  | .addToAcl id _ value => Acl.add id value
  | .deleteFromAcl id _ value => Acl.delete id value
  | .clearAcl id _ => Acl.clear id
  | .listMaps => Map.list
  | .mapEntries id _ => Map.entries id
  | .searchMap id _ key => Map.search id key
  | .addToMap id _ key value => Map.add id key value
  | .addAllToMap id _ payload => Map.addEntries id payload
  | .setInMap id _ key value => Map.set id key value
  | .deleteFromMap id _ key => Map.delete id key
  | .clearMap id _ => Map.clear id
  | .prepare kind id _ => VersionedUpdate.prepare kind id
  | .addToVersion update _ payload => update.add payload
  | .commitVersion update _ => update.commit
  | .listFiles kind => StoredFile.list kind
  | .deleteFile kind name => StoredFile.delete kind name
  | .readCertificate name => CertificateDetail.request name
  | .readCaFile name => CaCertificate.request name
  | .readCrlFile name => RevocationList.request name
  | .transact transaction _ action => transaction.request action
  | .listCrtLists => CrtList.list
  | .crtListEntries list => CrtList.entries list
  | .addToCrtList list entry => CrtList.add list entry
  | .deleteFromCrtList list entry => CrtList.delete list entry
  | .listOcspResponses => OcspResponse.list
  | .ocspResponse id => OcspResponse.request id
  | .setOcspResponse base64 => OcspResponse.set base64
  | .updateOcspResponse certificate => OcspResponse.update certificate
  | .listTables => StickTable.list
  | .tableEntries table filter => StickTable.entries table filter
  | .acmeStatus => AcmeCertificate.status
  | .acmeRenew certificate => AcmeCertificate.renew certificate
  | .serverStates backend => ServerStateRow.list backend
  | .setServerState server _ state => server.setState state
  | .setServerWeight server _ weight => server.setWeight weight
  | .setServerAddress server _ address port => server.setAddress address port

open Argument Command Request

/-- Every operation asks with one command, or refuses. -/
theorem isOne_request {α : Type} (operation : Operation α) : operation.request.IsOne := by
  cases operation with
  | level => simp [request, Instance.level, showLevel, breaksValue]
  | sockets => simp [request, Instance.sockets, showSockets, breaksValue]
  | info => simp [request, Info.request, showInfo, breaksValue]
  | errors => simp [request, Instance.errors, showErrors, breaksValue]
  | backendErrors backend side =>
    simp only [request, Instance.backendErrors]
    split
    next name =>
      -- the check keeps the name as it is, so it is what the command is about
      refine isOne_bind fun checked passed => ?_
      obtain ⟨rfl, -⟩ := name_eq_ok passed
      refine (isOne_query _).mpr (isOne_showBackendErrors ?_ side)
      rintro other ⟨rfl⟩
      exact isLine_of_name passed
    next unnamed =>
      -- numbers and wildcards need no check
      refine (isOne_query _).mpr (isOne_showBackendErrors ?_ side)
      exact fun name same => (unnamed name same).elim
  | listAcls => simp [request, Acl.list, showPatterns, breaksValue]
  | aclEntries id made =>
    simp [request, Acl.entries, showPatternEntries, made.isLine, breaksValue]
  | searchAcl id made value =>
    refine isOne_bind fun value passed => ?_
    simp [getPattern, made.isLine, isLine_of_value passed, breaksValue]
  | addToAcl id made value =>
    refine isOne_bind fun value passed => ?_
    simp [addPattern, made.isLine, isLine_of_value passed, breaksValue]
  | deleteFromAcl id made value =>
    refine isOne_bind fun value passed => ?_
    simp [deletePattern, made.isLine, isLine_of_value passed, breaksValue]
  | clearAcl id made => simp [request, Acl.clear, clearPatterns, made.isLine, breaksValue]
  | listMaps => simp [request, Map.list, showPatterns, breaksValue]
  | mapEntries id made =>
    simp [request, Map.entries, showPatternEntries, made.isLine, breaksValue]
  | searchMap id made key =>
    refine isOne_bind fun key passed => ?_
    simp [getPattern, made.isLine, isLine_of_value passed, breaksValue]
  | addToMap id made key value =>
    refine isOne_bind fun key keyPassed => isOne_bind fun value valuePassed => ?_
    simp [addMapping, made.isLine, isLine_of_value keyPassed, isLine_of_value valuePassed,
      breaksValue]
  | addAllToMap id made payload =>
    refine isOne_bind fun body passed => ?_
    simp [addMappings, made.isLine, payload_eq_ok passed, breaksValue]
  | setInMap id made key value =>
    refine isOne_bind fun key keyPassed => isOne_bind fun value valuePassed => ?_
    simp [setMapping, made.isLine, isLine_of_value keyPassed, isLine_of_value valuePassed,
      breaksValue]
  | deleteFromMap id made key =>
    refine isOne_bind fun key passed => ?_
    simp [deletePattern, made.isLine, isLine_of_value passed, breaksValue]
  | clearMap id made => simp [request, Map.clear, clearPatterns, made.isLine, breaksValue]
  | prepare kind id made =>
    simp [request, VersionedUpdate.prepare, preparePatterns, made.isLine, breaksValue]
  | addToVersion update made payload =>
    refine isOne_bind fun body passed => ?_
    simp [addVersioned, made.isLine, payload_eq_ok passed, breaksValue]
  | commitVersion update made =>
    simp [request, VersionedUpdate.commit, Command.commitVersion, made.isLine, breaksValue]
  | listFiles kind => simp [request, StoredFile.list, showStore, breaksValue]
  | deleteFile kind name =>
    refine isOne_bind fun name passed => ?_
    simp [deleteStored, isLine_of_name passed, breaksValue]
  | readCertificate name =>
    refine isOne_bind fun name passed => ?_
    simp [showStored, isLine_of_name passed, breaksValue]
  | readCaFile name =>
    refine isOne_bind fun name passed => ?_
    simp [showStored, isLine_of_name passed, breaksValue]
  | readCrlFile name =>
    refine isOne_bind fun name passed => ?_
    simp [showStored, isLine_of_name passed, breaksValue]
  | transact transaction opened action =>
    refine isOne_bind fun command made => (isOne_step _ _).mpr ?_
    exact opened.isOne made
  | listCrtLists => simp [request, CrtList.list, showCrtLists, breaksValue]
  | crtListEntries list =>
    refine isOne_bind fun list passed => ?_
    simp [showCrtListEntries, isLine_of_name passed, breaksValue]
  | addToCrtList list entry =>
    refine isOne_bind fun list passed => isOne_bind fun certificate _ => ?_
    -- a filter with white space in it is refused
    split
    · exact isOne_refused _
    · refine isOne_bind fun line linePassed => ?_
      simp [addCrtListEntry, isLine_of_name passed, isBlock_of_value linePassed, breaksValue]
  | deleteFromCrtList list entry =>
    refine isOne_bind fun list listPassed => isOne_bind fun entry entryPassed => ?_
    simp [deleteCrtListEntry, isLine_of_name listPassed, isLine_of_name entryPassed, breaksValue]
  | listOcspResponses => simp [request, OcspResponse.list, showOcspResponses, breaksValue]
  | ocspResponse id =>
    refine isOne_bind fun id passed => ?_
    simp [showOcspResponse, isLine_of_name passed, breaksValue]
  | setOcspResponse base64 =>
    refine isOne_bind fun body passed => ?_
    simp [Command.setOcspResponse, payload_eq_ok passed, breaksValue]
  | updateOcspResponse certificate =>
    refine isOne_bind fun name passed => ?_
    simp [Command.updateOcspResponse, isLine_of_name passed, breaksValue]
  | listTables => simp [request, StickTable.list, showTables, breaksValue]
  | tableEntries table filter =>
    refine isOne_bind fun table tablePassed => isOne_bind fun filter filterPassed => ?_
    refine (isOne_about _ _).mpr ((isOne_query _).mpr ?_)
    exact isOne_showTableEntries (isLine_of_name tablePassed) (isLine_of_mapM_value filterPassed)
  | acmeStatus => simp [request, AcmeCertificate.status, Command.acmeStatus, breaksValue]
  | acmeRenew certificate =>
    refine isOne_bind fun name passed => ?_
    simp [Command.acmeRenew, isLine_of_name passed, breaksValue]
  | serverStates backend =>
    refine isOne_bind fun backend passed => (isOne_query _).mpr ?_
    exact isOne_showServersState (isLine_of_mapM_value passed)
  | setServerState server made state =>
    simp [request, ServerRef.setState, Command.setServerState, made.isLine, breaksValue]
  | setServerWeight server made weight =>
    simp only [request, ServerRef.setWeight]
    split
    · simp
    · simp [Command.setServerWeight, made.isLine, breaksValue]
  | setServerAddress server made address port =>
    refine isOne_bind fun address passed => ?_
    simp [isOne_setServerAddress made (isLine_of_name passed) port]

end Operation

end ProxyControl
