import ProxyControl.Pattern.Acl
import ProxyControl.Pattern.Map
import ProxyControl.Proofs.Argument
import ProxyControl.Proofs.Dispatch.Report
import ProxyControl.Proofs.Frame.Refusal
import ProxyControl.Proofs.Request.Query
import ProxyControl.Server.State
import ProxyControl.StickTable
import ProxyControl.Store.CaFile
import ProxyControl.Store.Certificate
import ProxyControl.Store.CrlFile
import ProxyControl.Store.Ocsp

/-!
# Missing things

An operation about one thing takes a refusal for the news that the thing is missing, if the refusal
has one of three phrases in it. Other refusals are reported as they are. A proxy that does not know
the command itself uses one of the phrases too, so it is taken to miss the thing.
-/
namespace ProxyControl

open Text

namespace Request

variable {α β : Type} {what : Text} {command : Command} {request : Request α}

/-- The words by which a thing is said to be missing. -/
def missingPhrases : List Text := ["not found", "unknown", "can't find"]

/-- One of the phrases stands in the message, in capital letters or small ones. -/
def MentionsMissing (message : Text) : Prop :=
  ∃ phrase ∈ missingPhrases, phrase <:+: lowercase message

theorem refersToMissing_iff {message : Text} :
    refersToMissing message = true ↔ MentionsMissing message := by
  simp only [refersToMissing, MentionsMissing, missingPhrases, Bool.or_eq_true, contains_iff,
    List.mem_cons, List.not_mem_nil, or_false, exists_eq_or_imp, exists_eq_left, or_assoc]

/-- A request that reports each refusal of its command as one for want of the thing. -/
def Seeks (request : Request α) (what : Text) : Prop :=
  ∀ command ∈ request.command?, ∀ (send : Command → Result Text) (answer : Text)
    (refusal : Refusal), send command = .ok answer → Frame.answerRefusal? answer = some refusal →
      request.perform send = .error (asNotFound what (refusal.failure command.text answer))

theorem seeks_refused (failure : Failure) : (refused failure : Request α).Seeks what := nofun

theorem seeks_about_query (read : Text → Result α) :
    (about what (query command read)).Seeks what := by
  rintro _ ⟨rfl⟩ send answer refusal answered marked
  rw [perform_about_query what answered, perform_query_of_some answered marked]
  rfl

theorem seeks_about_run : (about what (run command)).Seeks what := seeks_about_query _

theorem seeks_lookup (key : Text) (read : Text → Result (Option α)) :
    (lookup command what key read).Seeks what := by
  rintro _ ⟨rfl⟩ send answer refusal answered marked
  rw [lookup, perform, answered]
  simp only [Except.bind, accepted, marked]
  rfl

/-- A check that fails leaves nothing to be refused. -/
theorem seeks_bind {check : Result β} {next : β → Result (Request α)}
    (passes : ∀ value, check = .ok value → (checked (next value)).Seeks what) :
    (checked (check >>= next)).Seeks what := by
  cases checks : check with
  | error failure => exact seeks_refused failure
  | ok value => exact passes value checks

end Request

/-! ### Inquiries -/

/-- The operations about one thing. -/
inductive Inquiry : Type → Type
  | aclEntries (id : PatternRef) : Inquiry (List PatternEntry)
  | searchAcl (id : PatternRef) (value : Text) : Inquiry AclMatch
  | mapEntries (id : PatternRef) : Inquiry (List PatternEntry)
  | searchMap (id : PatternRef) (key : Text) : Inquiry MapMatch
  | setInMap (id : PatternRef) (key value : Text) : Inquiry Unit
  | certificate (name : Text) : Inquiry CertificateDetail
  | caFile (name : Text) : Inquiry (List CaCertificate)
  | crlFile (name : Text) : Inquiry (List RevocationList)
  | ocspResponse (id : Text) : Inquiry OcspResponse
  | tableEntries (table : Text) (filter : Option Text) : Inquiry (List StickEntry)
  | setServerState (server : ServerRef) (state : ServerState) : Inquiry Unit
  | setServerWeight (server : ServerRef) (weight : UInt16) : Inquiry Unit
  | setServerAddress (server : ServerRef) (address : Text) (port : Option UInt16) : Inquiry Unit

namespace Inquiry

variable {α : Type}

def request : Inquiry α → Request α
  | .aclEntries id => Acl.entries id
  | .searchAcl id value => Acl.search id value
  | .mapEntries id => Map.entries id
  | .searchMap id key => Map.search id key
  | .setInMap id key value => Map.set id key value
  | .certificate name => CertificateDetail.request name
  | .caFile name => CaCertificate.request name
  | .crlFile name => RevocationList.request name
  | .ocspResponse id => OcspResponse.request id
  | .tableEntries table filter => StickTable.entries table filter
  | .setServerState server state => server.setState state
  | .setServerWeight server weight => server.setWeight weight
  | .setServerAddress server address port => server.setAddress address port

/-- What messages call the thing. -/
def thing : Inquiry α → Text
  | .aclEntries id | .searchAcl id _ => Acl.title id
  | .mapEntries id | .searchMap id _ => Map.title id
  | .setInMap id key _ => Map.keyTitle id key
  | .certificate name => "certificate " ++ name
  | .caFile name => "CA file " ++ name
  | .crlFile name => "CRL file " ++ name
  | .ocspResponse id => "OCSP response " ++ id
  | .tableEntries table _ => "table " ++ table
  | .setServerState server _ | .setServerWeight server _ | .setServerAddress server _ _ =>
    server.title

open Request

theorem seeks_thing (inquiry : Inquiry α) : inquiry.request.Seeks inquiry.thing := by
  cases inquiry with
  | aclEntries id => exact seeks_about_query _
  | searchAcl id value => exact seeks_bind fun value _ => seeks_lookup _ _
  | mapEntries id => exact seeks_about_query _
  | searchMap id key => exact seeks_bind fun key _ => seeks_lookup _ _
  | setInMap id key value =>
    refine seeks_bind fun checked passed => seeks_bind fun value _ => ?_
    obtain ⟨rfl, -⟩ := Argument.value_eq_ok passed
    exact seeks_about_run
  | certificate name =>
    refine seeks_bind fun checked passed => ?_
    obtain ⟨rfl, -⟩ := Argument.name_eq_ok passed
    exact seeks_about_query _
  | caFile name =>
    refine seeks_bind fun checked passed => ?_
    obtain ⟨rfl, -⟩ := Argument.name_eq_ok passed
    exact seeks_about_query _
  | crlFile name =>
    refine seeks_bind fun checked passed => ?_
    obtain ⟨rfl, -⟩ := Argument.name_eq_ok passed
    exact seeks_about_query _
  | ocspResponse id =>
    refine seeks_bind fun checked passed => ?_
    obtain ⟨rfl, -⟩ := Argument.name_eq_ok passed
    exact seeks_about_query _
  | tableEntries table filter =>
    refine seeks_bind fun checked passed => seeks_bind fun filter _ => ?_
    obtain ⟨rfl, -⟩ := Argument.name_eq_ok passed
    exact seeks_about_query _
  | setServerState server state => exact seeks_about_run
  | setServerWeight server weight =>
    simp only [request, ServerRef.setWeight]
    -- a weight that is too large is refused
    split
    · exact seeks_refused _
    · exact seeks_about_run
  | setServerAddress server address port =>
    exact seeks_bind fun address _ => seeks_about_run

end Inquiry

/-! ### Unknown commands -/

/-- A proxy that does not know a command says so behind the marker. -/
theorem Frame.answerRefusal?_of_unknownCommand {severity : Nat} (small : severity ≤ 3)
    (rest : Text) :
    ∃ message, answerRefusal? ('[' :: Nat.digitChar severity :: ("]: Unknown command" ++ rest)) =
        some ⟨severity, "Unknown command" ++ message⟩ := by
  obtain ⟨message, marked⟩ : ∃ message, answerRefusal?
      ('[' :: Nat.digitChar severity :: ']' :: ':' :: ' ' :: ("Unknown command" ++ rest)) =
        some ⟨severity, "Unknown command" ++ message⟩ :=
    answerRefusal?_of_marker small (by simp [ofString_eq, isLineBreak]) (by simp [ofString_eq])
      (by simp [ofString_eq, isSpace]) (by simp [ofString_eq, isSpace]) rest
  refine ⟨message, ?_⟩
  rw [← marked]
  simp [ofString_eq]

/-- A refusal is reported as it is, or as the lack of the thing if it mentions that something is
missing. The latter goes for every command that the proxy does not know. -/
theorem takes_unknown_for_missing {α : Type} (inquiry : Inquiry α) {command : Command}
    (asked : inquiry.request.command? = some command) {send : Command → Result Text}
    {answer : Text} (answered : send command = .ok answer) :
    (∀ severity message, Frame.answerRefusal? answer = some ⟨severity, message⟩ →
      (Request.MentionsMissing message →
        inquiry.request.perform send = .error (.notFound inquiry.thing answer command.text)) ∧
      (¬ Request.MentionsMissing message →
        inquiry.request.perform send =
          .error (.protocol (some severity) message answer command.text))) ∧
    ∀ severity ≤ 3, ∀ rest,
      answer = '[' :: Nat.digitChar severity :: ("]: Unknown command" ++ rest) →
        inquiry.request.perform send = .error (.notFound inquiry.thing answer command.text) := by
  have reported {severity : Nat} {message : Text}
      (marked : Frame.answerRefusal? answer = some ⟨severity, message⟩) :
      inquiry.request.perform send = .error (Request.asNotFound inquiry.thing
        (.protocol (some severity) message answer command.text)) :=
    inquiry.seeks_thing command asked send answer _ answered marked
  have missing {severity : Nat} {message : Text}
      (marked : Frame.answerRefusal? answer = some ⟨severity, message⟩)
      (mentioned : Request.MentionsMissing message) :
      inquiry.request.perform send = .error (.notFound inquiry.thing answer command.text) := by
    rw [reported marked, Request.asNotFound, if_pos (Request.refersToMissing_iff.mpr mentioned)]
  refine ⟨fun severity message marked => ⟨missing marked, fun unmentioned => ?_⟩, ?_⟩
  · rw [reported marked, Request.asNotFound,
      if_neg fun refers => unmentioned (Request.refersToMissing_iff.mp refers)]
  · rintro severity small rest rfl
    obtain ⟨message, marked⟩ := Frame.answerRefusal?_of_unknownCommand small rest
    refine missing marked ⟨"unknown", by simp [Request.missingPhrases], [],
      lowercase (" command" ++ message), ?_⟩
    simp [lowercase, ofString_eq]

/-- A refusal that speaks of permission is reported as it is. -/
theorem takes_unknown_for_missing_permission :
    Dispatcher.usual.perform (Dispatch.saying "[3]: Permission denied\n") (Acl.entries (.id 1)) =
      .error (.protocol (some 3) "Permission denied" "[3]: Permission denied\n" "show acl #1") := by
  have answered : Dispatcher.usual.send (Dispatch.saying "[3]: Permission denied\n")
      (.showPatternEntries .acl (.id 1)) = .ok "[3]: Permission denied\n" := by decide +kernel
  have unmentioned : ¬ Request.MentionsMissing "Permission denied" := by
    rw [← Request.refersToMissing_iff]
    decide +kernel
  have text : (Command.showPatternEntries .acl (.id 1)).text = "show acl #1" := by decide +kernel
  rw [← text]
  exact ((takes_unknown_for_missing (.aclEntries (.id 1)) rfl answered).1 3 "Permission denied"
    (by decide +kernel)).2 unmentioned

/-- A proxy that does not know the command is taken not to know the list. -/
theorem misses_acl_of_unknown_command :
    Dispatcher.usual.perform
        (Dispatch.saying "[3]: Unknown command. Please enter one of the following commands only :")
        (Acl.entries (.id 1)) =
      .error (.notFound "ACL #1"
        "[3]: Unknown command. Please enter one of the following commands only :"
        "show acl #1") := by
  decide +kernel

end ProxyControl
