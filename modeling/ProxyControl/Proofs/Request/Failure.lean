import ProxyControl.Proofs.Dispatch.Sending
import ProxyControl.Proofs.Request.Accountable

/-!
# What a failure tells

A request that fails over its arguments has sent nothing. Any other failure names the command
that was sent, in the words in which the request put it, and one that blames the answer keeps
the answer as it came.
-/
namespace ProxyControl

open Text Dispatch

/-- A transport whose failures name the command that it was handed. -/
def Dispatch.NamesCommands (transport : Transport) : Prop :=
  ∀ history handover delay failure, transport history handover = .after delay (.error failure) →
    ∃ endpoint source, failure = .transport endpoint source handover.attempt.command.text

/-- What the result of a request tells its caller about what was sent. -/
structure Request.Tells {α : Type} (request : Request α) (dispatcher : Dispatcher)
    (transport : Transport) (result : Result α) : Prop where
  few : (dispatcher.handovers transport request).length ≤ 2
  /-- Whatever is handed over twice is one attempt and that attempt made again. -/
  one : ∀ first second, dispatcher.handovers transport request = [first, second] →
    ∃ instant, second.attempt = first.attempt.again instant
  /-- The arguments are at fault if and only if nothing was handed over. -/
  refused : (∃ fault, result = .error (.validation fault)) ↔
    dispatcher.handovers transport request = []
  /-- Any other failure names the command that was handed over. -/
  named : ∀ failure, result = .error failure → (∀ fault, failure ≠ .validation fault) →
    dispatcher.handovers transport request ≠ [] ∧
      ∀ handover ∈ dispatcher.handovers transport request,
        failure.command? = some handover.attempt.command.text
  /-- The name has neither the address nor the directive that the command stands behind. -/
  bare : ∀ handover ∈ dispatcher.handovers transport request,
    handover.attempt.command.text ≠ [] ∧ handover.attempt.command.text.head? ≠ some '@' ∧
      ¬ ("set severity-output number" : Text) <+: handover.attempt.command.text ∧
      handover.attempt.command.wire = handover.attempt.command.address ++
        "set severity-output number" ++ ";" ++ handover.attempt.command.text ++
        handover.attempt.command.tail
  /-- An answer that a failure blames is one that the transport gave. -/
  verbatim : ∀ failure response, result = .error failure → failure.response? = some response →
    ∃ trip ∈ dispatcher.trips transport request, ∃ delay, trip.reply = .after delay (.ok response)

namespace Request

variable {α : Type} {dispatcher : Dispatcher} {transport : Transport} {request : Request α}

/-- Where nothing is handed over, the arguments are at fault. -/
theorem perform_of_handovers_eq_nil (accountable : request.IsAccountable)
    (silent : dispatcher.handovers transport request = []) :
    ∃ fault, dispatcher.perform transport request = .error (.validation fault) := by
  cases accountable with
  | refused fault => exact ⟨fault, rfl⟩
  | @ask command read worded reads =>
    rcases Dispatcher.send_cases command read with
      ⟨-, unrouted⟩ | ⟨trip, inTrips, -⟩ | ⟨handed, -⟩
    · rw [Dispatcher.perform, perform, unrouted]
      exact ⟨_, rfl⟩
    · rw [Dispatcher.trips, silent] at inTrips
      cases inTrips
    · exact absurd silent handed

/-- A failure goes back to the arguments, the transport, the time, or the answer. -/
theorem failure_cases (accountable : request.IsAccountable) (names : NamesCommands transport)
    {failure : Failure} (failed : dispatcher.perform transport request = .error failure) :
    (dispatcher.handovers transport request = [] ∧ ∃ fault, failure = .validation fault) ∨
    (dispatcher.handovers transport request ≠ [] ∧
      (∃ command ∈ request.command?, failure.command? = some command.text) ∧
      ∀ response ∈ failure.response?, ∃ trip ∈ dispatcher.trips transport request, ∃ delay,
        trip.reply = .after delay (.ok response)) := by
  cases accountable with
  | refused fault =>
    cases failed
    exact .inl ⟨rfl, fault, rfl⟩
  | @ask command read worded reads =>
    rw [Dispatcher.perform, perform] at failed
    rcases Dispatcher.send_cases command read with
      ⟨silent, unrouted⟩ | ⟨trip, inTrips, delay, replied⟩ | ⟨handed, late⟩
    · rw [unrouted] at failed
      cases failed
      exact .inl ⟨silent, _, rfl⟩
    · right
      have handed : trip.handover ∈ dispatcher.handovers transport (.ask command read) := by
        rw [← Dispatcher.map_handover_trips]
        exact List.mem_map_of_mem inTrips
      refine ⟨List.ne_nil_of_mem handed, ?_⟩
      cases sent : dispatcher.send transport command with
      | error broken =>
        -- the transport has failed, and says for which command
        rw [sent] at failed replied
        cases failed
        obtain ⟨earlier, reply⟩ := reply_of_mem_tripsFrom inTrips
        obtain ⟨endpoint, source, rfl⟩ := names _ _ _ _ (reply.symm.trans replied)
        obtain ⟨other, asked, text⟩ := Dispatcher.text_of_mem_handovers handed
        exact ⟨⟨other, asked, congrArg some text⟩, by simp [Failure.response?]⟩
      | ok answer =>
        rw [sent] at failed replied
        have accounts := reads answer failure failed
        refine ⟨⟨command, rfl, accounts.command⟩, fun response blamed => ?_⟩
        rw [accounts.response response blamed]
        exact ⟨trip, inTrips, delay, replied⟩
    · rw [late] at failed
      cases failed
      exact .inr ⟨handed, ⟨command, rfl, rfl⟩, by simp [Failure.response?]⟩

theorem IsAccountable.tells_perform (accountable : request.IsAccountable)
    (names : NamesCommands transport) :
    request.Tells dispatcher transport (dispatcher.perform transport request) := by
  constructor
  case few => exact Dispatcher.length_handovers_le request
  case one => exact fun first second => Dispatcher.handovers_eq_pair
  case refused =>
    constructor
    · rintro ⟨fault, failed⟩
      rcases failure_cases accountable names failed with ⟨silent, -⟩ | ⟨-, ⟨command, -, named⟩, -⟩
      · exact silent
      · cases named
    · exact perform_of_handovers_eq_nil accountable
  case named =>
    intro failure failed notRefused
    rcases failure_cases accountable names failed with
      ⟨-, fault, same⟩ | ⟨handed, ⟨command, asked, named⟩, -⟩
    · exact absurd same (notRefused fault)
    · refine ⟨handed, fun handover member => ?_⟩
      obtain ⟨other, asked', text⟩ := Dispatcher.text_of_mem_handovers member
      rw [named, text, Option.mem_unique asked asked']
  case bare =>
    intro handover member
    obtain ⟨command, asked, text⟩ := Dispatcher.text_of_mem_handovers member
    rw [text]
    cases accountable with
    | refused fault => cases asked
    | ask worded reads =>
      cases asked
      obtain ⟨c, first, letter⟩ := worded.letter
      refine ⟨?_, ?_, ?_, ?_⟩
      · rintro empty
        rw [empty] at first
        cases first
      · intro at'
        rw [Option.mem_unique first at'] at letter
        cases letter
      · rw [ofString_eq]
        exact worded.departs.not_prefix
      · rw [← text]
        rfl
  case verbatim =>
    intro failure response failed blamed
    rcases failure_cases accountable names failed with ⟨-, fault, rfl⟩ | ⟨-, -, answered⟩
    · cases blamed
    · exact answered response blamed

end Request

/-- Whatever is asked, and whatever the far end makes of it, the result of a request tells what
was sent. -/
theorem tells_what_was_sent {α : Type} (dispatcher : Dispatcher) {transport : Transport}
    (names : NamesCommands transport) {request : Request α} (made : request.IsMade) :
    request.Tells dispatcher transport (dispatcher.perform transport request) :=
  made.isAccountable.tells_perform names

/-- A transport that fails at first and then answers a search that found nothing. -/
def Dispatch.reluctant : Transport := fun history handover =>
  match history with
  | [] => .after 1 (.error
      (handover.attempt.endpoint.failure handover.attempt.command.text "broken pipe"))
  | _ => .after 1 (.ok "type=ip, case=sensitive, match=no")

/-- A search that is sent twice and finds nothing gives back the second answer. -/
theorem tells_what_was_sent_search :
    NamesCommands reluctant ∧
      Dispatcher.usual.perform reluctant (Acl.search (.id 3) "10.0.0.1") =
        .error (.notFound "\"10.0.0.1\" in ACL #3" "type=ip, case=sensitive, match=no"
          "get acl #3 10.0.0.1") ∧
      (Acl.search (.id 3) "10.0.0.1").Tells .usual reluctant
        (Dispatcher.usual.perform reluctant
          (Acl.search (.id 3) "10.0.0.1")) :=
  have names : NamesCommands reluctant := by
    intro history handover delay failure replied
    cases history with
    | nil =>
      cases replied
      exact ⟨_, _, rfl⟩
    | cons first rest => cases replied
  ⟨names, by decide +kernel, tells_what_was_sent .usual names (.searchAcl _ _)⟩

end ProxyControl
