import ProxyControl.Proofs.Config.Validity
import ProxyControl.Proofs.Dispatch.AtMostTwice
import ProxyControl.Proofs.Dispatch.OneAtATime
import ProxyControl.Proofs.Dispatch.SingleCall

/-!
# Destinations

Which endpoint of a valid configuration a command ends up at. The socket of a role is the only
one, so a command for the master or for a certain worker has one way to go, wherever its socket
stands in the configuration. A command for a worker that is reached through the master says so
in front; all others travel as they are, and a command that has no way to go is not sent at all.
-/
namespace ProxyControl

open Dispatch

/-- Where a command for a target goes, and the worker it asks for there. -/
inductive Config.Leads (config : Config) : Target → Endpoint → Option UInt32 → Prop
  | master {path : Text} (master : config.masterSocket = some path) :
      Leads config .master (.master path) none
  | own {index : Nat} {socket : WorkerSocket} (found : config.sockets[index]? = some socket) :
      Leads config (.worker (socket.number index)) (.worker socket.path (socket.number index)) none
  | behindMaster {process : UInt32} {path : Text}
      (noSocket : ∀ (index : Nat) (socket : WorkerSocket), config.sockets[index]? = some socket →
        socket.number index ≠ process)
      (master : config.masterSocket = some path) :
      Leads config (.worker process) (.master path) (some process)
  | first {socket : WorkerSocket} {rest : List WorkerSocket}
      (sockets : config.sockets = socket :: rest) :
      Leads config .default (.worker socket.path (socket.number 0)) none
  | firstBehindMaster {path : Text} (noSocket : config.sockets = [])
      (master : config.masterSocket = some path) :
      Leads config .default (.master path) (some 1)

/-- A command as it is, or with a worker to pass it on to. -/
def Command.addressedTo (command : Command) : Option UInt32 → Command
  | none => command
  | some process => command.forwarded process

theorem Command.forwardedTo_addressedTo {command : Command} (plain : command.forwardedTo = none)
    (address : Option UInt32) : (command.addressedTo address).forwardedTo = address := by
  cases address with
  | none => exact plain
  | some process => rfl

theorem Dispatch.Route.toWorker?_eq_some_iff {endpoints : List Endpoint}
    {socket : Option Endpoint} {process : UInt32} {command : Command} {route : Route} :
    Route.toWorker? endpoints socket process command = some route ↔
      (∃ endpoint, socket = some endpoint ∧ ⟨endpoint, command⟩ = route) ∨
      (socket = none ∧ ∃ master, master? endpoints = some master ∧
        ⟨master, command.forwarded process⟩ = route) := by
  cases socket <;> simp [Route.toWorker?]

/-! ### Looking up a role -/

section Lookup

variable {endpoints : List Endpoint}

/-- Where roles differ, an endpoint is found by its role wherever it stands. -/
theorem find?_role_eq_some_iff (distinct : (endpoints.map Endpoint.role).Nodup) {role : Role}
    {endpoint : Endpoint} :
    endpoints.find? (fun other => other.role = role) = some endpoint ↔
      endpoint ∈ endpoints ∧ endpoint.role = role := by
  constructor
  · intro found
    exact ⟨List.mem_of_find?_eq_some found, by simpa using List.find?_some found⟩
  · rintro ⟨member, rfl⟩
    obtain ⟨other, found⟩ : ∃ other,
        endpoints.find? (fun other => other.role = endpoint.role) = some other := by
      rw [← Option.isSome_iff_exists, List.find?_isSome]
      exact ⟨endpoint, member, by simp⟩
    have same : other.role = endpoint.role := by simpa using List.find?_some found
    rw [found, List.inj_on_of_nodup_map distinct (List.mem_of_find?_eq_some found) member same]

theorem find?_role_perm {other : List Endpoint}
    (distinct : (endpoints.map Endpoint.role).Nodup) (perm : other.Perm endpoints) (role : Role) :
    other.find? (fun endpoint => endpoint.role = role) =
      endpoints.find? (fun endpoint => endpoint.role = role) := by
  have distinct' : (other.map Endpoint.role).Nodup := (perm.map _).nodup_iff.mpr distinct
  ext endpoint
  rw [find?_role_eq_some_iff distinct, find?_role_eq_some_iff distinct', perm.mem_iff]

/-- A command that is for one process in particular has the same route in whatever order the
endpoints stand. -/
theorem of?_perm {other : List Endpoint} (distinct : (endpoints.map Endpoint.role).Nodup)
    (perm : other.Perm endpoints) {command : Command} (particular : command.target ≠ .default) :
    Route.of? other command = Route.of? endpoints command := by
  have master : master? other = master? endpoints := find?_role_perm distinct perm .master
  cases target : command.target with
  | default => exact absurd target particular
  | master => simp only [Route.of?, target, master]
  | worker process =>
    have worker : worker? other process = worker? endpoints process :=
      find?_role_perm distinct perm (.worker process)
    simp only [Route.of?, target, worker, Route.toWorker?, master]

end Lookup

namespace Config

variable {config : Config}

theorem master?_endpoints (config : Config) :
    master? config.endpoints = config.masterSocket.map Endpoint.master := by
  have noWorker : (workerEndpoints 1 config.sockets).find?
      (fun endpoint => endpoint.role = .master) = none := by
    rw [List.find?_eq_none]
    intro endpoint member
    have isWorker := isWorker_of_mem_workerEndpoints member
    cases role : endpoint.role <;> simp_all [Role.isWorker]
  rw [master?, endpoints, List.find?_append, noWorker, Option.none_or]
  cases config.masterSocket <;> simp [Endpoint.master]

theorem firstWorker?_endpoints (config : Config) :
    firstWorker? config.endpoints =
      config.sockets.head?.map fun socket => .worker socket.path (socket.number 0) := by
  rw [firstWorker?, endpoints]
  cases config.sockets with
  | nil => cases config.masterSocket <;> simp [workerEndpoints, Endpoint.master, Role.isWorker]
  | cons socket rest => rfl

theorem worker?_endpoints_eq_some_iff (valid : config.IsValid) {process : UInt32}
    {endpoint : Endpoint} :
    worker? config.endpoints process = some endpoint ↔
      ∃ (index : Nat) (socket : WorkerSocket), config.sockets[index]? = some socket ∧
        socket.number index = process ∧ endpoint = .worker socket.path process := by
  rw [worker?, find?_role_eq_some_iff valid.distinct, mem_endpoints]
  constructor
  · rintro ⟨⟨index, socket, found, rfl⟩ | ⟨path, -, rfl⟩, role⟩
    · simp only [Endpoint.worker, Role.worker.injEq] at role
      exact ⟨index, socket, found, role, by rw [role]⟩
    · cases role
  · rintro ⟨index, socket, found, rfl, rfl⟩
    exact ⟨.inl ⟨index, socket, found, rfl⟩, rfl⟩

theorem worker?_endpoints_eq_none_iff (valid : config.IsValid) {process : UInt32} :
    worker? config.endpoints process = none ↔
      ∀ (index : Nat) (socket : WorkerSocket), config.sockets[index]? = some socket →
        socket.number index ≠ process := by
  simp only [Option.eq_none_iff_forall_ne_some, ne_eq, worker?_endpoints_eq_some_iff valid,
    not_exists, not_and]
  constructor
  · exact fun none index socket found number => none _ index socket found number rfl
  · exact fun none endpoint index socket found number _ => none index socket found number

/-- The route of a command is the way that its target leads. -/
theorem of?_eq_some_iff (valid : config.IsValid) {command : Command} {route : Route} :
    Route.of? config.endpoints command = some route ↔
      ∃ address, config.Leads command.target route.endpoint address ∧
        route.command = command.addressedTo address := by
  obtain ⟨endpoint, sent⟩ := route
  cases target : command.target with
  | master =>
    simp only [Route.of?, target, master?_endpoints, Option.map_map, Option.map_eq_some_iff,
      Function.comp_apply, Route.mk.injEq]
    constructor
    · rintro ⟨path, master, rfl, rfl⟩
      exact ⟨none, .master master, rfl⟩
    · rintro ⟨address, leads, rfl⟩
      cases leads with
      | master master => exact ⟨_, master, rfl, rfl⟩
  | worker process =>
    simp only [Route.of?, target, Route.toWorker?_eq_some_iff, master?_endpoints,
      worker?_endpoints_eq_some_iff valid, worker?_endpoints_eq_none_iff valid,
      Option.map_eq_some_iff, Route.mk.injEq]
    constructor
    · rintro (⟨own, ⟨index, socket, found, rfl, rfl⟩, rfl, rfl⟩ |
        ⟨noSocket, master, ⟨path, found, rfl⟩, rfl, rfl⟩)
      · exact ⟨none, .own found, rfl⟩
      · exact ⟨some process, .behindMaster noSocket found, rfl⟩
    · rintro ⟨address, leads, rfl⟩
      cases leads with
      | @own index socket found => exact .inl ⟨_, ⟨index, socket, found, rfl, rfl⟩, rfl, rfl⟩
      | behindMaster noSocket found => exact .inr ⟨noSocket, _, ⟨_, found, rfl⟩, rfl, rfl⟩
  | default =>
    simp only [Route.of?, target, Route.toWorker?_eq_some_iff, master?_endpoints,
      firstWorker?_endpoints, Option.map_eq_some_iff, Option.map_eq_none_iff, Route.mk.injEq]
    constructor
    · rintro (⟨first, ⟨socket, head, rfl⟩, rfl, rfl⟩ |
        ⟨noSocket, master, ⟨path, found, rfl⟩, rfl, rfl⟩)
      · obtain ⟨rest, sockets⟩ := List.head?_eq_some_iff.mp head
        exact ⟨none, .first sockets, rfl⟩
      · exact ⟨some 1, .firstBehindMaster (List.head?_eq_none_iff.mp noSocket) found, rfl⟩
    · rintro ⟨address, leads, rfl⟩
      cases leads with
      | first sockets => exact .inl ⟨_, ⟨_, by rw [sockets]; rfl, rfl⟩, rfl, rfl⟩
      | firstBehindMaster noSocket found =>
        exact .inr ⟨by rw [noSocket]; rfl, _, ⟨_, found, rfl⟩, rfl, rfl⟩

/-- Nothing but its target decides where a command goes. -/
theorem Leads.unique (valid : config.IsValid) {target : Target} {endpoint other : Endpoint}
    {address address' : Option UInt32} (leads : config.Leads target endpoint address)
    (leads' : config.Leads target other address') : endpoint = other ∧ address = address' := by
  -- a command for the target has one route, and the route shows both
  let command : Command := { text := [], target }
  have routed : Route.of? config.endpoints command =
      some ⟨endpoint, command.addressedTo address⟩ :=
    (of?_eq_some_iff valid).mpr ⟨address, leads, rfl⟩
  have routed' : Route.of? config.endpoints command =
      some ⟨other, command.addressedTo address'⟩ :=
    (of?_eq_some_iff valid).mpr ⟨address', leads', rfl⟩
  rw [routed, Option.some.injEq, Route.mk.injEq] at routed'
  have forwarded := congrArg Command.forwardedTo routed'.2
  rw [Command.forwardedTo_addressedTo rfl, Command.forwardedTo_addressedTo rfl] at forwarded
  exact ⟨routed'.1, forwarded⟩

/-- A worker is asked for just where the command travels through the master. -/
theorem Leads.isSome_iff {target : Target} {endpoint : Endpoint} {address : Option UInt32}
    (leads : config.Leads target endpoint address) :
    address.isSome = true ↔ target ≠ .master ∧ endpoint.role = .master := by
  cases leads <;> simp [Endpoint.master, Endpoint.worker]

end Config

/-! ### On the wire -/

/-- What stands in front of a command that is meant for a worker behind the master. -/
def addressText : Option UInt32 → Text
  | none => []
  | some process => "@" ++ Text.decimal process.toNat ++ " "

theorem Command.wire_addressedTo {command : Command} (plain : command.forwardedTo = none)
    (address : Option UInt32) :
    (command.addressedTo address).wire = addressText address ++ command.wire := by
  cases address with
  | none => rfl
  | some process =>
    simp only [addressedTo, forwarded, wire, Command.address, tail, plain, addressText,
      List.append_assoc, List.nil_append]

theorem Command.head?_wire_addressedTo {command : Command} (plain : command.forwardedTo = none)
    (address : Option UInt32) :
    (command.addressedTo address).wire.head? = some '@' ↔ address.isSome = true := by
  rw [wire_addressedTo plain]
  cases address with
  | none =>
    simp [addressText, wire, Command.address, plain, severityDirective, Text.ofString_eq]
  | some process => simp [addressText, Text.ofString_eq]

/-! ### Calls -/

/-- All attempts of a call take the one route of its command. -/
theorem Dispatch.State.route_of_submitted {settings : Settings} {endpoints : List Endpoint}
    {transport : Transport} {calls : List Call} {caller : Nat} {call : Call} {route : Route}
    (called : calls[caller]? = some call) (routed : Route.of? endpoints call.command = some route)
    {attempt : Attempt}
    (submitted : attempt ∈ (finalRecord settings endpoints transport calls).submissions)
    (mine : attempt.caller = caller) :
    attempt.endpoint = route.endpoint ∧ attempt.command = route.command := by
  have member : (⟨caller, false, route.endpoint, route.command, call.start⟩ : Attempt) ∈
      firstAttempts endpoints 0 calls :=
    mem_firstAttempts.mpr ⟨caller, call, route, called, routed, by rw [Nat.zero_add]⟩
  rcases origin_of_mem settings endpoints transport calls member
    (mem_ofCaller.mpr ⟨submitted, mine⟩) with rfl | ⟨instant, rfl⟩ <;> exact ⟨rfl, rfl⟩

/-- A call is made at one endpoint, where each of its attempts says for whom it is. -/
structure GoesTo (endpoint : Endpoint) (address : Option UInt32) (caller : Nat) (call : Call)
    (record : Record) : Prop where
  submitted : ∃ attempt ∈ record.submissions, attempt.caller = caller
  place : ∀ attempt ∈ record.submissions, attempt.caller = caller → attempt.endpoint = endpoint
  handed : ∀ handover ∈ record.handovers, handover.attempt.caller = caller →
    handover.attempt.endpoint = endpoint ∧
    handover.attempt.command.wire = addressText address ++ call.command.wire
  marked : ∀ handover ∈ record.handovers, handover.attempt.caller = caller →
    (handover.attempt.command.wire.head? = some '@' ↔
      call.command.target ≠ .master ∧ handover.attempt.endpoint.role = .master)

/-- A call is not made anywhere, neither at first nor again, and fails as an invalid one. -/
structure GoesNowhere (caller : Nat) (call : Call) (report : Dispatcher.Report) : Prop where
  submissions : ∀ attempt ∈ report.record.submissions, attempt.caller ≠ caller
  handovers : ∀ handover ∈ report.record.handovers, handover.attempt.caller ≠ caller
  failed : report.results[caller]? = some (.error (unroutable call.command))

/-- What the roles of its endpoints mean for the commands that a dispatcher is given. -/
structure GoesByRole (config : Config) (dispatcher : Dispatcher) : Prop where
  endpoints : dispatcher.endpoints = config.endpoints
  distinct : dispatcher.endpoints.Pairwise fun endpoint other => endpoint.role ≠ other.role
  anyOrder : ∀ endpoints command, endpoints.Perm dispatcher.endpoints →
    command.target ≠ .default → Route.of? endpoints command = Route.of? dispatcher.endpoints command
  unique : ∀ target endpoint other address address', config.Leads target endpoint address →
    config.Leads target other address' → endpoint = other ∧ address = address'
  /-- Whatever other calls are made at the same time. -/
  served : ∀ transport calls caller call endpoint address, calls[caller]? = some call →
    call.command.forwardedTo = none → config.Leads call.command.target endpoint address →
    GoesTo endpoint address caller call (dispatcher.dispatch transport calls).record
  /-- A call with nobody else about does reach its endpoint. -/
  alone : ∀ transport call endpoint address, config.Leads call.command.target endpoint address →
    (dispatcher.dispatch transport [call]).record.handovers ≠ []
  unserved : ∀ transport calls caller call, calls[caller]? = some call →
    (∀ endpoint address, ¬ config.Leads call.command.target endpoint address) →
    GoesNowhere caller call (dispatcher.dispatch transport calls)

section ByRole

variable {config : Config} {dispatcher : Dispatcher} (transport : Transport) {calls : List Call}
  {caller : Nat} {call : Call}

theorem GoesTo.of_route {route : Route} {address : Option UInt32}
    (called : calls[caller]? = some call) (plain : call.command.forwardedTo = none)
    (leads : config.Leads call.command.target route.endpoint address)
    (routed : Route.of? dispatcher.endpoints call.command = some route)
    (addressed : route.command = call.command.addressedTo address) :
    GoesTo route.endpoint address caller call (dispatcher.dispatch transport calls).record := by
  have way {attempt : Attempt}
      (submitted : attempt ∈ (dispatcher.dispatch transport calls).record.submissions)
      (mine : attempt.caller = caller) := State.route_of_submitted called routed submitted mine
  have handedOver {handover : Handover}
      (handed : handover ∈ (dispatcher.dispatch transport calls).record.handovers) :=
    State.submitted_of_handover _ _ transport calls handed
  constructor
  case submitted =>
    refine ⟨⟨caller, false, route.endpoint, route.command, call.start⟩, ?_, rfl⟩
    exact State.mem_submissions_finish_iff.mpr (.inl ⟨call, route, called, routed, rfl⟩)
  case place => exact fun attempt submitted mine => (way submitted mine).1
  case handed =>
    intro handover handed mine
    obtain ⟨endpoint, command⟩ := way (handedOver handed) mine
    rw [endpoint, command, addressed, Command.wire_addressedTo plain]
    exact ⟨rfl, rfl⟩
  case marked =>
    intro handover handed mine
    obtain ⟨endpoint, command⟩ := way (handedOver handed) mine
    rw [endpoint, command, addressed, Command.head?_wire_addressedTo plain, leads.isSome_iff]

theorem GoesNowhere.of_unrouted (called : calls[caller]? = some call)
    (unrouted : Route.of? dispatcher.endpoints call.command = none) :
    GoesNowhere caller call (dispatcher.dispatch transport calls) := by
  have silent : ofCaller caller (dispatcher.dispatch transport calls).record.submissions = [] :=
    State.submissions_of_unrouted called unrouted
  have submissions : ∀ attempt ∈ (dispatcher.dispatch transport calls).record.submissions,
      attempt.caller ≠ caller := by
    intro attempt submitted mine
    exact List.not_mem_nil (silent ▸ mem_ofCaller.mpr ⟨submitted, mine⟩)
  constructor
  case submissions => exact submissions
  case handovers =>
    -- whatever is handed over has been submitted
    exact fun handover handed =>
      submissions _ (State.submitted_of_handover _ _ transport calls handed)
  case failed =>
    rw [Dispatcher.dispatch, Dispatcher.getElem?_results, called, Option.map_some, unrouted]

end ByRole

/-- A valid configuration makes a dispatcher. -/
theorem Config.IsValid.exists_dispatcher {config : Config} (valid : config.IsValid) :
    ∃ dispatcher, Dispatcher.ofConfig config = .ok dispatcher ∧
      dispatcher.endpoints = config.endpoints := by
  have positive {n : UInt64} (nonzero : n ≠ 0) : 0 < n.toNat := by
    rw [Nat.pos_iff_ne_zero, ← UInt64.toNat_zero, ne_eq, UInt64.toNat_inj]
    exact nonzero
  have room : 0 < config.settings.capacity := positive valid.capacity
  have time : 0 < config.settings.timeout := Nat.mul_pos (positive valid.timeout) (by decide)
  refine ⟨⟨config.endpoints, config.settings, valid.served, room, time⟩, ?_, rfl⟩
  rw [Dispatcher.ofConfig, Config.validate_eq_ok_iff.mpr valid]
  simp only [Dispatcher.ofSettings, bind, Except.bind, valid.served, room, time, ne_eq,
    not_false_eq_true, dite_true]

/-- Commands go where the roles of the endpoints lead them, and those that no role serves go
nowhere. -/
theorem goes_by_role {config : Config} (valid : config.validate = .ok ()) :
    ∃ dispatcher, Dispatcher.ofConfig config = .ok dispatcher ∧ GoesByRole config dispatcher := by
  rw [Config.validate_eq_ok_iff] at valid
  obtain ⟨dispatcher, made, endpoints⟩ := valid.exists_dispatcher
  have routes {command : Command} {route : Route} :
      Route.of? dispatcher.endpoints command = some route ↔
        ∃ address, config.Leads command.target route.endpoint address ∧
          route.command = command.addressedTo address := by
    rw [endpoints]
    exact Config.of?_eq_some_iff valid
  refine ⟨dispatcher, made, ?_⟩
  constructor
  case endpoints => exact endpoints
  case distinct =>
    rw [endpoints]
    exact List.pairwise_map.mp valid.distinct
  case anyOrder =>
    intro other command perm particular
    rw [endpoints] at perm ⊢
    exact of?_perm valid.distinct perm particular
  case unique => exact fun _ _ _ _ _ leads leads' => leads.unique valid leads'
  case served =>
    intro transport calls caller call endpoint address called plain leads
    have routed : Route.of? dispatcher.endpoints call.command =
        some ⟨endpoint, call.command.addressedTo address⟩ := routes.mpr ⟨address, leads, rfl⟩
    exact .of_route transport called plain leads routed rfl
  case alone =>
    intro transport call endpoint address leads
    have routed : Route.of? dispatcher.endpoints call.command =
        some ⟨endpoint, call.command.addressedTo address⟩ := routes.mpr ⟨address, leads, rfl⟩
    exact State.handovers_finish_single routed
  case unserved =>
    intro transport calls caller call called leadsNowhere
    apply GoesNowhere.of_unrouted transport called
    rw [Option.eq_none_iff_forall_ne_some]
    intro route routed
    obtain ⟨address, leads, -⟩ := routes.mp routed
    exact leadsNowhere _ _ leads

/-- Two workers of which the second one has a number of its own, and the master. -/
def sharedHost : Config where
  sockets := [{ path := "/run/first.sock" }, { path := "/run/second.sock", process := some 7 }]
  masterSocket := some "/run/master.sock"

/-- With three sockets a command for worker 2 goes through the master, and one for worker 7 does
not. -/
theorem goes_by_role_sharedHost :
    sharedHost.validate = .ok () ∧
    sharedHost.Leads (.worker 2) (.master "/run/master.sock") (some 2) ∧
    sharedHost.Leads (.worker 7) (.worker "/run/second.sock" 7) none ∧
    ∃ dispatcher, Dispatcher.ofConfig sharedHost = .ok dispatcher ∧
      GoesByRole sharedHost dispatcher := by
  have valid : sharedHost.validate = .ok () := by decide +kernel
  refine ⟨valid, .behindMaster ?_ rfl, ?_, goes_by_role valid⟩
  · intro index socket found
    match index with
    | 0 => cases found; decide
    | 1 => cases found; decide
    | index + 2 => cases found
  · exact .own (show sharedHost.sockets[1]? = some _ from rfl)

end ProxyControl
