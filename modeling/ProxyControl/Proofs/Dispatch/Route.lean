import ProxyControl.Dispatch.Route

/-!
# Where commands go

A route leads to one of the endpoints there are, with the command as it is or addressed to a
worker behind the master.
-/
namespace ProxyControl.Dispatch.Route

variable {endpoints : List Endpoint} {command : Command} {route : Route}

private theorem mem_of_master? {endpoint : Endpoint} (found : master? endpoints = some endpoint) :
    endpoint ∈ endpoints :=
  List.mem_of_find?_eq_some found

theorem toWorker?_cases {socket : Option Endpoint} {process : UInt32}
    (own : ∀ endpoint ∈ socket, endpoint ∈ endpoints)
    (routed : toWorker? endpoints socket process command = some route) :
    route.endpoint ∈ endpoints ∧
      (route.command = command ∨ route.command = command.forwarded process) := by
  unfold toWorker? at routed
  split at routed
  next endpoint =>
    cases routed
    exact ⟨own endpoint rfl, .inl rfl⟩
  · obtain ⟨master, found, rfl⟩ := Option.map_eq_some_iff.mp routed
    exact ⟨mem_of_master? found, .inr rfl⟩

/-- A route ends at one of the endpoints, and leaves a command as it is or addresses it to a
worker behind the master. -/
theorem of?_cases (routed : of? endpoints command = some route) :
    route.endpoint ∈ endpoints ∧
      (route.command = command ∨ ∃ process, route.command = command.forwarded process) := by
  unfold of? at routed
  split at routed
  · obtain ⟨master, found, rfl⟩ := Option.map_eq_some_iff.mp routed
    exact ⟨mem_of_master? found, .inl rfl⟩
  -- the two kinds of target that mean a worker differ only in the socket that is looked for
  all_goals
    obtain ⟨member, same⟩ :=
      toWorker?_cases (fun endpoint found => List.mem_of_find?_eq_some found) routed
    exact ⟨member, same.imp_right fun forwarded => ⟨_, forwarded⟩⟩

/-- A command that is for no process in particular is served wherever there is an endpoint. -/
theorem exists_of_default (nonempty : endpoints ≠ []) (target : command.target = .default) :
    ∃ route, of? endpoints command = some route := by
  rw [of?, target]
  cases worker : firstWorker? endpoints with
  | some endpoint => exact ⟨_, rfl⟩
  | none =>
    cases master : master? endpoints with
    | some endpoint =>
      exact ⟨⟨endpoint, command.forwarded 1⟩, by simp [toWorker?, master]⟩
    | none =>
      -- an endpoint that is neither a worker's nor the master's does not exist
      exfalso
      obtain ⟨endpoint, member⟩ := List.exists_mem_of_ne_nil endpoints nonempty
      have notWorker := List.find?_eq_none.mp worker endpoint member
      have notMaster := List.find?_eq_none.mp master endpoint member
      cases role : endpoint.role with
      | master => simp [role] at notMaster
      | worker process => simp [role, Role.isWorker] at notWorker

end ProxyControl.Dispatch.Route
