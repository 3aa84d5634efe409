import Mathlib.Data.List.Nodup
import ProxyControl.Config.Basic

/-!
# Valid configurations

The endpoints of a configuration are its worker sockets, each with its own number or its place
in the list, and the master's socket. In a valid configuration there is an endpoint, and no two
of them share a role.
-/
namespace ProxyControl

/-- The number of the worker behind a socket: the one that is given, or the place of the socket
in the list, counted from one. -/
def WorkerSocket.number (socket : WorkerSocket) (index : Nat) : UInt32 :=
  socket.process.getD (UInt32.ofNat (index + 1))

namespace Config

theorem mem_workerEndpoints {first : UInt32} {sockets : List WorkerSocket} {endpoint : Endpoint} :
    endpoint ∈ workerEndpoints first sockets ↔ ∃ (index : Nat) (socket : WorkerSocket),
      sockets[index]? = some socket ∧
        endpoint = .worker socket.path (socket.process.getD (first + UInt32.ofNat index)) := by
  induction sockets generalizing first with
  | nil => simp [workerEndpoints]
  | cons socket rest ih =>
    -- behind the first socket every place is one higher
    have shifted (index : Nat) :
        first + 1 + UInt32.ofNat index = first + UInt32.ofNat (index + 1) := by
      rw [UInt32.ofNat_add, UInt32.add_assoc, UInt32.add_comm (UInt32.ofNat index)]
      rfl
    simp only [workerEndpoints, List.mem_cons, ih, shifted]
    constructor
    · rintro (rfl | ⟨index, other, found, rfl⟩)
      · exact ⟨0, socket, rfl, by simp⟩
      · exact ⟨index + 1, other, found, rfl⟩
    · rintro ⟨index, other, found, rfl⟩
      cases index with
      | zero =>
        simp only [List.getElem?_cons_zero, Option.some.injEq] at found
        exact .inl (by simp [found])
      | succ index => exact .inr ⟨index, other, found, rfl⟩

theorem isWorker_of_mem_workerEndpoints {first : UInt32} {sockets : List WorkerSocket}
    {endpoint : Endpoint} (member : endpoint ∈ workerEndpoints first sockets) :
    endpoint.role.isWorker = true := by
  obtain ⟨index, socket, -, rfl⟩ := mem_workerEndpoints.mp member
  rfl

/-- The endpoints of the workers and the master's. -/
theorem mem_endpoints {config : Config} {endpoint : Endpoint} :
    endpoint ∈ config.endpoints ↔
      (∃ (index : Nat) (socket : WorkerSocket), config.sockets[index]? = some socket ∧
        endpoint = .worker socket.path (socket.number index)) ∨
      ∃ path, config.masterSocket = some path ∧ endpoint = .master path := by
  have place (index : Nat) : 1 + UInt32.ofNat index = UInt32.ofNat (index + 1) := by
    rw [UInt32.ofNat_add, UInt32.add_comm]
    rfl
  simp only [endpoints, List.mem_append, mem_workerEndpoints, WorkerSocket.number, place,
    Option.mem_toList, Option.map_eq_some_iff, @eq_comm _ _ endpoint]

/-- A list of roles is contested unless its roles differ from one another and from those seen. -/
theorem contested?_eq_none_iff {seen roles : List Role} :
    contested? seen roles = none ↔ roles.Nodup ∧ ∀ role ∈ roles, role ∉ seen := by
  induction roles generalizing seen with
  | nil => simp [contested?]
  | cons role rest ih =>
    simp only [contested?, List.contains_eq_mem, decide_eq_true_eq, List.nodup_cons,
      List.forall_mem_cons]
    split
    next claimed => simp [claimed]
    next free =>
      simp only [ih, List.mem_cons, not_or, free, not_false_eq_true, true_and]
      constructor
      · rintro ⟨distinct, fresh⟩
        exact ⟨⟨fun again => (fresh role again).1 rfl, distinct⟩,
          fun other member => (fresh other member).2⟩
      · rintro ⟨⟨notAgain, distinct⟩, fresh⟩
        refine ⟨distinct, fun other member => ⟨?_, fresh other member⟩⟩
        rintro rfl
        exact notAgain member

/-- What the check of a configuration stands for. -/
structure IsValid (config : Config) : Prop where
  served : config.endpoints ≠ []
  timeout : config.timeoutSeconds ≠ 0
  capacity : config.queueCapacity ≠ 0
  distinct : (config.endpoints.map Endpoint.role).Nodup

theorem endpoints_eq_nil_iff {config : Config} :
    config.endpoints = [] ↔ config.sockets = [] ∧ config.masterSocket = none := by
  cases sockets : config.sockets <;> simp [endpoints, workerEndpoints, sockets]

theorem validate_eq_ok_iff {config : Config} : config.validate = .ok () ↔ config.IsValid := by
  have served : (config.sockets.isEmpty && config.masterSocket.isNone) = true ↔
      config.endpoints = [] := by
    rw [endpoints_eq_nil_iff, Bool.and_eq_true, List.isEmpty_iff, Option.isNone_iff_eq_none]
  have distinct : contested? [] (config.endpoints.map Endpoint.role) = none ↔
      (config.endpoints.map Endpoint.role).Nodup := by
    simp [contested?_eq_none_iff]
  unfold validate
  split
  next none =>
    exact iff_of_false nofun fun valid => valid.served (served.mp none)
  next some =>
    split
    next zero => exact iff_of_false nofun fun valid => valid.timeout zero
    next time =>
      split
      next zero => exact iff_of_false nofun fun valid => valid.capacity zero
      next room =>
        split
        next role contested =>
          refine iff_of_false nofun fun valid => ?_
          rw [distinct.mpr valid.distinct] at contested
          cases contested
        next free =>
          exact iff_of_true rfl ⟨mt served.mpr some, time, room, distinct.mp free⟩

end Config

end ProxyControl
