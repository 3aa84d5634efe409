import Mathlib
import ProxyControl.Proofs.Dispatch.Happening

/-!
# Reachable states

The states that a run passes through, with the instant of the last happening. A run does not
stop short: the steps it is given are enough for every call to be submitted and every attempt to
end.
-/
namespace ProxyControl.Dispatch

/-- How many more happenings an attempt can bring about once it is submitted. -/
def Attempt.cost (attempt : Attempt) : Nat := if attempt.isRetry then 1 else 2

def Lane.cost (lane : Lane) : Nat := (lane.live.map Attempt.cost).sum

theorem Attempt.cost_pos (attempt : Attempt) : 0 < attempt.cost := by
  unfold cost
  split <;> omega

theorem sum_cost_retriesAfter_lt (settings : Settings) (attempt : Attempt)
    (instant : Nanoseconds) (result : Result Text) :
    ((retriesAfter settings attempt instant result).map Attempt.cost).sum < attempt.cost := by
  unfold retriesAfter
  split
  next retried =>
    simp only [State.isRetried, Bool.and_eq_true, Bool.not_eq_true'] at retried
    simp [Attempt.cost, Attempt.again, retried.1.2]
  · exact attempt.cost_pos

private theorem sum_cost_filter_lt (keep : Attempt → Bool) (attempts : List Attempt)
    (dropped : ∃ attempt ∈ attempts, keep attempt = false) :
    ((attempts.filter keep).map Attempt.cost).sum < (attempts.map Attempt.cost).sum := by
  -- the attempts behind the dropped one may be dropped too
  have le : ∀ rest : List Attempt,
      ((rest.filter keep).map Attempt.cost).sum ≤ (rest.map Attempt.cost).sum := fun rest =>
    (List.filter_sublist.map Attempt.cost).sum_le_sum (fun _ _ => Nat.zero_le _)
  induction attempts with
  | nil => simp at dropped
  | cons attempt rest ih =>
    cases kept : keep attempt with
    | false =>
      have pos := attempt.cost_pos
      have rest_le := le rest
      simp only [List.filter_cons, kept, Bool.false_eq_true, if_false, List.map_cons,
        List.sum_cons]
      omega
    | true =>
      obtain ⟨other, member, isDropped⟩ := dropped
      have inRest : other ∈ rest := by
        rcases List.mem_cons.mp member with rfl | inRest
        · simp [kept] at isDropped
        · exact inRest
      have rest_lt := ih ⟨other, inRest, isDropped⟩
      simp only [List.filter_cons, kept, if_true, List.map_cons, List.sum_cons]
      omega

theorem firstAttempts_length_le (endpoints : List Endpoint) (caller : Nat) (calls : List Call) :
    (firstAttempts endpoints caller calls).length ≤ calls.length := by
  induction calls generalizing caller with
  | nil => simp [firstAttempts]
  | cons call rest ih =>
    have rest_le := ih (caller + 1)
    simp only [firstAttempts, List.length_cons]
    split
    · omega
    · simp only [List.length_cons]
      omega

theorem insertBySubmission_perm (attempt : Attempt) (attempts : List Attempt) :
    (insertBySubmission attempt attempts).Perm (attempt :: attempts) := by
  induction attempts with
  | nil => exact .refl _
  | cons other rest ih =>
    simp only [insertBySubmission]
    split
    · exact .refl _
    · exact (ih.cons other).trans (.swap attempt other rest)

theorem start_upcoming_perm (endpoints : List Endpoint) (calls : List Call) :
    (State.start endpoints calls).upcoming.Perm (firstAttempts endpoints 0 calls) := by
  simp only [State.start]
  induction firstAttempts endpoints 0 calls with
  | nil => exact .refl _
  | cons attempt rest ih =>
    exact (insertBySubmission_perm attempt _).trans (ih.cons attempt)

/-- Whether a record is where another one begins. -/
structure Record.IsStart (record later : Record) : Prop where
  submissions : record.submissions <+: later.submissions
  handovers : record.handovers <+: later.handovers
  outcomes : record.outcomes <+: later.outcomes

namespace Record.IsStart

theorem refl (record : Record) : record.IsStart record :=
  ⟨List.prefix_rfl, List.prefix_rfl, List.prefix_rfl⟩

theorem trans {first second third : Record} (one : first.IsStart second)
    (two : second.IsStart third) : first.IsStart third :=
  ⟨one.submissions.trans two.submissions, one.handovers.trans two.handovers,
    one.outcomes.trans two.outcomes⟩

end Record.IsStart

namespace State

variable {settings : Settings} {endpoints : List Endpoint} {transport : Transport}
  {calls : List Call}

/-- Whatever happens is added at the end of the record. -/
theorem Happens.isStart {state next : State} {instant : Nanoseconds}
    (h : Happens settings endpoints transport state instant next) :
    state.record.IsStart next.record := by
  cases h <;> exact ⟨List.prefix_append _ _, List.prefix_append _ _, List.prefix_append _ _⟩

theorem isStart_run (settings : Settings) (endpoints : List Endpoint) (transport : Transport)
    (state : State) (steps : Nat) :
    state.record.IsStart (state.run settings endpoints transport steps).record := by
  induction steps generalizing state with
  | zero => exact .refl _
  | succ steps ih =>
    rw [run]
    cases stepped : state.step settings endpoints transport with
    | none => exact .refl _
    | some next =>
      obtain ⟨instant, happens⟩ := step_happens stepped
      exact happens.isStart.trans (ih next)

theorem run_add (state : State) (first second : Nat) :
    state.run settings endpoints transport (first + second) =
      (state.run settings endpoints transport first).run settings endpoints transport second := by
  induction first generalizing state with
  | zero => rw [Nat.zero_add, run]
  | succ first ih =>
    rw [Nat.add_right_comm, run, run]
    cases stepped : state.step settings endpoints transport with
    | some next => exact ih next
    | none =>
      -- a run that rests stays where it is
      cases second with
      | zero => rfl
      | succ second => simp only [run, stepped]

theorem run_of_rests {state : State} (rests : state.step settings endpoints transport = none)
    (steps : Nat) : state.run settings endpoints transport steps = state := by
  cases steps with
  | zero => rfl
  | succ steps => rw [run, rests]

/-- A run can only come to rest in one state. -/
theorem run_eq_of_rests {state : State} {first second : Nat}
    (rests : (state.run settings endpoints transport first).step settings endpoints transport =
      none)
    (restsToo : (state.run settings endpoints transport second).step settings endpoints
      transport = none) :
    state.run settings endpoints transport first =
      state.run settings endpoints transport second := by
  rw [← run_of_rests rests second, ← run_of_rests restsToo first, ← run_add, ← run_add,
    Nat.add_comm]

/-- The states of a run, each with the instant at which it came about. -/
inductive Reachable (settings : Settings) (endpoints : List Endpoint) (transport : Transport)
    (calls : List Call) : Nanoseconds → State → Prop
  | start : Reachable settings endpoints transport calls 0 (State.start endpoints calls)
  | happening {now instant : Nanoseconds} {state next : State} :
      Reachable settings endpoints transport calls now state →
      Happens settings endpoints transport state instant next →
      Reachable settings endpoints transport calls instant next

theorem Reachable.run {now : Nanoseconds} {state : State}
    (h : Reachable settings endpoints transport calls now state) (steps : Nat) :
    ∃ later, Reachable settings endpoints transport calls later
      (state.run settings endpoints transport steps) := by
  induction steps generalizing now state with
  | zero => exact ⟨now, h⟩
  | succ steps ih =>
    rw [State.run]
    cases stepped : state.step settings endpoints transport with
    | none => exact ⟨now, h⟩
    | some next =>
      obtain ⟨instant, happens⟩ := step_happens stepped
      exact ih (h.happening happens)

theorem reachable_finish (settings : Settings) (endpoints : List Endpoint)
    (transport : Transport) (calls : List Call) :
    ∃ now, Reachable settings endpoints transport calls now
      (State.finish settings endpoints transport calls) :=
  Reachable.start.run _

/-! ### Coming to rest -/

/-- A bound on the happenings still to come. A call costs its submission and what its first
attempt costs. -/
def cost (endpoints : List Endpoint) (state : State) : Nat :=
  3 * state.upcoming.length + ∑ endpoint ∈ endpoints.toFinset, (state.lane endpoint).cost

private theorem sum_le_add_of_one (places : Finset Endpoint) {f g : Endpoint → Nat}
    {changed : Endpoint} {more : Nat} (same : ∀ other, other ≠ changed → g other = f other)
    (le : g changed ≤ f changed + more) :
    ∑ place ∈ places, g place ≤ ∑ place ∈ places, f place + more := by
  by_cases member : changed ∈ places
  · rw [← Finset.add_sum_erase places g member, ← Finset.add_sum_erase places f member]
    have rest : ∑ place ∈ places.erase changed, g place =
        ∑ place ∈ places.erase changed, f place :=
      Finset.sum_congr rfl fun place inside => same place (Finset.ne_of_mem_erase inside)
    omega
  · have all : ∑ place ∈ places, g place = ∑ place ∈ places, f place :=
      Finset.sum_congr rfl fun place inside => same place fun equal => member (equal ▸ inside)
    omega

private theorem sum_lt_of_one (places : Finset Endpoint) {f g : Endpoint → Nat}
    {changed : Endpoint} (same : ∀ other, other ≠ changed → g other = f other)
    (member : changed ∈ places) (lt : g changed < f changed) :
    ∑ place ∈ places, g place < ∑ place ∈ places, f place := by
  refine Finset.sum_lt_sum (fun place _ => ?_) ⟨changed, member, lt⟩
  by_cases equal : place = changed
  · exact equal ▸ lt.le
  · exact (same place equal).le

section Costs

variable (transport : Transport) (state : State) (endpoint : Endpoint) (instant : Nanoseconds)
  (lane : Lane) (submissions : List Attempt) (outcomes : List Outcome)

theorem laneCost_advance :
    ((state.advance transport endpoint instant lane submissions outcomes).lane endpoint).cost =
      lane.cost := by
  simp [Lane.cost, Lane.live_handOver]

private theorem laneCost_advance_of_ne (upcoming : List Attempt) {other : Endpoint}
    (ne : other ≠ endpoint) :
    ((advance transport { state with upcoming } endpoint instant lane submissions
      outcomes).lane other).cost = (state.lane other).cost := by
  rw [advance_lane_of_ne _ _ _ _ _ _ _ ne]

/-- What makes its lane cheaper makes the state cheaper. -/
private theorem cost_advance_lt (member : endpoint ∈ endpoints)
    (lt : lane.cost < (state.lane endpoint).cost) :
    (state.advance transport endpoint instant lane submissions outcomes).cost endpoints <
      state.cost endpoints := by
  have sum_lt := sum_lt_of_one endpoints.toFinset
    (fun other ne => laneCost_advance_of_ne transport state endpoint instant lane submissions
      outcomes state.upcoming ne)
    (List.mem_toFinset.mpr member) (by rwa [laneCost_advance])
  exact Nat.add_lt_add_left sum_lt _

end Costs

private theorem cost_submit_lt {state : State} {attempt : Attempt} {rest : List Attempt}
    (upcoming : state.upcoming = attempt :: rest) :
    (state.submit transport attempt rest).cost endpoints < state.cost endpoints := by
  have le : ((state.submit transport attempt rest).lane attempt.endpoint).cost ≤
      (state.lane attempt.endpoint).cost + 2 := by
    rw [submit, laneCost_advance]
    simp only [Lane.cost, Lane.live_eq, Lane.flight_submit, Lane.waiting_submit,
      List.map_append, List.sum_append, List.map_cons, List.map_nil, List.sum_cons, List.sum_nil]
    have attempt_le : attempt.cost ≤ 2 := by
      unfold Attempt.cost
      split <;> omega
    omega
  have sum_le := sum_le_add_of_one endpoints.toFinset
    (fun other ne => laneCost_advance_of_ne transport state attempt.endpoint attempt.submitted
      _ [attempt] [] rest ne) le
  have shorter : (state.submit transport attempt rest).upcoming.length + 1 =
      state.upcoming.length := by
    rw [upcoming]
    rfl
  simp only [cost]
  simp only [submit] at sum_le shorter ⊢
  omega

private theorem cost_land_lt {state : State} {endpoint : Endpoint} {flight : Flight}
    (member : endpoint ∈ endpoints) (flying : (state.lane endpoint).flight = some flight)
    (instant : Nanoseconds) (result : Result Text) :
    (state.land settings transport endpoint instant result).cost endpoints <
      state.cost endpoints := by
  rw [land_eq flying]
  apply cost_advance_lt _ _ _ _ _ _ _ member
  -- what takes off again costs less than what has landed
  have less := sum_cost_retriesAfter_lt settings flight.attempt instant result
  simp only [Lane.cost, Lane.live_eq, flying, Lane.flight_foldl_submit,
    Lane.waiting_foldl_submit, Lane.flight_land, Lane.waiting_land, Option.map_none,
    Option.map_some, Option.toList_none, Option.toList_some, List.nil_append,
    List.map_append, List.sum_append, List.map_cons, List.map_nil, List.sum_cons, List.sum_nil]
  omega

private theorem cost_expire_lt {state : State} {endpoint : Endpoint} {instant : Nanoseconds}
    (member : endpoint ∈ endpoints)
    (due : ∃ attempt ∈ (state.lane endpoint).live, attempt.deadline settings = instant) :
    (state.expire settings transport endpoint instant).cost endpoints < state.cost endpoints := by
  apply cost_advance_lt _ _ _ _ _ _ _ member
  rw [Lane.cost, Lane.live_expire]
  obtain ⟨attempt, live, deadline⟩ := due
  exact sum_cost_filter_lt _ _ ⟨attempt, live, by simp [Lane.isOpen, deadline]⟩

theorem cost_happens_lt {state next : State} {instant : Nanoseconds}
    (h : Happens settings endpoints transport state instant next) :
    next.cost endpoints < state.cost endpoints := by
  cases h with
  | submission upcoming before => exact cost_submit_lt upcoming
  | landing member flying lands inTime quiet => exact cost_land_lt member flying _ _
  | expiry member due flying quiet => exact cost_expire_lt member due

/-- Every happening makes the state cheaper, so as many steps as it costs are enough. -/
private theorem run_rests (state : State) (steps : Nat) (enough : state.cost endpoints ≤ steps) :
    (state.run settings endpoints transport steps).step settings endpoints transport = none := by
  induction steps generalizing state with
  | zero =>
    cases stepped : state.step settings endpoints transport with
    | none => exact stepped
    | some next =>
      obtain ⟨instant, happens⟩ := step_happens stepped
      have less := cost_happens_lt happens
      omega
  | succ steps ih =>
    rw [State.run]
    cases stepped : state.step settings endpoints transport with
    | none => exact stepped
    | some next =>
      obtain ⟨instant, happens⟩ := step_happens stepped
      have less := cost_happens_lt happens
      exact ih next (by omega)

/-- A run is over when its steps are used up. -/
theorem finish_rests (settings : Settings) (endpoints : List Endpoint) (transport : Transport)
    (calls : List Call) :
    (State.finish settings endpoints transport calls).step settings endpoints transport =
      none := by
  apply run_rests
  -- at the start the lanes are empty, and there are no more attempts than calls
  have idle : ∑ endpoint ∈ endpoints.toFinset,
      ((State.start endpoints calls).lane endpoint).cost = 0 :=
    Finset.sum_eq_zero fun _ _ => rfl
  have length := (start_upcoming_perm endpoints calls).length_eq
  have le := firstAttempts_length_le endpoints 0 calls
  rw [cost, idle]
  omega

/-- All that is on record at some point of a run is so at its end. -/
theorem isStart_finish (settings : Settings) (endpoints : List Endpoint) (transport : Transport)
    (calls : List Call) (steps : Nat) :
    ((State.start endpoints calls).run settings endpoints transport steps).record.IsStart
      (State.finish settings endpoints transport calls).record := by
  -- steps beyond the end change nothing, so the two runs can be given the same steps
  have further := isStart_run settings endpoints transport
    ((State.start endpoints calls).run settings endpoints transport steps) (3 * calls.length)
  rw [← run_add, Nat.add_comm, run_add] at further
  rwa [← State.finish, run_of_rests (finish_rests settings endpoints transport calls)] at further

theorem upcoming_finish (settings : Settings) (endpoints : List Endpoint)
    (transport : Transport) (calls : List Call) :
    (State.finish settings endpoints transport calls).upcoming = [] :=
  ((step_eq_none_iff _).mp (finish_rests settings endpoints transport calls)).1

end State

end ProxyControl.Dispatch
