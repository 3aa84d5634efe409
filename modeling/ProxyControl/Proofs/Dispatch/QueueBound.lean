import ProxyControl.Proofs.Dispatch.Discipline
import ProxyControl.Proofs.Dispatch.InTime

/-!
# Bounded queues

A queue has a bound, and whoever finds it full waits for a place. Places are given first come first
served, one for every attempt that the endpoint takes out of the queue. A caller who gives up
before there is a place is never in the queue, and one who gives up later leaves an empty place that
the endpoint skips. None of this reorders, drops or delays anything: there might as well be no
bound.
-/
namespace ProxyControl.Dispatch

/-- A queue with so many places, and those who wait for one of them. -/
structure Channel (capacity : Nat) where
  /-- The places that are taken; an empty one is a caller's who has given up. -/
  queue : List (Option Attempt) := []
  blocked : List Attempt := []
  fits : queue.length ≤ capacity := by simp
  /-- Nobody waits for a place while there is one. -/
  full : blocked ≠ [] → queue.length = capacity := by simp
  deriving DecidableEq, Repr

namespace Channel

variable {capacity : Nat}

def waiting (channel : Channel capacity) : List Attempt :=
  channel.queue.filterMap id ++ channel.blocked

/-- A caller takes a place if there is one, and waits for one otherwise. -/
def send (channel : Channel capacity) (attempt : Attempt) : Channel capacity :=
  if room : channel.queue.length < capacity then
    { queue := channel.queue ++ [some attempt]
      blocked := channel.blocked
      fits := by simpa using room
      full := fun someone => absurd (channel.full someone) room.ne }
  else
    { queue := channel.queue
      blocked := channel.blocked ++ [attempt]
      fits := channel.fits
      full := fun _ => Nat.le_antisymm channel.fits (Nat.not_lt.mp room) }

/-- Callers give up. Only those who wait for a place take nothing up from then on. -/
def leave (stays : Attempt → Bool) (channel : Channel capacity) : Channel capacity where
  queue := channel.queue.map (·.filter stays)
  blocked := channel.blocked.filter stays
  fits := by simpa using channel.fits
  full someone := by
    have blocked : channel.blocked ≠ [] := by
      rintro nobody
      simp [nobody] at someone
    simpa using channel.full blocked

/-- The endpoint takes the first place out of the queue, and the first who waits for a place gets
one. -/
def receive? (channel : Channel capacity) : Option (Option Attempt × Channel capacity) :=
  match taken : channel.queue with
  | [] => none
  | place :: rest => some (place, {
      queue := rest ++ (channel.blocked.take 1).map some
      blocked := channel.blocked.drop 1
      fits := by
        have fits := channel.fits
        simp only [taken, List.length_cons] at fits
        simp only [List.length_append, List.length_map, List.length_take]
        omega
      full := by
        intro someone
        have blocked : channel.blocked ≠ [] := by
          rintro nobody
          simp [nobody] at someone
        -- the place that has been taken out is given away, so the queue is as full as before
        have full := channel.full blocked
        have first := List.length_pos_iff.mpr blocked
        simp only [taken, List.length_cons] at full
        simp only [List.length_append, List.length_map, List.length_take]
        omega })

theorem receive?_eq_none_iff {channel : Channel capacity} :
    channel.receive? = none ↔ channel.queue = [] := by
  rw [receive?]
  split <;> simp_all

theorem queue_of_receive? {channel rest : Channel capacity} {place : Option Attempt}
    (received : channel.receive? = some (place, rest)) :
    ∃ queue, channel.queue = place :: queue ∧
      rest.queue = queue ++ (channel.blocked.take 1).map some ∧
      rest.blocked = channel.blocked.drop 1 := by
  rw [receive?] at received
  split at received
  · cases received
  next first queue taken =>
    cases received
    exact ⟨queue, taken, rfl, rfl⟩

/-- Every place taken out of the queue leaves one fewer. -/
theorem length_of_receive? {channel rest : Channel capacity} {place : Option Attempt}
    (received : channel.receive? = some (place, rest)) :
    rest.queue.length + rest.blocked.length < channel.queue.length + channel.blocked.length := by
  obtain ⟨queue, taken, admitted, left⟩ := queue_of_receive? received
  rw [taken, admitted, left]
  simp only [List.length_append, List.length_map, List.length_take, List.length_drop,
    List.length_cons]
  omega

/-- Taking a place out of the queue and giving one away keeps everybody in order. -/
theorem waiting_of_receive? {channel rest : Channel capacity} {place : Option Attempt}
    (received : channel.receive? = some (place, rest)) :
    channel.waiting = place.toList ++ rest.waiting := by
  obtain ⟨queue, taken, admitted, left⟩ := queue_of_receive? received
  have together : ((channel.blocked.take 1).map some).filterMap id ++ channel.blocked.drop 1 =
      channel.blocked := by
    rw [List.filterMap_map, Function.comp_def]
    simp only [id_eq, List.filterMap_some, List.take_append_drop]
  rw [waiting, waiting, taken, admitted, left, List.filterMap_append, List.append_assoc, together]
  cases place <;> simp

/-- The endpoint takes places out of the queue until one is not empty. -/
def next (channel : Channel capacity) : Option Attempt × Channel capacity :=
  match _received : channel.receive? with
  | none => (none, channel)
  | some (some attempt, rest) => (some attempt, rest)
  | some (none, rest) => next rest
termination_by channel.queue.length + channel.blocked.length
decreasing_by exact length_of_receive? (by assumption)

/-- If there are places at all, an empty queue means that nobody waits. -/
theorem waiting_of_queue_eq_nil (room : 0 < capacity) {channel : Channel capacity}
    (nobody : channel.queue = []) : channel.waiting = [] := by
  have blocked : channel.blocked = [] := by
    by_contra someone
    have full := channel.full someone
    rw [nobody, List.length_nil] at full
    exact room.ne full
  rw [waiting, nobody, blocked]
  rfl

theorem next_spec (room : 0 < capacity) (channel : Channel capacity) :
    channel.next.1 = channel.waiting.head? ∧ channel.next.2.waiting = channel.waiting.tail := by
  fun_induction next channel with
  | case1 channel received =>
    have nobody := waiting_of_queue_eq_nil room (receive?_eq_none_iff.mp received)
    simp [nobody]
  | case2 channel attempt rest received =>
    simp [waiting_of_receive? received]
  | case3 channel rest received ih =>
    -- an empty place makes no difference to those who wait
    rw [waiting_of_receive? received]
    exact ih

theorem waiting_send (channel : Channel capacity) (attempt : Attempt) :
    (channel.send attempt).waiting = channel.waiting ++ [attempt] := by
  rw [send]
  split
  next room =>
    -- where there is a place nobody waits for one
    have nobody : channel.blocked = [] := by
      by_contra someone
      exact room.ne (channel.full someone)
    simp [waiting, nobody]
  next => simp [waiting]

theorem waiting_leave (stays : Attempt → Bool) (channel : Channel capacity) :
    (channel.leave stays).waiting = channel.waiting.filter stays := by
  rw [waiting, waiting, leave, List.filter_append, Lane.filterMap_filter_places]

end Channel

namespace Discipline

/-- A line without a bound, in which the place of a caller who has given up stays until its
turn. -/
def unbounded : Discipline where
  Line := List (Option Attempt)
  empty := []
  waiting line := line.filterMap id
  join line attempt := line ++ [some attempt]
  leave stays line := line.map (·.filter stays)
  next line := match Lane.first? line with
    | none => (none, [])
    | some (attempt, rest) => (some attempt, rest)
  waiting_empty := rfl
  waiting_join := by simp
  waiting_leave stays line := Lane.filterMap_filter_places stays line
  fst_next line := by
    cases first : Lane.first? line with
    | none => rw [Lane.filterMap_eq_nil_of_first? first]; rfl
    | some found => rw [Lane.filterMap_eq_of_first? first]; rfl
  waiting_next line := by
    cases first : Lane.first? line with
    | none => rw [Lane.filterMap_eq_nil_of_first? first]; rfl
    | some found => rw [Lane.filterMap_eq_of_first? first]; rfl

/-- A queue with so many places. -/
def channel (capacity : Nat) (room : 0 < capacity) : Discipline where
  Line := Channel capacity
  empty := {}
  waiting := Channel.waiting
  join := Channel.send
  leave := Channel.leave
  next := Channel.next
  waiting_empty := rfl
  waiting_join := Channel.waiting_send
  waiting_leave := Channel.waiting_leave
  fst_next line := (line.next_spec room).1
  waiting_next line := (line.next_spec room).2

end Discipline

/-- A dispatcher does the same whatever the bound of its queues is, and so does one with an explicit
queue and callers who wait for a place: what they would do without a bound. -/
theorem queue_bound_never_shows (dispatcher : Dispatcher) {capacity : Nat} (room : 0 < capacity)
    (transport : Transport) (calls : List Call) :
    (dispatcher.withCapacity capacity room).dispatch transport calls =
        Discipline.unbounded.report dispatcher transport calls ∧
      (Discipline.channel capacity room).report dispatcher transport calls =
        Discipline.unbounded.report dispatcher transport calls :=
  ⟨dispatcher.dispatch_withCapacity room Discipline.unbounded transport calls,
    (dispatcher.dispatch_withCapacity room (.channel capacity room) transport calls).symm.trans
      (dispatcher.dispatch_withCapacity room Discipline.unbounded transport calls)⟩

/-- A transport that answers once and is silent from then on. -/
def answersOnce : Transport := fun history _ => if history = [] then .after 4 (.ok []) else .never

/-- Five callers at a queue with one place: three of them wait for it, one gives up in it and one
before there is a place for it. -/
theorem queue_bound_never_shows_answersOnce :
    let calls : List Call := [⟨0, .ofText "show info"⟩, ⟨1, .ofText "show stat"⟩,
      ⟨1, .ofText "show map"⟩, ⟨1, .ofText "show acl"⟩, ⟨2, .ofText "show sess"⟩]
    let system := ((Discipline.channel 1 Nat.one_pos).start [.standard] calls).run hasty.settings
      [.standard] answersOnce 5
    (system.post .standard).line.blocked.map Attempt.caller = [2, 3, 4] ∧
    ((Discipline.channel 1 Nat.one_pos).report hasty answersOnce calls).record.handovers.map
      (fun handover => (handover.attempt.caller, handover.instant)) = [(0, 0), (1, 4), (4, 11)] ∧
    (hasty.withCapacity 1 Nat.one_pos).dispatch answersOnce calls =
      Discipline.unbounded.report hasty answersOnce calls ∧
    (Discipline.channel 1 Nat.one_pos).report hasty answersOnce calls =
      Discipline.unbounded.report hasty answersOnce calls := by
  intro calls system
  exact ⟨by decide +kernel, by decide +kernel,
    queue_bound_never_shows hasty Nat.one_pos answersOnce calls⟩

end ProxyControl.Dispatch
