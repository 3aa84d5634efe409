import Mathlib.Data.List.ReduceOption
import ProxyControl.Proofs.Argument
import ProxyControl.Proofs.Event.Stream

/-!
# Listening

A listener gives out what its stream says, in order and without a gap. How far it has read ahead
makes no difference: the buffer holds what was read and not yet given out, and a call that finds
it empty waits for the next reading.
-/
namespace ProxyControl

open Text

namespace Listener

/-! ### Reading ahead -/

/-- Reads one delivery ahead, if the buffer has room for it. -/
def readOne (listener : Listener) : Listener :=
  match listener.arriving with
  | [] => listener
  | delivery :: arriving =>
    if listener.buffer.length < bufferSize then
      { listener with buffer := listener.buffer ++ [delivery], arriving }
    else listener

/-- Listening while nothing is read ahead. -/
def take (listener : Listener) : Listener × Option (Result Event) :=
  if listener.closed then (listener, some (.error listener.closedFailure))
  else match listener.buffer with
    | [] => (listener, none)
    | .ok event :: buffer => ({ listener with buffer }, some (.ok event))
    | .error failure :: _ =>
      (close { listener with failure := listener.failure.or (some failure) },
        some (.error failure))

/-- A listener that reads ahead at its own pace, and what its calls give. -/
inductive Pace : Listener → List (Option (Result Event)) → Listener → Prop
  | rest {listener : Listener} : Pace listener [] listener
  | read {listener last : Listener} {replies : List (Option (Result Event))}
      (onward : Pace listener.readOne replies last) : Pace listener replies last
  | call {listener last : Listener} {replies : List (Option (Result Event))}
      (onward : Pace listener.take.1 replies last) :
      Pace listener (listener.take.2 :: replies) last

/-- What has been read or is still to be read, and not yet given out. -/
def pending (listener : Listener) : List (Result Event) := listener.buffer ++ listener.arriving

variable {listener last : Listener} {replies : List (Option (Result Event))}

/-- Nothing is read ahead where nothing arrives or where there is no room. -/
theorem fill_of_settled (settled : listener.arriving = [] ∨ bufferSize ≤ listener.buffer.length) :
    listener.fill = listener := by
  rcases settled with nothing | full
  · obtain ⟨subscription, arriving, buffer, closed, failure⟩ := listener
    obtain rfl : arriving = [] := nothing
    simp [fill]
  · simp [fill, Nat.sub_eq_zero_of_le full]

/-- Reading ahead as far as possible is reading one delivery after the other. -/
theorem Pace.of_fill (onward : Pace listener.fill replies last) : Pace listener replies last := by
  generalize unread : listener.arriving = arriving
  induction arriving generalizing listener with
  | nil =>
    exact fill_of_settled (.inl unread) ▸ onward
  | cons delivery arriving ih =>
    by_cases room : listener.buffer.length < bufferSize
    · have read : listener.readOne =
          { listener with buffer := listener.buffer ++ [delivery], arriving } := by
        simp only [readOne, unread, if_pos room]
      refine .read (ih ?_ (by rw [read]))
      have same : listener.readOne.fill = listener.fill := by
        -- one delivery takes up one place of those that are free
        obtain ⟨left, more⟩ : ∃ left, bufferSize - listener.buffer.length = left + 1 :=
          ⟨bufferSize - listener.buffer.length - 1, by omega⟩
        have fewer : bufferSize - (listener.buffer ++ [delivery]).length = left := by
          rw [List.length_append, List.length_singleton]
          omega
        simp only [fill, read, unread, more, fewer, List.take_succ_cons, List.drop_succ_cons,
          List.append_assoc, List.singleton_append]
      rwa [same]
    · exact fill_of_settled (.inr (Nat.le_of_not_lt room)) ▸ onward

/-- A call takes out of the buffer, and lets reading ahead catch up behind an event. -/
theorem listen_cases (listener : Listener) :
    (∃ event, listener.take.2 = some (.ok event) ∧
      listener.listen = (listener.take.1.fill, listener.take.2)) ∨
    ((∀ event, listener.take.2 ≠ some (.ok event)) ∧ listener.listen = listener.take) := by
  unfold listen take
  split
  · exact .inr ⟨nofun, rfl⟩
  · cases listener.buffer with
    | nil => exact .inr ⟨nofun, rfl⟩
    | cons delivery buffer =>
      cases delivery with
      | ok event => exact .inl ⟨event, rfl, rfl⟩
      | error failure => exact .inr ⟨nofun, rfl⟩

theorem Pace.of_listen (onward : Pace listener.listen.1 replies last) :
    Pace listener (listener.listen.2 :: replies) last := by
  rcases listener.listen_cases with ⟨event, -, same⟩ | ⟨-, same⟩
  · rw [same] at onward ⊢
    exact .call (.of_fill onward)
  · rw [same] at onward ⊢
    exact .call onward

/-! ### Calls -/

/-- What successive calls give. -/
def gives : Nat → Listener → List (Option (Result Event))
  | 0, _ => []
  | calls + 1, listener => listener.listen.2 :: gives calls listener.listen.1

/-- The listener after so many calls. -/
def after : Nat → Listener → Listener
  | 0, listener => listener
  | calls + 1, listener => after calls listener.listen.1

@[simp] theorem length_gives (calls : Nat) (listener : Listener) :
    (listener.gives calls).length = calls := by
  induction calls generalizing listener with
  | zero => rfl
  | succ calls ih => exact congrArg (· + 1) (ih _)

theorem map_some_reduceOption {α : Type} {results : List (Option α)} (all : none ∉ results) :
    results.reduceOption.map some = results := by
  induction results with
  | nil => rfl
  | cons result rest ih =>
    rw [List.mem_cons, not_or] at all
    cases result with
    | none => exact absurd rfl all.1
    | some value =>
      rw [List.reduceOption_cons_of_some, List.map_cons, ih all.2]

theorem pace_gives (calls : Nat) (listener : Listener) :
    Pace listener (listener.gives calls) (listener.after calls) := by
  induction calls generalizing listener with
  | zero => exact .rest
  | succ calls ih => exact .of_listen (ih listener.listen.1)

/-! ### What is owed -/

/-- What so many calls have to give: the events in order, and the failure for every call that is
left over. -/
def due (events : List Text) (failure : Failure) (calls : Nat) : List (Result Event) :=
  ((events.take calls).map fun frame => .ok (.ofFrame frame)) ++
    List.replicate (calls - events.length) (.error failure)

@[simp] theorem due_zero (events : List Text) (failure : Failure) : due events failure 0 = [] := by
  simp [due]

@[simp] theorem due_cons (frame : Text) (events : List Text) (failure : Failure) (calls : Nat) :
    due (frame :: events) failure (calls + 1) =
      .ok (.ofFrame frame) :: due events failure calls := by
  simp [due]

@[simp] theorem due_nil (failure : Failure) (calls : Nat) :
    due [] failure (calls + 1) = .error failure :: due [] failure calls := by
  simp [due, List.replicate_succ]

/-- A listener that has still to give out some events and then a failure, or has given out the
failure. -/
inductive Owes (failure : Failure) : List Text → Listener → Prop
  | listening {events : List Text} {listener : Listener} (opened : listener.closed = false)
      (fresh : listener.failure = none) (room : listener.buffer.length ≤ bufferSize)
      (pending : listener.pending =
        (events.map fun frame => .ok (.ofFrame frame)) ++ [.error failure]) :
      Owes failure events listener
  | ended {listener : Listener} (closed : listener.closed = true)
      (kept : listener.failure = some failure) (nothing : listener.pending = []) :
      Owes failure [] listener

namespace Owes

variable {failure : Failure} {events : List Text}

theorem length_buffer_le (owes : Owes failure events listener) :
    listener.buffer.length ≤ bufferSize := by
  cases owes with
  | listening opened fresh room pending => exact room
  | ended closed kept nothing => simp [(List.append_eq_nil_iff.mp nothing).1]

/-- Reading ahead moves a delivery from the connection to the buffer, and nothing else. -/
theorem readOne (owes : Owes failure events listener) :
    Owes failure events listener.readOne ∧ listener.readOne.closed = listener.closed := by
  cases unread : listener.arriving with
  | nil =>
    have same : listener.readOne = listener := by simp [Listener.readOne, unread]
    exact ⟨same.symm ▸ owes, by rw [same]⟩
  | cons delivery arriving =>
    by_cases room : listener.buffer.length < bufferSize
    · have read : listener.readOne =
          { listener with buffer := listener.buffer ++ [delivery], arriving } := by
        simp only [Listener.readOne, unread, if_pos room]
      have moved : listener.readOne.pending = listener.pending := by
        simp [read, pending, unread]
      refine ⟨?_, by rw [read]⟩
      cases owes with
      | listening opened fresh _ pending =>
        refine .listening ?_ ?_ ?_ (moved.trans pending)
        · rw [read]
          exact opened
        · rw [read]
          exact fresh
        · rw [read, List.length_append, List.length_singleton]
          exact room
      | ended closed kept nothing =>
        rw [pending, unread] at nothing
        simp at nothing
    · have same : listener.readOne = listener := by
        simp only [Listener.readOne, unread, if_neg room]
      exact ⟨same.symm ▸ owes, by rw [same]⟩

/-- A call waits, gives the next event, or gives the failure and leaves the listener closed. -/
theorem take_cases (owes : Owes failure events listener) :
    (listener.closed = false ∧ listener.buffer = [] ∧ listener.take = (listener, none)) ∨
    (∃ frame later, events = frame :: later ∧ listener.closed = false ∧
      listener.take.2 = some (.ok (.ofFrame frame)) ∧ Owes failure later listener.take.1 ∧
      listener.take.1.closed = false) ∨
    (events = [] ∧ listener.take.2 = some (.error failure) ∧ Owes failure [] listener.take.1 ∧
      listener.take.1.closed = true) := by
  cases owes with
  | ended closed kept nothing =>
    have same : listener.take = (listener, some (.error failure)) := by
      simp [take, closed, closedFailure, kept]
    rw [same]
    exact .inr (.inr ⟨rfl, rfl, .ended closed kept nothing, closed⟩)
  | listening opened fresh room pending =>
    cases buffered : listener.buffer with
    | nil => exact .inl ⟨opened, rfl, by simp [take, opened, buffered]⟩
    | cons delivery buffer =>
      right
      rw [Listener.pending, buffered, List.cons_append] at pending
      cases events with
      | cons frame later =>
        obtain ⟨rfl, left⟩ := List.cons_eq_cons.mp pending
        have taken : listener.take = ({ listener with buffer }, some (.ok (.ofFrame frame))) := by
          simp [take, opened, buffered]
        rw [buffered, List.length_cons] at room
        rw [taken]
        exact .inl ⟨frame, later, rfl, opened, rfl,
          .listening opened fresh (Nat.le_of_succ_le room) left, opened⟩
      | nil =>
        obtain ⟨rfl, -⟩ := List.cons_eq_cons.mp pending
        have taken : listener.take = (close { listener with failure := some failure },
            some (.error failure)) := by
          simp [take, opened, buffered, fresh]
        rw [taken]
        exact .inr ⟨rfl, rfl, .ended rfl rfl rfl, rfl⟩

/-- At any pace the calls that are answered give what they have to. -/
theorem pace (owes : Owes failure events listener) (run : Pace listener replies last) :
    replies.reduceOption = due events failure replies.reduceOption.length ∧
      (last.closed = true ↔ listener.closed = true ∨ events.length < replies.reduceOption.length) ∧
      Owes failure (events.drop replies.reduceOption.length) last := by
  -- each event that is given out is one less to give; reading ahead leaves them as they are
  induction run generalizing events with
  | rest => simpa using owes
  | read onward ih =>
    obtain ⟨owes, same⟩ := owes.readOne
    exact same ▸ ih owes
  | @call listener last replies onward ih =>
    rcases owes.take_cases with ⟨opened, -, taken⟩ |
      ⟨frame, later, rfl, opened, reply, owes', still⟩ | ⟨rfl, reply, owes', closed⟩
    · rw [taken] at ih ⊢
      simpa [List.reduceOption_cons_of_none] using ih owes
    · obtain ⟨order, ends, owing⟩ := ih owes'
      rw [reply, List.reduceOption_cons_of_some, List.length_cons]
      refine ⟨?_, ?_, owing⟩
      · rw [due_cons, ← order]
      · rw [ends, still, opened]
        simp
    · obtain ⟨order, ends, owing⟩ := ih owes'
      rw [reply, List.reduceOption_cons_of_some, List.length_cons]
      refine ⟨?_, ?_, by simpa using owing⟩
      · rw [due_nil, ← order]
      · rw [ends, closed]
        simp

end Owes

/-! ### Calls that need not wait -/

theorem buffer_fill_ne_nil (some : listener.pending ≠ []) : listener.fill.buffer ≠ [] := by
  intro empty
  simp only [fill, List.append_eq_nil_iff, List.take_eq_nil_iff] at empty
  obtain ⟨buffer, full | arriving⟩ := empty
  · rw [buffer] at full
    cases full
  · exact some (by rw [pending, buffer, arriving, List.append_nil])

variable {failure : Failure} {events : List Text}

theorem Owes.pending_ne_nil (owes : Owes failure events listener)
    (opened : listener.closed = false) : listener.pending ≠ [] := by
  cases owes with
  | listening _ fresh room pending => simp [pending]
  | ended closed kept nothing =>
    rw [closed] at opened
    cases opened

/-- A listener that reads ahead as far as it can lets nobody wait. -/
theorem Owes.gives (owes : Owes failure events listener)
    (ready : listener.closed = true ∨ listener.buffer ≠ []) (calls : Nat) :
    none ∉ listener.gives calls := by
  induction calls generalizing listener events with
  | zero => exact nofun
  | succ calls ih =>
    rw [Listener.gives, List.mem_cons, not_or]
    rcases owes.take_cases with ⟨opened, empty, -⟩ |
      ⟨frame, later, -, -, reply, owes', still⟩ | ⟨-, reply, owes', closed⟩
    · simp [opened, empty] at ready
    · rcases listener.listen_cases with ⟨event, -, same⟩ | ⟨other, -⟩
      · rw [same, reply]
        -- the failure is still to come, so something is read ahead again
        have filled := (owes'.pace (.of_fill .rest)).2.2
        exact ⟨nofun, ih filled (.inr (buffer_fill_ne_nil (owes'.pending_ne_nil still)))⟩
      · exact absurd reply (other _)
    · rcases listener.listen_cases with ⟨event, other, -⟩ | ⟨-, same⟩
      · rw [reply] at other
        cases other
      · rw [same, reply]
        exact ⟨nofun, ih owes' (.inl closed)⟩

/-- A call that waits is answered once something more is read. -/
theorem Owes.woken (owes : Owes failure events listener) (waits : listener.take.2 = none) :
    listener.readOne.take.2 ≠ none := by
  rcases owes.take_cases with ⟨opened, empty, -⟩ | ⟨_, _, -, -, reply, -⟩ | ⟨-, reply, -⟩
  · have some := owes.pending_ne_nil opened
    rw [pending, empty, List.nil_append] at some
    obtain ⟨delivery, arriving, unread⟩ := List.exists_cons_of_ne_nil some
    have read : listener.readOne.buffer = [delivery] := by
      simp [Listener.readOne, unread, empty, bufferSize]
    rcases owes.readOne.1.take_cases with ⟨-, still, -⟩ | ⟨_, _, -, -, reply, -⟩ | ⟨-, reply, -⟩
    · rw [read] at still
      cases still
    · simp [reply]
    · simp [reply]
  · simp [reply] at waits
  · simp [reply] at waits

/-! ### Subscriptions -/

/-- A listener that has read nothing yet. -/
def unread (subscription : Subscription) (stream : EventStream) : Listener :=
  { subscription, arriving := subscription.deliveries stream }

theorem subscribe_connected_eq_ok {endpoint : Endpoint} {sink : Text} {flags : EventFlags}
    {stream : EventStream}
    (subscribed : subscribe endpoint sink flags (.connected stream) = .ok listener) :
    listener = (unread ⟨endpoint, sink, flags⟩ stream).fill := by
  cases checked : Argument.name "sink" sink with
  | error failure => simp [subscribe, checked, bind, Except.bind] at subscribed
  | ok name =>
    obtain ⟨rfl, -⟩ := Argument.name_eq_ok checked
    simp only [subscribe, checked, bind, Except.bind] at subscribed
    exact (Except.ok.inj subscribed).symm

/-- What a listener gives out of its stream. -/
structure GivesOut (listener : Listener) (stream : EventStream) (events : List Text)
    (failure : Failure) : Prop where
  /-- Each call gives the next event, and the failure when there is none left. -/
  gives : ∀ calls, listener.gives calls = (due events failure calls).map some
  /-- The call that gives the failure closes the listener. -/
  closed : ∀ calls, (listener.after calls).closed = true ↔ events.length < calls
  /-- It is the same at any other pace, and the calls that have to wait give nothing. -/
  paced : ∀ replies last, Pace (unread listener.subscription stream) replies last →
    replies.reduceOption = due events failure replies.reduceOption.length ∧
      (last.closed = true ↔ events.length < replies.reduceOption.length)
  room : ∀ replies last, Pace (unread listener.subscription stream) replies last →
    last.buffer.length ≤ bufferSize
  /-- A call that waits is answered after the next reading. -/
  woken : ∀ replies last, Pace (unread listener.subscription stream) replies last →
    last.take.2 = none → last.readOne.take.2 ≠ none

theorem owes_unread {subscription : Subscription} {stream : EventStream}
    (delivered : subscription.deliveries stream =
      (events.map fun frame => .ok (.ofFrame frame)) ++ [.error failure]) :
    Owes failure events (unread subscription stream) :=
  .listening rfl rfl (Nat.zero_le _) delivered

/-- Whatever a stream says, its listener gives out, frame by frame and then the failure. -/
theorem gives_out_in_order {endpoint : Endpoint} {sink : Text} {flags : EventFlags}
    {stream : EventStream}
    (subscribed : subscribe endpoint sink flags (.connected stream) = .ok listener)
    (ends : stream.ending ≠ none) :
    listener.subscription = ⟨endpoint, sink, flags⟩ ∧
      ∃ events failure, listener.subscription.Says stream events (some failure) ∧
        listener.GivesOut stream events failure := by
  obtain rfl := subscribe_connected_eq_ok subscribed
  obtain ⟨events, failure?, told, delivered⟩ :=
    Subscription.exists_says ⟨endpoint, sink, flags⟩ stream
  cases failure? with
  | none =>
    cases told with
    | silent received pass ending => exact absurd ending ends
  | some failure =>
    have owes : Owes failure events (unread ⟨endpoint, sink, flags⟩ stream) := owes_unread delivered
    have ready : (unread ⟨endpoint, sink, flags⟩ stream).fill.buffer ≠ [] :=
      buffer_fill_ne_nil (owes.pending_ne_nil rfl)
    refine ⟨rfl, events, failure, told, ?_⟩
    have run (calls : Nat) := owes.pace (.of_fill (pace_gives calls _))
    have answered (calls : Nat) :=
      map_some_reduceOption ((owes.pace (.of_fill .rest)).2.2.gives (.inr ready) calls)
    -- no call waits, so as many are answered as are made
    have length (calls : Nat) : (((unread ⟨endpoint, sink, flags⟩ stream).fill).gives
        calls).reduceOption.length = calls := by
      rw [← List.length_map Option.some, answered, length_gives]
    constructor
    case gives =>
      intro calls
      obtain ⟨order, -⟩ := run calls
      rw [length] at order
      rw [← order, answered]
    case closed =>
      intro calls
      obtain ⟨-, closed, -⟩ := run calls
      rw [closed, length]
      simp [unread]
    case paced =>
      intro replies last paced
      obtain ⟨order, closed, -⟩ := owes.pace paced
      exact ⟨order, closed.trans (by simp [unread])⟩
    case room => exact fun replies last paced => (owes.pace paced).2.2.length_buffer_le
    case woken => exact fun replies last paced => (owes.pace paced).2.2.woken

/-- An event, a blank frame, and a frame that refuses in front of another event. -/
def refusedStream : EventStream where
  bytes := "<134>first\n\n<134>[3]: gone\nlate\n".toList.map fun c => UInt8.ofNat c.toNat
  ending := some .closed

/-- Of three calls the first one gets the event, and the others the refusal. -/
theorem gives_out_in_order_refused :
    ∃ listener, subscribe .standard "buf0" {} (.connected refusedStream) = .ok listener ∧
      refusedStream.ending ≠ none ∧
      listener.gives 3 =
        [some (.ok ⟨.received, "first"⟩),
          some (.error (.protocol (some 3) "gone" "<134>[3]: gone" "show events buf0")),
          some (.error (.protocol (some 3) "gone" "<134>[3]: gone" "show events buf0"))] ∧
      listener.subscription = ⟨.standard, "buf0", {}⟩ ∧
      ∃ events failure, listener.subscription.Says refusedStream events (some failure) ∧
        listener.GivesOut refusedStream events failure :=
  have checked : Argument.name "sink" "buf0" = .ok "buf0" := by decide +kernel
  have subscribed : subscribe .standard "buf0" {} (.connected refusedStream) =
      .ok (unread ⟨.standard, "buf0", {}⟩ refusedStream).fill := by
    rw [subscribe, checked]
    rfl
  have ends : refusedStream.ending ≠ none := nofun
  ⟨_, subscribed, ends, by decide +kernel, gives_out_in_order subscribed ends⟩

/-- A frame with white space in front of the marker of a refusal. -/
def indentedStream : EventStream where
  bytes := " [3]: gone\n".toList.map fun c => UInt8.ofNat c.toNat
  ending := some .closed

/-- A marker counts behind white space, too, where the frame does not begin with it: the call
gives a refusal in place of an event. -/
theorem refuses_indented_marker :
    ∃ listener, subscribe .standard "buf0" {} (.connected indentedStream) = .ok listener ∧
      listener.subscription.Receives indentedStream [" [3]: gone"] ∧
      isBlank " [3]: gone" = false ∧
      (∀ tag rest : Text, ∀ severity, Event.IsTag tag →
        (" [3]: gone" : Text) ≠ tag ++ '[' :: Nat.digitChar severity :: ']' :: rest) ∧
      listener.gives 1 ≠ [some (.ok (.ofFrame " [3]: gone"))] ∧
      listener.gives 1 =
        [some (.error (.protocol (some 3) "gone" " [3]: gone" "show events buf0"))] := by
  have checked : Argument.name "sink" "buf0" = .ok "buf0" := by decide +kernel
  have subscribed : subscribe .standard "buf0" {} (.connected indentedStream) =
      .ok (unread ⟨.standard, "buf0", {}⟩ indentedStream).fill := by
    rw [subscribe, checked]
    rfl
  have frames : Subscription.frames ⟨.standard, "buf0", {}⟩ indentedStream =
      [(" [3]: gone" : Text)] := by
    decide +kernel
  have received := Subscription.receives_frames ⟨.standard, "buf0", {}⟩ indentedStream
  rw [frames] at received
  have given : ((unread ⟨.standard, "buf0", {}⟩ indentedStream).fill).gives 1 =
      [some (.error (.protocol (some 3) "gone" " [3]: gone" "show events buf0"))] := by
    decide +kernel
  refine ⟨_, subscribed, received, by decide +kernel, ?_, ?_, given⟩
  · -- the frame begins neither with a bracket nor with a tag
    intro tag rest severity tagged
    rw [ofString_eq]
    cases tagged <;> exact nofun
  · rw [given]
    exact nofun

end Listener

end ProxyControl
