import ProxyControl.Proofs.Event.Listening

/-!
# Closing

A listener is closed once: by the failure that it gives out, by a call that is cancelled, or by
being told to. From then on nothing changes it any more, and every call gets one and the same
failure at once.
-/
namespace ProxyControl.Listener

open Text

/-! ### Runs -/

inductive Act
  | listen
  /-- Listening that is called off. -/
  | cancel
  | close
  deriving DecidableEq, Repr

inductive Reply
  /-- The call has still to wait. -/
  | waiting
  | given (result : Result Event)
  | done
  deriving DecidableEq, Repr

/-- Something done with a listener, and what came of it. -/
structure Entry where
  before : Listener
  act : Act
  reply : Reply
  after : Listener

def entry (listener : Listener) : Act → Entry
  | .listen =>
    ⟨listener, .listen, (listener.listen.2.map .given).getD .waiting, listener.listen.1⟩
  | .cancel => ⟨listener, .cancel, .given listener.listenCancelled.2, listener.listenCancelled.1⟩
  | .close => ⟨listener, .close, .done, listener.close⟩

/-- What comes of some acts, one after the other. -/
def log : Listener → List Act → List Entry
  | _, [] => []
  | listener, act :: acts => listener.entry act :: log (listener.entry act).after acts

variable {listener : Listener}

@[simp] theorem before_entry (act : Act) : (listener.entry act).before = listener := by
  cases act <;> rfl

/-! ### Closed listeners -/

/-- A closed listener, which has nothing left and one failure for every call. -/
structure IsOver (listener : Listener) (final : Failure) : Prop where
  closed : listener.closed = true
  buffer : listener.buffer = []
  arriving : listener.arriving = []
  final : listener.closedFailure = final

/-- What a closed listener replies. -/
def lastReply (final : Failure) : Act → Reply
  | .listen | .cancel => .given (.error final)
  | .close => .done

theorem isOver_close (listener : Listener) : listener.close.IsOver listener.closedFailure :=
  ⟨rfl, rfl, rfl, rfl⟩

/-- Nothing that is done with a closed listener changes it. -/
theorem IsOver.entry {final : Failure} (isOver : listener.IsOver final) (act : Act) :
    listener.entry act = ⟨listener, act, lastReply final act, listener⟩ := by
  obtain ⟨closed, buffer, arriving, rfl⟩ := isOver
  cases act with
  | listen => simp [Listener.entry, listen, closed, lastReply]
  | cancel => simp [Listener.entry, listenCancelled, closed, lastReply]
  | close =>
    -- closing takes away what is there, and nothing is
    have same : listener.close = listener := by
      obtain ⟨subscription, unread, read, shut, failure⟩ := listener
      simp_all [close]
    simp [Listener.entry, same, lastReply]

theorem IsOver.log {final : Failure} (isOver : listener.IsOver final) (acts : List Act) :
    ∀ entry ∈ listener.log acts, entry.before = listener ∧ entry.after = listener ∧
      entry.reply = lastReply final entry.act := by
  induction acts with
  | nil => simp [Listener.log]
  | cons act acts ih =>
    intro entry member
    rw [Listener.log, isOver.entry act] at member
    rcases List.mem_cons.mp member with rfl | later
    · exact ⟨rfl, rfl, rfl⟩
    · exact ih entry later

/-! ### Open listeners -/

/-- An open listener, which has still to give out some events and then a failure, if there is to
be one. -/
structure IsOpen (subscription : Subscription) (failure? : Option Failure) (listener : Listener) :
    Prop where
  source : listener.subscription = subscription
  opened : listener.closed = false
  fresh : listener.failure = none
  pending : ∃ events : List Event,
    listener.pending = events.map .ok ++ (failure?.map .error).toList

@[simp] theorem pending_fill (listener : Listener) : listener.fill.pending = listener.pending := by
  simp [pending, fill]

/-- What is left of an open listener that is closed before its stream has ended. -/
def closedEarly (subscription : Subscription) : Failure :=
  .transport subscription.endpoint.toText "event listener closed"
    ("show events " ++ subscription.sink)

namespace IsOpen

variable {subscription : Subscription} {failure? : Option Failure}

theorem fill (isOpen : IsOpen subscription failure? listener) :
    IsOpen subscription failure? listener.fill :=
  ⟨isOpen.source, isOpen.opened, isOpen.fresh, (pending_fill listener).symm ▸ isOpen.pending⟩

/-- Listening leaves an open listener as open as it is, or closes it with the failure that is
given out. -/
theorem listen (isOpen : IsOpen subscription failure? listener) :
    (IsOpen subscription failure? listener.listen.1 ∧
      ∀ failure, listener.listen.2 ≠ some (.error failure)) ∨
    ∃ failure, failure? = some failure ∧ listener.listen.2 = some (.error failure) ∧
      listener.listen.1.IsOver failure := by
  obtain ⟨source, opened, fresh, events, pending⟩ := isOpen
  cases buffered : listener.buffer with
  | nil =>
    have waits : listener.listen = (listener, none) := by
      simp [Listener.listen, opened, buffered]
    rw [waits]
    exact .inl ⟨⟨source, opened, fresh, events, pending⟩, by simp⟩
  | cons delivery buffer =>
    rw [Listener.pending, buffered, List.cons_append] at pending
    cases events with
    | cons event events =>
      obtain ⟨rfl, left⟩ := List.cons_eq_cons.mp pending
      have taken : listener.listen =
          (Listener.fill { listener with buffer }, some (.ok event)) := by
        simp [Listener.listen, opened, buffered]
      rw [taken]
      exact .inl ⟨IsOpen.fill ⟨source, opened, fresh, events, left⟩, by simp⟩
    | nil =>
      cases failure? with
      | none => cases pending
      | some failure =>
        -- all events have been given out, so it is the failure's turn
        obtain ⟨rfl, -⟩ := List.cons_eq_cons.mp pending
        have ended : listener.listen = (close { listener with failure := some failure },
            some (.error failure)) := by
          simp [Listener.listen, opened, buffered, fresh]
        rw [ended]
        exact .inr ⟨failure, rfl, rfl, isOver_close _⟩

theorem close (isOpen : IsOpen subscription failure? listener) :
    listener.close.IsOver (closedEarly subscription) := by
  have isOver := isOver_close listener
  rw [closedFailure, isOpen.fresh, isOpen.source] at isOver
  exact isOver

theorem entry_cancel (isOpen : IsOpen subscription failure? listener) :
    listener.entry .cancel =
      ⟨listener, .cancel, .given (.error (closedEarly subscription)), listener.close⟩ := by
  simp [entry, listenCancelled, isOpen.opened, isOpen.close.final]

end IsOpen

/-! ### Being closed -/

/-- The three ways of closing a listener, and the failure that each one leaves. -/
inductive Closes (subscription : Subscription) (stream : EventStream) (entry : Entry) :
    Failure → Prop
  /-- A call gives out the failure of the stream. -/
  | failed {events : List Text} {final : Failure} (listens : entry.act = .listen)
      (told : subscription.Says stream events (some final))
      (given : entry.reply = .given (.error final)) : Closes subscription stream entry final
  | cancelled (cancels : entry.act = .cancel)
      (given : entry.reply = .given (.error (closedEarly subscription))) :
      Closes subscription stream entry (closedEarly subscription)
  | told (closes : entry.act = .close) : Closes subscription stream entry (closedEarly subscription)

/-- How a run goes: the listener stays open and gives out no failure, or it does so up to some
act that closes it, and from then on nothing changes. -/
inductive ClosesOnce (subscription : Subscription) (stream : EventStream) (log : List Entry) : Prop
  | never (stays : ∀ entry ∈ log, entry.after.closed = false ∧
      ∀ failure, entry.reply ≠ .given (.error failure))
  | once {earlier later : List Entry} {closing : Entry} {final : Failure}
      (split : log = earlier ++ closing :: later)
      (stays : ∀ entry ∈ earlier, entry.after.closed = false ∧
        ∀ failure, entry.reply ≠ .given (.error failure))
      (opened : closing.before.closed = false) (closed : closing.after.closed = true)
      (closes : Closes subscription stream closing final)
      (settled : ∀ entry ∈ later, entry.before = closing.after ∧ entry.after = closing.after ∧
        entry.reply = lastReply final entry.act)

section

variable {subscription : Subscription} {stream : EventStream}

theorem ClosesOnce.of_closing {act : Act} {acts : List Act} {final : Failure}
    (opened : listener.closed = false) (isOver : (listener.entry act).after.IsOver final)
    (closes : Closes subscription stream (listener.entry act) final) :
    ClosesOnce subscription stream (listener.log (act :: acts)) := by
  have split : listener.log (act :: acts) =
      [] ++ listener.entry act :: (listener.entry act).after.log acts := by
    rw [Listener.log, List.nil_append]
  exact .once split (List.forall_mem_nil _) (before_entry act ▸ opened) isOver.closed closes
    (isOver.log acts)

theorem ClosesOnce.cons {entry : Entry} {log : List Entry}
    (stays : entry.after.closed = false ∧ ∀ failure, entry.reply ≠ .given (.error failure))
    (onward : ClosesOnce subscription stream log) :
    ClosesOnce subscription stream (entry :: log) := by
  cases onward with
  | never rest => exact .never (List.forall_mem_cons.mpr ⟨stays, rest⟩)
  | once split rest opened closed closes settled =>
    exact .once (by rw [split]; rfl) (List.forall_mem_cons.mpr ⟨stays, rest⟩) opened closed closes
      settled

/-- From an open listener on. -/
theorem IsOpen.log {failure? : Option Failure} (isOpen : IsOpen subscription failure? listener)
    (told : ∀ failure ∈ failure?, ∃ events, subscription.Says stream events (some failure))
    (acts : List Act) : ClosesOnce subscription stream (listener.log acts) := by
  -- while the listener stays open, the rest of the run starts from an open listener, too
  induction acts generalizing listener with
  | nil => exact .never (by simp [Listener.log])
  | cons act acts ih =>
    cases act with
    | listen =>
      rcases isOpen.listen with ⟨still, quiet⟩ | ⟨failure, expected, given, isOver⟩
      · refine .cons ⟨still.opened, fun failure given => ?_⟩ (ih still)
        -- a call that waits gives nothing, and any other gives what it is given
        simp only [entry] at given
        cases replied : listener.listen.2 with
        | none =>
          rw [replied] at given
          cases given
        | some result =>
          rw [replied] at given
          cases given
          exact quiet failure replied
      · obtain ⟨events, told⟩ := told failure expected
        exact .of_closing isOpen.opened isOver (.failed rfl told (by simp [entry, given]))
    | cancel =>
      have cancelled := isOpen.entry_cancel
      exact .of_closing isOpen.opened (cancelled ▸ isOpen.close)
        (.cancelled rfl (by rw [cancelled]))
    | close => exact .of_closing isOpen.opened isOpen.close (.told rfl)

end

/-- Whatever is done with a listener, in any order, it is closed at most once, and what it is
left with is what every later call gets. -/
theorem closes_once {endpoint : Endpoint} {sink : Text} {flags : EventFlags}
    {stream : EventStream}
    (subscribed : subscribe endpoint sink flags (.connected stream) = .ok listener)
    (acts : List Act) :
    listener.closed = false ∧
      ClosesOnce ⟨endpoint, sink, flags⟩ stream (listener.log acts) := by
  obtain rfl := subscribe_connected_eq_ok subscribed
  obtain ⟨events, failure?, told, delivered⟩ :=
    Subscription.exists_says ⟨endpoint, sink, flags⟩ stream
  have isOpen : IsOpen ⟨endpoint, sink, flags⟩ failure?
      (unread ⟨endpoint, sink, flags⟩ stream) :=
    ⟨rfl, rfl, rfl, events.map .ofFrame, by simp [pending, unread, delivered]⟩
  refine ⟨rfl, isOpen.fill.log ?_ acts⟩
  rintro failure ⟨rfl⟩
  exact ⟨events, told⟩

/-- A stream of one event on a connection that stays open. -/
def heldStream : EventStream where
  bytes := "first\n".toList.map fun c => UInt8.ofNat c.toNat
  ending := none

/-- A call that waits is cancelled, and closing changes nothing for the calls behind it. -/
theorem closes_once_held :
    ∃ listener, subscribe .standard "buf0" {} (.connected heldStream) = .ok listener ∧
      (listener.log [.listen, .listen, .cancel, .listen, .close, .listen]).map Entry.reply =
        [.given (.ok ⟨.received, "first"⟩), .waiting,
          .given (.error (closedEarly ⟨.standard, "buf0", {}⟩)),
          .given (.error (closedEarly ⟨.standard, "buf0", {}⟩)), .done,
          .given (.error (closedEarly ⟨.standard, "buf0", {}⟩))] ∧
      listener.closed = false ∧
      ClosesOnce ⟨.standard, "buf0", {}⟩ heldStream
        (listener.log [.listen, .listen, .cancel, .listen, .close, .listen]) :=
  have checked : Argument.name "sink" "buf0" = .ok "buf0" := by decide +kernel
  have subscribed : subscribe .standard "buf0" {} (.connected heldStream) =
      .ok (unread ⟨.standard, "buf0", {}⟩ heldStream).fill := by
    rw [subscribe, checked]
    rfl
  ⟨_, subscribed, by decide +kernel, closes_once subscribed _⟩

end ProxyControl.Listener
