import ProxyControl.Proofs.Date.Reading
import ProxyControl.Proofs.Event.Closing
import ProxyControl.Proofs.Frame.Reading

/-!
# Written events

An event is written as a tag, a time, a blank and a message. Only what stands in front of the
message is looked at when the frame is read, so a message may look like anything: like a marker, a
tag, a prompt or another time.
-/
namespace ProxyControl

open Text

namespace Event

/-- A time in front of a message: it is read as one and ends at the first blank behind it. -/
structure IsStamp (stamp : Text) (moment : Moment) : Prop where
  read : Date.rfc3339Time? stamp = some moment
  word : ' ' ∉ stamp

/-- A message that its frame holds as a whole. -/
structure IsMessage (delimiter : Delimiter) (message : Text) : Prop where
  whole : delimiter.char ∉ message
  trimmed : trim message = message
  ended : '\x00' ∉ message.getLast?

/-- How an event is written. -/
def line (tag stamp message : Text) : Text := tag ++ stamp ++ ' ' :: message

/-- Raw frames, and the events that are written in them. A frame that says nothing once it is
cleaned is blank; a delimiter of the other kind may have strayed to the front of an event. -/
inductive Writes (delimiter : Delimiter) : List Text → List Event → Prop
  | done : Writes delimiter [] []
  | blank {raw : Text} {raws : List Text} {events : List Event} (whole : delimiter.char ∉ raw)
      (blank : isBlank (Frame.clean delimiter raw) = true) (onward : Writes delimiter raws events) :
    Writes delimiter (raw :: raws) events
  | event {stray tag stamp message : Text} {moment : Moment} {raws : List Text}
      {events : List Event} (isStray : stray = [] ∨ stray = [delimiter.stray])
      (tagged : IsTag tag) (stamped : IsStamp stamp moment) (said : IsMessage delimiter message)
      (onward : Writes delimiter raws events) :
    Writes delimiter ((stray ++ line tag stamp message) :: raws)
      (⟨.written moment, message⟩ :: events)

/-! ### Times -/

namespace IsStamp

variable {stamp : Text} {moment : Moment} (stamped : IsStamp stamp moment)
include stamped

theorem exists_cons : ∃ c rest, stamp = c :: rest ∧ c.isDigit = true := by
  obtain ⟨c, first, digit⟩ := (Date.of_rfc3339Time? stamped.read).2
  obtain ⟨rest, rfl⟩ := List.head?_eq_some_iff.mp first
  exact ⟨c, rest, rfl, digit⟩

theorem not_isSpace : ∀ c ∈ stamp, isSpace c = false ∧ c ≠ '\x00' := fun c member =>
  ((Date.of_rfc3339Time? stamped.read).1 c member).not_isSpace
    (ne_of_mem_of_not_mem member stamped.word)

end IsStamp

theorem IsTag.not_isSpace {tag : Text} (tagged : IsTag tag) :
    ∀ c ∈ tag, isSpace c = false ∧ c ≠ '\x00' := by
  cases tagged with
  | none => exact List.forall_mem_nil _
  | priority some number =>
    refine List.forall_mem_cons.mpr ⟨⟨rfl, by decide⟩, List.forall_mem_append.mpr ⟨?_, ?_⟩⟩
    · exact fun c member => Date.not_isSpace_of_isDigit (number c member)
    · exact List.forall_mem_singleton.mpr ⟨rfl, by decide⟩

/-! ### Lines -/

/-- An event ends in the blank behind its time or in a message, and so not in what ends frames. -/
theorem IsMessage.not_isFrameEnd {delimiter : Delimiter} {message : Text}
    (said : IsMessage delimiter message) :
    ∀ c ∈ (' ' :: message).getLast?, c ≠ '\r' ∧ c ≠ '\n' ∧ c ≠ '\x00' := by
  have trimmed := (of_trim_eq_self said.trimmed).2
  intro c last
  rw [List.getLast?_cons, Option.mem_some_iff] at last
  cases final : message.getLast? with
  | none =>
    rw [final] at last
    cases last
    decide
  | some d =>
    rw [final] at last
    obtain rfl : d = c := last
    have inside : isSpace d = false := isSpace_of_mem_getLast?_trimEnd (trimmed.symm ▸ final)
    refine ⟨?_, ?_, ?_⟩
    · rintro rfl
      cases inside
    · rintro rfl
      cases inside
    · rintro rfl
      exact said.ended final

section Line

variable {tag stamp message : Text} {moment : Moment} (tagged : IsTag tag)
  (stamped : IsStamp stamp moment)
include tagged stamped

/-- An event begins with a tag or with a digit. -/
theorem exists_line_eq_cons (message : Text) :
    ∃ c rest, line tag stamp message = c :: rest ∧ (c = '<' ∨ c.isDigit = true) := by
  cases tagged with
  | none =>
    obtain ⟨c, rest, rfl, digit⟩ := stamped.exists_cons
    exact ⟨c, _, rfl, .inr digit⟩
  | priority some number => exact ⟨'<', _, rfl, .inl rfl⟩

theorem not_mem_line {c : Char} (other : isSpace c = true ∨ c = '\x00') (inBlank : c ≠ ' ')
    (whole : c ∉ message) : c ∉ line tag stamp message := by
  have inside {part : Text} (solid : ∀ c ∈ part, isSpace c = false ∧ c ≠ '\x00') : c ∉ part := by
    intro member
    rcases other with space | zero
    · rw [(solid c member).1] at space
      cases space
    · exact (solid c member).2 zero
  simp [line, inside tagged.not_isSpace, inside stamped.not_isSpace, inBlank, whole]

/-- What is left of an event without its tag: the time, and the message behind a blank if there is
one. -/
theorem withoutTag_trim_line (trimmed : trim message = message) :
    withoutTag (trim (line tag stamp message)) =
      if message = [] then stamp else stamp ++ ' ' :: message := by
  obtain ⟨c, rest, begins, digit⟩ := stamped.exists_cons
  obtain ⟨d, more, starts, first⟩ := exists_line_eq_cons tagged stamped message
  have inside : isSpace d = false := by
    rcases first with rfl | digit
    · rfl
    · exact (Date.not_isSpace_of_isDigit digit).1
  have start : trimStart (line tag stamp message) = line tag stamp message :=
    trimStart_of_head? fun other same => by
      rw [starts] at same
      cases same
      exact inside
  -- behind a tag stands a digit, so no second tag is taken off
  have bare (behind : Text) : '<' ∉ (stamp ++ behind).head? := by
    rw [begins]
    rintro ⟨⟩
    cases digit
  have word : ∀ c ∈ tag ++ stamp, isSpace c = false := List.forall_mem_append.mpr
    ⟨fun c member => (tagged.not_isSpace c member).1,
      fun c member => (stamped.not_isSpace c member).1⟩
  rw [trim, start, line, trimEnd_append_of_forall word, List.append_assoc,
    withoutTag_of_isTag tagged (bare _)]
  split
  next none =>
    rw [none]
    exact List.append_nil stamp
  next some =>
    have notBlank : isBlank message = false := by
      rwa [← trimmed, trim_eq_nil_iff, Bool.not_eq_true] at some
    rw [trimEnd_cons, isBlank_cons, notBlank, Bool.and_false, if_neg Bool.false_ne_true,
      (of_trim_eq_self trimmed).2]

theorem ofFrame_line (trimmed : trim message = message) :
    Event.ofFrame (line tag stamp message) = ⟨.written moment, message⟩ := by
  rw [ofFrame, withoutTag_trim_line tagged stamped trimmed]
  split
  next none =>
    simp only [ofText, cutFirst?_eq_none stamped.word, Option.getD_none, stamped.read, none]
    rfl
  next =>
    simp only [ofText, cutFirst?_append_cons stamped.word, Option.getD_some, stamped.read,
      (of_trim_eq_self trimmed).1]

/-- A digit marks no refusal, whatever the message looks like. -/
theorem refusal?_line (trimmed : trim message = message) :
    Event.refusal? (line tag stamp message) = none := by
  obtain ⟨c, rest, begins, digit⟩ := stamped.exists_cons
  have unmarked (behind : Text) : Frame.bracketedRefusal? (stamp ++ behind) = none := by
    rw [begins, List.cons_append, Frame.bracketedRefusal?]
    intro marker rest bracket
    cases (List.cons.inj bracket).1
    cases digit
  rw [refusal?, withoutTag_trim_line tagged stamped trimmed]
  split
  · exact List.append_nil stamp ▸ unmarked []
  · exact unmarked _

theorem isBlank_line (message : Text) : isBlank (line tag stamp message) = false := by
  obtain ⟨c, rest, begins, first⟩ := exists_line_eq_cons tagged stamped message
  rw [begins, isBlank_cons]
  rcases first with rfl | digit
  · rfl
  · rw [(Date.not_isSpace_of_isDigit digit).1, Bool.false_and]

variable {delimiter : Delimiter} (said : IsMessage delimiter message)
include said

/-- Nothing is taken away from an event when its frame is cleaned, but for what has strayed to its
front. -/
theorem clean_line {stray : Text} (isStray : stray = [] ∨ stray = [delimiter.stray]) :
    Frame.clean delimiter (stray ++ line tag stamp message) = line tag stamp message := by
  obtain ⟨c, rest, begins, first⟩ := exists_line_eq_cons tagged stamped message
  -- an event begins neither like a stray delimiter nor like a prompt
  have notStray : c ≠ delimiter.stray := by
    rintro rfl
    rcases first with same | digit <;> cases delimiter <;> simp_all [Delimiter.stray]
  have notPrompt : c ≠ '>' := by
    rintro rfl
    simp at first
  have last : (line tag stamp message).getLast? = (' ' :: message).getLast? :=
    List.getLast?_append_of_ne_nil _ (List.cons_ne_nil ' ' message)
  have whole : stray ++ line tag stamp message =
      stray ++ ([] ++ (line tag stamp message ++ [])) := by
    simp
  refine Frame.clean_eq_iff.mpr (.intro whole ?_ (.inr ⟨rfl, ?_⟩) (List.forall_mem_nil _)
    (last ▸ said.not_isFrameEnd))
  · rcases isStray with rfl | rfl
    · refine .inr ⟨rfl, ?_⟩
      simp [begins, Ne.symm notStray]
    · exact .inl rfl
  · simp [begins, ofString_eq, Ne.symm notPrompt]

end Line

/-- No frame holds a delimiter. -/
theorem Writes.not_mem {delimiter : Delimiter} {raws : List Text} {events : List Event}
    (written : Writes delimiter raws events) : ∀ raw ∈ raws, delimiter.char ∉ raw := by
  induction written with
  | done => exact List.forall_mem_nil _
  | blank whole blank onward ih => exact List.forall_mem_cons.mpr ⟨whole, ih⟩
  | @event stray tag stamp message moment raws events isStray tagged stamped said onward ih =>
    refine List.forall_mem_cons.mpr ⟨?_, ih⟩
    have inStray : delimiter.char ∉ stray := by
      rcases isStray with rfl | rfl
      · exact List.not_mem_nil
      · cases delimiter <;> decide
    have inLine : delimiter.char ∉ line tag stamp message := by
      refine not_mem_line tagged stamped ?_ ?_ said.whole <;> cases delimiter <;> decide
    simp [inStray, inLine]

end Event

/-! ### Streams -/

namespace Subscription

variable {subscription : Subscription} {stream : EventStream} {raws : List Text}
  {events : List Event}

/-- Each frame delivers the event that is written in it, and a blank one delivers nothing. -/
theorem filterMap_delivery?_of_writes
    (written : Event.Writes subscription.flags.delimiter raws events) :
    (raws.map (Frame.clean subscription.flags.delimiter)).filterMap subscription.delivery? =
      events.map .ok := by
  induction written with
  | done => rfl
  | blank whole blank onward ih =>
    have nothing : subscription.delivery? (Frame.clean subscription.flags.delimiter _) = none :=
      if_pos blank
    rw [List.map_cons, List.filterMap_cons_none nothing, ih]
  | event isStray tagged stamped said onward ih =>
    have delivered := @delivery?_of_event subscription _ (Event.isBlank_line tagged stamped _)
      (Event.refusal?_line tagged stamped said.trimmed)
    rw [Event.ofFrame_line tagged stamped said.trimmed,
      ← Event.clean_line tagged stamped said isStray] at delivered
    rw [List.map_cons, List.filterMap_cons_some delivered, ih, List.map_cons]

/-- How the end of a stream fails the listener. -/
theorem exists_endDelivery (subscription : Subscription) (ending : Option Ending) :
    ∃ failure? : Option Failure, ending.map subscription.endDelivery = failure?.map .error ∧
      (failure? = none ↔ ending = none) := by
  match ending with
  | none => exact ⟨none, rfl, by simp⟩
  | some .closed => exact ⟨some _, rfl, by simp⟩
  | some (.failed reason) => exact ⟨some _, rfl, by simp⟩

/-- A stream delivers what is written in it, and then its end if it has one. -/
theorem deliveries_of_writes (written : Event.Writes subscription.flags.delimiter raws events)
    (sent : stream.bytes =
      Utf8.encode (raws.flatMap (· ++ [subscription.flags.delimiter.char]))) :
    subscription.deliveries stream =
      events.map .ok ++ (stream.ending.map subscription.endDelivery).toList := by
  obtain ⟨failure?, ended, -⟩ := subscription.exists_endDelivery stream.ending
  rw [deliveries, frames, sent, Incoming.frames_encode written.not_mem,
    filterMap_delivery?_of_writes written, untilFailure_map_ok_append, ended]
  cases failure? <;> rfl

end Subscription

/-! ### Listeners -/

namespace Listener

variable {listener : Listener}

/-- A closed listener answers each call with its failure. -/
theorem IsOver.gives {final : Failure} (isOver : listener.IsOver final) (calls : Nat) :
    listener.gives calls = List.replicate calls (some (.error final)) ∧
      (listener.after calls).closed = true := by
  have same : listener.listen = (listener, some (.error final)) := by
    rw [listen, if_pos isOver.closed, isOver.final]
  induction calls with
  | zero => exact ⟨rfl, isOver.closed⟩
  | succ calls ih =>
    rw [Listener.gives, after, same, List.replicate_succ, ih.1]
    exact ⟨rfl, ih.2⟩

/-- An open listener that has not failed, and what it has to give out. -/
structure Holds (listener : Listener) (deliveries : List (Result Event)) : Prop where
  opened : listener.closed = false
  unfailed : listener.failure = none
  pending : listener.pending = deliveries

/-- Reading ahead brings the first delivery into the buffer. -/
theorem Holds.buffer_fill {delivery : Result Event} {deliveries : List (Result Event)}
    (holds : listener.Holds (delivery :: deliveries)) :
    ∃ buffer, listener.fill.buffer = delivery :: buffer ∧
      buffer ++ listener.fill.arriving = deliveries := by
  have pending : listener.fill.buffer ++ listener.fill.arriving = delivery :: deliveries :=
    (pending_fill listener).trans holds.pending
  have filled : listener.fill.buffer ≠ [] :=
    buffer_fill_ne_nil (holds.pending ▸ List.cons_ne_nil delivery deliveries)
  obtain ⟨first, buffer, same⟩ := List.exists_cons_of_ne_nil filled
  rw [same, List.cons_append] at pending
  obtain ⟨rfl, left⟩ := List.cons_eq_cons.mp pending
  exact ⟨buffer, same, left⟩

/-- With nothing to give a call waits. -/
theorem Holds.listen_nil (holds : listener.Holds []) :
    listener.fill.listen = (listener.fill, none) := by
  have opened : listener.fill.closed = false := holds.opened
  have none : listener.fill.buffer = [] :=
    (List.append_eq_nil_iff.mp ((pending_fill listener).trans holds.pending)).1
  simp [listen, opened, none]

/-- The first event is given out, and the listener reads ahead again. -/
theorem Holds.listen_ok {event : Event} {deliveries : List (Result Event)}
    (holds : listener.Holds (.ok event :: deliveries)) :
    ∃ next : Listener, next.Holds deliveries ∧ listener.fill.listen = (next.fill, some (.ok event)) := by
  have opened : listener.fill.closed = false := holds.opened
  obtain ⟨buffer, filled, left⟩ := holds.buffer_fill
  exact ⟨{ listener.fill with buffer }, ⟨opened, holds.unfailed, left⟩, by
    simp [listen, opened, filled]⟩

/-- A failure is given out and closes the listener. -/
theorem Holds.listen_error {failure : Failure} {deliveries : List (Result Event)}
    (holds : listener.Holds (.error failure :: deliveries)) :
    ∃ next : Listener, next.IsOver failure ∧ listener.fill.listen = (next, some (.error failure)) := by
  have opened : listener.fill.closed = false := holds.opened
  have unfailed : listener.fill.failure = none := holds.unfailed
  obtain ⟨buffer, filled, -⟩ := holds.buffer_fill
  exact ⟨_, isOver_close { listener.fill with failure := some failure }, by
    simp [listen, opened, filled, unfailed]⟩

/-- A listener that reads ahead gives out its events one by one. Behind them its calls wait, or get
the failure if there is one, which closes the listener. -/
theorem Holds.gives {events : List Event} {failure? : Option Failure}
    (holds : listener.Holds (events.map .ok ++ (failure?.map .error).toList)) (calls : Nat) :
    listener.fill.gives calls = ((events.take calls).map fun event => some (.ok event)) ++
        List.replicate (calls - events.length) (failure?.map .error) ∧
      ((listener.fill.after calls).closed = true ↔ failure? ≠ none ∧ events.length < calls) := by
  induction calls generalizing events listener with
  | zero => simp [Listener.gives, after, fill, holds.opened]
  | succ calls ih =>
    rw [Listener.gives, after]
    cases events with
    | cons event events =>
      obtain ⟨next, still, given⟩ := holds.listen_ok
      rw [given, (ih still).1, (ih still).2]
      simp
    | nil =>
      cases failure? with
      | none =>
        rw [holds.listen_nil, (ih holds).1, (ih holds).2]
        simp [List.replicate_succ]
      | some failure =>
        -- a closed listener repeats the failure, so the calls that are left need no induction
        obtain ⟨next, isOver, given⟩ := holds.listen_error
        rw [given, (isOver.gives calls).1, (isOver.gives calls).2]
        simp [List.replicate_succ]

/-- Whatever events say, a listener gives out exactly what is written, in order. No event closes
it: only the end of the stream does, behind all of them. -/
theorem gives_what_is_written {endpoint : Endpoint} {sink : Text} {flags : EventFlags}
    {stream : EventStream}
    (subscribed : subscribe endpoint sink flags (.connected stream) = .ok listener)
    {raws : List Text} {events : List Event} (written : Event.Writes flags.delimiter raws events)
    (sent : stream.bytes = Utf8.encode (raws.flatMap (· ++ [flags.delimiter.char])))
    (calls : Nat) :
    listener.gives calls = ((events.take calls).map fun event => some (.ok event)) ++
        List.replicate (calls - events.length)
          (stream.ending.map (Subscription.mk endpoint sink flags).endDelivery) ∧
      ((listener.after calls).closed = true ↔
        stream.ending ≠ none ∧ events.length < calls) := by
  obtain rfl := subscribe_connected_eq_ok subscribed
  obtain ⟨failure?, ended, ends⟩ :=
    (Subscription.mk endpoint sink flags).exists_endDelivery stream.ending
  have delivered := @Subscription.deliveries_of_writes ⟨endpoint, sink, flags⟩ _ _ _ written sent
  rw [ended] at delivered ⊢
  rw [ne_eq, ← ends]
  exact @Holds.gives (unread ⟨endpoint, sink, flags⟩ stream) events failure? ⟨rfl, rfl, delivered⟩ calls

/-- Two events with marks in their messages, the second one behind a stray delimiter, and blank
frames around them. -/
def markedFrames (delimiter : Delimiter) : List Text :=
  ["> ", Event.line "<134>" "2024-05-02T10:11:12Z" "[3]: <1>x > 2024-05-02T10:11:13Z", "",
    [delimiter.stray] ++
      Event.line "" "2024-05-02t12:11:13.5+02:00" ("> " ++ delimiter.stray :: "[0]"), " "]

def markedEvents (delimiter : Delimiter) : List Event :=
  [⟨.written ⟨1714644672, 0⟩, "[3]: <1>x > 2024-05-02T10:11:13Z"⟩,
    ⟨.written ⟨1714644673, 500000000⟩, "> " ++ delimiter.stray :: "[0]"⟩]

theorem writes_marked (delimiter : Delimiter) :
    Event.Writes delimiter (markedFrames delimiter) (markedEvents delimiter) := by
  have tagged : Event.IsTag "<134>" := by
    have digits := @Event.IsTag.priority ['1', '3', '4'] (by simp) (by simp)
    simpa [ofString_eq] using digits
  have untagged : Event.IsTag "" := by simpa [ofString_eq] using Event.IsTag.none
  have first : Event.IsStamp "2024-05-02T10:11:12Z" ⟨1714644672, 0⟩ :=
    ⟨by decide +kernel, by decide +kernel⟩
  have second : Event.IsStamp "2024-05-02t12:11:13.5+02:00" ⟨1714644673, 500000000⟩ :=
    ⟨by decide +kernel, by decide +kernel⟩
  cases delimiter with
  | newline | nul =>
    refine .blank (by decide +kernel) (by decide +kernel) <|
      @Event.Writes.event _ [] _ _ _ _ _ _ (.inl rfl) tagged first ?_ <|
      .blank (by decide +kernel) (by decide +kernel) <|
      .event (.inr rfl) untagged second ?_ <|
      .blank (by decide +kernel) (by decide +kernel) .done
    · exact ⟨by decide +kernel, by decide +kernel, by decide +kernel⟩
    · exact ⟨by decide +kernel, by decide +kernel, by decide +kernel⟩

/-- The marked events on a connection that the peer closes behind them. -/
def markedStream (delimiter : Delimiter) : EventStream where
  bytes := Utf8.encode ((markedFrames delimiter).flatMap (· ++ [delimiter.char]))
  ending := some .closed

/-- What three calls give of the marked events. -/
def markedReplies (delimiter : Delimiter) : List (Option (Result Event)) :=
  [some (.ok ⟨.written ⟨1714644672, 0⟩, "[3]: <1>x > 2024-05-02T10:11:13Z"⟩),
    some (.ok ⟨.written ⟨1714644673, 500000000⟩, "> " ++ delimiter.stray :: "[0]"⟩),
    some (.error (.transport Endpoint.standard.toText "event stream closed by peer"
      "show events buf0"))]

/-- Neither a marker nor a tag, a prompt or a time in a message is taken for one, whichever
delimiter is asked for. -/
theorem gives_what_is_written_marked :
    (∃ listener, subscribe .standard "buf0" .follow (.connected (markedStream .newline)) =
        .ok listener ∧
      Event.Writes .newline (markedFrames .newline) (markedEvents .newline) ∧
      listener.gives 3 = markedReplies .newline ∧ (listener.after 2).closed = false) ∧
    ∃ listener, subscribe .standard "buf0" { nul := true } (.connected (markedStream .nul)) =
        .ok listener ∧
      Event.Writes .nul (markedFrames .nul) (markedEvents .nul) ∧
      listener.gives 3 = markedReplies .nul ∧ (listener.after 2).closed = false := by
  have checked : Argument.name "sink" "buf0" = .ok "buf0" := by decide +kernel
  have run (flags : EventFlags) : ∃ listener,
      subscribe .standard "buf0" flags (.connected (markedStream flags.delimiter)) =
        .ok listener ∧
      Event.Writes flags.delimiter (markedFrames flags.delimiter) (markedEvents flags.delimiter) ∧
      listener.gives 3 = markedReplies flags.delimiter ∧ (listener.after 2).closed = false := by
    have subscribed : subscribe .standard "buf0" flags
        (.connected (markedStream flags.delimiter)) =
          .ok (unread ⟨.standard, "buf0", flags⟩ (markedStream flags.delimiter)).fill := by
      rw [subscribe, checked]
      rfl
    have written := writes_marked flags.delimiter
    have command : (Subscription.mk .standard "buf0" flags).command = "show events buf0" := by
      simp [Subscription.command, ofString_eq]
    refine ⟨_, subscribed, written, ?_, ?_⟩
    · rw [(gives_what_is_written subscribed written rfl 3).1]
      simp [markedEvents, markedReplies, markedStream, Subscription.endDelivery,
        Subscription.failure, command, Endpoint.failure]
    · rw [← Bool.not_eq_true, (gives_what_is_written subscribed written rfl 2).2]
      simp [markedEvents]
  exact ⟨run .follow, run { nul := true }⟩

end Listener

end ProxyControl
