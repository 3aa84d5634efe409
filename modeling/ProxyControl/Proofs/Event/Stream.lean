import ProxyControl.Event.Listener
import ProxyControl.Proofs.Frame.Cut
import ProxyControl.Proofs.Frame.Refusal
import ProxyControl.Proofs.Text.Cutting

/-!
# What a stream says

A stream says a number of events, frame by frame, and ends in at most one failure: the first
frame that refuses, or else the end of the connection. What stands behind a refusal is not said.
-/
namespace ProxyControl

open Text

/-! ### Refusing frames -/

namespace Event

/-- A priority tag, or nothing in its place. -/
inductive IsTag : Text → Prop
  | none : IsTag []
  | priority {digits : Text} (some : digits ≠ []) (number : ∀ c ∈ digits, c.isDigit = true) :
    IsTag ('<' :: (digits ++ ['>']))

/-- A frame that refuses: behind its tag, if it has one, a failing severity stands in brackets. -/
inductive Refuses (frame : Text) (severity : Nat) (message : Text) : Prop
  | marked {tag rest : Text} (tagged : IsTag tag)
      (marker : trim frame = tag ++ '[' :: Nat.digitChar severity :: ']' :: rest)
      (fails : severity ≤ 3) (meant : message = trim (withoutStart ":" rest))

theorem exists_tag (text : Text) : ∃ tag, IsTag tag ∧ text = tag ++ withoutTag text := by
  unfold withoutTag
  split
  next tag rest cut =>
    split
    next priority =>
      simp only [Bool.and_eq_true, Bool.not_eq_true', List.isEmpty_eq_false_iff, List.all_eq_true]
        at priority
      obtain ⟨inner, opened, cut⟩ := Option.bind_eq_some_iff.mp cut
      obtain ⟨c, rfl, close, -⟩ := cutFirst?_eq_some_iff.mp cut
      obtain rfl := eq_of_beq close
      exact ⟨_, .priority priority.1 priority.2, by simp [after?_eq_some_iff.mp opened]⟩
    next => exact ⟨[], .none, rfl⟩
  next => exact ⟨[], .none, rfl⟩

/-- A tag is taken away as a whole, and nothing is where there is none. -/
theorem withoutTag_of_isTag {tag rest : Text} (tagged : IsTag tag) (bare : '<' ∉ rest.head?) :
    withoutTag (tag ++ rest) = rest := by
  cases tagged with
  | none =>
    have untagged : after? ['<'] rest = Option.none := by
      cases rest with
      | nil => rfl
      | cons c rest => simpa [after?, eq_comm] using bare
    rw [List.nil_append, withoutTag, untagged]
    rfl
  | @priority digits some number =>
    -- digits do not close a tag, so it is the bracket behind them that does
    have cut : cutFirst? (· == '>') (digits ++ '>' :: rest) = Option.some (digits, rest) :=
      cutFirst?_append_cons (fun member => by cases number '>' member) _
    have whole : '<' :: (digits ++ ['>']) ++ rest = '<' :: (digits ++ '>' :: rest) := by simp
    have all : (!digits.isEmpty && digits.all Char.isDigit) = true := by
      simp [some, List.all_eq_true.mpr number]
    rw [whole]
    simp only [withoutTag, after?, if_true, Option.bind_some, cut, all]

theorem refusal?_eq_some_iff {frame message : Text} {severity : Nat} :
    refusal? frame = some ⟨severity, message⟩ ↔ Refuses frame severity message := by
  rw [refusal?, Frame.bracketedRefusal?_eq_some_iff]
  constructor
  · rintro ⟨rest, marker, fails, meant⟩
    obtain ⟨tag, tagged, whole⟩ := exists_tag (trim frame)
    exact .marked tagged (marker ▸ whole) fails meant
  · rintro ⟨tagged, marker, fails, meant⟩
    refine ⟨_, ?_, fails, meant⟩
    rw [marker, withoutTag_of_isTag tagged (by simp)]

theorem refusal?_eq_none_iff {frame : Text} :
    refusal? frame = none ↔ ∀ severity message, ¬ Refuses frame severity message := by
  simp only [← refusal?_eq_some_iff, Option.eq_none_iff_forall_ne_some]
  exact ⟨fun none severity message => none ⟨severity, message⟩,
    fun none refusal => none refusal.severity refusal.message⟩

end Event

/-! ### Frames -/

namespace Subscription

variable {subscription : Subscription} {stream : EventStream}

/-- The frames in a stream: one for each delimiter, and one for what the peer has sent behind the
last delimiter by the time it closes. -/
inductive Receives (subscription : Subscription) (stream : EventStream) : List Text → Prop
  | whole {ended : List (List UInt8)} {left : List UInt8}
      (cut : Cut subscription.flags.delimiter.byte stream.bytes ended left)
      (nothing : stream.ending = some .closed → left = []) :
      Receives subscription stream
        (ended.map fun raw => Frame.clean subscription.flags.delimiter (Utf8.decodeLossy raw))
  | rest {ended : List (List UInt8)} {left : List UInt8}
      (cut : Cut subscription.flags.delimiter.byte stream.bytes ended left)
      (closed : stream.ending = some .closed) (some : left ≠ []) :
      Receives subscription stream ((ended ++ [left]).map fun raw =>
        Frame.clean subscription.flags.delimiter (Utf8.decodeLossy raw))

theorem receives_frames (subscription : Subscription) (stream : EventStream) :
    Receives subscription stream (subscription.frames stream) := by
  have cut := cut_segments subscription.flags.delimiter.byte stream.bytes
  rw [frames, Incoming.frames, Incoming.rawFrames_of_cut cut]
  -- a connection that is still open counts as one that has failed
  have closed : stream.ending.getD (.failed []) = .closed ↔ stream.ending = some .closed := by
    cases stream.ending <;> simp
  simp only [closed]
  split
  next left => exact .rest cut left.1 left.2
  next none => exact .whole cut fun ending => by_contra fun left => none ⟨ending, left⟩

/-! ### Events -/

/-- What a stream says: the frames that tell events, in order, and the failure behind them.
Blank frames say nothing. -/
inductive Says (subscription : Subscription) (stream : EventStream) :
    List Text → Option Failure → Prop
  | refused {frames events later : List Text} {refusing message : Text} {severity : Nat}
      (received : Receives subscription stream frames)
      (order : frames.filter (!isBlank ·) = events ++ refusing :: later)
      (pass : ∀ frame ∈ events, ∀ severity message, ¬ Event.Refuses frame severity message)
      (refuses : Event.Refuses refusing severity message) :
      Says subscription stream events
        (some (.protocol (some severity) message refusing ("show events " ++ subscription.sink)))
  | closed {frames : List Text} (received : Receives subscription stream frames)
      (pass : ∀ frame ∈ frames.filter (!isBlank ·), ∀ severity message,
        ¬ Event.Refuses frame severity message)
      (ending : stream.ending = some .closed) :
      Says subscription stream (frames.filter (!isBlank ·))
        (some (.transport subscription.endpoint.toText "event stream closed by peer"
          ("show events " ++ subscription.sink)))
  | broken {frames : List Text} {reason : Text} (received : Receives subscription stream frames)
      (pass : ∀ frame ∈ frames.filter (!isBlank ·), ∀ severity message,
        ¬ Event.Refuses frame severity message)
      (ending : stream.ending = some (.failed reason)) :
      Says subscription stream (frames.filter (!isBlank ·))
        (some (.transport subscription.endpoint.toText reason
          ("show events " ++ subscription.sink)))
  | silent {frames : List Text} (received : Receives subscription stream frames)
      (pass : ∀ frame ∈ frames.filter (!isBlank ·), ∀ severity message,
        ¬ Event.Refuses frame severity message)
      (ending : stream.ending = none) :
      Says subscription stream (frames.filter (!isBlank ·)) none

theorem delivery?_of_event {frame : Text} (some : isBlank frame = false)
    (event : Event.refusal? frame = none) :
    subscription.delivery? frame = Option.some (.ok (.ofFrame frame)) := by
  rw [delivery?, some, event]
  rfl

theorem filterMap_delivery?_of_events {frames : List Text}
    (some : ∀ frame ∈ frames, isBlank frame = false)
    (events : ∀ frame ∈ frames, Event.refusal? frame = none) :
    frames.filterMap subscription.delivery? = frames.map fun frame => .ok (.ofFrame frame) := by
  rw [← List.filterMap_eq_map']
  exact List.filterMap_congr fun frame member =>
    delivery?_of_event (some frame member) (events frame member)

theorem untilFailure_map_ok_append (events : List Event) (rest : List (Result Event)) :
    untilFailure (events.map .ok ++ rest) = events.map .ok ++ untilFailure rest := by
  induction events with
  | nil => rfl
  | cons event events ih => exact congrArg (_ :: ·) ih

theorem untilFailure_append (frames : List Text) (rest : List (Result Event)) :
    untilFailure ((frames.map fun frame => .ok (.ofFrame frame)) ++ rest) =
      (frames.map fun frame => .ok (.ofFrame frame)) ++ untilFailure rest := by
  simpa [Function.comp_def] using untilFailure_map_ok_append (frames.map .ofFrame) rest

theorem filterMap_delivery?_filter (frames : List Text) :
    (frames.filter (!isBlank ·)).filterMap subscription.delivery? =
      frames.filterMap subscription.delivery? := by
  rw [List.filterMap_filter]
  refine List.filterMap_congr fun frame _ => ?_
  cases blank : isBlank frame with
  | true => simp [delivery?, blank]
  | false => simp

/-- What a stream says is what it delivers. -/
theorem exists_says (subscription : Subscription) (stream : EventStream) :
    ∃ events failure?, Says subscription stream events failure? ∧
      subscription.deliveries stream =
        (events.map fun frame => .ok (.ofFrame frame)) ++ (failure?.map .error).toList := by
  have received := receives_frames subscription stream
  have some : ∀ frame ∈ (subscription.frames stream).filter (!isBlank ·), isBlank frame = false :=
    fun frame member => by simpa using (List.mem_filter.mp member).2
  rw [deliveries, ← filterMap_delivery?_filter]
  -- the first frame that refuses parts the events from what is not said
  cases found : ((subscription.frames stream).filter (!isBlank ·)).find? fun frame =>
      (Event.refusal? frame).isSome with
  | some refusing =>
    obtain ⟨refuses, events, later, order, pass⟩ := List.find?_eq_some_iff_append.mp found
    obtain ⟨⟨severity, message⟩, refuses⟩ := Option.isSome_iff_exists.mp refuses
    have events_pass : ∀ frame ∈ events, Event.refusal? frame = none :=
      fun frame member => by simpa using pass frame member
    refine ⟨events, _, .refused received order (fun frame member =>
      Event.refusal?_eq_none_iff.mp (events_pass frame member))
      (Event.refusal?_eq_some_iff.mp refuses), ?_⟩
    rw [order] at some ⊢
    have refused : subscription.delivery? refusing =
        Option.some (.error (.protocol (Option.some severity) message refusing
          ("show events " ++ subscription.sink))) := by
      rw [delivery?, some refusing (by simp), refuses]
      rfl
    -- what stands behind the refusing frame is cut off
    rw [List.filterMap_append, List.filterMap_cons_some refused, List.append_assoc,
      filterMap_delivery?_of_events (fun frame member => some frame (by simp [member])) events_pass,
      untilFailure_append]
    rfl
  | none =>
    have pass : ∀ frame ∈ (subscription.frames stream).filter (!isBlank ·),
        Event.refusal? frame = none :=
      fun frame member => by simpa using List.find?_eq_none.mp found frame member
    have events := fun frame member => Event.refusal?_eq_none_iff.mp (pass frame member)
    rw [filterMap_delivery?_of_events some pass, untilFailure_append]
    cases ending : stream.ending with
    | none => exact ⟨_, _, .silent received events ending, rfl⟩
    | some last =>
      cases last with
      | closed => exact ⟨_, _, .closed received events ending, rfl⟩
      | failed reason => exact ⟨_, _, .broken received events ending, rfl⟩

end Subscription

end ProxyControl
