import ProxyControl.Proofs.Frame.Reading

/-!
# Round trips

A round trip writes one command and gives back all that the peer says until it closes, or nothing
of it if reading fails. Frames that are empty are left out at the end, and in front where one
acknowledges a payload; all others come back as they are, one on a line.
-/
namespace ProxyControl

open Text

/-! ### Answers -/

/-- Whether frames are those of an answer behind the empty frame that acknowledges a payload, if
there is one. -/
def IsAcknowledged (multiline : Bool) (frames acknowledged : List Text) : Prop :=
  acknowledged = [[]] ∧ multiline = true ∨
    acknowledged = [] ∧ ¬ (multiline = true ∧ frames.head? = some [])

/-- An answer is what its frames are without the empty one in front that acknowledges a payload,
and without all the empty ones at the end. -/
inductive IsAnswer (multiline : Bool) (frames : List Text) (answer : Text) : Prop
  | intro {acknowledged kept blanks : List Text}
    (whole : frames = acknowledged ++ (kept ++ blanks))
    (front : IsAcknowledged multiline frames acknowledged)
    (blank : ∀ frame ∈ blanks, frame = [])
    (last : ∀ frame ∈ kept.getLast?, frame ≠ [])
    (joined : answer = joinLines kept)

section

variable {multiline : Bool}

theorem exists_isAcknowledged (multiline : Bool) (frames : List Text) :
    ∃ acknowledged rest, frames = acknowledged ++ rest ∧
      IsAcknowledged multiline frames acknowledged := by
  by_cases acknowledges : multiline = true ∧ frames.head? = some []
  · obtain ⟨rest, rfl⟩ := List.head?_eq_some_iff.mp acknowledges.2
    exact ⟨[[]], rest, rfl, .inl ⟨rfl, acknowledges.1⟩⟩
  · exact ⟨[], frames, rfl, .inr ⟨rfl, acknowledges⟩⟩

theorem withoutLastBlanks_eq_iff {frames kept : List Text} :
    withoutLastBlanks frames = kept ↔ ∃ blanks, frames = kept ++ blanks ∧
      (∀ frame ∈ blanks, frame = []) ∧ ∀ frame ∈ kept.getLast?, frame ≠ [] := by
  rw [withoutLastBlanks, ← List.rdropWhile, rdropWhile_eq_iff]
  simp only [List.isEmpty_iff, List.isEmpty_eq_false_iff, ne_eq]

theorem withoutLastBlanks_append_replicate {frames : List Text}
    (last : ∃ frame ∈ frames.getLast?, frame ≠ []) (extra : Nat) :
    withoutLastBlanks (frames ++ List.replicate extra []) = frames := by
  obtain ⟨frame, ends, some⟩ := last
  refine withoutLastBlanks_eq_iff.mpr ⟨_, rfl, fun _ => List.eq_of_mem_replicate, ?_⟩
  rw [Option.mem_def.mp ends]
  rintro _ ⟨⟩
  exact some

theorem assemble_append {acknowledged rest : List Text}
    (front : IsAcknowledged multiline (acknowledged ++ rest) acknowledged) :
    assemble multiline (acknowledged ++ rest) = joinLines (withoutLastBlanks rest) := by
  rcases front with ⟨rfl, rfl⟩ | ⟨rfl, other⟩
  · rfl
  · match rest, multiline, other with
    | [], _, _ => rfl
    | [] :: rest, false, _ => rfl
    | [] :: rest, true, other => exact absurd ⟨rfl, rfl⟩ other
    | (c :: frame) :: rest, _, _ => rfl

theorem isAnswer_assemble (multiline : Bool) (frames : List Text) :
    IsAnswer multiline frames (assemble multiline frames) := by
  obtain ⟨acknowledged, rest, rfl, front⟩ := exists_isAcknowledged multiline frames
  obtain ⟨blanks, whole, blank, last⟩ :=
    withoutLastBlanks_eq_iff.mp (Eq.refl (withoutLastBlanks rest))
  exact .intro (congrArg _ whole) front blank last (assemble_append front)

end

/-! ### Lines that come back -/

/-- A line that cleaning leaves as it is. -/
structure IsPlain (line : Text) : Prop where
  whole : '\n' ∉ line
  noStray : '\x00' ∉ line.head?
  noPrompt : ¬ ("> " : Text) <+: line
  unended : ∀ c ∈ line.getLast?, c ≠ '\r' ∧ c ≠ '\x00'

theorem IsPlain.clean {line : Text} (plain : IsPlain line) :
    Frame.clean .newline line = line := by
  refine Frame.clean_eq_iff.mpr (.intro (by simp) (.inr ⟨rfl, ?_⟩) (.inr ⟨rfl, ?_⟩)
    (List.forall_mem_nil _) ?_)
  · rintro ⟨rest, same⟩
    exact plain.noStray (by rw [← same]; rfl)
  · rw [List.append_nil]
    exact plain.noPrompt
  · intro c last
    have inside : c ≠ '\n' := fun newline => plain.whole (newline ▸ List.mem_of_getLast? last)
    exact ⟨(plain.unended c last).1, inside, (plain.unended c last).2⟩

theorem isPlain_nil : IsPlain [] := ⟨by simp, by simp, by simp [ofString_eq], by simp⟩

/-- The text of lines that are sent with a newline behind each. -/
def sent (lines : List Text) : Text := lines.flatMap (· ++ ['\n'])

/-- A newline that is sent by itself is an empty line. -/
theorem sent_append_replicate (lines : List Text) (extra : Nat) :
    sent lines ++ List.replicate extra '\n' = sent (lines ++ List.replicate extra []) := by
  simp [sent, List.flatMap_replicate, List.flatten_replicate_singleton]

theorem segmentsAt_sent {lines : List Text} (whole : ∀ line ∈ lines, '\n' ∉ line) :
    segmentsAt '\n' (sent lines) = lines := by
  have cut : pieces (· == '\n') (sent lines) = lines ++ [[]] := by
    induction lines with
    | nil => rfl
    | cons line lines ih =>
      obtain ⟨first, others⟩ := List.forall_mem_cons.mp whole
      have split : sent (line :: lines) = line ++ '\n' :: sent lines := by simp [sent]
      rw [split, pieces_at_append_cons, pieces_at_of_not_mem first, ih others]
      rfl
  rw [segmentsAt, cut]
  simp

/-! ### Round trips -/

/-- What a round trip makes of all that a peer may do. -/
structure Command.RoundTrips (command : Command) : Prop where
  writes : ∀ incoming : Incoming,
    (Connection.roundTrip { incoming } command).written = command.wire
  silent : ∀ bytes : List UInt8,
    (Connection.roundTrip { incoming := ⟨bytes, .closed⟩ } command).outcome =
      .error .unexpectedEnd ↔ bytes = []
  unread : ∀ (bytes : List UInt8) (reason : Text),
    (Connection.roundTrip { incoming := ⟨bytes, .failed reason⟩ } command).outcome =
      .error (.unread reason)
  answered : ∀ bytes : List UInt8, bytes ≠ [] → ∃ frames answer,
    (Incoming.mk bytes .closed).Reads .newline frames ∧
      IsAnswer command.isMultiline frames answer ∧
      (Connection.roundTrip { incoming := ⟨bytes, .closed⟩ } command).outcome = .ok answer
  /-- Plain lines come back as they are, also behind the line that acknowledges a payload. -/
  plain : ∀ (acknowledged lines : List Text) (extra : Nat),
    acknowledged = [] ∨ acknowledged = [[]] ∧ command.isMultiline = true →
    (∃ line ∈ lines.head?, line ≠ []) → (∃ line ∈ lines.getLast?, line ≠ []) →
    (∀ line ∈ lines, IsPlain line) →
    (Connection.roundTrip { incoming :=
      ⟨Utf8.encode (sent (acknowledged ++ lines) ++ List.replicate extra '\n'), .closed⟩ }
      command).outcome = .ok (joinLines lines)

/-- Only a peer that closes without a byte leaves no frame. -/
theorem Incoming.frames_eq_nil_iff {delimiter : Delimiter} {bytes : List UInt8} :
    (Incoming.mk bytes .closed).frames delimiter = [] ↔ bytes = [] := by
  constructor
  · intro none
    have reads := reads_iff.mpr none.symm
    cases reads
    rfl
  · rintro rfl
    rfl

theorem Connection.outcome_closed (command : Command) {bytes : List UInt8} (some : bytes ≠ []) :
    (roundTrip { incoming := ⟨bytes, .closed⟩ } command).outcome =
      .ok (assemble command.isMultiline ((Incoming.mk bytes .closed).frames .newline)) := by
  have frames : (Incoming.mk bytes .closed).frames .newline ≠ [] :=
    Incoming.frames_eq_nil_iff.not.mpr some
  simp [roundTrip, Incoming.outcome, frames]

theorem frames_sent {lines : List Text} (plain : ∀ line ∈ lines, IsPlain line) :
    (Incoming.mk (Utf8.encode (sent lines)) .closed).frames .newline = lines := by
  rw [Incoming.frames_closed, Utf8.decodeLossy_encode, Delimiter.char,
    segmentsAt_sent fun line member => (plain line member).whole]
  exact (List.map_congr_left fun line member => (plain line member).clean).trans (List.map_id lines)

/-- Whatever a peer does, a round trip writes the command and gives back what was said. -/
theorem answers_in_full (command : Command) : command.RoundTrips where
  writes := fun incoming => rfl
  silent := by
    intro bytes
    constructor
    · intro silent
      by_contra some
      rw [Connection.outcome_closed command some] at silent
      cases silent
    · rintro rfl
      rfl
  unread := fun bytes reason => rfl
  answered := fun bytes some => ⟨_, _, Incoming.reads_iff.mpr rfl, isAnswer_assemble _ _,
    Connection.outcome_closed command some⟩
  plain := by
    intro acknowledged lines extra front first last plain
    -- the acknowledgement and the newlines at the end are empty lines, and these are plain too
    have all : ∀ line ∈ acknowledged ++ (lines ++ List.replicate extra []), IsPlain line := by
      refine List.forall_mem_append.mpr ⟨?_, List.forall_mem_append.mpr ⟨plain, ?_⟩⟩
      · rcases front with rfl | ⟨rfl, -⟩
        · exact List.forall_mem_nil _
        · exact List.forall_mem_singleton.mpr isPlain_nil
      · exact fun line member => List.eq_of_mem_replicate member ▸ isPlain_nil
    obtain ⟨line, begins, notEmpty⟩ := first
    obtain ⟨rest, rfl⟩ := List.head?_eq_some_iff.mp begins
    have front : IsAcknowledged command.isMultiline
        (acknowledged ++ (line :: rest ++ List.replicate extra [])) acknowledged := by
      rcases front with rfl | acknowledges
      · exact .inr ⟨rfl, by simp [notEmpty]⟩
      · exact .inl acknowledges
    have some : Utf8.encode (sent (acknowledged ++ (line :: rest ++ List.replicate extra []))) ≠
        [] := by
      rw [ne_eq, ← @Incoming.frames_eq_nil_iff .newline, frames_sent all]
      simp
    rw [sent_append_replicate, List.append_assoc, Connection.outcome_closed command some,
      frames_sent all, assemble_append front, withoutLastBlanks_append_replicate last]

/-- Behind the line that acknowledges a payload, an empty line stays inside an answer only. -/
example : (Connection.roundTrip { incoming := ⟨Utf8.encode "\none\n\ntwo\n\n\n", .closed⟩ }
    ((Command.ofText "add map #9").withPayload "host web")).outcome = .ok "one\n\ntwo" := by
  decide +kernel

end ProxyControl
