import ProxyControl.Proofs.Frame.Refusal
import ProxyControl.Proofs.Frame.RoundTrip

/-!
# One judgement

An answer is judged by its first line that is not blank, and a frame is judged by itself. The two
agree: the line that decides about a whole answer is the first frame of it that is not blank.
-/
namespace ProxyControl

open Text

namespace Frame

/-- The first line that is not blank decides. -/
theorem answerRefusal?_joinLines {frames : List Text}
    (whole : ∀ frame ∈ frames, ∀ c ∈ frame, isNewline c = false)
    (bare : ∀ frame ∈ frames, '\r' ∉ frame.getLast?)
    (last : ∀ frame ∈ frames.getLast?, frame ≠ []) :
    answerRefusal? (joinLines frames) = (frames.find? (!isBlank ·)).bind refusal? := by
  rw [answerRefusal?, lines_joinLines whole bare last, List.find?_map, Option.bind_map]
  have same : (fun line => !line.isEmpty) ∘ trimEnd = (!isBlank ·) :=
    funext fun line => congrArg (!·) (isBlank_eq_isEmpty_trimEnd line).symm
  have trimmed : refusal? ∘ trimEnd = refusal? := funext refusal?_trimEnd
  rw [same, trimmed]

/-- The frames that are left out of an answer are blank, so they do not decide. -/
theorem answerRefusal?_of_isAnswer {multiline : Bool} {frames : List Text} {answer : Text}
    (isAnswer : IsAnswer multiline frames answer)
    (whole : ∀ frame ∈ frames, ∀ c ∈ frame, isNewline c = false)
    (bare : ∀ frame ∈ frames, '\r' ∉ frame.getLast?) :
    answerRefusal? answer = (frames.find? (!isBlank ·)).bind refusal? := by
  cases isAnswer with
  | @intro acknowledged kept blanks split front blank last joined =>
    have inside : ∀ frame ∈ kept, frame ∈ frames := by
      intro frame member
      simp [split, member]
    -- empty frames are blank, so the first one that is not is among those that are kept
    have none : ∀ {empty : List Text}, (∀ frame ∈ empty, frame = []) →
        empty.find? (!isBlank ·) = none := by
      intro empty blank
      rw [List.find?_eq_none]
      intro frame member
      rw [blank frame member]
      simp [isBlank]
    have first : ∀ frame ∈ acknowledged, frame = [] := by
      rcases front with ⟨rfl, -⟩ | ⟨rfl, -⟩ <;> simp
    rw [joined, answerRefusal?_joinLines (fun frame member => whole frame (inside frame member))
      (fun frame member => bare frame (inside frame member)) last, split, List.find?_append,
      List.find?_append, none first, none blank, Option.none_or, Option.or_none]

end Frame

/-! ### Frames -/

/-- A frame holds no delimiter and does not end in what ends frames. -/
theorem Incoming.of_mem_frames {delimiter : Delimiter} {incoming : Incoming} {frame : Text}
    (member : frame ∈ incoming.frames delimiter) :
    delimiter.char ∉ frame ∧ ∀ c ∈ frame.getLast?, c ≠ '\r' ∧ c ≠ '\n' ∧ c ≠ '\x00' := by
  obtain ⟨raw, among, rfl⟩ := List.mem_map.mp member
  have cut := cut_segments delimiter.byte incoming.bytes
  have absent : delimiter.byte ∉ raw := by
    rw [rawFrames_of_cut cut] at among
    split at among
    · rcases List.mem_append.mp among with inside | last
      · exact cut.ended raw inside
      · exact List.mem_singleton.mp last ▸ cut.left
    · exact cut.ended raw among
  cases Frame.clean_eq_iff.mp (Eq.refl (Frame.clean delimiter (Utf8.decodeLossy raw))) with
  | intro whole isStray isPrompt ends kept =>
    refine ⟨fun inside => Utf8.not_mem_decodeLossy (encode_char delimiter) absent ?_, kept⟩
    rw [whole]
    simp [inside]

/-- What stands behind the last newline counts as a frame or is blank. -/
theorem Incoming.find?_frames {bytes left : List UInt8} {ended : List (List UInt8)}
    (cut : Cut Delimiter.newline.byte bytes ended left) :
    ((Incoming.mk bytes .closed).frames .newline).find? (!isBlank ·) =
      ((ended ++ [left]).map fun raw => Frame.clean .newline (Utf8.decodeLossy raw)).find?
        (!isBlank ·) := by
  rw [frames, rawFrames_of_cut cut]
  split
  next => rfl
  next nothing =>
    obtain rfl : left = [] := by simpa using nothing
    have blank : isBlank (Frame.clean .newline (Utf8.decodeLossy [])) = true := by decide +kernel
    rw [List.map_append, List.find?_append, List.map_singleton, List.find?_singleton, blank]
    simp

/-! ### Judging -/

/-- An answer as a whole and its first frame that is not blank are judged alike; where there is no
such frame, the answer refuses nothing. -/
inductive JudgedAlike (raws : List (List UInt8)) (answer : Text) : Prop
  | first {before after : List (List UInt8)} {raw : List UInt8}
    (split : raws = before ++ raw :: after)
    (blank : ∀ other ∈ before, isBlank (Frame.clean .newline (Utf8.decodeLossy other)) = true)
    (notBlank : isBlank (Frame.clean .newline (Utf8.decodeLossy raw)) = false)
    (alike : ∀ severity message, Frame.answerRefusal? answer = some ⟨severity, message⟩ ↔
      Frame.decode (Utf8.decodeLossy raw) = .error ⟨severity, message⟩)
  | blank (blank : ∀ raw ∈ raws, isBlank (Frame.clean .newline (Utf8.decodeLossy raw)) = true)
    (unmarked : Frame.answerRefusal? answer = none)

theorem JudgedAlike.of_find? {raws : List (List UInt8)} {answer : Text}
    (judged : Frame.answerRefusal? answer =
      ((raws.map fun raw => Frame.clean .newline (Utf8.decodeLossy raw)).find?
        (!isBlank ·)).bind Frame.refusal?) :
    JudgedAlike raws answer := by
  rw [List.find?_map] at judged
  cases found :
      raws.find? ((!isBlank ·) ∘ fun raw => Frame.clean .newline (Utf8.decodeLossy raw)) with
  | none =>
    refine .blank (fun raw member => ?_) (by rw [judged, found]; rfl)
    simpa using List.find?_eq_none.mp found raw member
  | some raw =>
    obtain ⟨notBlank, before, after, split, blank⟩ := List.find?_eq_some_iff_append.mp found
    refine .first split (fun other member => ?_) (by simpa using notBlank)
      fun severity message => ?_
    · simpa using blank other member
    · rw [judged, found, Frame.decode_eq_error_iff]
      rfl

/-- Whatever a peer says before it closes, the answer to a command, with a payload or without, is
judged as its first frame that is not blank. -/
theorem judged_alike (command : Command) {bytes : List UInt8} (some : bytes ≠ []) :
    ∃ answer ended left,
      (Connection.roundTrip { incoming := ⟨bytes, .closed⟩ } command).outcome = .ok answer ∧
        Cut Delimiter.newline.byte bytes ended left ∧ JudgedAlike (ended ++ [left]) answer := by
  have cut := cut_segments Delimiter.newline.byte bytes
  refine ⟨_, _, _, Connection.outcome_closed command some, cut, .of_find? ?_⟩
  rw [← Incoming.find?_frames cut]
  refine Frame.answerRefusal?_of_isAnswer (isAnswer_assemble _ _) (fun frame member c inside => ?_)
    fun frame member last => ?_
  · exact beq_eq_false_iff_ne.mpr (ne_of_mem_of_not_mem inside (Incoming.of_mem_frames member).1)
  · exact ((Incoming.of_mem_frames member).2 _ last).1 rfl

/-- A refusal behind blank lines and a prompt. -/
def promptedRefusal : List UInt8 := Utf8.encode "\n \n> [3]: No such map.\r\n"

theorem judged_alike_prompted :
    ∃ answer ended left,
      (Connection.roundTrip { incoming := ⟨promptedRefusal, .closed⟩ }
        ((Command.ofText "add map #9").withPayload "host web")).outcome = .ok answer ∧
      Cut Delimiter.newline.byte promptedRefusal ended left ∧
      JudgedAlike (ended ++ [left]) answer ∧
      Frame.answerRefusal? answer = some ⟨3, "No such map."⟩ := by
  obtain ⟨answer, ended, left, answered, cut, alike⟩ :=
    judged_alike ((Command.ofText "add map #9").withPayload "host web")
      (by decide +kernel : promptedRefusal ≠ [])
  have known : (Connection.roundTrip { incoming := ⟨promptedRefusal, .closed⟩ }
      ((Command.ofText "add map #9").withPayload "host web")).outcome =
        .ok " \n[3]: No such map." := by decide +kernel
  obtain rfl := Except.ok.inj (answered.symm.trans known)
  exact ⟨_, ended, left, answered, cut, alike, by decide +kernel⟩

end ProxyControl
