import Mathlib.Data.List.Forall2
import ProxyControl.Proofs.Frame.Cut
import ProxyControl.Proofs.Text.Cutting
import ProxyControl.Proofs.Text.Utf8

/-!
# Reading frames

A reader takes one frame after the other from its bytes and decodes each by itself. Since a
delimiter has no part in any other character, the frames are those of the whole text: its segments
between delimiters, cleaned.
-/
namespace ProxyControl

open Text

/-! ### Cleaning -/

namespace Frame

variable {delimiter : Delimiter} {raw frame : Text}

/-- A frame and what is taken away around it: at most one stray delimiter and then at most one
prompt in front, and all that ends frames behind. -/
inductive IsCleaned (delimiter : Delimiter) (raw frame : Text) : Prop
  | intro {stray prompt ended : Text} (whole : raw = stray ++ (prompt ++ (frame ++ ended)))
    (isStray : stray = [delimiter.stray] ∨ stray = [] ∧ ¬ [delimiter.stray] <+: raw)
    (isPrompt : prompt = "> " ∨ prompt = [] ∧ ¬ ("> " : Text) <+: frame ++ ended)
    (ends : ∀ c ∈ ended, c = '\r' ∨ c = '\n' ∨ c = '\x00')
    (kept : ∀ c ∈ frame.getLast?, c ≠ '\r' ∧ c ≠ '\n' ∧ c ≠ '\x00')

theorem isFrameEnd_iff {c : Char} : isFrameEnd c = true ↔ c = '\r' ∨ c = '\n' ∨ c = '\x00' := by
  simp [isFrameEnd, or_assoc]

theorem clean_eq_iff : clean delimiter raw = frame ↔ IsCleaned delimiter raw frame := by
  rw [clean, dropEndWhile, ← List.rdropWhile, rdropWhile_eq_iff]
  constructor
  · rintro ⟨ended, inner, ends, kept⟩
    obtain ⟨prompt, middle, isPrompt⟩ := withoutStart_eq_iff.mp inner
    obtain ⟨stray, whole, isStray⟩ := withoutStart_eq_iff.mp middle
    refine .intro whole isStray (isPrompt.imp_right ?_)
      (fun c member => isFrameEnd_iff.mp (ends c member)) ?_
    · rintro ⟨rfl, other⟩
      exact ⟨rfl, by rwa [middle] at other⟩
    · intro c last
      simpa [isFrameEnd, and_assoc] using kept c last
  · rintro ⟨whole, isStray, isPrompt, ends, kept⟩
    have middle := withoutStart_eq_iff.mpr ⟨_, whole, isStray⟩
    refine ⟨_, withoutStart_eq_iff.mpr ⟨_, middle, isPrompt.imp_right ?_⟩,
      fun c member => isFrameEnd_iff.mpr (ends c member), ?_⟩
    · rintro ⟨rfl, other⟩
      exact ⟨rfl, by rwa [middle]⟩
    · intro c last
      simpa [isFrameEnd, and_assoc] using kept c last

/-- The delimiter itself goes with what ends a frame. -/
theorem clean_concat : clean delimiter (raw ++ [delimiter.char]) = clean delimiter raw := by
  have absent {start text : Text} (apart : delimiter.char ∉ start) (other : ¬ start <+: text) :
      ¬ start <+: text ++ [delimiter.char] := by
    rw [List.prefix_concat_iff]
    rintro (rfl | begins)
    · simp at apart
    · exact other begins
  have notStray : delimiter.char ∉ [delimiter.stray] := by cases delimiter <;> decide
  have notPrompt : delimiter.char ∉ ("> " : Text) := by
    cases delimiter <;> simp [ofString_eq, Delimiter.char]
  have isEnd : ∀ c ∈ [delimiter.char], c = '\r' ∨ c = '\n' ∨ c = '\x00' := by
    cases delimiter <;> simp [Delimiter.char]
  cases clean_eq_iff.mp (rfl : clean delimiter raw = clean delimiter raw) with
  | @intro stray prompt ended whole isStray isPrompt ends kept =>
    generalize clean delimiter raw = frame at whole isPrompt kept ⊢
    have longer : raw ++ [delimiter.char] =
        stray ++ (prompt ++ (frame ++ (ended ++ [delimiter.char]))) := by
      rw [whole]
      simp only [List.append_assoc]
    refine clean_eq_iff.mpr (.intro longer (isStray.imp_right ?_) (isPrompt.imp_right ?_)
      (List.forall_mem_append.mpr ⟨ends, isEnd⟩) kept)
    · exact fun without => ⟨without.1, absent notStray without.2⟩
    · rw [← List.append_assoc]
      exact fun without => ⟨without.1, absent notPrompt without.2⟩

end Frame

/-! ### Frame by frame -/

namespace Incoming

/-- What the calls of a reader give until it comes to the end: each takes the bytes up to the next
delimiter, and the last one takes what a peer that closes has sent behind it. -/
inductive Reads (delimiter : Delimiter) : Incoming → List Text → Prop
  | frame {segment rest : List UInt8} {ending : Ending} {frames : List Text}
    (inside : delimiter.byte ∉ segment) (onward : Reads delimiter ⟨rest, ending⟩ frames) :
    Reads delimiter ⟨segment ++ delimiter.byte :: rest, ending⟩
      (Frame.clean delimiter (Utf8.decodeLossy (segment ++ [delimiter.byte])) :: frames)
  | last {left : List UInt8} (inside : delimiter.byte ∉ left) (some : left ≠ []) :
    Reads delimiter ⟨left, .closed⟩ [Frame.clean delimiter (Utf8.decodeLossy left)]
  | closed : Reads delimiter ⟨[], .closed⟩ []
  | failed {left : List UInt8} {reason : Text} (inside : delimiter.byte ∉ left) :
    Reads delimiter ⟨left, .failed reason⟩ []

variable {delimiter : Delimiter}

theorem encode_char (delimiter : Delimiter) :
    String.utf8EncodeChar delimiter.char = [delimiter.byte] := by
  cases delimiter <;> rfl

theorem frames_append_cons {segment : List UInt8} (inside : delimiter.byte ∉ segment)
    (rest : List UInt8) (ending : Ending) :
    (Incoming.mk (segment ++ delimiter.byte :: rest) ending).frames delimiter =
      Frame.clean delimiter (Utf8.decodeLossy segment) ::
        (Incoming.mk rest ending).frames delimiter := by
  cases ending with
  | closed =>
    simp only [frames, rawFrames, segments_append_cons inside]
    split <;> rfl
  | failed reason => simp only [frames, rawFrames, segments_append_cons inside, List.map_cons]

theorem frames_of_not_mem {left : List UInt8} (inside : delimiter.byte ∉ left) (ending : Ending) :
    (Incoming.mk left ending).frames delimiter =
      if ending = .closed ∧ left ≠ [] then [Frame.clean delimiter (Utf8.decodeLossy left)]
      else [] := by
  have cut : Cut delimiter.byte left [] left := ⟨rfl, List.forall_mem_nil _, inside⟩
  rw [frames, rawFrames_of_cut cut]
  split <;> rfl

/-- What is sent frame by frame, with the delimiter behind each, is read frame by frame. -/
theorem frames_encode {raws : List Text} (whole : ∀ raw ∈ raws, delimiter.char ∉ raw)
    (ending : Ending) :
    (Incoming.mk (Utf8.encode (raws.flatMap (· ++ [delimiter.char]))) ending).frames delimiter =
      raws.map (Frame.clean delimiter) := by
  induction raws with
  | nil => simp [Utf8.encode, frames_of_not_mem]
  | cons raw raws ih =>
    obtain ⟨first, others⟩ := List.forall_mem_cons.mp whole
    have sent : Utf8.encode ((raw :: raws).flatMap (· ++ [delimiter.char])) =
        Utf8.encode raw ++
          delimiter.byte :: Utf8.encode (raws.flatMap (· ++ [delimiter.char])) := by
      simp [Utf8.encode, encode_char]
    rw [sent, frames_append_cons (Utf8.not_mem_encode (encode_char delimiter) first),
      Utf8.decodeLossy_encode, ih others, List.map_cons]

theorem clean_decodeLossy_concat (segment : List UInt8) :
    Frame.clean delimiter (Utf8.decodeLossy (segment ++ [delimiter.byte])) =
      Frame.clean delimiter (Utf8.decodeLossy segment) := by
  rw [Utf8.decodeLossy_append_cons (encode_char delimiter)]
  exact Frame.clean_concat

theorem reads_frames (incoming : Incoming) :
    incoming.Reads delimiter (incoming.frames delimiter) := by
  obtain ⟨bytes, ending⟩ := incoming
  obtain ⟨whole, clean, inside⟩ := cut_segments delimiter.byte bytes
  generalize (segments delimiter.byte bytes).1 = ended at whole clean
  generalize (segments delimiter.byte bytes).2 = left at whole inside
  subst whole
  induction ended with
  | nil =>
    rw [List.flatMap_nil, List.nil_append, frames_of_not_mem inside]
    cases ending with
    | failed reason => exact .failed inside
    | closed =>
      rcases eq_or_ne left [] with rfl | some
      · exact .closed
      · rw [if_pos ⟨rfl, some⟩]
        exact .last inside some
  | cons segment ended ih =>
    obtain ⟨first, others⟩ := List.forall_mem_cons.mp clean
    have whole : (segment :: ended).flatMap (· ++ [delimiter.byte]) ++ left =
        segment ++ delimiter.byte :: (ended.flatMap (· ++ [delimiter.byte]) ++ left) := by
      simp
    rw [whole, frames_append_cons first, ← clean_decodeLossy_concat]
    exact .frame first (ih others)

/-- Reading frame by frame gives the frames and nothing else. -/
theorem reads_iff {incoming : Incoming} {read : List Text} :
    incoming.Reads delimiter read ↔ read = incoming.frames delimiter := by
  refine ⟨fun reads => ?_, fun same => same ▸ reads_frames incoming⟩
  induction reads with
  | frame inside onward ih =>
    rw [frames_append_cons inside, clean_decodeLossy_concat, ih]
  | last inside some => rw [frames_of_not_mem inside, if_pos ⟨rfl, some⟩]
  | closed => rfl
  | failed inside => rw [frames_of_not_mem inside, if_neg (by simp)]

/-! ### The whole text -/

end Incoming

namespace Text

/-- The segments that a character cuts a text into; what is empty behind the last is none. -/
def segmentsAt (c : Char) (text : Text) : List Text :=
  let segments := pieces (· == c) text
  if segments.getLast? = some [] then segments.dropLast else segments

theorem pieces_at_append_cons (c : Char) (before after : Text) :
    pieces (· == c) (before ++ c :: after) = pieces (· == c) before ++ pieces (· == c) after :=
  @pieces_append_cons (· == c) c (beq_self_eq_true c) before after

theorem pieces_at_of_not_mem {c : Char} {text : Text} (absent : c ∉ text) :
    pieces (· == c) text = [text] :=
  pieces_of_forall fun _ member => beq_eq_false_iff_ne.mpr (ne_of_mem_of_not_mem member absent)

end Text

namespace Incoming

variable {delimiter : Delimiter}

/-- The text between two delimiters is what the bytes between them say. -/
theorem pieces_decodeLossy {bytes left : List UInt8} {ended : List (List UInt8)}
    (cut : Cut delimiter.byte bytes ended left) :
    pieces (· == delimiter.char) (Utf8.decodeLossy bytes) =
      ended.map Utf8.decodeLossy ++ [Utf8.decodeLossy left] := by
  obtain ⟨rfl, clean, last⟩ := cut
  have inside {segment : List UInt8} (absent : delimiter.byte ∉ segment) :
      pieces (· == delimiter.char) (Utf8.decodeLossy segment) = [Utf8.decodeLossy segment] :=
    pieces_at_of_not_mem (Utf8.not_mem_decodeLossy (encode_char delimiter) absent)
  induction ended with
  | nil => exact inside last
  | cons segment ended ih =>
    obtain ⟨first, others⟩ := List.forall_mem_cons.mp clean
    have whole : (segment :: ended).flatMap (· ++ [delimiter.byte]) ++ left =
        segment ++ delimiter.byte :: (ended.flatMap (· ++ [delimiter.byte]) ++ left) := by
      simp
    rw [whole, Utf8.decodeLossy_append_cons (encode_char delimiter), pieces_at_append_cons,
      inside first, ih others]
    rfl

theorem frames_closed (delimiter : Delimiter) (bytes : List UInt8) :
    (Incoming.mk bytes .closed).frames delimiter =
      (segmentsAt delimiter.char (Utf8.decodeLossy bytes)).map (Frame.clean delimiter) := by
  have cut := cut_segments delimiter.byte bytes
  rw [frames, rawFrames_of_cut cut, segmentsAt, pieces_decodeLossy cut]
  simp only [List.getLast?_concat, Option.some.injEq, Utf8.decodeLossy_eq_nil_iff, true_and, ne_eq,
    ite_not, List.dropLast_concat]
  split <;> simp

/-- What a reader makes of the bytes frame by frame is what they say as a whole, cut at the
delimiter. -/
theorem reads_whole_text (delimiter : Delimiter) (bytes : List UInt8) :
    ∃ text, Utf8.Decodes bytes text ∧
      (Incoming.mk bytes .closed).Reads delimiter ((Incoming.mk bytes .closed).frames delimiter) ∧
      List.Forall₂ (Frame.IsCleaned delimiter) (segmentsAt delimiter.char text)
        ((Incoming.mk bytes .closed).frames delimiter) := by
  refine ⟨_, Utf8.decodes_decodeLossy bytes, reads_iff.mpr rfl, ?_⟩
  rw [frames_closed, List.forall₂_map_right_iff, List.forall₂_same]
  exact fun segment _ => Frame.clean_eq_iff.mp rfl

/-- A character that breaks off in front of a delimiter stays in its frame. -/
example : (Incoming.mk [0x61, 0xE2, 0x82, 0x0A, 0x00, 0x3E, 0x20, 0x62] .closed).frames .newline =
    ["a\uFFFD", "b"] := by decide +kernel

end Incoming

end ProxyControl
