import ProxyControl.Frame.Stream

/-!
# Cutting a stream

Bytes fall into segments that each end in the delimiter, and a rest in which it does not occur.
They do so in one way only, and that is the way in which a stream is cut.
-/
namespace ProxyControl

/-- Bytes as the segments that a delimiter ends, and what stands behind the last delimiter. -/
structure Cut (delimiter : UInt8) (bytes : List UInt8) (ended : List (List UInt8))
    (left : List UInt8) : Prop where
  whole : bytes = ended.flatMap (· ++ [delimiter]) ++ left
  ended : ∀ segment ∈ ended, delimiter ∉ segment
  left : delimiter ∉ left

section

variable {delimiter : UInt8}

theorem segments_of_not_mem {left : List UInt8} (clean : delimiter ∉ left) :
    segments delimiter left = ([], left) := by
  induction left with
  | nil => rfl
  | cons byte rest ih =>
    rw [List.mem_cons, not_or] at clean
    rw [segments, ih clean.2]
    exact if_neg (Ne.symm clean.1)

theorem segments_append_cons {segment : List UInt8} (clean : delimiter ∉ segment)
    (rest : List UInt8) :
    segments delimiter (segment ++ delimiter :: rest) =
      (segment :: (segments delimiter rest).1, (segments delimiter rest).2) := by
  induction segment with
  | nil => simp [segments]
  | cons byte segment ih =>
    rw [List.mem_cons, not_or] at clean
    rw [List.cons_append, segments, ih clean.2]
    exact if_neg (Ne.symm clean.1)

theorem cut_segments (delimiter : UInt8) (bytes : List UInt8) :
    Cut delimiter bytes (segments delimiter bytes).1 (segments delimiter bytes).2 := by
  induction bytes with
  | nil => exact ⟨rfl, nofun, nofun⟩
  | cons byte rest ih =>
    obtain ⟨whole, ended, left⟩ := ih
    unfold segments
    generalize segments delimiter rest = cut at whole ended left ⊢
    obtain ⟨segments, after⟩ := cut
    by_cases same : byte = delimiter
    · -- the delimiter ends an empty segment
      subst same
      simp only [if_true] at *
      refine ⟨by simp [whole], ?_, left⟩
      rintro segment (_ | ⟨_, later⟩)
      · exact nofun
      · exact ended segment later
    · -- any other byte belongs to the first segment, or to the rest if there is none
      simp only [if_neg same] at *
      cases segments with
      | nil => exact ⟨by simp [whole], nofun, by simp [Ne.symm same, left]⟩
      | cons segment more =>
        refine ⟨by simp [whole], ?_, left⟩
        rintro other (_ | ⟨_, later⟩)
        · simp [Ne.symm same, ended segment List.mem_cons_self]
        · exact ended other (List.mem_cons_of_mem _ later)

/-- There is one way to cut. -/
theorem segments_eq_iff {bytes left : List UInt8} {ended : List (List UInt8)} :
    segments delimiter bytes = (ended, left) ↔ Cut delimiter bytes ended left := by
  constructor
  · intro cut
    have made := cut_segments delimiter bytes
    rwa [cut] at made
  · rintro ⟨rfl, clean, last⟩
    induction ended with
    | nil => exact segments_of_not_mem last
    | cons segment more ih =>
      have whole : (segment :: more).flatMap (· ++ [delimiter]) ++ left =
          segment ++ delimiter :: (more.flatMap (· ++ [delimiter]) ++ left) := by
        simp
      rw [whole, segments_append_cons (clean segment List.mem_cons_self),
        ih fun other member => clean other (List.mem_cons_of_mem _ member)]

end

/-- What is left behind the last delimiter is a frame only if the peer has closed. -/
theorem Incoming.rawFrames_of_cut {delimiter : Delimiter} {incoming : Incoming}
    {ended : List (List UInt8)} {left : List UInt8}
    (cut : Cut delimiter.byte incoming.bytes ended left) :
    incoming.rawFrames delimiter =
      if incoming.ending = .closed ∧ left ≠ [] then ended ++ [left] else ended := by
  rw [rawFrames, segments_eq_iff.mpr cut]
  cases incoming.ending with
  | failed reason => simp
  | closed => cases left <;> simp

end ProxyControl
