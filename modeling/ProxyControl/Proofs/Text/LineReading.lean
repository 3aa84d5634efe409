import ProxyControl.Proofs.Text.Cutting

/-!
# Reading line by line

Most readers do not see the white space at the end of a line, and find nothing on a blank one. For
them it makes no difference which line breaks a text has, or what white space stands at its end:
lines that are written one under the other are read back one by one.
-/
namespace ProxyControl.Text

section Reader

variable {α : Type} {f : Text → Option α} (unseen : ∀ line, f (trimEnd line) = f line)
  (empty : f [] = none)
include unseen empty

/-- Lines and pieces are read alike, for a carriage return at the end of a piece is not seen. -/
theorem filterMap_lines (text : Text) :
    (lines text).filterMap f = (pieces isNewline text).filterMap f := by
  have cons (c : Char) (line line' : Text) (same : trimEnd line = trimEnd line') :
      trimEnd (c :: line) = trimEnd (c :: line') := by
    rw [trimEnd_cons, trimEnd_cons, isBlank_cons, isBlank_cons, isBlank_eq_isEmpty_trimEnd line,
      isBlank_eq_isEmpty_trimEnd line', same]
  have trimmed (parts : List Text) : (parts.map trimEnd).filterMap f = parts.filterMap f := by
    rw [List.filterMap_map]
    exact List.filterMap_congr fun line _ => unseen line
  rw [← trimmed, ← trimmed (pieces isNewline text), map_pieces rfl cons, List.filterMap_append]
  -- the piece that is no line is empty
  have none : [trimEnd []].filterMap f = [] := by simp [trimEnd, dropEndWhile, empty]
  split
  · rw [none, List.append_nil]
  · exact (List.append_nil _).symm

/-- White space at the end of a text adds nothing that is read. -/
theorem filterMap_pieces_append {ending : Text} (blank : isBlank ending = true) (text : Text) :
    (pieces isNewline (text ++ ending)).filterMap f = (pieces isNewline text).filterMap f := by
  induction ending using List.reverseRecOn with
  | nil => rw [List.append_nil]
  | append_singleton ending c ih =>
    obtain ⟨others, space⟩ : isBlank ending = true ∧ isSpace c = true := by
      simpa [isBlank] using blank
    rw [← ih others, ← List.append_assoc]
    cases newline : isNewline c with
    | true =>
      rw [pieces_append_cons newline, List.filterMap_append]
      simp [pieces, empty]
    | false =>
      have kept (line : Text) : f (line ++ [c]) = f line := by
        rw [← unseen, trimEnd, dropEndWhile_concat, if_pos space, ← trimEnd, unseen]
      have same := map_pieces_concat newline kept (text ++ ending)
      simpa [List.filterMap_map] using congrArg (List.filterMap id) same

/-- Lines that are written one under the other are read one by one. -/
theorem filterMap_joinLines {parts : List Text} {ending : Text}
    (whole : ∀ part ∈ parts, '\n' ∉ part) (blank : isBlank ending = true) :
    (lines (joinLines parts ++ ending)).filterMap f = parts.filterMap f := by
  rw [filterMap_lines unseen empty, filterMap_pieces_append unseen empty blank]
  cases parts with
  | nil => simp [joinLines, join, List.intercalate, pieces, empty]
  | cons part rest =>
    rw [pieces_joinLines (List.cons_ne_nil part rest)]
    exact fun other member c inside =>
      beq_eq_false_iff_ne.mpr fun newline => whole other member (newline ▸ inside)

end Reader

/-- What is written item by item is read back in order, if each item is read back by itself. -/
theorem filterMap_written {α β : Type} {f : Text → Option α} {written : β → Text} {record : β → α}
    {items : List β} (reads : ∀ item ∈ items, f (written item) = some (record item)) :
    (items.map written).filterMap f = items.map record := by
  rw [List.filterMap_map, ← List.filterMap_eq_map']
  exact List.filterMap_congr reads

/-! ### Lines with something on them -/

/-- A line without the white space at its end, if anything is left of it. -/
def filled? (line : Text) : Option Text := if isBlank line then none else some (trimEnd line)

theorem filled?_of_isBlank {line : Text} (notBlank : isBlank line = false) :
    filled? line = some (trimEnd line) :=
  if_neg (by simp [notBlank])

theorem filled?_trimEnd (line : Text) : filled? (trimEnd line) = filled? line := by
  rw [filled?, filled?, isBlank_trimEnd, trimEnd_trimEnd]

theorem filter_map_trimEnd (lines : List Text) :
    (lines.map trimEnd).filter (!isBlank ·) = lines.filterMap filled? := by
  induction lines with
  | nil => rfl
  | cons line rest ih =>
    rw [List.map_cons, List.filter_cons, List.filterMap_cons, ih, filled?, isBlank_trimEnd]
    cases isBlank line <;> rfl

end ProxyControl.Text
