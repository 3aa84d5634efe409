import ProxyControl.Listing.Lines
import ProxyControl.Proofs.Request.Query
import ProxyControl.Proofs.Text.LineReading

/-!
# Listings line by line

A tolerant listing is read one line at a time: what a line gives does not depend on the lines
around it. So records that are written one a line are read back in order.
-/
namespace ProxyControl.Listing

open Text

/-- The record that a single line gives, if it gives one. -/
def record? {α : Type} (read : Text → Option α) (line : Text) : Option α :=
  if isData (trimEnd line) then read (trimEnd line) else none

theorem readLines_eq {α : Type} (read : Text → Option α) (text : Text) :
    readLines read text = (lines text).filterMap (record? read) := by
  rw [readLines, dataLines, List.filterMap_filter, List.filterMap_map]
  rfl

theorem record?_trimEnd {α : Type} (read : Text → Option α) (line : Text) :
    record? read (trimEnd line) = record? read line := by
  simp only [record?, trimEnd_trimEnd]

theorem isComment_trimEnd (line : Text) : isComment (trimEnd line) = isComment line := by
  rw [isComment, isComment, trimStart_trimEnd]
  cases kept : trimStart line with
  | nil => rfl
  | cons c rest =>
    have first : c ∈ (trimStart line).head? := by simp [kept]
    have inside : isSpace c = false := isSpace_of_mem_head?_trimStart first
    rw [head?_trimEnd (by rw [isBlank_cons, inside, Bool.false_and])]

theorem isData_trimEnd (line : Text) :
    isData (trimEnd line) = !(isBlank line || isComment line) := by
  rw [isData, isBlank_trimEnd, isComment_trimEnd]

/-- A line that is blank, a comment or garbled gives no record. -/
theorem record?_eq_none {α : Type} {read : Text → Option α} {line : Text}
    (senseless : isBlank line = true ∨ isComment line = true ∨ read (trimEnd line) = none) :
    record? read line = none := by
  rw [record?, isData_trimEnd]
  rcases senseless with blank | comment | garbled
  · simp [blank]
  · simp [comment]
  · simp [garbled]

/-- The pieces between newlines are read each by itself. -/
theorem readLines_eq_pieces {α : Type} (read : Text → Option α) (text : Text) :
    readLines read text = (pieces isNewline text).filterMap (record? read) := by
  rw [readLines_eq, filterMap_lines (record?_trimEnd read) rfl]

theorem readLines_of_not_mem {α : Type} (read : Text → Option α) {line : Text}
    (whole : '\n' ∉ line) : readLines read line = (record? read line).toList := by
  have inside : ∀ c ∈ line, isNewline c = false :=
    fun c member => beq_eq_false_iff_ne.mpr (ne_of_mem_of_not_mem member whole)
  rw [readLines_eq_pieces, pieces_of_forall inside]
  cases found : record? read line <;> simp [found]

/-- A newline parts what is read in front of it from what is read behind it, whatever stands at
its two sides. -/
theorem readLines_append_cons {α : Type} (read : Text → Option α) (first second : Text) :
    readLines read (first ++ '\n' :: second) = readLines read first ++ readLines read second := by
  simp only [readLines_eq_pieces]
  rw [pieces_append_cons rfl, List.filterMap_append]

/-- White space at the end of a text is not seen; a carriage return is such white space. -/
theorem readLines_append_of_isBlank {α : Type} (read : Text → Option α) (text : Text)
    {gap : Text} (blank : isBlank gap = true) :
    readLines read (text ++ gap) = readLines read text := by
  simp only [readLines_eq_pieces]
  exact filterMap_pieces_append (record?_trimEnd read) rfl blank text

theorem readLines_joinLines {α : Type} (read : Text → Option α) {parts : List Text}
    {ending : Text} (whole : ∀ part ∈ parts, '\n' ∉ part) (blank : isBlank ending = true) :
    readLines read (joinLines parts ++ ending) = parts.filterMap (record? read) := by
  rw [readLines_eq, filterMap_joinLines (record?_trimEnd read) rfl whole blank]

/-- An answer that is no refusal gives one record for each line that can be read. -/
theorem perform_readLines {α : Type} (read : Text → Option α) {parts : List Text} {ending : Text}
    (whole : ∀ part ∈ parts, '\n' ∉ part) (blank : isBlank ending = true) {command : Command}
    {send : Command → Result Text} (answered : send command = .ok (joinLines parts ++ ending))
    (unmarked : Frame.answerRefusal? (joinLines parts ++ ending) = none) :
    (Request.query command fun text => .ok (readLines read text)).perform send =
      .ok (parts.filterMap (record? read)) := by
  rw [Request.perform_query_of_none answered unmarked, readLines_joinLines read whole blank]
  rfl

end ProxyControl.Listing
