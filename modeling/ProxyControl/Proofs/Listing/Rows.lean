import ProxyControl.Listing.Rows
import ProxyControl.Proofs.Result
import ProxyControl.Proofs.Text.LineReading

/-!
# Rows as they are written

A row is written below a header line, with a mark between its fields. It is read back as it was
written, except where the mark itself is white space: a line is trimmed before it is cut, and so
the empty fields at its end are lost.
-/
namespace ProxyControl.Listing

open Text

/-! ### Fields of a row -/

/-- The character between two fields, if it is always the same. -/
def RowDelimiter.mark? : RowDelimiter → Option Char
  | .tab => some '\t'
  | .pipe => some '|'
  | .comma => some ','
  | .whitespace => none

/-- The fields that are left of a row without the white space at its end. -/
def RowDelimiter.kept : RowDelimiter → List Text → List Text
  | .tab, fields => fields.rdropWhile (·.isEmpty)
  | _, fields => fields

/-- Fields that can be told apart by the mark between them, and make no comment. -/
structure IsRow (mark : Char) (fields : List Text) : Prop where
  first : ∃ field ∈ fields.head?, ∃ c ∈ field.head?, c ≠ '#'
  unmarked : ∀ field ∈ fields, mark ∉ field
  whole : ∀ field ∈ fields, '\n' ∉ field
  trimmed : ∀ field ∈ fields, trim field = field

instance (mark : Char) (fields : List Text) : Decidable (IsRow mark fields) :=
  decidable_of_iff
    (fields.head?.any (·.head?.any (· != '#')) = true ∧ (∀ field ∈ fields, mark ∉ field) ∧
      (∀ field ∈ fields, '\n' ∉ field) ∧ ∀ field ∈ fields, trim field = field)
    ⟨fun ⟨first, unmarked, whole, trimmed⟩ =>
        ⟨by simpa [Option.any_eq_true] using first, unmarked, whole, trimmed⟩,
      fun row => ⟨by simpa [Option.any_eq_true] using row.first, row.unmarked, row.whole,
        row.trimmed⟩⟩

variable {delimiter : RowDelimiter} {mark : Char} {fields : List Text}

theorem fields_eq (marked : delimiter.mark? = some mark) (line : Text) :
    delimiter.fields line = (pieces (· == mark) line).map trim := by
  cases delimiter with
  | tab | pipe | comma =>
    cases marked
    rfl
  | whitespace => cases marked

theorem isPrefix_kept (delimiter : RowDelimiter) (fields : List Text) :
    delimiter.kept fields <+: fields := by
  cases delimiter with
  | tab => exact List.rdropWhile_prefix _ fields
  | pipe | comma | whitespace => exact List.prefix_refl fields

/-- A row keeps all its fields unless an empty one stands at a blank end. -/
theorem kept_eq_self_iff :
    delimiter.kept fields = fields ↔ ¬ (delimiter = .tab ∧ fields.getLast? = some []) := by
  cases delimiter with
  | tab =>
    rw [RowDelimiter.kept, List.rdropWhile_eq_self_iff]
    cases fields using List.reverseRecOn with
    | nil => simp
    | append_singleton front last => simp [List.isEmpty_iff]
  | pipe | comma | whitespace => simp [RowDelimiter.kept]

/-- An empty field at the end is kept, unless it stands behind a tab. -/
theorem kept_concat_nil (delimiter : RowDelimiter) (front : List Text) :
    delimiter.kept (front ++ [[]]) =
      if delimiter = .tab then delimiter.kept front else front ++ [[]] := by
  cases delimiter with
  | tab => exact List.rdropWhile_concat_pos _ front [] rfl
  | pipe | comma | whitespace => rfl

theorem isSpace_iff_of_mark? (marked : delimiter.mark? = some mark) :
    isSpace mark = true ↔ delimiter = .tab := by
  cases delimiter with
  | tab | pipe | comma =>
    cases marked
    decide
  | whitespace => cases marked

/-- A row has no white space at its end if its last field is not empty. -/
theorem trimEnd_join_concat {last : Text} (nonempty : last ≠ []) (trimmed : trim last = last)
    (front : List Text) :
    trimEnd (join [mark] (front ++ [last])) = join [mark] (front ++ [last]) := by
  obtain ⟨before, written⟩ : ∃ before, join [mark] (front ++ [last]) = before ++ last := by
    by_cases alone : front = []
    · subst alone
      exact ⟨[], List.intercalate_singleton⟩
    · exact ⟨join [mark] front ++ [mark], by simp [join_concat alone]⟩
  rw [written, trimEnd_append_of_trim_eq_self nonempty trimmed]

/-- Without the white space at its end a row is written with the fields that are kept. -/
theorem trimEnd_join (marked : delimiter.mark? = some mark)
    (trimmed : ∀ field ∈ fields, trim field = field) :
    trimEnd (join [mark] fields) = join [mark] (delimiter.kept fields) := by
  induction fields using List.reverseRecOn with
  | nil => cases delimiter <;> rfl
  | append_singleton front last ih =>
    obtain ⟨others, trimmed⟩ := List.forall_mem_append.mp trimmed
    by_cases empty : last = []
    · subst empty
      rw [kept_concat_nil]
      by_cases alone : front = []
      · subst alone
        cases delimiter <;> rfl
      · -- the row ends in a mark, which goes if it is white space
        rw [join_concat alone, trimEnd, dropEndWhile_concat, ← trimEnd, ih others]
        simp only [isSpace_iff_of_mark? marked]
        split
        · rfl
        · rw [join_concat alone]
    · have all : delimiter.kept (front ++ [last]) = front ++ [last] := by
        rw [kept_eq_self_iff]
        simp [empty]
      rw [all, trimEnd_join_concat empty (trimmed last (List.mem_singleton_self last))]

namespace IsRow

variable (row : IsRow mark fields)
include row

theorem ne_nil : fields ≠ [] := by
  obtain ⟨field, first, -⟩ := row.first
  rintro rfl
  cases first

/-- The first field is always kept. -/
theorem head?_kept (delimiter : RowDelimiter) : (delimiter.kept fields).head? = fields.head? := by
  obtain ⟨field, first, c, begins, -⟩ := row.first
  obtain ⟨tail, rfl⟩ := List.head?_eq_some_iff.mp first
  cases delimiter with
  | tab =>
    cases kept : RowDelimiter.tab.kept (field :: tail) with
    | nil =>
      -- nothing is kept only if the first field is empty
      have empty := List.rdropWhile_eq_nil_iff.mp kept field List.mem_cons_self
      rw [List.isEmpty_iff.mp empty] at begins
      cases begins
    | cons other rest =>
      have front := kept ▸ isPrefix_kept .tab (field :: tail)
      rw [(List.cons_prefix_cons.mp front).1]
      rfl
  | pipe | comma | whitespace => rfl

/-- What is kept of a row is a row. -/
theorem kept (delimiter : RowDelimiter) : IsRow mark (delimiter.kept fields) := by
  have subset := (isPrefix_kept delimiter fields).subset
  exact
    { first := row.head?_kept delimiter ▸ row.first
      unmarked := fun field member => row.unmarked field (subset member)
      whole := fun field member => row.whole field (subset member)
      trimmed := fun field member => row.trimmed field (subset member) }

theorem fields_join (marked : delimiter.mark? = some mark) :
    delimiter.fields (join [mark] fields) = fields := by
  have cut : pieces (· == mark) (join [mark] fields) = fields := by
    refine pieces_join (by simp) row.ne_nil fun field member c inside => ?_
    rw [beq_eq_false_iff_ne]
    rintro rfl
    exact row.unmarked field member inside
  rw [fields_eq marked, cut, List.map_congr_left row.trimmed, List.map_id']

/-- A row begins as its first field does. -/
theorem exists_mem_head?_join : ∃ c ∈ (join [mark] fields).head?, c ≠ '#' ∧ isSpace c = false := by
  obtain ⟨field, first, c, begins, uncommented⟩ := row.first
  obtain ⟨tail, rfl⟩ := List.head?_eq_some_iff.mp first
  obtain ⟨rest, rfl⟩ := List.head?_eq_some_iff.mp begins
  have trimmed := row.trimmed (c :: rest) List.mem_cons_self
  have inside : isSpace c = false :=
    isSpace_of_mem_head?_trimStart ((of_trim_eq_self trimmed).1.symm ▸ begins)
  refine ⟨c, ?_, uncommented, inside⟩
  cases tail with
  | nil => simp [join, List.intercalate]
  | cons next tail => simp [join, List.intercalate_cons_cons]

theorem isNewline_of_mem_join (marked : delimiter.mark? = some mark) {c : Char}
    (member : c ∈ join [mark] fields) : isNewline c = false := by
  rcases of_mem_join member with between | ⟨field, inRow, inside⟩
  · rw [List.mem_singleton.mp between]
    cases delimiter with
    | tab | pipe | comma =>
      cases marked
      decide
    | whitespace => cases marked
  · exact beq_eq_false_iff_ne.mpr fun newline => row.whole field inRow (newline ▸ inside)

end IsRow

/-! ### Tables -/

theorem dataRows_eq_filterMap (text : Text) :
    dataRows text = (((lines text).filterMap filled?).drop 1).filter (·.head? != some '#') := by
  rw [dataRows, filter_map_trimEnd]

/-- White space at the end of a text makes no difference to its rows. -/
theorem dataRows_append {ending : Text} (blank : isBlank ending = true) (text : Text) :
    dataRows (text ++ ending) = dataRows text := by
  rw [dataRows_eq_filterMap, dataRows_eq_filterMap, filterMap_lines filled?_trimEnd rfl,
    filterMap_lines filled?_trimEnd rfl, filterMap_pieces_append filled?_trimEnd rfl blank]

/-- What stands above the rows: a line that is not blank. -/
structure IsHeader (header : Text) : Prop where
  notBlank : isBlank header = false
  whole : '\n' ∉ header

/-- Rows below a header line, one a line. -/
def table (mark : Char) (header : Text) (rows : List (List Text)) : Text :=
  joinLines (header :: rows.map (join [mark]))

variable {header : Text} {rows : List (List Text)}

theorem dataRows_table (marked : delimiter.mark? = some mark) (headed : IsHeader header)
    (written : ∀ fields ∈ rows, IsRow mark fields) :
    dataRows (table mark header rows) =
      rows.map fun fields => join [mark] (delimiter.kept fields) := by
  have whole : ∀ line ∈ header :: rows.map (join [mark]), '\n' ∉ line := by
    refine List.forall_mem_cons.mpr ⟨headed.whole, List.forall_mem_map.mpr ?_⟩
    intro fields member newline
    cases (written fields member).isNewline_of_mem_join marked newline
  have begins (fields : List Text) (member : fields ∈ rows) :
      ∃ c ∈ (join [mark] (delimiter.kept fields)).head?, c ≠ '#' ∧ isSpace c = false :=
    ((written fields member).kept delimiter).exists_mem_head?_join
  have above : filled? header = some (trimEnd header) := filled?_of_isBlank headed.notBlank
  have below (fields : List Text) (member : fields ∈ rows) :
      filled? (join [mark] fields) = some (join [mark] (delimiter.kept fields)) := by
    have trimmed := trimEnd_join marked (written fields member).trimmed
    rw [filled?_of_isBlank, trimmed]
    obtain ⟨c, first, -, inside⟩ := begins fields member
    obtain ⟨rest, line⟩ := List.head?_eq_some_iff.mp first
    rw [← isBlank_trimEnd, trimmed, line, isBlank_cons, inside]
    rfl
  have uncommented : ∀ line ∈ rows.map fun fields => join [mark] (delimiter.kept fields),
      (line.head? != some '#') = true := by
    refine List.forall_mem_map.mpr fun fields member => ?_
    obtain ⟨c, first, other, -⟩ := begins fields member
    rw [Option.mem_def.mp first]
    simpa using other
  rw [dataRows_eq_filterMap, table, ← List.append_nil (joinLines _),
    filterMap_joinLines filled?_trimEnd rfl whole rfl, List.filterMap_cons_some above,
    filterMap_written below, List.drop_one, List.tail_cons, List.filter_eq_self.mpr uncommented]

/-- What is made of fields, with a report of how they are written. -/
def readFields {α : Type} (mark : Char) (expected : Nat) (build : List Text → Result α)
    (fields : List Text) : Result α :=
  if fields.length < expected then
    .error (.unread (.shortRow expected fields.length) (join [mark] fields))
  else (build fields).mapError (atRow (join [mark] fields))

theorem IsRow.readRow_join {α : Type} (row : IsRow mark fields)
    (marked : delimiter.mark? = some mark) (expected : Nat) (build : List Text → Result α) :
    readRow delimiter expected build (join [mark] fields) =
      readFields mark expected build fields := by
  rw [readRow, row.fields_join marked, readFields]

/-- A table is read row by row, with the fields that are left of a row when the white space at its
end is gone. So where no row is too short, all are read as they were written exactly if none of
them has an empty field behind its last tab. -/
theorem reads_table (marked : delimiter.mark? = some mark) (headed : IsHeader header)
    (written : ∀ fields ∈ rows, IsRow mark fields) {ending : Text} (ended : isBlank ending = true)
    (expected : Nat) :
    (∀ {α : Type} (build : List Text → Result α),
      readRows delimiter expected build (table mark header rows ++ ending) =
        rows.mapM fun fields => readFields mark expected build (delimiter.kept fields)) ∧
    ((∀ fields ∈ rows, expected ≤ fields.length) →
      ((∀ {α : Type} (build : List Text → Result α),
        readRows delimiter expected build (table mark header rows ++ ending) =
          rows.mapM fun fields => (build fields).mapError (atRow (join [mark] fields))) ↔
        ∀ fields ∈ rows, ¬ (delimiter = .tab ∧ fields.getLast? = some []))) := by
  have reads {α : Type} (build : List Text → Result α) :
      readRows delimiter expected build (table mark header rows ++ ending) =
        rows.mapM fun fields => readFields mark expected build (delimiter.kept fields) := by
    rw [readRows, dataRows_append ended, dataRows_table marked headed written, List.mapM_map]
    exact Result.mapM_congr fun fields member =>
      ((written fields member).kept delimiter).readRow_join marked expected build
  refine ⟨reads, fun enough => ⟨fun same fields member => ?_, fun filled {α} build => ?_⟩⟩
  · -- a builder that takes all fields as they are shows what it was given
    have all : (rows.mapM fun fields => readFields mark expected .ok (delimiter.kept fields)) =
        .ok rows := by
      rw [← reads, same, Result.mapM_eq_ok_iff]
      exact List.forall₂_same.mpr fun _ _ => rfl
    have given := List.forall₂_same.mp (Result.mapM_eq_ok_iff.mp all) fields member
    rw [← kept_eq_self_iff]
    unfold readFields at given
    split at given
    · cases given
    · exact Except.ok.inj given
  · rw [reads]
    refine Result.mapM_congr fun fields member => ?_
    rw [kept_eq_self_iff.mpr (filled fields member), readFields,
      if_neg (enough fields member).not_gt]

/-- Between pipes an empty field at the end of a row is read back. -/
theorem reads_table_pipe :
    readRows .pipe 3 .ok (table '|' "name|from|to" [["x", "1", ""], ["y", "", "2"]] ++ "\n") =
      .ok [["x", "1", ""], ["y", "", "2"]] := by
  have marked : RowDelimiter.pipe.mark? = some '|' := rfl
  have headed : IsHeader "name|from|to" := ⟨by decide +kernel, by decide +kernel⟩
  have written : ∀ fields ∈ ([["x", "1", ""], ["y", "", "2"]] : List (List Text)),
      IsRow '|' fields := by decide +kernel
  have ended : isBlank ("\n" : Text) = true := by decide +kernel
  have reads := (reads_table marked headed written ended 3).2 (by decide +kernel)
  exact reads.mpr (by decide +kernel) .ok

/-- Between tabs it is lost, and without it the row may be too short. -/
theorem loses_last_column :
    IsRow '\t' ["x", "1", ""] ∧
      table '\t' "name\tfrom\tto" [["x", "1", ""]] ++ "\n" = "name\tfrom\tto\nx\t1\t\n" ∧
      readRows .tab 3 .ok "name\tfrom\tto\nx\t1\t\n" =
        .error (.unread (.shortRow 3 2) "x\t1") ∧
      readRows .tab 2 .ok "name\tfrom\tto\nx\t1\t\n" = .ok [["x", "1"]] := by
  decide +kernel

end ProxyControl.Listing
