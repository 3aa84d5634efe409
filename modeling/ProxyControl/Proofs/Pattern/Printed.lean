import ProxyControl.Pattern.Map
import ProxyControl.Proofs.Pattern.Listed

/-!
# Printed patterns

The far end prints the entries of a map one a line, and so it prints maps and ACLs below a header.
What is printed is read back entry by entry: no line is taken for a comment, a refusal or
something that makes no sense, and so none is lost.
-/
namespace ProxyControl

open Text Listing

/-! ### Entries of a map -/

namespace PatternEntry

/-- An entry whose key ends at the first blank behind it. -/
structure IsPrintable (entry : PatternEntry) : Prop where
  nonempty : entry.key ≠ []
  word : ∀ c ∈ entry.key, isSpace c = false
  value : ∀ value ∈ entry.value, value ≠ [] ∧ '\n' ∉ value ∧ trim value = value

instance (entry : PatternEntry) : Decidable entry.IsPrintable :=
  decidable_of_iff
    (entry.key ≠ [] ∧ entry.key.any isSpace = false ∧
      ∀ value ∈ entry.value, value ≠ [] ∧ '\n' ∉ value ∧ trim value = value)
    ⟨fun ⟨nonempty, word, value⟩ => ⟨nonempty, by simpa using word, value⟩,
      fun ⟨nonempty, word, value⟩ => ⟨nonempty, by simpa using word, value⟩⟩

/-- What stands behind the address of an entry. -/
def pattern (entry : PatternEntry) : Text :=
  match entry.value with
  | none => entry.key
  | some value => entry.key ++ ' ' :: value

def line (entry : PatternEntry) : Text := lineOf entry.id entry.pattern

namespace IsPrintable

variable {entry : PatternEntry} (printable : entry.IsPrintable)
include printable

theorem not_mem_line : '\n' ∉ entry.line := by
  have inKey : '\n' ∉ entry.key := fun newline => by cases printable.word _ newline
  have inPattern : '\n' ∉ entry.pattern := by
    unfold pattern
    cases bound : entry.value with
    | none => exact inKey
    | some value => simpa [inKey] using (printable.value value bound).2.1
  have inAddress : '\n' ∉ hex entry.id.toNat := not_mem_hex rfl _
  simp [line, lineOf_eq, inAddress, inPattern]

/-- What is printed behind the address begins as the key does. -/
theorem exists_cons_pattern : ∃ c rest, entry.pattern = c :: rest ∧ isSpace c = false := by
  obtain ⟨c, rest, key⟩ := List.exists_cons_of_ne_nil printable.nonempty
  have first : isSpace c = false := printable.word c (key ▸ List.mem_cons_self)
  unfold pattern
  cases entry.value <;> simp [key, first]

theorem isBlank_pattern : isBlank entry.pattern = false := by
  obtain ⟨c, rest, begins, first⟩ := printable.exists_cons_pattern
  rw [begins, isBlank_cons, first]
  rfl

/-- Neither the key nor the value has white space at its ends, so the pattern has none. -/
theorem trim_pattern : trim entry.pattern = entry.pattern := by
  have starts : trimStart entry.pattern = entry.pattern := by
    obtain ⟨c, rest, begins, first⟩ := printable.exists_cons_pattern
    rw [begins, trimStart_of_head? (by simpa using first)]
  rw [trim, starts]
  unfold pattern
  cases bound : entry.value with
  | none => exact trimEnd_of_forall printable.word
  | some value =>
    obtain ⟨nonempty, -, trimmed⟩ := printable.value value bound
    simpa using trimEnd_append_of_trim_eq_self nonempty trimmed (entry.key ++ [' '])

theorem read_line : PatternEntry.read entry.line = .ok entry := by
  -- a key holds no blank, so the first one ends it
  have notBlank := printable.isBlank_pattern
  have trimmed := printable.trim_pattern
  have blankless : ' ' ∉ entry.key := fun blank => by cases printable.word _ blank
  obtain ⟨id, key, value⟩ := entry
  cases value with
  | none => exact read_lineOf_of_not_mem notBlank trimmed id blankless
  | some value =>
    have kept : trim value = value := (printable.value value rfl).2.2
    rw [line, read_lineOf_of_cut notBlank trimmed id rfl blankless, kept]

theorem record?_line : record? (PatternEntry.read · |>.toOption) entry.line = some entry := by
  have ends := trimEnd_lineOf printable.isBlank_pattern printable.trim_pattern entry.id
  rw [record?, line, ends, isData_lineOf, if_pos rfl, ← line, printable.read_line]
  rfl

end IsPrintable

end PatternEntry

/-! ### Maps and ACLs -/

namespace PatternFile

/-- A record whose reference ends at the first bracket that closes. -/
structure IsPrintable (file : PatternFile) : Prop where
  reference : ∀ reference ∈ file.reference,
    reference ≠ [] ∧ ')' ∉ reference ∧ '\n' ∉ reference ∧ trim reference = reference
  whole : '\n' ∉ file.description
  trimmed : trim file.description = file.description

instance (file : PatternFile) : Decidable file.IsPrintable :=
  decidable_of_iff
    ((∀ reference ∈ file.reference,
        reference ≠ [] ∧ ')' ∉ reference ∧ '\n' ∉ reference ∧ trim reference = reference) ∧
      '\n' ∉ file.description ∧ trim file.description = file.description)
    ⟨fun ⟨reference, whole, trimmed⟩ => ⟨reference, whole, trimmed⟩,
      fun printable => ⟨printable.reference, printable.whole, printable.trimmed⟩⟩

/-- Where there is no reference nothing stands in the brackets. -/
def line (file : PatternFile) : Text :=
  decimal file.id.toNat ++ " (" ++ file.reference.getD [] ++ ") " ++ file.description

/-- What stands above the records. -/
def header : Text := "# id (file) description"

/-- Records below their header, one a line. -/
def table (files : List PatternFile) : Text := joinLines (header :: files.map line)

theorem line_eq (file : PatternFile) :
    file.line = decimal file.id.toNat ++
      ' ' :: '(' :: (file.reference.getD [] ++ ')' :: ' ' :: file.description) := by
  simp [line, ofString_eq]

/-- The bracket that closes the reference is no white space, so trimming stops at it. -/
theorem trimEnd_line (file : PatternFile) :
    trimEnd file.line = decimal file.id.toNat ++
      ' ' :: '(' :: (file.reference.getD [] ++ ')' :: trimEnd (' ' :: file.description)) := by
  have regroup (rest : Text) :
      decimal file.id.toNat ++ ' ' :: '(' :: (file.reference.getD [] ++ ')' :: rest) =
        (decimal file.id.toNat ++ ' ' :: '(' :: file.reference.getD [] ++ [')']) ++ rest := by
    simp
  rw [line_eq, regroup, trimEnd_append_of_getLast?, ← regroup]
  rw [List.getLast?_concat]
  rintro c ⟨⟩
  rfl

/-- A record begins with a digit, so it is neither blank nor a comment. -/
theorem isData_trimEnd_line (file : PatternFile) : isData (trimEnd file.line) = true := by
  obtain ⟨c, rest, number⟩ := List.exists_cons_of_ne_nil (decimal_ne_nil file.id.toNat)
  have member : c ∈ decimal file.id.toNat := number ▸ List.mem_cons_self
  have inside : isSpace c = false := isSpace_of_mem_decimal member
  have other : c ≠ '#' := by
    rintro rfl
    cases isDigit_of_mem_decimal member
  rw [trimEnd_line, number, List.cons_append, isData, isBlank_cons, isComment,
    trimStart_of_head? (by simpa using inside)]
  simp [inside, other]

theorem trim_line (file : PatternFile) : trim file.line = trimEnd file.line := by
  rw [trim, trimStart_of_head?]
  intro c first
  rw [line_eq, List.head?_append_of_ne_nil _ (decimal_ne_nil _)] at first
  exact isSpace_of_mem_decimal (List.mem_of_mem_head? first)

namespace IsPrintable

variable {file : PatternFile} (printable : file.IsPrintable)
include printable

theorem not_mem_line : '\n' ∉ file.line := by
  have inNumber : '\n' ∉ decimal file.id.toNat := not_mem_decimal rfl _
  have inReference : '\n' ∉ file.reference.getD [] := by
    cases bound : file.reference with
    | none => simp
    | some reference => exact (printable.reference reference bound).2.2.1
  simp [line_eq, inNumber, inReference, printable.whole]

theorem read_line : PatternFile.read (trimEnd file.line) = .ok file := by
  have blankless : ' ' ∉ decimal file.id.toNat := not_mem_decimal rfl _
  have described : trim (trimEnd (' ' :: file.description)) = file.description := by
    rw [trim_trimEnd, trim_cons rfl, printable.trimmed]
  have inside : ')' ∉ file.reference.getD [] := by
    cases bound : file.reference with
    | none => simp
    | some reference => exact (printable.reference reference bound).2.1
  -- nothing in the brackets is no reference
  have referred : (if (trim (file.reference.getD [])).isEmpty then none
      else some (trim (file.reference.getD []))) = file.reference := by
    cases bound : file.reference with
    | none => rfl
    | some reference =>
      obtain ⟨nonempty, -, -, trimmed⟩ := printable.reference reference bound
      rw [Option.getD_some, trimmed, if_neg (by simpa using nonempty)]
  have starts (rest : Text) : trimStart ('(' :: rest) = '(' :: rest := rfl
  have line := (trim_trimEnd file.line).trans (file.trim_line.trans file.trimEnd_line)
  simp only [PatternFile.read, line, cutFirst?_append_cons blankless, u32?_decimal, starts,
    cutFirst?_append_cons inside, described, referred]
  rfl

theorem record?_line : record? (PatternFile.read · |>.toOption) file.line = some file := by
  rw [record?, isData_trimEnd_line, if_pos rfl, printable.read_line]
  rfl

end IsPrintable

/-- A table is read record by record. Its header is no record and keeps the answer from being
taken for a refusal. -/
theorem perform_table {files : List PatternFile} (printable : ∀ file ∈ files, file.IsPrintable)
    {ending : Text} (ended : isBlank ending = true) {command : Command}
    {send : Command → Result Text} (answered : send command = .ok (table files ++ ending)) :
    (Request.query command fun text =>
      .ok (readLines (PatternFile.read · |>.toOption) text)).perform send = .ok files := by
  have whole : ∀ row ∈ header :: files.map line, '\n' ∉ row := by
    refine List.forall_mem_cons.mpr ⟨by decide +kernel, List.forall_mem_map.mpr ?_⟩
    exact fun file member => (printable file member).not_mem_line
  -- the header is the first line with something on it, and no digit is its second character
  have above : filled? header = some header := by decide +kernel
  have unmarked : Frame.answerRefusal? (table files ++ ending) = none := by
    rw [table, Frame.answerRefusal?_joinLines_append whole ended,
      List.filterMap_cons_some above, List.head?_cons, Option.bind_some]
    decide +kernel
  have comment : record? (PatternFile.read · |>.toOption) header = none :=
    record?_eq_none (.inr (.inl (by decide +kernel)))
  rw [perform_readLines _ whole ended answered unmarked, List.filterMap_cons_none comment,
    filterMap_written fun file member => (printable file member).record?_line, List.map_id']

end PatternFile

/-- What is printed of a map is read back entry by entry, and what is printed of all maps or ACLs
record by record: all of it, and in order. -/
theorem lists_what_is_printed {send : Command → Result Text} {ending : Text}
    (ended : isBlank ending = true) :
    (∀ (id : PatternRef) (entries : List PatternEntry),
      (∀ entry ∈ entries, entry.IsPrintable) →
      send (.showPatternEntries .map id) =
        .ok (joinLines (entries.map PatternEntry.line) ++ ending) →
      (Map.entries id).perform send = .ok entries) ∧
    ∀ files : List PatternFile, (∀ file ∈ files, file.IsPrintable) →
      (send (.showPatterns .map) = .ok (PatternFile.table files ++ ending) →
        Map.list.perform send = .ok files) ∧
      (send (.showPatterns .acl) = .ok (PatternFile.table files ++ ending) →
        Acl.list.perform send = .ok files) := by
  refine ⟨fun id entries printable answered => ?_, fun files printable =>
    ⟨PatternFile.perform_table printable ended, PatternFile.perform_table printable ended⟩⟩
  have whole : ∀ line ∈ entries.map PatternEntry.line, '\n' ∉ line :=
    List.forall_mem_map.mpr fun entry member => (printable entry member).not_mem_line
  have unmarked : Frame.answerRefusal?
      (joinLines (entries.map PatternEntry.line) ++ ending) = none := by
    refine Frame.answerRefusal?_of_forall whole ended (List.forall_mem_map.mpr ?_)
    exact fun entry _ => PatternEntry.refusal?_lineOf entry.id entry.pattern
  rw [Map.entries, Request.perform_about_query _ answered,
    perform_readLines _ whole ended answered unmarked,
    filterMap_written fun entry member => (printable entry member).record?_line, List.map_id']
  rfl

/-- The highest address, a value with marks of its own and a map without a file are read back. -/
theorem lists_what_is_printed_marks :
    (Map.entries (.id 1)).perform
        (Dispatcher.usual.send
          (Dispatch.saying "0xffffffffffffffff #a (b)  0x1 # c\n0x0 k\n")) =
      .ok [⟨18446744073709551615, "#a", some "(b)  0x1 # c"⟩, ⟨0, "k", none⟩] ∧
    Map.list.perform
        (Dispatcher.usual.send
          (Dispatch.saying "# id (file) description\n4294967295 () (no file)\n0 (a b) \n")) =
      .ok [⟨4294967295, none, "(no file)"⟩, ⟨0, some "a b", ""⟩] := by
  have ended : isBlank ("\n" : Text) = true := by decide +kernel
  exact ⟨(lists_what_is_printed ended).1 _ _ (by decide +kernel) (by decide +kernel),
    ((lists_what_is_printed ended).2 _ (by decide +kernel)).1 (by decide +kernel)⟩

end ProxyControl
