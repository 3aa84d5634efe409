import ProxyControl.Proofs.Listing.Entry
import ProxyControl.Proofs.Text.Number

/-!
# The grammar of entry lines

An entry line is refused only if there is nothing on it, if its line number is too large, or if
its options are not closed. What an entry shows of itself is read back, whatever white space
stands between its parts.
-/
namespace ProxyControl.Listing.EntryLine

open Text

/-! ### Lines without an entry -/

/-- What stands in front of the first white space of a line. -/
def firstWord (line : Text) : Text := (trim line).takeWhile (!isSpace ·)

/-- What stands behind the first word of a line. -/
def behindFirst (line : Text) : Text := trimStart ((trim line).dropWhile (!isSpace ·))

/-- What is no entry: nothing at all, a first word that ends in too large a line number, or options
that are not closed. -/
inductive IsNoEntry (line : Text) : Prop
  | blank (none : trim line = [])
  | number {name digits : Text} {n : Nat} (numbered : firstWord line = name ++ ':' :: digits)
    (isNumber : ∀ c ∈ digits, c.isDigit = true) (value : IsDecimal digits n) (large : 2 ^ 32 ≤ n)
  | options (opens : (behindFirst line).head? = some '[') (unclosed : ']' ∉ behindFirst line)

/-- A word is refused only for a line number that is too large. -/
theorem splitHead_eq_error_iff {head line : Text} :
    (∃ failure, splitHead head line = .error failure) ↔
      ∃ name digits n, head = name ++ ':' :: digits ∧ (∀ c ∈ digits, c.isDigit = true) ∧
        IsDecimal digits n ∧ 2 ^ 32 ≤ n := by
  constructor
  · rintro ⟨failure, failed⟩
    by_cases numbered : IsUnnumbered head
    · rw [splitHead_of_isUnnumbered numbered] at failed
      cases failed
    · simp only [IsUnnumbered, not_forall, Bool.not_eq_false] at numbered
      obtain ⟨name, digits, rfl, nonempty, isNumber⟩ := numbered
      rw [splitHead_of_all_isDigit nonempty isNumber] at failed
      have digital := List.all_eq_true.mp isNumber
      obtain ⟨n, value⟩ := exists_isDecimal nonempty digital
      refine ⟨name, digits, n, rfl, digital, value, value.u32?_eq_none_iff.mp ?_⟩
      cases read : u32? digits with
      | none => rfl
      | some m =>
        rw [read] at failed
        cases failed
  · rintro ⟨name, digits, n, rfl, isNumber, value, large⟩
    rw [splitHead_of_all_isDigit value.ne_nil (List.all_eq_true.mpr isNumber),
      value.u32?_eq_none_iff.mpr large]
    exact ⟨_, rfl⟩

/-- What opens with a bracket is refused if no bracket closes it. -/
theorem splitOptions_eq_error_iff {text line : Text} :
    (∃ failure, splitOptions text line = .error failure) ↔
      text.head? = some '[' ∧ ']' ∉ text := by
  by_cases opens : text.head? = some '['
  · obtain ⟨bracketed, rfl⟩ := List.head?_eq_some_iff.mp opens
    by_cases inside : ']' ∈ bracketed
    · -- the first bracket that closes ends the options
      obtain ⟨options, rest, rfl, clean⟩ := List.eq_append_cons_of_mem inside
      have split := splitOptions_of_cut clean rest line
      rw [List.cons_append] at split
      rw [split]
      simp
    · simp [splitOptions, cutFirst?_eq_none inside, inside]
  · rw [splitOptions_of_head? opens]
    simp [opens]

theorem read_trim (line : Text) : EntryLine.read (trim line) = EntryLine.read line := by
  simp only [EntryLine.read, trim_trim]

/-- A trimmed line begins with a word, unless there is nothing on it. -/
theorem firstWord_eq_nil_iff {line : Text} : firstWord line = [] ↔ trim line = [] := by
  cases trimmed : trim line with
  | nil => simp [firstWord, trimmed]
  | cons c rest =>
    have first : c ∈ (trimEnd (trimStart line)).head? := by
      rw [← trim, trimmed]
      rfl
    have inside := isSpace_of_mem_head?_trimStart (mem_head?_of_trimEnd first)
    simp [firstWord, trimmed, inside]

/-- A line is refused for its first word or for its options. -/
theorem exists_read_eq_error_iff {line : Text} :
    (∃ failure, EntryLine.read line = .error failure) ↔
      firstWord line = [] ∨ (∃ failure, splitHead (firstWord line) (trim line) = .error failure) ∨
        ∃ failure, splitOptions (behindFirst line) (trim line) = .error failure := by
  simp only [EntryLine.read]
  rw [← firstWord, ← behindFirst]
  by_cases empty : firstWord line = []
  · rw [if_pos (by simpa using empty)]
    exact iff_of_true ⟨_, rfl⟩ (.inl empty)
  · -- the parts are read one behind the other, and the first that fails is the last
    rw [if_neg (by simpa using empty)]
    cases first : splitHead (firstWord line) (trim line) with
    | error failure => exact iff_of_true ⟨failure, rfl⟩ (.inr (.inl ⟨failure, rfl⟩))
    | ok named =>
      cases second : splitOptions (behindFirst line) (trim line) with
      | error failure => exact iff_of_true ⟨failure, rfl⟩ (.inr (.inr ⟨failure, rfl⟩))
      | ok optional =>
        refine iff_of_false ?_ ?_
        · rintro ⟨failure, failed⟩
          cases failed
        · rintro (none | ⟨failure, failed⟩ | ⟨failure, failed⟩)
          · exact empty none
          · cases failed
          · cases failed

/-- A line is refused exactly if there is no entry on it. -/
theorem read_eq_error_iff {line : Text} :
    (∃ failure, EntryLine.read line = .error failure) ↔ IsNoEntry line := by
  rw [exists_read_eq_error_iff, firstWord_eq_nil_iff, splitHead_eq_error_iff,
    splitOptions_eq_error_iff]
  constructor
  · rintro (none | ⟨name, digits, n, numbered, isNumber, value, large⟩ | ⟨opens, unclosed⟩)
    · exact .blank none
    · exact .number numbered isNumber value large
    · exact .options opens unclosed
  · rintro (none | ⟨numbered, isNumber, value, large⟩ | ⟨opens, unclosed⟩)
    · exact .inl none
    · exact .inr (.inl ⟨_, _, _, numbered, isNumber, value, large⟩)
    · exact .inr (.inr ⟨opens, unclosed⟩)

/-! ### Lines with an entry -/

/-- An entry none of whose parts can be taken for another one. -/
structure IsWritable (entry : EntryLine) : Prop where
  nonempty : entry.name ≠ []
  word : ∀ c ∈ entry.name, isSpace c = false
  unnumbered : IsUnnumbered entry.name
  options : ∀ options ∈ entry.options, trim options = options ∧ ']' ∉ options
  filters : ∀ filter ∈ entry.filters, filter ≠ [] ∧ ∀ c ∈ filter, isSpace c = false
  first : entry.options = none → ∀ filter ∈ entry.filters.head?, filter.head? ≠ some '['

/-- The first word of an entry. -/
def headText (entry : EntryLine) : Text :=
  match entry.lineNumber with
  | some n => entry.name ++ ':' :: decimal n.toNat
  | none => entry.name

/-- What follows the first word of an entry. -/
def tailParts (entry : EntryLine) : List Text :=
  (entry.options.map fun options => '[' :: options ++ [']']).toList ++ entry.filters

/-- A line that shows an entry, with any white space between its parts and around them. -/
def IsWritten (entry : EntryLine) (line : Text) : Prop :=
  ∃ front rest, isBlank front = true ∧ line = front ++ entry.headText ++ rest ∧
    IsSpread entry.tailParts rest

section Written

variable {entry : EntryLine} (writable : entry.IsWritable)
include writable

theorem IsWritable.headText_ne_nil : entry.headText ≠ [] := by
  unfold headText
  split
  · simp
  · exact writable.nonempty

theorem IsWritable.isSpace_of_mem_headText : ∀ c ∈ entry.headText, isSpace c = false := by
  unfold headText
  split
  next n _ =>
    refine List.forall_mem_append.mpr ⟨writable.word, List.forall_mem_cons.mpr ⟨rfl, ?_⟩⟩
    exact fun c member => isSpace_of_mem_decimal member
  next => exact writable.word

theorem IsWritable.splitHead_headText (line : Text) :
    splitHead entry.headText line = .ok (entry.name, entry.lineNumber) := by
  unfold headText
  split
  next n numbered =>
    have digits : (decimal n.toNat).all Char.isDigit = true :=
      List.all_eq_true.mpr fun c => isDigit_of_mem_decimal
    rw [splitHead_of_all_isDigit (decimal_ne_nil _) digits, u32?_decimal, numbered]
  next unnumbered => rw [splitHead_of_isUnnumbered writable.unnumbered, unnumbered]

/-- What follows the first word is read as the options and the filters. -/
theorem IsWritable.splitOptions_rest {rest : Text} (spread : IsSpread entry.tailParts rest)
    (line : Text) : ∃ behind, splitOptions (trimStart (trimEnd rest)) line =
      .ok (entry.options, behind) ∧ entry.filters = words behind := by
  cases bound : entry.options with
  | none =>
    -- the first filter opens no options, so all words are filters
    rw [tailParts, bound] at spread
    have filters : words rest = entry.filters := spread.words_eq writable.filters
    refine ⟨_, splitOptions_of_head? ?_ line, ?_⟩
    · rw [head?_trimStart, words_trimEnd, filters]
      intro opens
      obtain ⟨filter, first, bracket⟩ := Option.bind_eq_some_iff.mp opens
      exact writable.first bound filter first bracket
    · rw [words_trimStart, words_trimEnd, filters]
  | some options =>
    obtain ⟨trimmed, clean⟩ := writable.options options bound
    rw [tailParts, bound] at spread
    cases spread with
    | @cons gap _ rest _ blank apart behind =>
      refine ⟨trimEnd rest, ?_, ?_⟩
      · rw [trim_options blank, splitOptions_of_cut clean, trimmed]
      · rw [words_trimEnd]
        exact (behind.words_eq writable.filters).symm

/-- What is written as an entry is read as that entry. -/
theorem IsWritten.read_eq {line : Text} (written : entry.IsWritten line) :
    EntryLine.read line = .ok entry := by
  obtain ⟨front, rest, blank, rfl, spread⟩ := written
  -- the white space in front goes first; what is left begins with the first word
  have start : EntryLine.read (front ++ entry.headText ++ rest) =
      EntryLine.read (entry.headText ++ rest) := by
    rw [← read_trim, List.append_assoc, trim_append blank, read_trim]
  rw [start, read_append_eq_ok_iff writable.headText_ne_nil writable.isSpace_of_mem_headText
    spread.isSpace_of_mem_head?]
  exact ⟨writable.splitHead_headText _, writable.splitOptions_rest spread _⟩

end Written

/-- The reader refuses exactly the lines that hold no entry, and reads every entry back from any
line that shows it. -/
theorem keeps_to_grammar (line : Text) :
    ((∃ failure, EntryLine.read line = .error failure) ↔ IsNoEntry line) ∧
      ∀ entry : EntryLine, entry.IsWritable → entry.IsWritten line →
        EntryLine.read line = .ok entry :=
  ⟨read_eq_error_iff, fun _ writable written => written.read_eq writable⟩

/-- A colon in the name, white space of several kinds, and filters with brackets are read back. -/
theorem keeps_to_grammar_brackets :
    EntryLine.read " a:b:7\t[alpn h2]  [x ]\x0b" =
      .ok ⟨"a:b", some 7, some "alpn h2", ["[x", "]"]⟩ := by
  have unnumbered : IsUnnumbered "a:b" := by
    have split : splitHead "a:b" [] = .ok ("a:b", none) := by decide +kernel
    by_contra numbered
    exact name_of_splitHead split numbered rfl
  have writable : IsWritable ⟨"a:b", some 7, some "alpn h2", ["[x", "]"]⟩ :=
    { nonempty := by decide +kernel
      word := by simp [ofString_eq, isSpace]
      unnumbered := unnumbered
      options := by decide +kernel
      filters := by simp [ofString_eq, isSpace]
      first := nofun }
  have spread : IsSpread ["[alpn h2]", "[x", "]"]
      ("\t" ++ "[alpn h2]" ++ ("  " ++ "[x" ++ (" " ++ "]" ++ "\x0b"))) := by
    refine .cons ?_ ?_ (.cons ?_ ?_ (.cons ?_ ?_ (.nil ?_))) <;> decide +kernel
  have parts : tailParts ⟨"a:b", some 7, some "alpn h2", ["[x", "]"]⟩ =
      ([("[alpn h2]" : Text), "[x", "]"] : List Text) := by decide +kernel
  have written : IsWritten ⟨"a:b", some 7, some "alpn h2", ["[x", "]"]⟩
      " a:b:7\t[alpn h2]  [x ]\x0b" := by
    refine ⟨" ", _, by decide +kernel, ?_, parts ▸ spread⟩
    decide +kernel
  exact (keeps_to_grammar _).2 _ writable written

end ProxyControl.Listing.EntryLine
