import ProxyControl.Listing.Entry
import ProxyControl.Proofs.Result
import ProxyControl.Proofs.Text.Words

/-!
# Reading entry lines

An entry line is cut behind its first word. The word may end in a line number, and what follows it
may begin with options in brackets; the rest are filters.
-/
namespace ProxyControl.Listing.EntryLine

open Text

/-! ### Line numbers -/

/-- A word that ends in no line number: nothing but digits stands behind none of its colons. -/
def IsUnnumbered (head : Text) : Prop :=
  ∀ name digits, head = name ++ ':' :: digits → digits ≠ [] → digits.all Char.isDigit = false

theorem splitHead_of_isUnnumbered {head : Text} (unnumbered : IsUnnumbered head) (line : Text) :
    splitHead head line = .ok (head, none) := by
  unfold splitHead
  split
  next name digits cut =>
    obtain ⟨c, same, colon, -⟩ := of_cutLast?_eq_some cut
    obtain rfl : c = ':' := by simpa using colon
    rw [if_neg]
    rw [Bool.and_eq_true, Bool.not_eq_true', List.isEmpty_eq_false_iff]
    rintro ⟨nonempty, number⟩
    rw [unnumbered name digits same nonempty] at number
    cases number
  next => rfl

/-- Digits behind the last colon of a word are its line number. -/
theorem splitHead_of_all_isDigit {digits : Text} (nonempty : digits ≠ [])
    (number : digits.all Char.isDigit = true) (name line : Text) :
    splitHead (name ++ ':' :: digits) line =
      match u32? digits with
      | some n => .ok (name, some n)
      | none => .error (.unread (.stated "line number out of range") line) := by
  have clean : ∀ c ∈ digits, (c == ':') = false := by
    intro c member
    rw [beq_eq_false_iff_ne]
    rintro rfl
    exact absurd (List.all_eq_true.mp number ':' member) (by decide)
  have cut : cutLast? (· == ':') (name ++ ':' :: digits) = some (name, digits) :=
    cutLast?_append_cons rfl name clean
  have isNumber : (!digits.isEmpty && digits.all Char.isDigit) = true := by
    simp [nonempty, number]
  rw [splitHead, cut]
  exact if_pos isNumber

/-- A line number is no part of the name. -/
theorem name_of_splitHead {head line name : Text} {lineNumber : Option UInt32}
    (split : splitHead head line = .ok (name, lineNumber)) (numbered : ¬ IsUnnumbered head) :
    name ≠ head := by
  simp only [IsUnnumbered, not_forall, Bool.not_eq_false] at numbered
  obtain ⟨front, digits, rfl, nonempty, number⟩ := numbered
  rw [splitHead_of_all_isDigit nonempty number] at split
  -- the digits are a number that fits, or else there is no name
  cases read : u32? digits with
  | none =>
    rw [read] at split
    cases split
  | some n =>
    rw [read] at split
    cases split
    exact fun same => by simpa using congrArg List.length same

/-! ### Options -/

theorem splitOptions_of_head? {text : Text} (other : text.head? ≠ some '[') (line : Text) :
    splitOptions text line = .ok (none, text) := by
  unfold splitOptions
  split
  next => exact absurd rfl other
  next => rfl

/-- What begins with a bracket has options, if it is read at all. -/
theorem options_of_splitOptions {text line rest : Text} {options : Option Text}
    (opens : text.head? = some '[') (split : splitOptions text line = .ok (options, rest)) :
    options ≠ none := by
  obtain ⟨bracketed, rfl⟩ := List.head?_eq_some_iff.mp opens
  simp only [splitOptions] at split
  cases cut : cutFirst? (· == ']') bracketed with
  | none =>
    rw [cut] at split
    cases split
  | some parts =>
    rw [cut] at split
    cases split
    simp

/-- The first closing bracket ends the options. -/
theorem splitOptions_of_cut {options : Text} (inside : ']' ∉ options) (rest line : Text) :
    splitOptions ('[' :: options ++ ']' :: rest) line = .ok (some (trim options), rest) := by
  have cut : cutFirst? (· == ']') (options ++ ']' :: rest) = some (options, rest) :=
    cutFirst?_append_cons inside rest
  simp only [splitOptions, List.cons_append, cut]

/-- The closing bracket is no white space, so trimming stops at it. -/
theorem trim_options {gap : Text} (blank : isBlank gap = true) (options rest : Text) :
    trimStart (trimEnd (gap ++ ('[' :: options ++ [']']) ++ rest)) =
      '[' :: options ++ ']' :: trimEnd rest := by
  have closed : ∀ c ∈ (gap ++ ('[' :: options ++ [']'])).getLast?, isSpace c = false := by
    rw [← List.append_assoc, List.getLast?_concat]
    rintro c ⟨⟩
    rfl
  rw [trimEnd_append_of_getLast? closed, List.append_assoc, trimStart_append blank]
  simp [trimStart, isSpace]

/-! ### Lines -/

/-- A line is its first word and what stands behind it. -/
theorem read_append {head behind : Text} (nonempty : head ≠ [])
    (word : ∀ c ∈ head, isSpace c = false) (ends : ∀ c ∈ behind.head?, isSpace c = true) :
    EntryLine.read (head ++ behind) = (do
      let (name, lineNumber) ← splitHead head (head ++ trimEnd behind)
      let (options, rest) ← splitOptions (trimStart (trimEnd behind)) (head ++ trimEnd behind)
      pure { name, lineNumber, options, filters := words rest }) := by
  have line : trim (head ++ behind) = head ++ trimEnd behind := by
    rw [trim, trimStart_of_head?, trimEnd_append_of_forall word]
    obtain ⟨c, rest, rfl⟩ := List.exists_cons_of_ne_nil nonempty
    rintro d ⟨⟩
    exact word c List.mem_cons_self
  -- the first word ends where the white space behind it begins
  have stops : ∀ c ∈ (trimEnd behind).head?, isSpace c = true :=
    fun c first => ends c (mem_head?_of_trimEnd first)
  have first : (head ++ trimEnd behind).takeWhile (!isSpace ·) = head := by
    rw [List.takeWhile_append_of_pos fun c member => by simp [word c member]]
    cases kept : trimEnd behind with
    | nil => simp
    | cons c rest => simp [stops c (by simp [kept])]
  have rest : (head ++ trimEnd behind).dropWhile (!isSpace ·) = trimEnd behind := by
    rw [List.dropWhile_append_of_pos fun c member => by simp [word c member]]
    cases kept : trimEnd behind with
    | nil => rfl
    | cons c rest => simp [stops c (by simp [kept])]
  simp only [EntryLine.read, line, first, rest]
  rw [if_neg (by simpa using nonempty)]

/-- A line is read exactly if its first word and its options are. -/
theorem read_append_eq_ok_iff {head behind : Text} (nonempty : head ≠ [])
    (word : ∀ c ∈ head, isSpace c = false) (ends : ∀ c ∈ behind.head?, isSpace c = true)
    {entry : EntryLine} :
    EntryLine.read (head ++ behind) = .ok entry ↔
      splitHead head (head ++ trimEnd behind) = .ok (entry.name, entry.lineNumber) ∧
        ∃ rest, splitOptions (trimStart (trimEnd behind)) (head ++ trimEnd behind) =
          .ok (entry.options, rest) ∧ entry.filters = words rest := by
  simp only [read_append nonempty word ends, Result.bind_eq_ok_iff, Prod.exists]
  constructor
  · rintro ⟨name, lineNumber, first, options, rest, second, ⟨⟩⟩
    exact ⟨first, rest, second, rfl⟩
  · rintro ⟨first, rest, second, same⟩
    exact ⟨_, _, first, _, rest, second, by rw [← same]; rfl⟩

end ProxyControl.Listing.EntryLine
