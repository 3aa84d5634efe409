import ProxyControl.Listing.Fields
import ProxyControl.Proofs.Text.Cutting

/-!
# Assignments

A line of assignments is read round by round. Each round takes a key, the equals sign behind it and
a value, and leaves the text behind the value, so that it never looks at what was taken before and
comes to an end when the equals signs do. Assignments that are printed with a comma between them
are read back in this way, whatever their values hold.
-/
namespace ProxyControl.Listing

open Text

/-! ### Values -/

/-- What stands behind an equals sign: the value in front, and what is left behind it. A quote in
front makes a value go on to the next quote, and otherwise it goes on to the next comma; without
either it goes on to the end. -/
inductive IsAssigned : Text → Text → Text → Prop
  | quoted {value left : Text} (inside : '\x22' ∉ value) :
    IsAssigned ('\x22' :: (value ++ '\x22' :: left)) value left
  | unclosed {value : Text} (inside : '\x22' ∉ value) : IsAssigned ('\x22' :: value) value []
  | bare {value left : Text} (unquoted : '\x22' ∉ (value ++ ',' :: left).head?)
    (inside : ',' ∉ value) : IsAssigned (value ++ ',' :: left) value (',' :: left)
  | last {value : Text} (unquoted : '\x22' ∉ value.head?) (inside : ',' ∉ value) :
    IsAssigned value value []

theorem assigned_of_unquoted {text : Text} (unquoted : '\x22' ∉ text.head?) :
    assigned text =
      match cutFirst? (· == ',') text with
      | some (value, left) => (value, ',' :: left)
      | none => (text, []) := by
  unfold assigned
  split
  next => exact absurd rfl unquoted
  next => rfl

theorem isAssigned_assigned (text : Text) :
    IsAssigned text (assigned text).1 (assigned text).2 := by
  by_cases quoted : '\x22' ∈ text.head?
  · obtain ⟨inner, rfl⟩ := List.head?_eq_some_iff.mp quoted
    rw [assigned]
    cases cut : cutFirst? (· == '\x22') inner with
    | some halves =>
      obtain ⟨rfl, inside⟩ := of_cutFirst?_eq_some cut
      exact .quoted inside
    | none => exact .unclosed (not_mem_of_cutFirst?_eq_none cut)
  · rw [assigned_of_unquoted quoted]
    cases cut : cutFirst? (· == ',') text with
    | some halves =>
      obtain ⟨rfl, inside⟩ := of_cutFirst?_eq_some cut
      exact .bare quoted inside
    | none => exact .last quoted (not_mem_of_cutFirst?_eq_none cut)

/-- There is one value in front of a text. -/
theorem assigned_eq_iff {text value left : Text} :
    assigned text = (value, left) ↔ IsAssigned text value left := by
  constructor
  · intro taken
    have made := isAssigned_assigned text
    rwa [taken] at made
  · intro taken
    cases taken with
    | quoted inside => simp [assigned, cutFirst?_append_cons inside]
    | unclosed inside => simp [assigned, cutFirst?_eq_none inside]
    | bare unquoted inside =>
      rw [assigned_of_unquoted unquoted, cutFirst?_append_cons inside]
    | last unquoted inside => rw [assigned_of_unquoted unquoted, cutFirst?_eq_none inside]

/-- A value in quotes is what stands up to the next quote, wherever that is. -/
theorem assigned_quote (text : Text) : (assigned ('\x22' :: text)).1 = upTo '\x22' text := by
  rw [assigned]
  cases cut : cutFirst? (· == '\x22') text with
  | some halves =>
    obtain ⟨rfl, inside⟩ := of_cutFirst?_eq_some cut
    rw [upTo_append_cons, upTo_of_not_mem inside]
    rfl
  | none => rw [upTo_of_not_mem (not_mem_of_cutFirst?_eq_none cut), Option.getD_none]

theorem IsAssigned.suffix {text value left : Text} (taken : IsAssigned text value left) :
    left <:+ text := by
  cases taken with
  | @quoted value left inside => exact ⟨'\x22' :: (value ++ ['\x22']), by simp⟩
  | unclosed inside => exact List.nil_suffix
  | bare unquoted inside => exact List.suffix_append _ _
  | last unquoted inside => exact List.nil_suffix

/-! ### Rounds -/

/-- A round of reading: the assignment that it takes, and the text that it leaves to the next. -/
inductive Round : Text → Text × Text → Text → Prop
  | intro {key behind value left : Text} (first : '=' ∉ key)
    (taken : IsAssigned behind value left) :
    Round (key ++ '=' :: behind) (trim ((trim key).dropWhile (· == ',')), trim value)
      (trimStart (left.dropWhile betweenAssignments))

/-- The rounds in which a text is read. Each of them leaves fewer equals signs, and they end where
none is left. -/
inductive Rounds : Text → List (Text × Text) → Prop
  | done {text : Text} (none : '=' ∉ text) : Rounds text []
  | next {text left : Text} {pair : Text × Text} {pairs : List (Text × Text)}
    (round : Round text pair left) (fewer : left.count '=' < text.count '=')
    (onward : Rounds left pairs) : Rounds text (pair :: pairs)

theorem Round.count_lt {text left : Text} {pair : Text × Text} (round : Round text pair left) :
    left.count '=' < text.count '=' := by
  cases round with
  | @intro key behind value left first taken =>
    have kept : (trimStart (left.dropWhile betweenAssignments)).Sublist behind :=
      ((List.dropWhile_sublist _).trans (List.dropWhile_sublist _)).trans taken.suffix.sublist
    have fewer := kept.count_le '='
    rw [List.count_append, List.count_cons_self]
    omega

theorem assignmentsFrom_of_not_mem {text : Text} (none : '=' ∉ text) :
    assignmentsFrom text = [] := by
  rw [assignmentsFrom]
  split
  next => rfl
  next key behind cut =>
    rw [cutFirst?_eq_none none] at cut
    cases cut

/-- What a round takes comes first, and what it leaves is read in the same way. -/
theorem Round.assignmentsFrom_eq {text left : Text} {pair : Text × Text}
    (round : Round text pair left) :
    assignmentsFrom text = pair :: assignmentsFrom left := by
  cases round with
  | intro first taken =>
    rw [assignmentsFrom]
    split
    next cut =>
      rw [cutFirst?_append_cons first] at cut
      cases cut
    next key behind cut =>
      rw [cutFirst?_append_cons first] at cut
      cases cut
      simp only [assigned_eq_iff.mpr taken]

theorem rounds_assignmentsFrom (text : Text) : Rounds text (assignmentsFrom text) := by
  generalize signs : text.count '=' = count
  induction count using Nat.strong_induction_on generalizing text with
  | _ count ih =>
    cases cut : cutFirst? (· == '=') text with
    | none =>
      have none := not_mem_of_cutFirst?_eq_none cut
      exact assignmentsFrom_of_not_mem none ▸ .done none
    | some halves =>
      obtain ⟨rfl, first⟩ := of_cutFirst?_eq_some cut
      have round := Round.intro first (isAssigned_assigned halves.2)
      rw [round.assignmentsFrom_eq]
      exact .next round round.count_lt (ih _ (signs ▸ round.count_lt) _ rfl)

/-- Reading goes round by round and in no other way. -/
theorem rounds_iff {text : Text} {pairs : List (Text × Text)} :
    Rounds text pairs ↔ pairs = assignmentsFrom text := by
  refine ⟨fun rounds => ?_, fun same => same ▸ rounds_assignmentsFrom text⟩
  induction rounds with
  | done none => exact (assignmentsFrom_of_not_mem none).symm
  | next round fewer onward ih => rw [round.assignmentsFrom_eq, ih]

/-! ### Printed assignments -/

structure Assignment where
  key : Text
  value : Text
  /-- Whether the value is printed in quotes. -/
  quoted : Bool
  deriving DecidableEq, Repr

namespace Assignment

def pair (assignment : Assignment) : Text × Text := (assignment.key, assignment.value)

def valueText (assignment : Assignment) : Text :=
  if assignment.quoted then '\x22' :: (assignment.value ++ ['\x22']) else assignment.value

def toText (assignment : Assignment) : Text := assignment.key ++ '=' :: assignment.valueText

/-- An assignment whose parts keep to their places. -/
structure IsPrintable (assignment : Assignment) : Prop where
  key : '=' ∉ assignment.key ∧ trim assignment.key = assignment.key ∧ ',' ∉ assignment.key.head?
  value : trim assignment.value = assignment.value
  bare : assignment.quoted = false →
    ',' ∉ assignment.value ∧ '\x22' ∉ assignment.value.head?
  inQuotes : assignment.quoted = true → '\x22' ∉ assignment.value

instance (assignment : Assignment) : Decidable assignment.IsPrintable :=
  decidable_of_iff
    (('=' ∉ assignment.key ∧ trim assignment.key = assignment.key ∧
        ',' ∉ assignment.key.head?) ∧
      trim assignment.value = assignment.value ∧
      (assignment.quoted = false → ',' ∉ assignment.value ∧ '\x22' ∉ assignment.value.head?) ∧
      (assignment.quoted = true → '\x22' ∉ assignment.value))
    ⟨fun ⟨key, value, bare, inQuotes⟩ => ⟨key, value, bare, inQuotes⟩,
      fun printable => ⟨printable.key, printable.value, printable.bare, printable.inQuotes⟩⟩

end Assignment

/-- What cannot be taken for a part of the gap in front of it. -/
def StartsAssignment (text : Text) : Prop := ∀ c ∈ text.head?, isSpace c = false ∧ c ≠ ','

theorem StartsAssignment.skip {text : Text} (starts : StartsAssignment text) :
    trimStart ((", " ++ text : Text).dropWhile betweenAssignments) = text := by
  have kept : text.dropWhile betweenAssignments = text := by
    cases text with
    | nil => rfl
    | cons c rest =>
      obtain ⟨inside, other⟩ := starts c rfl
      have stays : betweenAssignments c = false := by
        rw [betweenAssignments, Bool.or_eq_false_iff, beq_eq_false_iff_ne, beq_eq_false_iff_ne]
        refine ⟨other, ?_⟩
        rintro rfl
        cases inside
      exact List.dropWhile_cons_of_neg (by rw [stays]; exact Bool.false_ne_true)
  have gap : (", " ++ text : Text).dropWhile betweenAssignments =
      text.dropWhile betweenAssignments := by
    rw [ofString_eq]
    rfl
  rw [gap, kept, trimStart_of_head? fun c first => (starts c first).1]

namespace Assignment.IsPrintable

variable {assignment : Assignment} (printable : assignment.IsPrintable)
include printable

theorem trim_dropWhile_key :
    trim ((trim assignment.key).dropWhile (· == ',')) = assignment.key := by
  obtain ⟨-, trimmed, first⟩ := printable.key
  have kept : assignment.key.dropWhile (· == ',') = assignment.key := by
    cases start : assignment.key with
    | nil => rfl
    | cons c rest =>
      rw [start] at first
      have other : (c == ',') = false := beq_eq_false_iff_ne.mpr fun comma => first (comma ▸ rfl)
      exact List.dropWhile_cons_of_neg (by rw [other]; exact Bool.false_ne_true)
  rw [trimmed, kept, trimmed]

theorem startsAssignment (behind : Text) : StartsAssignment (assignment.toText ++ behind) := by
  obtain ⟨-, trimmed, first⟩ := printable.key
  intro c begins
  cases start : assignment.key with
  | nil =>
    rw [toText, start] at begins
    cases begins
    exact ⟨rfl, by decide⟩
  | cons d rest =>
    obtain rfl : d = c := by simpa [toText, start] using begins
    refine ⟨?_, by simpa [start, eq_comm] using first⟩
    have started : trimStart assignment.key = assignment.key := (of_trim_eq_self trimmed).1
    have inside : d ∈ (trimStart assignment.key).head? := by
      rw [started, start]
      rfl
    exact isSpace_of_mem_head?_trimStart inside

/-- A value ends where the text does, or at the comma behind it. -/
theorem isAssigned {behind : Text} (ends : behind = [] ∨ ',' ∈ behind.head?) :
    IsAssigned (assignment.valueText ++ behind) assignment.value behind := by
  rw [valueText]
  cases inQuotes : assignment.quoted with
  | true =>
    have whole : '\x22' :: (assignment.value ++ ['\x22']) ++ behind =
        '\x22' :: (assignment.value ++ '\x22' :: behind) := by
      simp
    rw [if_pos rfl, whole]
    exact .quoted (printable.inQuotes inQuotes)
  | false =>
    obtain ⟨inside, unquoted⟩ := printable.bare inQuotes
    rw [if_neg Bool.false_ne_true]
    rcases ends with rfl | comma
    · rw [List.append_nil]
      exact .last unquoted inside
    · obtain ⟨left, rfl⟩ := List.head?_eq_some_iff.mp comma
      refine .bare (fun quote => ?_) inside
      -- an empty value begins with the comma behind it
      cases value : assignment.value with
      | nil => simp [value] at quote
      | cons c rest => exact unquoted (by simpa [value] using quote)

theorem round {behind : Text} (ends : behind = [] ∨ ',' ∈ behind.head?) :
    Round (assignment.toText ++ behind) assignment.pair
      (trimStart (behind.dropWhile betweenAssignments)) := by
  have made := Round.intro printable.key.1 (printable.isAssigned ends)
  rw [printable.trim_dropWhile_key, printable.value] at made
  rwa [toText, List.append_assoc]

/-- An assignment ends in its value, its closing quote or its equals sign, and so not in white
space. -/
theorem trimEnd_append_toText (front : Text) :
    trimEnd (front ++ assignment.toText) = front ++ assignment.toText := by
  have value : trimEnd assignment.valueText = assignment.valueText := by
    rw [valueText]
    split
    · have closing : trim ['\x22'] = ['\x22'] := rfl
      exact trimEnd_append_of_trim_eq_self (by simp) closing ('\x22' :: assignment.value)
    · exact (of_trim_eq_self printable.value).2
  have sign : ∀ c ∈ (front ++ (assignment.key ++ ['='])).getLast?, isSpace c = false := by
    rw [← List.append_assoc, List.getLast?_concat]
    rintro _ ⟨⟩
    rfl
  have split : front ++ assignment.toText =
      front ++ (assignment.key ++ ['=']) ++ assignment.valueText := by
    simp [toText]
  rw [split, trimEnd_append_of_getLast? sign, value]

end Assignment.IsPrintable

/-- Assignments with a comma and a blank behind each. -/
def leading (front : List Assignment) : Text :=
  front.flatMap fun assignment => assignment.toText ++ (", " : Text)

theorem leading_cons (assignment : Assignment) (front : List Assignment) :
    leading (assignment :: front) = assignment.toText ++ (", " ++ leading front) := by
  rw [leading, List.flatMap_cons, List.append_assoc, leading]

theorem startsAssignment_leading {front : List Assignment}
    (printable : ∀ assignment ∈ front, assignment.IsPrintable) {behind : Text}
    (starts : StartsAssignment behind) :
    StartsAssignment (leading front ++ behind) := by
  cases front with
  | nil => exact starts
  | cons assignment front =>
    rw [leading_cons, List.append_assoc]
    exact (printable assignment List.mem_cons_self).startsAssignment _

/-- Assignments with a comma and a blank behind each are taken one by one, whatever comes next. -/
theorem assignmentsFrom_leading {front : List Assignment}
    (printable : ∀ assignment ∈ front, assignment.IsPrintable) {behind : Text}
    (starts : StartsAssignment behind) :
    assignmentsFrom (leading front ++ behind) =
      front.map Assignment.pair ++ assignmentsFrom behind := by
  induction front with
  | nil => rfl
  | cons assignment front ih =>
    obtain ⟨first, others⟩ := List.forall_mem_cons.mp printable
    have next := startsAssignment_leading others starts
    have comma (text : Text) : ',' ∈ (", " ++ text : Text).head? := by
      rw [ofString_eq]
      rfl
    have round := first.round (.inr (comma (leading front ++ behind)))
    rw [leading_cons, List.append_assoc, List.append_assoc, round.assignmentsFrom_eq, next.skip,
      ih others, List.map_cons, List.cons_append]

theorem assignments_leading {front : List Assignment}
    (printable : ∀ assignment ∈ front, assignment.IsPrintable) {behind : Text}
    (starts : StartsAssignment behind)
    (ended : trimEnd (leading front ++ behind) = leading front ++ behind) :
    assignments (leading front ++ behind) = front.map Assignment.pair ++ assignmentsFrom behind := by
  have started : trimStart (leading front ++ behind) = leading front ++ behind :=
    trimStart_of_head? fun c first => (startsAssignment_leading printable starts c first).1
  rw [assignments, trim, started, ended, assignmentsFrom_leading printable starts]

/-- Printed with a comma and a blank between them, all but the last one stand in front of it. -/
theorem join_concat_toText (front : List Assignment) (last : Assignment) :
    join ", " ((front ++ [last]).map Assignment.toText) = leading front ++ last.toText := by
  induction front with
  | nil => simp [join, leading]
  | cons assignment front ih =>
    rw [leading_cons, List.append_assoc, List.append_assoc, ← ih]
    cases front <;> simp [join, List.intercalate_cons_cons]

/-- Assignments that are printed with a comma and a blank between them are read back in order.
Any text is read in rounds, each of which uses up an equals sign. -/
theorem reads_assignments :
    (∀ printed : List Assignment, (∀ assignment ∈ printed, assignment.IsPrintable) →
      assignments (join ", " (printed.map Assignment.toText)) = printed.map Assignment.pair) ∧
    ∀ (text : Text) (pairs : List (Text × Text)),
      Rounds (trim text) pairs ↔ assignments text = pairs := by
  refine ⟨fun printed printable => ?_, fun text pairs => rounds_iff.trans eq_comm⟩
  rcases printed.eq_nil_or_concat' with rfl | ⟨front, last, rfl⟩
  · exact assignmentsFrom_of_not_mem List.not_mem_nil
  · obtain ⟨others, here⟩ := List.forall_mem_append.mp printable
    have final : last.IsPrintable := here last List.mem_cons_self
    have starts : StartsAssignment last.toText :=
      List.append_nil last.toText ▸ final.startsAssignment []
    have alone := final.round (.inl rfl)
    rw [List.append_nil] at alone
    rw [join_concat_toText, assignments_leading others starts (final.trimEnd_append_toText _),
      alone.assignmentsFrom_eq, assignmentsFrom_of_not_mem (by simp [trimStart]), List.map_append,
      List.map_singleton]

/-- Empty values and keys, and values that look like more assignments. -/
def markedAssignments : List Assignment :=
  [⟨"type", "", false⟩, ⟨"a,b", "c=d", false⟩, ⟨"", ", match=no,", true⟩, ⟨"x", "", true⟩,
    ⟨"idx", "1\x222", false⟩]

theorem reads_assignments_marked :
    (∀ assignment ∈ markedAssignments, assignment.IsPrintable) ∧
    join ", " (markedAssignments.map Assignment.toText) =
      "type=, a,b=c=d, =\x22, match=no,\x22, x=\x22\x22, idx=1\x222" ∧
    assignments "type=, a,b=c=d, =\x22, match=no,\x22, x=\x22\x22, idx=1\x222" =
      ([("type", ""), ("a,b", "c=d"), ("", ", match=no,"), ("x", ""), ("idx", "1\x222")] :
        List (Text × Text)) ∧
    Rounds (trim ",, k = \x22v w") [("k", "\x22v w")] := by
  have printable : ∀ assignment ∈ markedAssignments, assignment.IsPrintable := by decide +kernel
  have line : join ", " (markedAssignments.map Assignment.toText) =
      "type=, a,b=c=d, =\x22, match=no,\x22, x=\x22\x22, idx=1\x222" := by decide +kernel
  exact ⟨printable, line, line ▸ reads_assignments.1 markedAssignments printable,
    (reads_assignments.2 _ _).mpr (by decide +kernel)⟩

end ProxyControl.Listing
