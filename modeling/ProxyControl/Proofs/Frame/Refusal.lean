import ProxyControl.Frame.Basic
import ProxyControl.Proofs.Text.LineReading
import ProxyControl.Proofs.Text.Number

/-!
# Markers of refusal

Four digits mark a failed command. In an answer the second character of the first line decides,
whatever stands in front of it; in an event the digit has to stand in brackets.
-/
namespace ProxyControl

open Text

namespace Frame

theorem failing?_eq_some_iff {marker : Char} {severity : Nat} :
    failing? marker = some severity ↔ severity ≤ 3 ∧ marker = Nat.digitChar severity := by
  rw [failing?, Option.filter_eq_some_iff, digit?_ten_eq_some_iff, decide_eq_true_eq,
    worstInformative]
  constructor
  · rintro ⟨⟨-, same⟩, small⟩
    exact ⟨small, same⟩
  · rintro ⟨small, same⟩
    exact ⟨⟨by omega, same⟩, small⟩

/-- A line is a refusal exactly if its second character is a failing severity. -/
theorem exists_refusal?_iff {text : Text} {severity : Nat} :
    (∃ message, refusal? text = some ⟨severity, message⟩) ↔
      severity ≤ 3 ∧ text[1]? = some (Nat.digitChar severity) := by
  match text with
  | [] => simp [refusal?]
  | [c] => simp [refusal?]
  | first :: marker :: rest =>
    simp only [refusal?, Option.map_eq_some_iff, failing?_eq_some_iff, Refusal.mk.injEq]
    constructor
    · rintro ⟨message, found, ⟨small, rfl⟩, rfl, -⟩
      exact ⟨small, rfl⟩
    · rintro ⟨small, second⟩
      exact ⟨_, severity, ⟨small, by simpa using second⟩, rfl, rfl⟩

/-- In an event the severity stands in brackets, and a colon may follow them. -/
theorem bracketedRefusal?_eq_some_iff {text : Text} {severity : Nat} {message : Text} :
    bracketedRefusal? text = some ⟨severity, message⟩ ↔
      ∃ rest, text = '[' :: Nat.digitChar severity :: ']' :: rest ∧ severity ≤ 3 ∧
        message = trim (withoutStart ":" rest) := by
  constructor
  · intro refused
    unfold bracketedRefusal? at refused
    split at refused
    next marker rest =>
      obtain ⟨digit, found, same⟩ := Option.map_eq_some_iff.mp refused
      cases same
      obtain ⟨small, rfl⟩ := failing?_eq_some_iff.mp found
      exact ⟨rest, rfl, small, rfl⟩
    next => cases refused
  · rintro ⟨rest, rfl, small, rfl⟩
    simp only [bracketedRefusal?, failing?_eq_some_iff.mpr ⟨small, rfl⟩, Option.map_some]

/-- White space at the end of a line makes no difference to what it refuses. -/
theorem refusal?_trimEnd (text : Text) : refusal? (trimEnd text) = refusal? text := by
  rcases text with _ | ⟨first, _ | ⟨marker, rest⟩⟩
  · rfl
  · cases space : isSpace first with
    | true =>
      rw [trimEnd_eq_nil_iff.mpr (by simp [isBlank, space])]
      rfl
    | false => rw [trimEnd_of_forall (by simpa using space)]
  · cases failing : failing? marker with
    | none =>
      -- what is left has the same second character, if it has one
      have kept : trimEnd (first :: marker :: rest) <+: first :: marker :: rest :=
        List.rdropWhile_prefix isSpace _
      generalize trimEnd (first :: marker :: rest) = trimmed at kept
      rcases trimmed with _ | ⟨other, _ | ⟨second, more⟩⟩
      · simp [refusal?, failing]
      · simp [refusal?, failing]
      · obtain rfl : second = marker := by
          simp only [List.cons_prefix_cons] at kept
          exact kept.2.1
        simp [refusal?, failing]
    | some severity =>
      obtain ⟨small, rfl⟩ := failing?_eq_some_iff.mp failing
      have digit : ∀ c ∈ [first, Nat.digitChar severity].getLast?, isSpace c = false := by
        rintro _ ⟨⟩
        exact isSpace_digitChar (by omega)
      have kept : trimEnd (first :: Nat.digitChar severity :: rest) =
          first :: Nat.digitChar severity :: trimEnd rest :=
        trimEnd_append_of_getLast? digit
      have bracket : ∀ c ∈ ("]" : Text), isSpace c = false := by simp [ofString_eq, isSpace]
      have colon : ∀ c ∈ ("]:" : Text), isSpace c = false := by simp [ofString_eq, isSpace]
      rw [kept]
      simp only [refusal?, failing, Option.map_some, after?_trimEnd bracket, after?_trimEnd colon]
      cases after? "]:" rest with
      | some message => simp [trim_trimEnd]
      | none =>
        cases after? "]" rest with
        | some message => simp [trim_trimEnd]
        | none => simp [trim_trimEnd]

theorem decode_eq_error_iff {raw : Text} {refusal : Refusal} :
    decode raw = .error refusal ↔ refusal? (clean .newline raw) = some refusal := by
  rw [decode]
  split
  next none =>
    rw [List.isEmpty_iff.mp none]
    simp [refusal?]
  next => cases refusal? (clean .newline raw) <;> simp

/-- An answer is judged by its first line, if that is not blank. -/
theorem answerRefusal?_of_first {answer first : Text} {more : List Text}
    (cut : lines answer = first :: more) (notBlank : isBlank first = false) :
    answerRefusal? answer = refusal? (trimEnd first) := by
  rw [answerRefusal?, cut, List.map_cons, List.find?_cons_of_pos]
  · rfl
  · simp [trimEnd_eq_nil_iff, notBlank]

theorem answerRefusal?_of_lines {answer first : Text} {more : List Text}
    (cut : lines answer = first :: more) (trimmed : trimEnd first = first)
    (nonempty : first ≠ []) : answerRefusal? answer = refusal? first := by
  have notBlank : isBlank first = false := by
    rwa [← trimmed, ne_eq, trimEnd_eq_nil_iff, Bool.not_eq_true] at nonempty
  rw [answerRefusal?_of_first cut notBlank, trimmed]

/-- An answer whose second character marks nothing is no refusal. -/
theorem answerRefusal?_of_second {first second : Char} (inside : isSpace first = false)
    (whole : isLineBreak second = false) (unmarked : failing? second = none) (rest : Text) :
    answerRefusal? (first :: second :: rest) = none := by
  have start : isLineBreak first = false := by
    cases breaks : isLineBreak first with
    | false => rfl
    | true =>
      rw [isSpace_of_isLineBreak breaks] at inside
      cases inside
  have onLine : ∀ c ∈ [first, second], isLineBreak c = false := by
    simp [start, whole]
  obtain ⟨line, more, cut⟩ : ∃ line more, lines (first :: second :: rest) = line :: more :=
    List.exists_cons_of_ne_nil (by simp [lines_eq_nil_iff])
  obtain ⟨behind, rfl⟩ := (prefix_line_iff onLine cut).mp (List.prefix_append _ rest)
  have notBlank : isBlank ([first, second] ++ behind) = false := by
    rw [List.cons_append, isBlank_cons, inside, Bool.false_and]
  rw [answerRefusal?_of_first cut notBlank, refusal?_trimEnd]
  simp [refusal?, unmarked]

/-- What is written line by line is judged by its first line with something on it. -/
theorem answerRefusal?_joinLines_append {parts : List Text} {ending : Text}
    (whole : ∀ part ∈ parts, '\n' ∉ part) (blank : isBlank ending = true) :
    answerRefusal? (joinLines parts ++ ending) = (parts.filterMap filled?).head?.bind refusal? := by
  have trimmed : ∀ line ∈ (lines (joinLines parts ++ ending)).map trimEnd,
      (!line.isEmpty) = !isBlank line := by
    refine List.forall_mem_map.mpr fun line _ => ?_
    rw [isBlank_trimEnd, isBlank_eq_isEmpty_trimEnd]
  rw [answerRefusal?, ← List.head?_filter, List.filter_congr trimmed, filter_map_trimEnd,
    filterMap_joinLines filled?_trimEnd rfl whole blank]

/-- Lines none of which is a refusal are no refusal together. -/
theorem answerRefusal?_of_forall {parts : List Text} {ending : Text}
    (whole : ∀ part ∈ parts, '\n' ∉ part) (blank : isBlank ending = true)
    (unmarked : ∀ part ∈ parts, refusal? part = none) :
    answerRefusal? (joinLines parts ++ ending) = none := by
  rw [answerRefusal?_joinLines_append whole blank]
  cases first : (parts.filterMap filled?).head? with
  | none => rfl
  | some line =>
    obtain ⟨part, member, filled⟩ := List.mem_filterMap.mp (List.mem_of_mem_head? first)
    obtain ⟨-, same⟩ := Option.ite_none_left_eq_some.mp filled
    obtain rfl := Option.some.inj same
    rw [Option.bind_some, refusal?_trimEnd, unmarked part member]

/-- The words behind a marker begin the message, whatever follows them. -/
theorem answerRefusal?_of_marker {severity : Nat} (small : severity ≤ 3) {words : Text}
    (whole : ∀ c ∈ words, isLineBreak c = false) (nonempty : words ≠ [])
    (opened : ∀ c ∈ words.head?, isSpace c = false)
    (closed : ∀ c ∈ words.getLast?, isSpace c = false) (rest : Text) :
    ∃ message, answerRefusal?
        ('[' :: Nat.digitChar severity :: ']' :: ':' :: ' ' :: (words ++ rest)) =
      some ⟨severity, words ++ message⟩ := by
  let marker : Text := ['[', Nat.digitChar severity, ']', ':', ' ']
  have digit : isLineBreak (Nat.digitChar severity) = false :=
    (by decide : ∀ n ≤ 3, isLineBreak (Nat.digitChar n) = false) severity small
  have inMarker : ∀ c ∈ marker, isLineBreak c = false :=
    List.forall_mem_cons.mpr ⟨rfl, List.forall_mem_cons.mpr ⟨digit, by simp [isLineBreak]⟩⟩
  have onLine : ∀ c ∈ marker ++ words, isLineBreak c = false :=
    List.forall_mem_append.mpr ⟨inMarker, whole⟩
  obtain ⟨first, more, cut⟩ : ∃ first more, lines (marker ++ words ++ rest) = first :: more :=
    List.exists_cons_of_ne_nil (by simp [lines_eq_nil_iff, marker])
  obtain ⟨behind, rfl⟩ := (prefix_line_iff onLine cut).mp (List.prefix_append _ rest)
  -- trimming leaves the words alone, at the end of the line and behind the marker
  have ended : trimEnd (marker ++ words ++ behind) = marker ++ words ++ trimEnd behind := by
    apply trimEnd_append_of_getLast?
    rwa [List.getLast?_append_of_ne_nil marker nonempty]
  have started : trim (' ' :: (words ++ trimEnd behind)) = words ++ trimEnd (trimEnd behind) := by
    have blank : trimStart (' ' :: (words ++ trimEnd behind)) =
        trimStart (words ++ trimEnd behind) := rfl
    rw [trim, blank, trimStart_of_head?, trimEnd_append_of_getLast? closed]
    rwa [List.head?_append_of_ne_nil words nonempty]
  have judged : answerRefusal? (marker ++ words ++ rest) =
      refusal? (marker ++ words ++ trimEnd behind) := by
    rw [answerRefusal?_of_first cut (by rfl), ended]
  refine ⟨trimEnd (trimEnd behind), ?_⟩
  simpa [marker, refusal?, failing?_eq_some_iff.mpr ⟨small, rfl⟩, ofString_eq, after?, started]
    using judged

end Frame

end ProxyControl
