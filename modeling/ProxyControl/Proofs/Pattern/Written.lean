import ProxyControl.Pattern.Map
import ProxyControl.Proofs.Command.Line
import ProxyControl.Proofs.Request.Query
import ProxyControl.Proofs.Text.Cutting

/-!
# Written entries

An entry of a map is added or set on one line, with its key and its value behind a blank each.
Either of them may hold blanks of its own, so a line may be that of several entries. It is the
line of one entry only if every other place at which it could be cut would leave a key or a value
that is blank.
-/
namespace ProxyControl

open Text

namespace Map

/-- The two ways of writing one entry. -/
inductive Writing
  | add
  | set
  deriving DecidableEq, Repr

namespace Writing

variable {writing : Writing} {id : PatternRef} {key value line key' value' : Text}

def request : Writing → PatternRef → Text → Text → Request Unit
  | .add => Map.add
  | .set => Map.set

/-- The line that is sent for an entry, if one is. -/
def line? (writing : Writing) (id : PatternRef) (key value : Text) : Option Text :=
  (writing.request id key value).command?.map Command.text

def verb : Writing → Text
  | .add => "add"
  | .set => "set"

/-- What all lines about one map have in front of the key. -/
def front (writing : Writing) (id : PatternRef) : Text :=
  writing.verb ++ " map " ++ id.toText ++ " "

/-- What is asked for once key and value have passed their checks. -/
def unchecked (id : PatternRef) (key value : Text) : Writing → Request Unit
  | .add => .run (.addMapping id key value)
  | .set => .about (keyTitle id key) (.run (.setMapping id key value))

theorem request_eq (writing : Writing) (id : PatternRef) (key value : Text) :
    writing.request id key value = .checked (do
      let key ← Argument.value "map key" key
      let value ← Argument.value "map value" value
      pure (writing.unchecked id key value)) := by
  cases writing <;> rfl

theorem text_unchecked (writing : Writing) (id : PatternRef) (key value : Text) :
    (writing.unchecked id key value).command?.map Command.text =
      some (writing.front id ++ (key ++ ' ' :: value)) := by
  cases writing with
  | add =>
    have asked : (unchecked id key value .add).command? = some (.addMapping id key value) := rfl
    rw [asked]
    simp [front, verb, ofString_eq, Command.addMapping, Command.ofText]
  | set =>
    have asked : (unchecked id key value .set).command? = some (.setMapping id key value) := rfl
    rw [asked]
    simp [front, verb, ofString_eq, Command.setMapping, Command.ofText]

/-- The line of an entry whose key and value pass their checks. -/
theorem line?_of_checked (keyPasses : Argument.value "map key" key = .ok key)
    (valuePasses : Argument.value "map value" value = .ok value) :
    writing.line? id key value = some (writing.front id ++ (key ++ ' ' :: value)) := by
  rw [line?, request_eq, keyPasses, valuePasses]
  exact writing.text_unchecked id key value

theorem checked_of_line? (sent : writing.line? id key value = some line) :
    Argument.value "map key" key = .ok key ∧ Argument.value "map value" value = .ok value := by
  obtain ⟨command, asked, -⟩ := Option.map_eq_some_iff.mp sent
  rw [request_eq] at asked
  obtain ⟨k, keyPasses, onward⟩ := Request.of_command?_bind asked
  obtain ⟨v, valuePasses, -⟩ := Request.of_command?_bind onward
  -- both checks leave what they let pass as it is
  obtain ⟨rfl, -⟩ := Argument.value_eq_ok keyPasses
  obtain ⟨rfl, -⟩ := Argument.value_eq_ok valuePasses
  exact ⟨keyPasses, valuePasses⟩

/-- An entry is sent exactly if key and value are one line each, and neither of them is blank. -/
theorem line?_eq_some_iff : writing.line? id key value = some line ↔
    (isBlank key = false ∧ IsLine key) ∧ (isBlank value = false ∧ IsLine value) ∧
      line = writing.front id ++ (key ++ ' ' :: value) := by
  constructor
  · intro sent
    obtain ⟨keyPasses, valuePasses⟩ := checked_of_line? sent
    rw [line?_of_checked keyPasses valuePasses, Option.some.injEq] at sent
    exact ⟨(Argument.value_eq_ok keyPasses).2, (Argument.value_eq_ok valuePasses).2, sent.symm⟩
  · rintro ⟨⟨keyThere, keyLine⟩, ⟨valueThere, valueLine⟩, rfl⟩
    exact line?_of_checked (Argument.value_of_isLine keyThere keyLine)
      (Argument.value_of_isLine valueThere valueLine)

/-- The entries that share a line with one that was sent: it is cut at another blank, of the value
or of the key, and what comes to stand alone is not blank. -/
theorem line?_eq_some_iff_of_sent (sent : writing.line? id key value = some line) :
    writing.line? id key' value' = some line ↔
      (key' = key ∧ value' = value) ∨
        (∃ between, value = between ++ ' ' :: value' ∧ key' = key ++ ' ' :: between ∧
          isBlank value' = false) ∨
        ∃ between, key = key' ++ ' ' :: between ∧ value' = between ++ ' ' :: value ∧
          isBlank key' = false := by
  obtain ⟨⟨keyThere, keyLine⟩, ⟨valueThere, valueLine⟩, rfl⟩ := line?_eq_some_iff.mp sent
  rw [line?_eq_some_iff, List.append_cancel_left_eq, append_cons_eq_append_cons_iff]
  -- a text is not blank if any part of it is not
  have notBlank {first second : Text} :
      isBlank (first ++ second) = (isBlank first && isBlank second) := List.all_append
  constructor
  · rintro ⟨⟨keyThere', -⟩, ⟨valueThere', -⟩,
      ⟨rfl, rfl⟩ | ⟨between, rfl, rfl⟩ | ⟨between, rfl, rfl⟩⟩
    · exact .inl ⟨rfl, rfl⟩
    · exact .inr (.inl ⟨between, rfl, rfl, valueThere'⟩)
    · exact .inr (.inr ⟨between, rfl, rfl, keyThere'⟩)
  · rintro (⟨rfl, rfl⟩ | ⟨between, rfl, rfl, valueThere'⟩ | ⟨between, rfl, rfl, keyThere'⟩)
    · exact ⟨⟨keyThere, keyLine⟩, ⟨valueThere, valueLine⟩, .inl ⟨rfl, rfl⟩⟩
    · rw [isLine_append, isLine_cons] at valueLine
      exact ⟨⟨by simp [notBlank, keyThere], by simp [keyLine, valueLine]⟩,
        ⟨valueThere', valueLine.2.2⟩, .inr (.inl ⟨between, rfl, rfl⟩)⟩
    · rw [isLine_append, isLine_cons] at keyLine
      exact ⟨⟨keyThere', keyLine.1⟩,
        ⟨by simp [notBlank, isBlank_cons, valueThere], by simp [keyLine, valueLine]⟩,
        .inr (.inr ⟨between, rfl, rfl⟩)⟩

end Writing

/-- Entries whose keys hold no blank have lines of their own. In general a line is that of one entry
exactly if each blank in the key has only white space in front of it, and each blank in the value
only white space behind it. -/
theorem tells_entries_apart {writing : Writing} {id : PatternRef} {key value line : Text}
    (sent : writing.line? id key value = some line) :
    (' ' ∉ key → ∀ key' value', ' ' ∉ key' → writing.line? id key' value' = some line →
      key' = key ∧ value' = value) ∧
    ((∀ key' value', writing.line? id key' value' = some line → key' = key ∧ value' = value) ↔
      (∀ front back, key = front ++ ' ' :: back → isBlank front = true) ∧
        ∀ front back, value = front ++ ' ' :: back → isBlank back = true) := by
  simp only [Writing.line?_eq_some_iff_of_sent sent]
  refine ⟨?_, ?_, ?_⟩
  · -- another place to cut would leave a blank in one of the two keys
    rintro whole key' value' whole' (same | ⟨between, -, rfl, -⟩ | ⟨between, rfl, -⟩)
    · exact same
    · simp at whole'
    · simp at whole
  · -- a blank with something on its other side would be another place to cut
    intro unique
    constructor
    · rintro front back rfl
      by_contra there
      rw [Bool.not_eq_true] at there
      have same := (unique front _ (.inr (.inr ⟨back, rfl, rfl, there⟩))).1
      simp at same
    · rintro front back rfl
      by_contra there
      rw [Bool.not_eq_true] at there
      have same := (unique _ back (.inr (.inl ⟨front, rfl, rfl, there⟩))).1
      simp at same
  · rintro ⟨keyBlanks, valueBlanks⟩ key' value'
      (same | ⟨between, rfl, -, there⟩ | ⟨between, rfl, -, there⟩)
    · exact same
    · rw [valueBlanks between value' rfl] at there
      cases there
    · rw [keyBlanks key' between rfl] at there
      cases there

/-- A key without blanks and a value of one word. -/
theorem tells_entries_apart_host :
    Writing.line? .add (.id 1) "example.com" "web" = some "add map #1 example.com web" ∧
      ∀ key' value', Writing.line? .add (.id 1) key' value' = some "add map #1 example.com web" →
        key' = "example.com" ∧ value' = "web" := by
  have sent : Writing.line? .add (.id 1) "example.com" "web" =
      some "add map #1 example.com web" := by decide +kernel
  have whole {text : Text} (absent : ' ' ∉ text) (front back : Text) :
      text ≠ front ++ ' ' :: back := by
    rintro rfl
    simp at absent
  have key : ' ' ∉ ("example.com" : Text) := by decide +kernel
  have value : ' ' ∉ ("web" : Text) := by decide +kernel
  exact ⟨sent, (tells_entries_apart sent).2.mpr
    ⟨fun front back same => absurd same (whole key front back),
      fun front back same => absurd same (whole value front back)⟩⟩

/-- A blank in the key may as well be one in the value. -/
theorem loses_entry_boundary :
    Writing.line? .add (.id 1) "a b" "c" = some "add map #1 a b c" ∧
      Writing.line? .add (.id 1) "a" "b c" = some "add map #1 a b c" ∧
      Writing.line? .set (.id 1) "a b" "c" = Writing.line? .set (.id 1) "a" "b c" ∧
      ("a b" : Text) ≠ "a" := by
  decide +kernel

end Map

end ProxyControl
