import ProxyControl.Text.Space

/-!
# Fields of a line

The ways in which one line holds several values: by position, as `key: value`, or as a sequence
of assignments such as `type=ip, match=yes, pattern="10.0.0.0/8"`.
-/
namespace ProxyControl.Text

theorem length_cutFirst? {stops : Char → Bool} {text before after : Text}
    (found : cutFirst? stops text = some (before, after)) :
    before.length + after.length + 1 = text.length := by
  induction text generalizing before after with
  | nil => simp [cutFirst?] at found
  | cons c rest ih =>
    unfold cutFirst? at found
    split at found
    · simp only [Option.some.injEq, Prod.mk.injEq] at found
      simp [← found.1, ← found.2]
    · obtain ⟨⟨front, back⟩, cut, same⟩ := Option.map_eq_some_iff.mp found
      simp only [Prod.mk.injEq] at same
      have shorter := ih cut
      simp only [← same.1, ← same.2, List.length_cons]
      omega

theorem length_dropWhile_le (p : Char → Bool) (text : Text) :
    (text.dropWhile p).length ≤ text.length :=
  (List.dropWhile_sublist p).length_le

end ProxyControl.Text

namespace ProxyControl.Listing

open Text

/-- The fields of a line between spaces and colons. -/
def fields (line : Text) : List Text := runs (fun c => isSpace c || c == ':') line

/-- Key and value around the first colon; without one the whole line is the key. -/
def keyValue (line : Text) : Text × Text :=
  match cutFirst? (· == ':') line with
  | some (key, value) => (trim key, trim value)
  | none => (trim line, [])

/-- The value at the front of a text, and what follows it: up to the closing quote for a quoted
value, up to the comma for a bare one. -/
def assigned : Text → Text × Text
  | '\x22' :: quoted => (cutFirst? (· == '\x22') quoted).getD (quoted, [])
  | bare =>
    match cutFirst? (· == ',') bare with
    | some (value, rest) => (value, ',' :: rest)
    | none => (bare, [])

theorem length_assigned_le (text : Text) : (assigned text).2.length ≤ text.length := by
  unfold assigned
  split
  next quoted =>
    cases found : cutFirst? (· == '\x22') quoted with
    | none => simp
    | some halves =>
      have shorter := length_cutFirst? found
      simp only [Option.getD_some, List.length_cons]
      omega
  next bare _ =>
    split
    next value rest found =>
      have shorter := length_cutFirst? found
      simp only [List.length_cons]
      omega
    next => simp

def betweenAssignments (c : Char) : Bool := c == ',' || c == ' '

/-- The assignments of a text without white space around it, in order; they end where no equals
sign is left. -/
def assignmentsFrom (text : Text) : List (Text × Text) :=
  match _found : cutFirst? (· == '=') text with
  | none => []
  | some (key, after) =>
    let value := assigned after
    (trim ((trim key).dropWhile (· == ',')), trim value.1)
      :: assignmentsFrom (trimStart (value.2.dropWhile betweenAssignments))
termination_by text.length
decreasing_by
  have shorter := length_cutFirst? _found
  have value_rest := length_assigned_le after
  have dropped := length_dropWhile_le betweenAssignments (assigned after).2
  have trimmed := length_dropWhile_le isSpace ((assigned after).2.dropWhile betweenAssignments)
  simp only [trimStart]
  omega

def assignments (text : Text) : List (Text × Text) := assignmentsFrom (trim text)

end ProxyControl.Listing
