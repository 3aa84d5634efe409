/-!
# Text

What travels over a control socket is text, and its rules cut text into lines, fields and
pieces. Text is a list of characters, so that every such rule is a recursion on the data.
-/
namespace ProxyControl

abbrev Text := List Char

/-- Literals stay folded until `Text.ofString_eq` opens them. -/
@[irreducible] def Text.ofString (literal : String) : Text := literal.toList

theorem Text.ofString_eq (literal : String) : Text.ofString literal = literal.toList := by
  unfold Text.ofString
  rfl

instance : Coe String Text := ⟨Text.ofString⟩

namespace Text

/-- The pieces between separators; `n` separators leave `n + 1` pieces, some perhaps empty. -/
def pieces (separates : Char → Bool) : Text → List Text
  | [] => [[]]
  | c :: rest =>
    if separates c then [] :: pieces separates rest
    else match pieces separates rest with
      | [] => [[c]]
      | piece :: more => (c :: piece) :: more

/-- The text before and after the first character that satisfies `stops`. -/
def cutFirst? (stops : Char → Bool) : Text → Option (Text × Text)
  | [] => none
  | c :: rest =>
    if stops c then some ([], rest)
    else (cutFirst? stops rest).map fun (before, after) => (c :: before, after)

/-- The text before and after the last character that satisfies `stops`. -/
def cutLast? (stops : Char → Bool) : Text → Option (Text × Text)
  | [] => none
  | c :: rest =>
    match cutLast? stops rest with
    | some (before, after) => some (c :: before, after)
    | none => if stops c then some ([], rest) else none

/-- What follows `start` in a text that begins with it. -/
def after? : Text → Text → Option Text
  | [], text => some text
  | _ :: _, [] => none
  | s :: start, c :: text => if s = c then after? start text else none

/-- What precedes `close` in a text that ends with it. -/
def before? (close text : Text) : Option Text :=
  (after? close.reverse text.reverse).map List.reverse

/-- A text without `start` in front of it; other texts stay as they are. -/
def withoutStart (start text : Text) : Text := (after? start text).getD text

def startsWith (start text : Text) : Bool := (after? start text).isSome

/-- Whether `part` occurs somewhere in a text. -/
def contains (part : Text) : Text → Bool
  | [] => part.isEmpty
  | c :: rest => startsWith part (c :: rest) || contains part rest

/-- The text before and after the first occurrence of `mark`. -/
def cutAt? (mark : Text) : Text → Option (Text × Text)
  | [] => (after? mark []).map fun rest => ([], rest)
  | c :: text =>
    match after? mark (c :: text) with
    | some rest => some ([], rest)
    | none => (cutAt? mark text).map fun (before, after) => (c :: before, after)

def dropEndWhile (p : Char → Bool) (text : Text) : Text :=
  (text.reverse.dropWhile p).reverse

/-- Letters outside ASCII keep their case. -/
def lowercase (text : Text) : Text := text.map Char.toLower

def join (separator : Text) (parts : List Text) : Text := separator.intercalate parts

end Text

end ProxyControl
