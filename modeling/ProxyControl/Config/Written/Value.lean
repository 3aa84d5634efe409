import ProxyControl.Config.Written.Quoted
import ProxyControl.Config.Written.Word

/-!
# Written values

How configuration values and their keys are written, which is as in TOML. Every reader takes a
text and gives what stands in front together with the text behind it. Lists may run over several
lines, tables in braces may not.
-/
namespace ProxyControl.Config.Written

open Text

/-- Lists and tables nest at most so deep, and paths have at most so many names. -/
def nestingLimit : Nat := 79

/-! ## Keys -/

def isNameCharacter (c : Char) : Bool := c.isAlphanum || c == '_' || c == '-'

def name? (text : Text) : Option (Text × Text) :=
  let name := text.takeWhile isNameCharacter
  if name.isEmpty then lineText? text else some (name, text.dropWhile isNameCharacter)

/-- At most so many names with points between them, and blanks around each. -/
def path? : Nat → Text → Option (Path × Text)
  | 0, _ => none
  | most + 1, text => do
    let (name, text) ← name? (skipBlanks text)
    match skipBlanks text with
    | '.' :: rest => do
      let (path, rest) ← path? most rest
      pure (name :: path, rest)
    | rest => pure ([name], rest)

/-! ## Values -/

mutual

/-- A value in at most so many steps, with room for so many levels of nesting. -/
def read? : Nat → Nat → Text → Option (Value × Text)
  | 0, _, _ => none
  | steps + 1, room, text =>
    match text, room with
    | '[' :: _, 0 | '\x7b' :: _, 0 => none
    | '[' :: rest, room + 1 =>
      (items? steps room (skipFiller false rest)).map fun (items, rest) => (.list items, rest)
    | '\x7b' :: rest, room + 1 =>
      match skipBlanks rest with
      | '\x7d' :: rest => some (.table [], rest)
      | rest => do
        let (entries, rest) ← entries? steps room rest
        if Table.isConsistent entries then pure (.table entries, rest) else none
    | '\x22' :: _, _ | '\'' :: _, _ =>
      (quotedText? text).map fun (text, rest) => (.quoted text, rest)
    | _, _ => word? text

/-- The items of a list up to its end; a comma may stand behind the last of them. -/
def items? : Nat → Nat → Text → Option (List Value × Text)
  | 0, _, _ => none
  | _, _, ']' :: rest => some ([], rest)
  | steps + 1, room, text => do
    let (item, text) ← read? steps room text
    match skipFiller false text with
    | ',' :: rest => do
      let (items, rest) ← items? steps room (skipFiller false rest)
      pure (item :: items, rest)
    | ']' :: rest => pure ([item], rest)
    | _ => none

/-- The entries of a table up to its end. -/
def entries? : Nat → Nat → Text → Option (Table × Text)
  | 0, _, _ => none
  | steps + 1, room, text => do
    let (entry, text) ← entry? steps room text
    match skipBlanks text with
    | ',' :: rest => do
      let (entries, rest) ← entries? steps room rest
      pure (entry :: entries, rest)
    | '\x7d' :: rest => pure ([entry], rest)
    | _ => none

/-- A key, an equals sign and a value. -/
def entry? : Nat → Nat → Text → Option ((Path × Value) × Text)
  | 0, _, _ => none
  | steps + 1, room, text => do
    let (path, text) ← path? nestingLimit text
    match text with
    | '=' :: rest => do
      let (value, rest) ← read? steps room (skipBlanks rest)
      pure ((path, value), rest)
    | _ => none

end

end ProxyControl.Config.Written
