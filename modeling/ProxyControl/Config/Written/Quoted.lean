import ProxyControl.Config.Written.Line
import ProxyControl.Text.Number

/-!
# Quoted text in a configuration

Text stands in single or double quotes, on one line or, between three marks at each end, on
several. Readers give the text and what follows it.
-/
namespace ProxyControl.Config.Written

open Text

/-- How a text is quoted. -/
structure Quoting where
  mark : Char
  /-- Whether the text may run over several lines, between three marks at each end. -/
  multiline : Bool

/-- Only double quotes leave a meaning to the backslash. -/
def Quoting.hasEscapes (quoting : Quoting) : Bool := quoting.mark == '\x22'

/-- Where a reader of quoted text stands. -/
inductive Place
  | plain
  | escape
  | code (missing value : Nat)
  /-- Behind a backslash at the end of a line, before or after the line's end. -/
  | folded (lineEnded : Bool)

def escapeOf? (c : Char) : Option Char :=
  [('b', '\x08'), ('t', '\t'), ('n', '\n'), ('f', '\x0C'), ('r', '\r'), ('\x22', '\x22'),
    ('\\', '\\')].lookup c

/-- The character of a code point, surrogates having none. -/
def character? (code : Nat) : Option Char :=
  if code < 0xD800 || (0xDFFF < code && code < 0x110000) then some (Char.ofNat code) else none

def marks (quoting : Quoting) (count : Nat) : Text := List.replicate count quoting.mark

/-- The quoted text up to its closing marks. Up to two marks may stand right before the three
that close a text of several lines. -/
def quotedRest? (quoting : Quoting) : Place → Text → Option (Text × Text)
  | _, [] => none
  | place, c :: rest =>
    let put (c : Char) (read : Option (Text × Text)) : Option (Text × Text) :=
      read.map fun (text, rest) => (c :: text, rest)
    let onPlain : Option (Text × Text) :=
      if c = quoting.mark then
        if !quoting.multiline then some ([], rest)
        -- of up to five marks in a row the last three close the text; six never stand together
        else if startsWith (marks quoting 5) rest then none
        else if startsWith (marks quoting 2) rest && !startsWith (marks quoting 3) rest then
          some ([], rest.drop 2)
        else put c (quotedRest? quoting .plain rest)
      else if c = '\\' && quoting.hasEscapes then quotedRest? quoting .escape rest
      else if endsLine c rest then
        if !quoting.multiline then none
        else if c = '\n' then put c (quotedRest? quoting .plain rest)
        else quotedRest? quoting .plain rest
      else if isPlain c then put c (quotedRest? quoting .plain rest)
      else none
    match place with
    | .plain => onPlain
    | .escape =>
      match escapeOf? c with
      | some escaped => put escaped (quotedRest? quoting .plain rest)
      | none =>
        if c = 'u' then quotedRest? quoting (.code 4 0) rest
        else if c = 'U' then quotedRest? quoting (.code 8 0) rest
        else if quoting.multiline && (isBlank c || endsLine c rest) then
          quotedRest? quoting (.folded (endsLine c rest)) rest
        else none
    | .code missing value =>
      (digit? 16 c).bind fun digit =>
        let value := value * 16 + digit
        -- only the whole code can turn out to name no character
        if missing ≤ 1 then
          (character? value).bind fun escaped => put escaped (quotedRest? quoting .plain rest)
        else quotedRest? quoting (.code (missing - 1) value) rest
    | .folded lineEnded =>
      if endsLine c rest then quotedRest? quoting (.folded true) rest
      else if isBlank c then quotedRest? quoting (.folded lineEnded) rest
      -- a backslash before blanks folds nothing unless the line ends behind them
      else if lineEnded then onPlain
      else none

/-- A text in single or double quotes on one line. -/
def lineText? : Text → Option (Text × Text)
  | mark :: rest =>
    if mark = '\x22' || mark = '\'' then quotedRest? ⟨mark, false⟩ .plain rest else none
  | [] => none

/-- A line end right behind the opening marks does not count. -/
def withoutLineEnd (text : Text) : Text := (after? "\r\n" text).getD (withoutStart "\n" text)

def quotedText? (text : Text) : Option (Text × Text) :=
  let several (mark : Char) (rest : Text) : Option (Text × Text) :=
    quotedRest? ⟨mark, true⟩ .plain (withoutLineEnd rest)
  match after? (List.replicate 3 '\x22') text, after? (List.replicate 3 '\'') text with
  | some rest, _ => several '\x22' rest
  | none, some rest => several '\'' rest
  | none, none => lineText? text

end ProxyControl.Config.Written
