import ProxyControl.Text.Basic

/-!
# Lines of a configuration

What may stand between the parts of a written configuration: blanks, comments and line ends.
-/
namespace ProxyControl.Config.Written

open Text

def isBlank (c : Char) : Bool := c == ' ' || c == '\t'

def skipBlanks (text : Text) : Text := text.dropWhile isBlank

/-- A character that may stand in a line; of the controls only the tab may. -/
def isPlain (c : Char) : Bool := c == '\t' || (0x20 ≤ c.val && c.val != 0x7F)

/-- Whether a line ends in front of `rest`, with `c` as the first character of its end. -/
def endsLine (c : Char) (rest : Text) : Bool := c == '\n' || c == '\r' && startsWith ['\n'] rest

/-- A text without the blanks, line ends and comments in front of it. -/
def skipFiller (inComment : Bool) : Text → Text
  | [] => []
  | c :: rest =>
    if endsLine c rest then skipFiller false rest
    else if inComment then if isPlain c then skipFiller true rest else c :: rest
    else if isBlank c then skipFiller false rest
    else if c = '#' then skipFiller true rest
    else c :: rest

end ProxyControl.Config.Written
