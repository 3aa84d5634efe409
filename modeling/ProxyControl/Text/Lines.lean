import ProxyControl.Text.Basic

/-!
# Lines

A line ends at a newline, which takes one carriage return before it along. Text after the last
newline is a line too, unless it is empty, and keeps a carriage return at its end.
-/
namespace ProxyControl.Text

def lines : Text → List Text
  | [] => []
  | '\n' :: rest => [] :: lines rest
  | '\r' :: '\n' :: rest => [] :: lines rest
  | c :: rest =>
    match lines rest with
    | [] => [[c]]
    | line :: more => (c :: line) :: more

def joinLines (parts : List Text) : Text := join ['\n'] parts

def isLineBreak (c : Char) : Bool := c == '\r' || c == '\n'

/-- A text without the line breaks at its end. -/
def trimLineBreaks (text : Text) : Text := dropEndWhile isLineBreak text

end ProxyControl.Text
