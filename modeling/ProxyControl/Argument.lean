import ProxyControl.Failure
import ProxyControl.Text.Lines
import ProxyControl.Text.Space

/-!
# Arguments

Arguments end up inside a command line, in which a newline or a semicolon would start another
command and white space another word. Each argument passes one of three checks before it gets
there: as a name, as a value that may hold spaces, or as a payload.
-/
namespace ProxyControl.Argument

open Text

def breaksName (c : Char) : Bool := isSpace c || c == ';'

def breaksValue (c : Char) : Bool := c == '\n' || c == '\r' || c == ';'

/-- One word. -/
def name (what text : Text) : Result Text :=
  if isBlank text then .error (.validation (.blank what))
  else if text.any breaksName then .error (.validation (.notAName what text))
  else .ok text

/-- The rest of a line. -/
def value (what text : Text) : Result Text :=
  if isBlank text then .error (.validation (.blank what))
  else if text.any breaksValue then .error (.validation (.notOneLine what))
  else .ok text

/-- The lines of a payload. A blank line would end it early, so blank lines are left out. -/
def payload (what text : Text) : Result Text :=
  if isBlank text then .error (.validation (.blank what))
  else
    let body := trimLineBreaks text
    if (lines body).any isBlank then .ok (joinLines ((lines body).filter (!isBlank ·)))
    else .ok body

end ProxyControl.Argument
