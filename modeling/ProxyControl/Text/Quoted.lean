import ProxyControl.Text.Number
import ProxyControl.Text.Unprintable

/-!
# Quoted text

How messages show a text that may hold anything: in double quotes, with a backslash before
quotes and backslashes, short names for the common controls, and a code point in braces for
every other character that does not show.
-/
namespace ProxyControl.Text

def escaped (c : Char) : Text :=
  if c = '\x00' then ['\\', '0']
  else if c = '\t' then ['\\', 't']
  else if c = '\r' then ['\\', 'r']
  else if c = '\n' then ['\\', 'n']
  else if c = '\x22' || c = '\\' then ['\\', c]
  else if isUnprintable c then ['\\', 'u', '\x7b'] ++ hex c.toNat ++ ['\x7d']
  else [c]

def quoted (text : Text) : Text := ['\x22'] ++ text.flatMap escaped ++ ['\x22']

end ProxyControl.Text
