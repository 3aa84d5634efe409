import ProxyControl.Text.Basic

/-!
# White space

The characters with the Unicode property White_Space, and the ways of trimming and splitting
text that go by it.
-/
namespace ProxyControl.Text

def isSpace (c : Char) : Bool :=
  (0x9 ≤ c.val && c.val ≤ 0xD) || c.val == 0x20 || c.val == 0x85 || c.val == 0xA0
    || c.val == 0x1680 || (0x2000 ≤ c.val && c.val ≤ 0x200A) || c.val == 0x2028
    || c.val == 0x2029 || c.val == 0x202F || c.val == 0x205F || c.val == 0x3000

def trimStart (text : Text) : Text := text.dropWhile isSpace

def trimEnd (text : Text) : Text := dropEndWhile isSpace text

def trim (text : Text) : Text := trimEnd (trimStart text)

/-- Nothing but white space. -/
def isBlank (text : Text) : Bool := text.all isSpace

/-- The maximal runs without a separator. -/
def runs (separates : Char → Bool) (text : Text) : List Text :=
  (pieces separates text).filter (!·.isEmpty)

/-- The maximal runs without white space. -/
def words (text : Text) : List Text := runs isSpace text

end ProxyControl.Text
