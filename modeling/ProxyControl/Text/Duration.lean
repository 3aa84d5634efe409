import ProxyControl.Text.Number

/-!
# Durations

Durations count nanoseconds. They are written in the largest unit with a whole part, with as
many decimals as the rest needs.
-/
namespace ProxyControl

abbrev Nanoseconds := Nat

namespace Nanoseconds

def ofMilliseconds (n : Nat) : Nanoseconds := n * 1000000

def ofSeconds (n : Nat) : Nanoseconds := n * 1000000000

/-- The first `width` decimals of `part / 10 ^ width`, without zeros at the end. -/
def decimals (width part : Nat) : Text :=
  let digits := Text.decimal part
  Text.dropEndWhile (· == '0') (List.replicate (width - digits.length) '0' ++ digits)

def inUnit (duration width : Nat) (unit : Text) : Text :=
  let fraction := decimals width (duration % Nat.pow 10 width)
  let point : Text := if fraction.isEmpty then [] else '.' :: fraction
  Text.decimal (duration / Nat.pow 10 width) ++ point ++ unit

def toText (duration : Nanoseconds) : Text :=
  if Nat.pow 10 9 ≤ duration then inUnit duration 9 "s"
  else if Nat.pow 10 6 ≤ duration then inUnit duration 6 "ms"
  else if Nat.pow 10 3 ≤ duration then inUnit duration 3 "\u00B5s"
  else inUnit duration 0 "ns"

end Nanoseconds

end ProxyControl
