import ProxyControl.Config.Value
import ProxyControl.Date.Written

/-!
# Words of a configuration

The values that are written without quotes and brackets: flags, numbers, dates and times. Such a
value is one word, or two where a blank divides a date from a time of day.
-/
namespace ProxyControl.Config.Written

open Text

def isWordCharacter (c : Char) : Bool :=
  c.isAlphanum || c == '_' || c == '-' || c == '+' || c == '.' || c == ':'

/-! ## Integers -/

/-- Digits in groups, with one underscore between two groups. -/
def groupedDigits? (base : Nat) (text : Text) : Option Nat :=
  let groups := pieces (· == '_') text
  if groups.any (·.isEmpty) then none else digits? base groups.flatten

/-- A decimal number has no needless zero in front. -/
def whole? (text : Text) : Option Nat :=
  if startsWith ['0'] text && text.length ≠ 1 then none else groupedDigits? 10 text

/-- A sign, if there is one, and what follows it. -/
def sign? : Text → Option Char × Text
  | c :: rest => if c = '+' || c = '-' then (some c, rest) else (none, c :: rest)
  | [] => (none, [])

/-- A number with a sign in front, if any. -/
def withSign? (read : Text → Option Nat) (text : Text) : Option Int :=
  let (sign, digits) := sign? text
  (read digits).map fun n => if sign = some '-' then -(n : Int) else n

/-- An integer of 64 bits; only decimal ones have a sign. -/
def integer? (word : Text) : Option Int :=
  let value : Option Int :=
    match word with
    | '0' :: 'x' :: digits => (groupedDigits? 16 digits).map Int.ofNat
    | '0' :: 'o' :: digits => (groupedDigits? 8 digits).map Int.ofNat
    | '0' :: 'b' :: digits => (groupedDigits? 2 digits).map Int.ofNat
    | _ => withSign? whole? word
  value.filter fun n => -Int.pow 2 63 ≤ n && n < Int.pow 2 63

/-! ## Decimals -/

/-- A number `digits * 10 ^ exponent`, with as many digits as were written. -/
structure Decimal where
  negative : Bool
  digits : Nat
  width : Nat
  exponent : Int
  deriving DecidableEq, Repr

/-- Reads digits with a fraction, an exponent or both. -/
def Decimal.read? (word : Text) : Option Decimal := do
  let (sign, unsigned) := sign? word
  let (mantissa, exponent) := (cutFirst? (fun c => c == 'e' || c == 'E') unsigned).elim
    (unsigned, none) fun (before, after) => (before, some after)
  let (front, fraction) := (cutFirst? (· == '.') mantissa).elim
    (mantissa, none) fun (before, after) => (before, some after)
  -- without either of them this would be an integer, perhaps one that is out of range
  guard (exponent.isSome || fraction.isSome)
  let _ ← whole? front
  let _ ← groupedDigits? 10 (fraction.getD ['0'])
  let exponent ← withSign? (groupedDigits? 10) (exponent.getD ['0'])
  -- the digits are checked with their underscores and counted without them
  let places := (fraction.getD []).filter Char.isDigit
  let written := front.filter Char.isDigit ++ places
  let digits ← digits? 10 written
  pure ⟨sign = some '-', digits, written.length, exponent - places.length⟩

/-- The whole part of the absolute value; powers of ten that cannot matter to the comparison
with `Decimal.limit` are left out. -/
def Decimal.size (number : Decimal) : Nat :=
  match number.exponent with
  | .ofNat n => number.digits * Nat.pow 10 (min n 309)
  | .negSucc n => number.digits / Nat.pow 10 (min (n + 1) number.width)

/-- From here on the nearest 64-bit floating-point number is infinite. -/
def Decimal.limit : Nat := Nat.pow 2 1024 - Nat.pow 2 970

/-- A number is refused when it is too large, but not when it is too small. -/
def Decimal.isInRange (number : Decimal) : Bool := number.negative || number.size < limit

def isDecimal (word : Text) : Bool :=
  let (_, unsigned) := sign? word
  unsigned = ("inf" : Text) || unsigned = ("nan" : Text)
    || (Decimal.read? word).any Decimal.isInRange

/-! ## Dates and times -/

/-- A time of day, with a zone only if one is allowed. -/
def isClockTime (day : CivilTime) (zoned : Bool) (text : Text) : Bool :=
  match Date.clockTime? day text with
  | none => false
  | some (time, rest) => time.isValid && (rest.isEmpty || zoned && (Date.zone? rest).isSome)

/-- A date, a time of day, or a date with a time of day in it. -/
def isMoment (text : Text) : Bool :=
  match Date.day? text with
  | none => isClockTime (.midnight 0 1 1) false text
  | some (day, []) => day.isValid
  | some (day, mark :: time) => Date.isTimeMark mark && isClockTime day true time

/-- The word in front; a date takes the word behind a space with it. -/
def wordOf (text : Text) : Text × Text :=
  let word := text.takeWhile isWordCharacter
  match (Date.day? word).map Prod.snd, text.dropWhile isWordCharacter with
  | some [], ' ' :: rest =>
    match rest.takeWhile isWordCharacter with
    -- the space ends the date if nothing like a time of day stands behind it
    | [] => (word, ' ' :: rest)
    | more => (word ++ ' ' :: more, rest.dropWhile isWordCharacter)
  | _, rest => (word, rest)

/-! ## Words -/

/-- The value of a word. -/
def wordValue? (word : Text) : Option Value :=
  if word = ("true" : Text) then some (.flag true)
  else if word = ("false" : Text) then some (.flag false)
  else match integer? word with
    | some value => some (.integer value)
    | none =>
      if isDecimal word then some (.decimal word)
      else if isMoment word then some (.moment word)
      else none

def word? (text : Text) : Option (Value × Text) :=
  let (word, rest) := wordOf text
  (wordValue? word).map fun value => (value, rest)

end ProxyControl.Config.Written
