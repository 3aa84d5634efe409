import ProxyControl.Text.Basic

/-!
# Numbers in text

Integers are read from ASCII digits with at most one sign in front, and no digit is skipped.
A number that does not fit its width is refused rather than reduced.
-/
namespace ProxyControl.Text

def digit? (base : Nat) (c : Char) : Option Nat :=
  let value :=
    if '0' ≤ c && c ≤ '9' then some (c.toNat - '0'.toNat)
    else if 'a' ≤ c && c ≤ 'f' then some (c.toNat - 'a'.toNat + 10)
    else if 'A' ≤ c && c ≤ 'F' then some (c.toNat - 'A'.toNat + 10)
    else none
  value.filter (· < base)

/-- The value of one or more digits, the highest first. -/
def digits? (base : Nat) (text : Text) : Option Nat :=
  if text.isEmpty then none
  else text.foldlM (fun value c => (digit? base c).map (value * base + ·)) 0

/-- An unsigned number below `2 ^ bits`; one plus sign may stand in front. -/
def unsigned? (base bits : Nat) (text : Text) : Option Nat :=
  (digits? base (withoutStart ['+'] text)).filter (· < Nat.pow 2 bits)

/-- A number in two's complement range of `bits` bits; one sign may stand in front. -/
def signed? (bits : Nat) (text : Text) : Option Int :=
  let value : Option Int :=
    match text with
    | '-' :: rest => (digits? 10 rest).map fun n => -(n : Int)
    | _ => (digits? 10 (withoutStart ['+'] text)).map Int.ofNat
  value.filter fun n => -Int.pow 2 (bits - 1) ≤ n && n < Int.pow 2 (bits - 1)

def u8? (text : Text) : Option UInt8 := (unsigned? 10 8 text).map UInt8.ofNat

def u16? (text : Text) : Option UInt16 := (unsigned? 10 16 text).map UInt16.ofNat

def u32? (text : Text) : Option UInt32 := (unsigned? 10 32 text).map UInt32.ofNat

def u64? (text : Text) : Option UInt64 := (unsigned? 10 64 text).map UInt64.ofNat

def hex64? (text : Text) : Option UInt64 := (unsigned? 16 64 text).map UInt64.ofNat

def decimal (n : Nat) : Text := Nat.toDigits 10 n

/-- Lower-case hexadecimal without leading zeros. -/
def hex (n : Nat) : Text := Nat.toDigits 16 n

end ProxyControl.Text
