import ProxyControl.Text.Number

/-!
# Socket addresses

Internet addresses with a port, as they are read and written: four decimal octets, or eight
hexadecimal groups in brackets, of which one run of zeros may be left out.
-/
namespace ProxyControl

open Text

structure IPv4 where
  a : UInt8
  b : UInt8
  c : UInt8
  d : UInt8
  deriving DecidableEq, Repr

inductive SocketAddress
  | v4 (address : IPv4) (port : UInt16)
  /-- Eight groups; zone 0 is no zone. -/
  | v6 (groups : List UInt16) (zone : UInt32) (port : UInt16)
  deriving DecidableEq, Repr

namespace SocketAddress

/-- The digits at the front of a text as a number below `bound`, and what follows them. -/
def frontNumber? (base bound : Nat) (text : Text) : Option (Nat × Text) :=
  let digits := text.takeWhile fun c => (digit? base c).isSome
  ((digits? base digits).filter (· < bound)).map fun n => (n, text.drop digits.length)

/-- An octet is written without leading zeros. -/
def octet? (text : Text) : Option (UInt8 × Text) := do
  let (n, rest) ← frontNumber? 10 256 text
  if text.length - rest.length = (decimal n).length then some (UInt8.ofNat n, rest) else none

def ipv4? (text : Text) : Option (IPv4 × Text) := do
  let (a, text) ← octet? text
  let (b, text) ← octet? (← after? "." text)
  let (c, text) ← octet? (← after? "." text)
  let (d, text) ← octet? (← after? "." text)
  some ({ a, b, c, d }, text)

/-- A group has at most four digits. -/
def group? (text : Text) : Option (UInt16 × Text) := do
  let (n, rest) ← frontNumber? 16 (Nat.pow 16 4) text
  if text.length - rest.length ≤ 4 then some (UInt16.ofNat n, rest) else none

def IPv4.groups (address : IPv4) : List UInt16 :=
  [UInt16.ofNat (address.a.toNat * 256 + address.b.toNat),
   UInt16.ofNat (address.c.toNat * 256 + address.d.toNat)]

/-- At most `left` groups, whether the last two of them came as an IPv4 address, and what
follows. Groups after the first stand behind a colon. -/
def groups : (left : Nat) → (first : Bool) → Text → List UInt16 × Bool × Text
  | 0, _, text => ([], false, text)
  | left + 1, first, text =>
    let start := if first then some text else after? ":" text
    -- an IPv4 address takes the room of two groups, so the last one alone is too little for it
    match if left = 0 then none else start.bind ipv4? with
    | some (address, rest) => (IPv4.groups address, true, rest)
    | none =>
      match start.bind group? with
      | none => ([], false, text)
      | some (group, rest) =>
        let (more, dotted, rest) := groups left false rest
        (group :: more, dotted, rest)

/-- The eight groups of an address; two colons in a row stand for at least one zero group. -/
def ipv6? (text : Text) : Option (List UInt16 × Text) :=
  let (front, dotted, rest) := groups 8 true text
  if front.length = 8 then some (front, rest)
  -- an IPv4 address may only stand at the very end
  else if dotted then none
  else (after? "::" rest).map fun rest =>
    let (back, _, rest) := groups (7 - front.length) true rest
    (front ++ List.replicate (8 - front.length - back.length) 0 ++ back, rest)

def port? (text : Text) : Option UInt16 := do
  let (n, rest) ← frontNumber? 10 (Nat.pow 2 16) (← after? ":" text)
  if rest.isEmpty then some (UInt16.ofNat n) else none

def zone? (text : Text) : Option (UInt32 × Text) :=
  match after? "%" text with
  | none => some (0, text)
  | some text => (frontNumber? 10 (Nat.pow 2 32) text).map fun (n, rest) => (UInt32.ofNat n, rest)

def readV4? (text : Text) : Option SocketAddress := do
  let (address, rest) ← ipv4? text
  let port ← port? rest
  some (.v4 address port)

def readV6? (text : Text) : Option SocketAddress := do
  let (groups, rest) ← ipv6? (← after? "[" text)
  let (zone, rest) ← zone? rest
  let port ← port? (← after? "]" rest)
  some (.v6 groups zone port)

def read? (text : Text) : Option SocketAddress := (readV4? text).orElse fun _ => readV6? text

def IPv4.toText (address : IPv4) : Text :=
  join ['.'] ([address.a, address.b, address.c, address.d].map fun octet => decimal octet.toNat)

/-- Length of the run of zeros at the front. -/
def zeros (groups : List UInt16) : Nat := (groups.takeWhile (· == 0)).length

/-- Where the longest run of zeros starts, the first one of several, and its length. -/
def longestZeros : List UInt16 → Nat × Nat
  | [] => (0, 0)
  | group :: rest =>
    let here := zeros (group :: rest)
    let (start, length) := longestZeros rest
    if length ≤ here then (0, here) else (start + 1, length)

def hexGroups (groups : List UInt16) : Text := join [':'] (groups.map fun g => hex g.toNat)

/-- An address that stands for an IPv4 address shows it; any other leaves out its longest run
of at least two zero groups. -/
def ipv6Text (groups : List UInt16) : Text :=
  match groups with
  | [0, 0, 0, 0, 0, 0xFFFF, high, low] =>
    "::ffff:" ++ IPv4.toText
      { a := UInt8.ofNat (high.toNat / 256), b := UInt8.ofNat (high.toNat % 256)
        c := UInt8.ofNat (low.toNat / 256), d := UInt8.ofNat (low.toNat % 256) }
  | _ =>
    let (start, length) := longestZeros groups
    if 1 < length then
      hexGroups (groups.take start) ++ "::" ++ hexGroups (groups.drop (start + length))
    else hexGroups groups

def toText : SocketAddress → Text
  | .v4 address port => IPv4.toText address ++ ":" ++ decimal port.toNat
  | .v6 groups zone port =>
    let zoneText : Text := if zone = 0 then [] else "%" ++ decimal zone.toNat
    "[" ++ ipv6Text groups ++ zoneText ++ "]:" ++ decimal port.toNat

end SocketAddress

end ProxyControl
