import ProxyControl.Text.Basic

/-!
# UTF-8

Bytes are read as UTF-8 by a scanner that keeps at most one unfinished character. A stretch of
bytes that cannot begin a character, or begins one and breaks off, is reported once.
-/
namespace ProxyControl.Text.Utf8

/-- An unfinished character: its bits so far, the bytes still missing, and the bounds of the
next one. -/
structure Unfinished where
  bits : Nat
  missing : Nat
  low : UInt8
  high : UInt8

/-- What a byte opens when no character is unfinished. -/
inductive Opening
  | complete (c : Char)
  | unfinished (u : Unfinished)
  | invalid

/-- The first continuation byte is narrowed where a longer form, a surrogate or a value above
U+10FFFF would come out. -/
def opening (byte : UInt8) : Opening :=
  let begin (mask missing : Nat) (low high : UInt8) : Opening :=
    .unfinished ⟨byte.toNat % mask, missing, low, high⟩
  if byte < 0x80 then .complete (Char.ofNat byte.toNat)
  else if 0xC2 ≤ byte && byte ≤ 0xDF then begin 0x20 1 0x80 0xBF
  else if byte == 0xE0 then begin 0x10 2 0xA0 0xBF
  else if byte == 0xED then begin 0x10 2 0x80 0x9F
  else if 0xE1 ≤ byte && byte ≤ 0xEF then begin 0x10 2 0x80 0xBF
  else if byte == 0xF0 then begin 0x08 3 0x90 0xBF
  else if 0xF1 ≤ byte && byte ≤ 0xF3 then begin 0x08 3 0x80 0xBF
  else if byte == 0xF4 then begin 0x08 3 0x80 0x8F
  else .invalid

/-- The characters of a byte string, `none` standing for each invalid stretch. -/
def scan : Option Unfinished → List UInt8 → List (Option Char)
  | none, [] => []
  | some _, [] => [none]
  | none, byte :: rest =>
    match opening byte with
    | .complete c => some c :: scan none rest
    | .unfinished u => scan (some u) rest
    | .invalid => none :: scan none rest
  | some u, byte :: rest =>
    if u.low ≤ byte && byte ≤ u.high then
      let bits := u.bits * 0x40 + byte.toNat % 0x40
      if u.missing ≤ 1 then some (Char.ofNat bits) :: scan none rest
      else scan (some ⟨bits, u.missing - 1, 0x80, 0xBF⟩) rest
    -- the byte that does not go on with the character may still open the next one
    else none :: match opening byte with
      | .complete c => some c :: scan none rest
      | .unfinished v => scan (some v) rest
      | .invalid => none :: scan none rest

/-- Every invalid stretch becomes one replacement character. -/
def decodeLossy (bytes : List UInt8) : Text := (scan none bytes).map (·.getD '\uFFFD')

def decode? (bytes : List UInt8) : Option Text := (scan none bytes).mapM id

end ProxyControl.Text.Utf8
