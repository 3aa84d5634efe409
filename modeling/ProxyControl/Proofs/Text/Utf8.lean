import Mathlib.Data.List.Infix
import Mathlib.Data.Nat.Find
import Mathlib.Tactic.IntervalCases
import Mathlib.Tactic.SplitIfs
import ProxyControl.Text.Utf8

/-!
# What bytes say

Bytes are the characters they were made from, and a stretch that is no character is as long as it
can be while it still begins one. The scanner, which keeps the bits of one unfinished character,
finds just these characters and stretches.
-/
namespace ProxyControl.Text.Utf8

/-! ### The bytes of a character -/

/-- The codes of the characters that take a number of bytes. -/
def IsCode (size code : Nat) : Prop :=
  (code < 0xD800 ∨ 0xDFFF < code ∧ code < 0x110000) ∧
    (size = 1 ∧ code < 0x80 ∨ size = 2 ∧ 0x80 ≤ code ∧ code < 0x800 ∨
      size = 3 ∧ 0x800 ≤ code ∧ code < 0x10000 ∨ size = 4 ∧ 0x10000 ≤ code)

/-- What marks the first byte of a character. -/
def leadMark : Nat → Nat
  | 1 => 0
  | 2 => 0xC0
  | 3 => 0xE0
  | _ => 0xF0

/-- The first byte of a character and a number of further ones, given the bits that they hold. -/
def front (size : Nat) : Nat → Nat → List UInt8
  | 0, bits => [UInt8.ofNat (leadMark size + bits)]
  | more + 1, bits => front size more (bits / 0x40) ++ [UInt8.ofNat (0x80 + bits % 0x40)]

theorem toNat_continuation (bits : Nat) :
    (UInt8.ofNat (0x80 + bits % 0x40)).toNat = 0x80 + bits % 0x40 :=
  UInt8.toNat_ofNat_of_lt' (by simp only [UInt8.size]; omega)

theorem ofNat_toNat_continuation {byte : UInt8} (low : 0x80 ≤ byte.toNat)
    (high : byte.toNat ≤ 0xBF) (bits : Nat) :
    UInt8.ofNat (0x80 + (bits * 0x40 + byte.toNat % 0x40) % 0x40) = byte := by
  have same : 0x80 + (bits * 0x40 + byte.toNat % 0x40) % 0x40 = byte.toNat := by omega
  rw [same, UInt8.ofNat_toNat]

theorem exists_isCode (c : Char) :
    ∃ size, IsCode size c.toNat ∧ String.utf8EncodeChar c = front size (size - 1) c.toNat := by
  have valid : c.toNat.isValidChar := c.valid
  have same : c.val.toNat = c.toNat := rfl
  unfold String.utf8EncodeChar
  simp only [same]
  generalize c.toNat = code at valid
  split
  · exact ⟨1, ⟨valid, by omega⟩, by simp [front, leadMark]⟩
  split
  · have first : code / 64 % 32 + 192 = 192 + code / 64 := by omega
    refine ⟨2, ⟨valid, by omega⟩, ?_⟩
    simp only [front, leadMark, first, Nat.add_comm _ 128]
    rfl
  split
  · have first : code / 4096 % 16 + 224 = 224 + code / 64 / 64 := by omega
    refine ⟨3, ⟨valid, by omega⟩, ?_⟩
    simp only [front, leadMark, first, Nat.add_comm _ 128]
    rfl
  · have first : code / 262144 % 8 + 240 = 240 + code / 64 / 64 / 64 := by
      simp only [Nat.isValidChar] at valid
      omega
    have second : code / 4096 = code / 64 / 64 := by omega
    refine ⟨4, ⟨valid, by omega⟩, ?_⟩
    simp only [front, leadMark, first, second, Nat.add_comm _ 128]
    rfl

theorem exists_char_of_isCode {size code : Nat} (isCode : IsCode size code) :
    ∃ c, String.utf8EncodeChar c = front size (size - 1) code := by
  obtain ⟨other, isCode', encoded⟩ := exists_isCode (Char.ofNatAux code isCode.1)
  have value : (Char.ofNatAux code isCode.1).toNat = code := by
    rfl
  rw [value] at isCode' encoded
  obtain rfl : other = size := by
    simp only [IsCode] at isCode isCode'
    omega
  exact ⟨_, encoded⟩

theorem length_front (size more bits : Nat) : (front size more bits).length = more + 1 := by
  induction more generalizing bits with
  | zero => rfl
  | succ more ih => rw [front, List.length_append, ih, List.length_singleton]

/-- What a character's further bytes hold does not show in its first ones. -/
theorem front_prefix (size more left bits : Nat) :
    front size more (bits / 0x40 ^ left) <+: front size (more + left) bits := by
  induction left generalizing bits with
  | zero => simp
  | succ left ih =>
    rw [← Nat.add_assoc, front, Nat.pow_succ', ← Nat.div_div_eq_div_mul]
    exact (ih (bits / 0x40)).trans (List.prefix_append _ _)

theorem exists_front_prefix {size code : Nat} (isCode : IsCode size code) (more left : Nat)
    (long : more + left + 1 = size) :
    ∃ c, front size more (code / 0x40 ^ left) <+: String.utf8EncodeChar c := by
  obtain ⟨c, encoded⟩ := exists_char_of_isCode isCode
  obtain rfl := long
  exact ⟨c, encoded ▸ front_prefix _ more left code⟩

/-- Behind the first byte of a character there are none of another's. -/
theorem le_of_mem_tail_front {size more bits : Nat} {byte : UInt8}
    (behind : byte ∈ (front size more bits).tail) : 0x80 ≤ byte.toNat := by
  induction more generalizing bits with
  | zero => cases behind
  | succ more ih =>
    have nonempty : front size more (bits / 0x40) ≠ [] :=
      List.ne_nil_of_length_pos (by rw [length_front]; omega)
    rw [front, List.tail_append_of_ne_nil nonempty, List.mem_append, List.mem_singleton] at behind
    rcases behind with earlier | rfl
    · exact ih earlier
    · rw [toNat_continuation]
      omega

/-! ### Unfinished characters -/

/-- Whether a byte goes on with an unfinished character. -/
def Unfinished.Takes (u : Unfinished) (byte : UInt8) : Prop := u.low ≤ byte ∧ byte ≤ u.high

/-- A byte behind which a character is left that begins in the given bits. -/
def Continues (size left bits : Nat) (byte : UInt8) : Prop :=
  0x80 ≤ byte.toNat ∧ byte.toNat ≤ 0xBF ∧
    ∃ code, IsCode size code ∧ code / 0x40 ^ left = bits * 0x40 + byte.toNat % 0x40

section Scanning

variable {u : Unfinished} {byte : UInt8}

theorem scan_of_takes (takes : u.Takes byte) (more : 1 < u.missing) (rest : List UInt8) :
    scan (some u) (byte :: rest) =
      scan (some ⟨u.bits * 0x40 + byte.toNat % 0x40, u.missing - 1, 0x80, 0xBF⟩) rest := by
  rw [scan, if_pos (by simpa [Unfinished.Takes] using takes)]
  exact if_neg (by omega)

theorem scan_of_takes_last (takes : u.Takes byte) (last : u.missing = 1) (rest : List UInt8) :
    scan (some u) (byte :: rest) =
      some (Char.ofNat (u.bits * 0x40 + byte.toNat % 0x40)) :: scan none rest := by
  rw [scan, if_pos (by simpa [Unfinished.Takes] using takes)]
  exact if_pos (by omega)

theorem scan_of_stops {rest : List UInt8} (stops : ∀ byte ∈ rest.head?, ¬ u.Takes byte) :
    scan (some u) rest = none :: scan none rest := by
  cases rest with
  | nil => rfl
  | cons byte rest =>
    have stops : ¬ (u.low ≤ byte && byte ≤ u.high) = true := by
      simpa [Unfinished.Takes] using stops byte rfl
    conv_lhs => rw [scan, if_neg stops]
    rw [scan]

end Scanning

section Opened

variable {size bits : Nat}

/-- The bits that the first byte of a character of several bytes may hold. -/
def Opens (size bits : Nat) : Prop :=
  size = 2 ∧ 2 ≤ bits ∧ bits < 0x20 ∨ size = 3 ∧ bits < 0x10 ∨ size = 4 ∧ bits ≤ 4

/-- A character of several bytes of which the first has been read. -/
def opened (size bits : Nat) : Unfinished where
  bits := bits
  missing := size - 1
  low := if size = 3 ∧ bits = 0 then 0xA0 else if size = 4 ∧ bits = 0 then 0x90 else 0x80
  high := if size = 3 ∧ bits = 0xD then 0x9F else if size = 4 ∧ bits = 4 then 0x8F else 0xBF

theorem opening_lead (opens : Opens size bits) :
    opening (UInt8.ofNat (leadMark size + bits)) = .unfinished (opened size bits) := by
  rcases opens with ⟨rfl, low, high⟩ | ⟨rfl, high⟩ | ⟨rfl, high⟩
  · interval_cases bits <;> rfl
  · interval_cases bits <;> rfl
  · interval_cases bits <;> rfl

theorem takes_opened_iff {byte : UInt8} :
    (opened size bits).Takes byte ↔ 0x80 ≤ byte.toNat ∧ byte.toNat ≤ 0xBF ∧
      (size = 3 → bits = 0 → 0xA0 ≤ byte.toNat) ∧ (size = 3 → bits = 0xD → byte.toNat ≤ 0x9F) ∧
      (size = 4 → bits = 0 → 0x90 ≤ byte.toNat) ∧ (size = 4 → bits = 4 → byte.toNat ≤ 0x8F) := by
  simp only [Unfinished.Takes, UInt8.le_iff_toNat_le, opened]
  split_ifs <;> simp <;> omega

/-- The bounds leave out just what would be too long, a surrogate or too large. -/
theorem takes_opened_iff_continues {left : Nat} (opens : Opens size bits) (long : left + 2 = size)
    {byte : UInt8} : (opened size bits).Takes byte ↔ Continues size left bits byte := by
  simp only [takes_opened_iff, Continues, IsCode]
  generalize byte.toNat = byte
  constructor
  · intro within
    -- the lowest character that begins so
    refine ⟨within.1, within.2.1, (bits * 0x40 + byte % 0x40) * 0x40 ^ left, ?_⟩
    rcases opens with ⟨rfl, first⟩ | ⟨rfl, first⟩ | ⟨rfl, first⟩
    · obtain rfl : left = 0 := by omega
      omega
    · obtain rfl : left = 1 := by omega
      omega
    · obtain rfl : left = 2 := by omega
      omega
  · rintro ⟨low, high, code, isCode, same⟩
    rcases opens with ⟨rfl, first⟩ | ⟨rfl, first⟩ | ⟨rfl, first⟩
    · omega
    · obtain rfl : left = 1 := by omega
      omega
    · obtain rfl : left = 2 := by omega
      omega

end Opened

section Front

variable {size code : Nat}

theorem opens_of_isCode (isCode : IsCode size code) (left : Nat) (long : left + 2 = size) :
    Opens size (code / 0x40 ^ (left + 1)) := by
  obtain ⟨valid, range⟩ := isCode
  rcases range with ⟨rfl, range⟩ | ⟨rfl, range⟩ | ⟨rfl, range⟩ | ⟨rfl, range⟩
  · omega
  · obtain rfl : left = 0 := by omega
    exact .inl ⟨rfl, by omega⟩
  · obtain rfl : left = 1 := by omega
    exact .inr (.inl ⟨rfl, by omega⟩)
  · obtain rfl : left = 2 := by omega
    exact .inr (.inr ⟨rfl, by omega⟩)

/-- From the third byte on, every byte in the range of further bytes goes on. -/
theorem continues_of_isCode {byte : UInt8} (isCode : IsCode size code) (left : Nat)
    (long : left + 3 ≤ size) (low : 0x80 ≤ byte.toNat) (high : byte.toNat ≤ 0xBF) :
    Continues size left (code / 0x40 ^ (left + 1)) byte := by
  refine ⟨low, high, (code / 0x40 ^ (left + 1) * 0x40 + byte.toNat % 0x40) * 0x40 ^ left, ?_⟩
  obtain ⟨valid, range⟩ := isCode
  simp only [IsCode]
  generalize byte.toNat = byte
  rcases range with ⟨rfl, range⟩ | ⟨rfl, range⟩ | ⟨rfl, range⟩ | ⟨rfl, range⟩
  · omega
  · omega
  · obtain rfl : left = 0 := by omega
    omega
  · obtain rfl | rfl : left = 0 ∨ left = 1 := by omega
    · omega
    · omega

/-- Behind the first bytes of a character the scanner holds their bits, and takes a byte exactly
if some character goes on with it. -/
theorem scan_front (isCode : IsCode size code) (more left : Nat) (long : more + left + 2 = size) :
    ∃ u : Unfinished, u.bits = code / 0x40 ^ (left + 1) ∧ u.missing = left + 1 ∧
      (∀ rest, scan none (front size more u.bits ++ rest) = scan (some u) rest) ∧
      ∀ byte, u.Takes byte ↔ Continues size left u.bits byte := by
  induction more generalizing left with
  | zero =>
    have opens := opens_of_isCode isCode left (by omega)
    refine ⟨opened size (code / 0x40 ^ (left + 1)), rfl, ?_, fun rest => ?_, fun byte =>
      takes_opened_iff_continues opens (by omega)⟩
    · simp only [opened]
      omega
    · rw [opened, front, List.singleton_append, scan, opening_lead opens]
      rfl
  | succ more ih =>
    obtain ⟨u, bits, missing, scanned, takes⟩ := ih (left + 1) (by omega)
    have shorter : u.bits = code / 0x40 ^ (left + 1) / 0x40 := by
      rw [bits, Nat.pow_succ, Nat.div_div_eq_div_mul]
    generalize value : UInt8.ofNat (0x80 + code / 0x40 ^ (left + 1) % 0x40) = byte
    have number : byte.toNat = 0x80 + code / 0x40 ^ (left + 1) % 0x40 := by
      rw [← value, toNat_continuation]
    have taken : u.Takes byte :=
      (takes byte).mpr ⟨by omega, by omega, code, isCode, by omega⟩
    have next : u.bits * 0x40 + byte.toNat % 0x40 = code / 0x40 ^ (left + 1) := by omega
    refine ⟨⟨code / 0x40 ^ (left + 1), left + 1, 0x80, 0xBF⟩, rfl, rfl, fun rest => ?_,
      fun byte => ?_⟩
    · rw [front, value, ← shorter, List.append_assoc, scanned, List.singleton_append,
        scan_of_takes taken (by omega), next, missing, Nat.add_sub_cancel]
    · simp only [Unfinished.Takes, UInt8.le_iff_toNat_le]
      exact ⟨fun within => continues_of_isCode isCode left (by omega) within.1 within.2,
        fun continues => ⟨continues.1, continues.2.1⟩⟩

end Front

/-- The scanner finds a character where there is one. -/
theorem scan_encode (c : Char) (rest : List UInt8) :
    scan none (String.utf8EncodeChar c ++ rest) = some c :: scan none rest := by
  obtain ⟨size, isCode, encoded⟩ := exists_isCode c
  rw [encoded]
  obtain rfl | ⟨more, rfl⟩ : size = 1 ∨ ∃ more, size = more + 2 := by
    match size, isCode.2 with
    | 0, range => omega
    | 1, _ => exact .inl rfl
    | more + 2, _ => exact .inr ⟨more, rfl⟩
  · have small : c.toNat < 0x80 := by
      have range := isCode.2
      omega
    have number : (UInt8.ofNat c.toNat).toNat = c.toNat :=
      UInt8.toNat_ofNat_of_lt' (by simp only [UInt8.size]; omega)
    have first : UInt8.ofNat c.toNat < 0x80 := by
      rw [UInt8.lt_iff_toNat_lt, number]
      exact small
    have opens : opening (UInt8.ofNat c.toNat) = .complete c := by
      rw [opening, if_pos first, number, Char.ofNat_toNat]
    have alone : front 1 (1 - 1) c.toNat = [UInt8.ofNat c.toNat] := by simp [front, leadMark]
    rw [alone, List.singleton_append, scan, opens]
  · obtain ⟨u, bits, missing, scanned, takes⟩ :=
      scan_front isCode more 0 (by omega)
    rw [Nat.zero_add, Nat.pow_one] at bits
    have last : front (more + 2) (more + 2 - 1) c.toNat =
        front (more + 2) more u.bits ++ [UInt8.ofNat (0x80 + c.toNat % 0x40)] := by
      rw [bits]
      rfl
    have number := toNat_continuation c.toNat
    have taken : u.Takes (UInt8.ofNat (0x80 + c.toNat % 0x40)) :=
      (takes _).mpr ⟨by omega, by omega, c.toNat, isCode, by omega⟩
    have whole : u.bits * 0x40 + (0x80 + c.toNat % 0x40) % 0x40 = c.toNat := by omega
    rw [last, List.append_assoc, scanned, List.singleton_append, scan_of_takes_last taken missing,
      number, whole, Char.ofNat_toNat]

/-! ### Decoding -/

/-- A stretch of bytes at which no character stands: as many bytes as still begin one, or else a
single byte. -/
structure IsInvalid (bad rest : List UInt8) : Prop where
  nonempty : bad ≠ []
  none : ∀ c, ¬ String.utf8EncodeChar c <+: bad ++ rest
  begins : bad.length = 1 ∨ ∃ c, bad <+: String.utf8EncodeChar c
  longest : ∀ byte ∈ rest.head?, ∀ c, ¬ bad ++ [byte] <+: String.utf8EncodeChar c

/-- What bytes say: the characters that they were made from, and a replacement character for each
invalid stretch. -/
inductive Decodes : List UInt8 → Text → Prop
  | nil : Decodes [] []
  | char (c : Char) {rest : List UInt8} {text : Text} (onward : Decodes rest text) :
    Decodes (String.utf8EncodeChar c ++ rest) (c :: text)
  | invalid {bad rest : List UInt8} {text : Text} (invalid : IsInvalid bad rest)
      (onward : Decodes rest text) : Decodes (bad ++ rest) ('\uFFFD' :: text)

/-- Only a byte that begins no character opens none. -/
theorem opening_of_forall {byte : UInt8} (none : ∀ c, ¬ [byte] <+: String.utf8EncodeChar c) :
    opening byte = .invalid := by
  have outside : ∀ n < 0x100, 0x80 ≤ n ∧ n < 0xC2 ∨ 0xF4 < n →
      opening (UInt8.ofNat n) matches .invalid := by
    decide +kernel
  have bound := byte.toNat_lt
  have begins (left code mark : Nat) (isCode : IsCode (left + 1) code)
      (marked : leadMark (left + 1) = mark) (same : mark + code / 0x40 ^ left = byte.toNat) :
      False := by
    obtain ⟨c, first⟩ := exists_front_prefix isCode 0 left (by omega)
    rw [front, marked, same, UInt8.ofNat_toNat] at first
    exact none c first
  have range : 0x80 ≤ byte.toNat ∧ byte.toNat < 0xC2 ∨ 0xF4 < byte.toNat := by
    by_contra inside
    -- the lowest character that begins with the byte
    obtain small | two | three | four : byte.toNat < 0x80 ∨
        0xC2 ≤ byte.toNat ∧ byte.toNat < 0xE0 ∨ 0xE0 ≤ byte.toNat ∧ byte.toNat < 0xF0 ∨
          0xF0 ≤ byte.toNat ∧ byte.toNat ≤ 0xF4 := by omega
    · exact begins 0 byte.toNat 0 ⟨by omega, by omega⟩ rfl (by omega)
    · exact begins 1 ((byte.toNat - 0xC0) * 0x40) 0xC0 ⟨by omega, by omega⟩ rfl (by omega)
    · exact begins 2 (max 0x800 ((byte.toNat - 0xE0) * 0x1000)) 0xE0 ⟨by omega, by omega⟩ rfl
        (by omega)
    · exact begins 3 (max 0x10000 ((byte.toNat - 0xF0) * 0x40000)) 0xF0 ⟨by omega, by omega⟩ rfl
        (by omega)
  have invalid := outside byte.toNat bound range
  rw [UInt8.ofNat_toNat] at invalid
  cases opened : opening byte with
  | invalid => rfl
  | complete c => simp [opened] at invalid
  | unfinished u => simp [opened] at invalid

/-- The first bytes of a character hold its first bits. -/
theorem eq_front_of_prefix {begun : List UInt8} {more left code : Nat}
    (begins : begun <+: front (more + left + 2) (more + left + 1) code)
    (long : begun.length = more + 1) :
    begun = front (more + left + 2) more (code / 0x40 ^ (left + 1)) := by
  have first := front_prefix (more + left + 2) more (left + 1) code
  have length := (length_front (more + left + 2) more (code / 0x40 ^ (left + 1))).symm
  rw [← Nat.add_assoc] at first
  exact (List.prefix_of_prefix_length_le begins first (long.trans length).le).eq_of_length
    (long.trans length)

/-- A byte with which a character goes on stands behind its first bytes. -/
theorem Continues.exists_char {more left bits : Nat} {byte : UInt8}
    (continues : Continues (more + left + 2) left bits byte) :
    ∃ c, front (more + left + 2) more bits ++ [byte] <+: String.utf8EncodeChar c := by
  obtain ⟨low, high, code, isCode, same⟩ := continues
  obtain ⟨c, begins⟩ := exists_front_prefix isCode (more + 1) left (by omega)
  have held : (bits * 0x40 + byte.toNat % 0x40) / 0x40 = bits := by omega
  rw [front, same, ofNat_toNat_continuation low high, held] at begins
  exact ⟨c, begins⟩

/-- The scanner reports a stretch where there is no character. -/
theorem scan_invalid {bad rest : List UInt8} (invalid : IsInvalid bad rest) :
    scan none (bad ++ rest) = none :: scan none rest := by
  by_cases begins : ∃ c, bad <+: String.utf8EncodeChar c
  · obtain ⟨c, begins⟩ := begins
    obtain ⟨size, isCode, encoded⟩ := exists_isCode c
    have some : 0 < bad.length := List.length_pos_of_ne_nil invalid.nonempty
    obtain ⟨more, long⟩ : ∃ more, bad.length = more + 1 := ⟨bad.length - 1, by omega⟩
    -- the stretch is shorter than the character, or the character would stand there
    have short : bad.length < size := by
      have range := isCode.2
      have count : (String.utf8EncodeChar c).length = size := by
        rw [encoded, length_front]
        omega
      rw [← count]
      refine lt_of_le_of_ne begins.length_le fun same => invalid.none c ?_
      rw [← begins.eq_of_length same]
      exact List.prefix_append _ _
    obtain ⟨left, rfl⟩ : ∃ left, size = more + left + 2 := ⟨size - more - 2, by omega⟩
    obtain ⟨u, bits, missing, scanned, takes⟩ := scan_front isCode more left rfl
    rw [encoded] at begins
    have same : bad = front (more + left + 2) more u.bits := by
      rw [bits]
      exact eq_front_of_prefix begins long
    rw [same, scanned, scan_of_stops]
    intro byte next taken
    obtain ⟨d, longer⟩ := ((takes byte).mp taken).exists_char
    rw [← same] at longer
    exact invalid.longest byte next d longer
  · obtain ⟨byte, rfl⟩ := List.length_eq_one_iff.mp (invalid.begins.resolve_right begins)
    rw [List.singleton_append, scan, opening_of_forall fun c begun => begins ⟨c, begun⟩]

/-- What bytes say is what the scanner makes of them. -/
theorem Decodes.decodeLossy_eq {bytes : List UInt8} {text : Text} (decodes : Decodes bytes text) :
    decodeLossy bytes = text := by
  induction decodes with
  | nil => rfl
  | char c onward ih =>
    rw [decodeLossy, scan_encode, List.map_cons, ← decodeLossy, ih]
    rfl
  | invalid invalid onward ih =>
    rw [decodeLossy, scan_invalid invalid, List.map_cons, ← decodeLossy, ih]
    rfl

/-- Whether the first bytes are a single one or begin a character. -/
def Begins (bytes : List UInt8) (count : Nat) : Prop :=
  count = 1 ∨ ∃ c, bytes.take count <+: String.utf8EncodeChar c

/-- Bytes at which no character stands begin with an invalid stretch. -/
theorem exists_isInvalid {bytes : List UInt8} (some : bytes ≠ [])
    (none : ∀ c, ¬ String.utf8EncodeChar c <+: bytes) :
    ∃ bad rest, bytes = bad ++ rest ∧ IsInvalid bad rest := by
  classical
  have enough : 1 ≤ bytes.length := List.length_pos_of_ne_nil some
  obtain ⟨k, found⟩ : ∃ k, k = Nat.findGreatest (Begins bytes) bytes.length := ⟨_, rfl⟩
  have begins : Begins bytes k := found ▸ Nat.findGreatest_spec enough (.inl rfl)
  have positive : 1 ≤ k := found ▸ Nat.le_findGreatest enough (.inl rfl)
  have within : k ≤ bytes.length := found ▸ Nat.findGreatest_le _
  have length : (bytes.take k).length = k := List.length_take_of_le within
  refine ⟨bytes.take k, bytes.drop k, (List.take_append_drop k bytes).symm, ?_, ?_, ?_, ?_⟩
  · exact List.ne_nil_of_length_pos (by omega)
  · rwa [List.take_append_drop]
  · rwa [length]
  · -- one byte more would begin no character
    intro byte next c longer
    obtain ⟨rest, behind⟩ := List.head?_eq_some_iff.mp (Option.mem_def.mp next)
    have further : bytes.take (k + 1) = bytes.take k ++ [byte] := by
      conv_lhs => rw [← List.take_append_drop k bytes, behind]
      rw [← List.singleton_append, ← List.append_assoc, List.take_left' (by simp [length])]
    have more : k + 1 ≤ bytes.length := by
      have left := congrArg List.length behind
      rw [List.length_drop, List.length_cons] at left
      omega
    have greatest : k + 1 ≤ k := by
      conv_rhs => rw [found]
      exact Nat.le_findGreatest more (.inr ⟨c, further ▸ longer⟩)
    omega

theorem exists_decodes (bytes : List UInt8) : ∃ text, Decodes bytes text := by
  induction length : bytes.length using Nat.strongRecOn generalizing bytes with
  | ind n ih =>
    by_cases begins : ∃ c, String.utf8EncodeChar c <+: bytes
    · obtain ⟨c, rest, rfl⟩ := begins
      have shorter : rest.length < n := by
        have positive := c.utf8Size_pos
        rw [← String.length_utf8EncodeChar c] at positive
        rw [List.length_append] at length
        omega
      obtain ⟨text, onward⟩ := ih rest.length shorter rest rfl
      exact ⟨_, .char c onward⟩
    · obtain rfl | some := eq_or_ne bytes []
      · exact ⟨_, .nil⟩
      · obtain ⟨bad, rest, rfl, invalid⟩ := exists_isInvalid some (not_exists.mp begins)
        have shorter : rest.length < n := by
          have positive := List.length_pos_of_ne_nil invalid.nonempty
          rw [List.length_append] at length
          omega
        obtain ⟨text, onward⟩ := ih rest.length shorter rest rfl
        exact ⟨_, .invalid invalid onward⟩

theorem decodes_decodeLossy (bytes : List UInt8) : Decodes bytes (decodeLossy bytes) := by
  obtain ⟨text, decodes⟩ := exists_decodes bytes
  rwa [decodes.decodeLossy_eq]

theorem decodeLossy_eq_nil_iff {bytes : List UInt8} : decodeLossy bytes = [] ↔ bytes = [] := by
  refine ⟨fun none => ?_, fun none => none ▸ rfl⟩
  have decodes := decodes_decodeLossy bytes
  rw [none] at decodes
  cases decodes
  rfl

/-- The bytes of a text. -/
def encode (text : Text) : List UInt8 := text.flatMap String.utf8EncodeChar

theorem decodeLossy_encode (text : Text) : decodeLossy (encode text) = text := by
  apply Decodes.decodeLossy_eq
  induction text with
  | nil => exact .nil
  | cons c rest ih => exact .char c ih

/-! ### Characters of one byte -/

section Separators

variable {c : Char} {byte : UInt8} (alone : String.utf8EncodeChar c = [byte])
include alone

/-- A character of one byte has no part in any other. -/
theorem not_prefix_encode {bytes : List UInt8} (some : bytes ≠ []) (d : Char) :
    ¬ bytes ++ [byte] <+: String.utf8EncodeChar d := by
  intro begins
  have small : byte.toNat < 0x80 := by
    obtain ⟨size, isCode, encoded⟩ := exists_isCode c
    have count := length_front size (size - 1) c.toNat
    obtain rfl : size = 1 := by
      have range := isCode.2
      rw [← encoded, alone, List.length_singleton] at count
      omega
    have range := isCode.2
    have same : [byte] = [UInt8.ofNat (0 + c.toNat)] := alone.symm.trans encoded
    rw [List.singleton_inj.mp same, UInt8.toNat_ofNat_of_lt' (by simp only [UInt8.size]; omega)]
    omega
  obtain ⟨rest, whole⟩ := begins
  obtain ⟨first, behind, rfl⟩ := List.exists_cons_of_ne_nil some
  obtain ⟨size, -, encoded⟩ := exists_isCode d
  have inside : byte ∈ (front size (size - 1) d.toNat).tail := by
    rw [← encoded, ← whole]
    simp
  have large := le_of_mem_tail_front inside
  omega

/-- An invalid stretch ends in front of a character of one byte. -/
theorem IsInvalid.append_cons {bad rest : List UInt8} (invalid : IsInvalid bad rest)
    (after : List UInt8) : IsInvalid bad (rest ++ byte :: after) where
  nonempty := invalid.nonempty
  begins := invalid.begins
  none := by
    intro d begins
    have whole : bad ++ (rest ++ byte :: after) = bad ++ rest ++ [byte] ++ after := by simp
    rw [whole] at begins
    rcases le_or_gt (String.utf8EncodeChar d).length (bad ++ rest).length with within | beyond
    · refine invalid.none d (List.prefix_of_prefix_length_le begins ?_ within)
      rw [List.append_assoc _ [byte]]
      exact List.prefix_append _ _
    · refine not_prefix_encode alone (by simp [invalid.nonempty]) d
        (List.prefix_of_prefix_length_le (List.prefix_append _ after) begins ?_)
      rw [List.length_append, List.length_singleton]
      exact beyond
  longest := by
    intro next first
    cases rest with
    | nil =>
      obtain rfl : byte = next := by simpa using first
      exact not_prefix_encode alone invalid.nonempty
    | cons other rest => exact invalid.longest next first

theorem Decodes.append_cons {before after : List UInt8} {first second : Text}
    (decodes : Decodes before first) (onward : Decodes after second) :
    Decodes (before ++ byte :: after) (first ++ c :: second) := by
  induction decodes with
  | nil =>
    have whole := Decodes.char c onward
    rwa [alone] at whole
  | char d _ ih =>
    rw [List.append_assoc, List.cons_append]
    exact .char d ih
  | invalid invalid _ ih =>
    rw [List.append_assoc, List.cons_append]
    exact .invalid (invalid.append_cons alone after) ih

theorem Decodes.mem {bytes : List UInt8} {text : Text} (decodes : Decodes bytes text)
    (member : c ∈ text) : byte ∈ bytes := by
  induction decodes with
  | nil => cases member
  | char d _ ih =>
    rcases List.mem_cons.mp member with rfl | behind
    · rw [alone]
      simp
    · exact List.mem_append_right _ (ih behind)
  | invalid _ _ ih =>
    rcases List.mem_cons.mp member with rfl | behind
    · -- the replacement character takes three bytes
      cases alone
    · exact List.mem_append_right _ (ih behind)

theorem decodeLossy_append_cons (before after : List UInt8) :
    decodeLossy (before ++ byte :: after) = decodeLossy before ++ c :: decodeLossy after :=
  ((decodes_decodeLossy before).append_cons alone (decodes_decodeLossy after)).decodeLossy_eq

theorem not_mem_encode {text : Text} (absent : c ∉ text) : byte ∉ encode text := by
  intro member
  obtain ⟨before, after, split⟩ := List.append_of_mem member
  have decoded := decodeLossy_encode text
  rw [split, decodeLossy_append_cons alone] at decoded
  exact absent (decoded ▸ by simp)

theorem not_mem_decodeLossy {bytes : List UInt8} (absent : byte ∉ bytes) :
    c ∉ decodeLossy bytes :=
  fun member => absent ((decodes_decodeLossy bytes).mem alone member)

end Separators

end ProxyControl.Text.Utf8
