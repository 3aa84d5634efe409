import Mathlib.Data.Nat.Digits.Defs
import Mathlib.Data.UInt
import ProxyControl.Proofs.Text.Cutting
import ProxyControl.Text.Number

/-!
# Numbers that are read back

A number written in digits of any base up to sixteen is read back as it was, and its digits hold
neither white space nor a sign. Conversely, whatever is read as a decimal number is written in
decimal digits, with no more than a plus sign in front.
-/
namespace ProxyControl.Text

section Digits

variable {base n : Nat}

theorem digit?_digitChar (small : base ≤ 16) (below : n < base) :
    digit? base (Nat.digitChar n) = some n := by
  have whole : ∀ n < 16, digit? 16 (Nat.digitChar n) = some n := by decide
  -- a smaller base takes the same digits for the same values
  have value := whole n (by omega)
  simp only [digit?, Option.filter_eq_some_iff, decide_eq_true_eq] at value ⊢
  exact ⟨value.1, below⟩

theorem digit?_ten_eq_some_iff {c : Char} {n : Nat} :
    digit? 10 c = some n ↔ n < 10 ∧ c = Nat.digitChar n := by
  constructor
  · intro found
    simp only [digit?, Option.filter_eq_some_iff, decide_eq_true_eq] at found
    obtain ⟨value, small⟩ := found
    refine ⟨small, ?_⟩
    split at value
    next decimal =>
      simp only [Bool.and_eq_true, decide_eq_true_eq, Char.le_def, UInt32.le_iff_toNat_le]
        at decimal
      obtain rfl := Option.some.inj value
      apply Char.toNat_inj.mp
      rw [Nat.toNat_digitChar_of_lt_ten small]
      have zero : '0'.toNat = 48 := rfl
      have low : 48 ≤ c.toNat := decimal.1
      omega
    next =>
      -- letters stand for ten and more
      split at value
      · have ten := Option.some.inj value
        omega
      · split at value
        · have ten := Option.some.inj value
          omega
        · cases value
  · rintro ⟨small, rfl⟩
    exact digit?_digitChar (by decide) small

theorem exists_digit_of_mem_toDigits (proper : 1 < base) {c : Char}
    (member : c ∈ Nat.toDigits base n) : ∃ digit < base, c = Nat.digitChar digit := by
  induction n using Nat.strongRecOn with
  | ind n ih =>
    rw [Nat.toDigits_eq_if proper] at member
    split at member
    next below => exact ⟨n, below, by simpa using member⟩
    next above =>
      rcases List.mem_append.mp member with front | last
      · exact ih (n / base) (Nat.div_lt_self (by omega) proper) front
      · exact ⟨n % base, Nat.mod_lt n (by omega), by simpa using last⟩

/-- The digits of a number are read up to its value. -/
theorem foldlM_toDigits (proper : 1 < base) (small : base ≤ 16) :
    (Nat.toDigits base n).foldlM
      (fun value c => (digit? base c).map (value * base + ·)) 0 = some n := by
  induction n using Nat.strongRecOn with
  | ind n ih =>
    rw [Nat.toDigits_eq_if proper]
    split
    next below => simp [digit?_digitChar small below]
    next above =>
      have last := digit?_digitChar small (Nat.mod_lt n (by omega : 0 < base))
      have whole : n / base * base + n % base = n := Nat.div_add_mod' n base
      rw [List.foldlM_append, ih (n / base) (Nat.div_lt_self (by omega) proper)]
      simp [last, whole]

theorem digits?_toDigits (proper : 1 < base) (small : base ≤ 16) :
    digits? base (Nat.toDigits base n) = some n := by
  rw [digits?, if_neg (by simp), foldlM_toDigits proper small]

/-- A sign that is not there cannot be taken away. -/
theorem withoutStart_of_head? {c : Char} {text : Text} (unsigned : c ∉ text.head?) :
    withoutStart [c] text = text := by
  rw [withoutStart, after?_eq_none_of_head? rfl unsigned]
  rfl

theorem unsigned?_toDigits (proper : 1 < base) (small : base ≤ 16) {bits : Nat}
    (fits : n < 2 ^ bits) : unsigned? base bits (Nat.toDigits base n) = some n := by
  have unsigned : withoutStart ['+'] (Nat.toDigits base n) = Nat.toDigits base n := by
    refine withoutStart_of_head? fun signed => ?_
    obtain ⟨digit, -, same⟩ := exists_digit_of_mem_toDigits proper (List.mem_of_mem_head? signed)
    exact Nat.digitChar_ne '+' (by decide) same.symm
  rw [unsigned?, unsigned, digits?_toDigits proper small]
  simpa using fits

end Digits

theorem hex64?_hex (n : UInt64) : hex64? (hex n.toNat) = some n := by
  rw [hex64?, hex, unsigned?_toDigits (by decide) (by decide) n.toNat_lt]
  simp

theorem isSpace_digitChar {n : Nat} (small : n < 16) : isSpace (Nat.digitChar n) = false :=
  (by decide : ∀ n < 16, isSpace (Nat.digitChar n) = false) n small

/-! ### Written numbers -/

theorem decimal_ne_nil (n : Nat) : decimal n ≠ [] := by
  simp [decimal]

theorem isDigit_of_mem_decimal {n : Nat} {c : Char} (member : c ∈ decimal n) :
    c.isDigit = true :=
  Nat.isDigit_of_mem_toDigits (by decide) (by decide) member

theorem isSpace_of_mem_decimal {n : Nat} {c : Char} (member : c ∈ decimal n) :
    isSpace c = false := by
  obtain ⟨digit, below, rfl⟩ := exists_digit_of_mem_toDigits (by decide) member
  exact isSpace_digitChar (by omega)

theorem not_mem_decimal {c : Char} (other : c.isDigit = false) (n : Nat) : c ∉ decimal n := by
  intro member
  rw [isDigit_of_mem_decimal member] at other
  cases other

theorem not_mem_hex {c : Char} (other : digit? 16 c = none) (n : Nat) : c ∉ hex n := by
  intro member
  obtain ⟨digit, below, rfl⟩ := exists_digit_of_mem_toDigits (by decide) member
  rw [digit?_digitChar (by decide) below] at other
  cases other

theorem u32?_decimal (n : UInt32) : u32? (decimal n.toNat) = some n := by
  rw [u32?, decimal, unsigned?_toDigits (by decide) (by decide) n.toNat_lt]
  simp

theorem u64?_decimal (n : UInt64) : u64? (decimal n.toNat) = some n := by
  rw [u64?, decimal, unsigned?_toDigits (by decide) (by decide) n.toNat_lt]
  simp

/-! ### Decimal numbers -/

/-- One or more decimal digits, the highest first; a plus sign may stand in front. -/
def IsDecimal (text : Text) (n : Nat) : Prop :=
  ∃ digits ≠ [], (∀ digit ∈ digits, digit < 10) ∧
    (text = digits.reverse.map Nat.digitChar ∨ text = '+' :: digits.reverse.map Nat.digitChar) ∧
    n = Nat.ofDigits 10 digits

theorem foldlM_digit?_eq_some_iff {text : Text} {n : Nat} :
    text.foldlM (fun value c => (digit? 10 c).map (value * 10 + ·)) 0 = some n ↔
      ∃ digits, (∀ digit ∈ digits, digit < 10) ∧ text = digits.reverse.map Nat.digitChar ∧
        n = Nat.ofDigits 10 digits := by
  -- the last digit is read last, and is the lowest one
  induction text using List.reverseRecOn generalizing n with
  | nil =>
    constructor
    · rintro ⟨⟩
      exact ⟨[], by simp, rfl, rfl⟩
    · rintro ⟨digits, -, none, rfl⟩
      obtain rfl : digits = [] := by simpa using none
      rfl
  | append_singleton text c ih =>
    simp only [List.foldlM_append, List.foldlM_cons, List.foldlM_nil, bind_pure,
      Option.bind_eq_bind, Option.bind_eq_some_iff, ih, Option.map_eq_some_iff,
      digit?_ten_eq_some_iff]
    constructor
    · rintro ⟨_, ⟨digits, small, rfl, rfl⟩, digit, ⟨below, rfl⟩, rfl⟩
      refine ⟨digit :: digits, by simpa [below] using small, by simp, ?_⟩
      rw [Nat.ofDigits_cons]
      omega
    · rintro ⟨digits, small, same, rfl⟩
      cases digits with
      | nil => simp at same
      | cons digit digits =>
        rw [List.reverse_cons, List.map_append] at same
        obtain ⟨rfl, last⟩ := List.append_inj' same rfl
        obtain ⟨rfl, -⟩ := List.cons.inj last
        rw [List.forall_mem_cons] at small
        refine ⟨_, ⟨digits, small.2, rfl, rfl⟩, digit, ⟨small.1, rfl⟩, ?_⟩
        rw [Nat.ofDigits_cons]
        omega

theorem digits?_ten_eq_some_iff {text : Text} {n : Nat} :
    digits? 10 text = some n ↔
      ∃ digits ≠ [], (∀ digit ∈ digits, digit < 10) ∧ text = digits.reverse.map Nat.digitChar ∧
        n = Nat.ofDigits 10 digits := by
  rw [digits?]
  split
  next none =>
    obtain rfl := List.isEmpty_iff.mp none
    simp
  next some =>
    rw [foldlM_digit?_eq_some_iff]
    refine exists_congr fun digits => (and_iff_right_of_imp ?_).symm
    rintro ⟨-, rfl, -⟩ rfl
    exact some rfl

theorem withoutStart_eq_map_digitChar_iff {text : Text} {digits : List Nat} :
    withoutStart ['+'] text = digits.map Nat.digitChar ↔
      text = digits.map Nat.digitChar ∨ text = '+' :: digits.map Nat.digitChar := by
  constructor
  · intro unsigned
    cases signed : after? ['+'] text with
    | none => exact .inl (by rwa [withoutStart, signed] at unsigned)
    | some rest =>
      obtain rfl := after?_eq_some_iff.mp signed
      rw [withoutStart, signed, Option.getD_some] at unsigned
      exact .inr (by rw [← unsigned]; rfl)
  · rintro (rfl | rfl)
    · -- no digit is a sign, so there is none to take away
      refine withoutStart_of_head? fun signed => ?_
      obtain ⟨digit, -, same⟩ := List.mem_map.mp (List.mem_of_mem_head? signed)
      exact Nat.digitChar_ne '+' (by decide) same
    · rfl

theorem unsigned?_ten_eq_some_iff {bits : Nat} {text : Text} {n : Nat} :
    unsigned? 10 bits text = some n ↔ IsDecimal text n ∧ n < 2 ^ bits := by
  simp only [unsigned?, Option.filter_eq_some_iff, digits?_ten_eq_some_iff, decide_eq_true_eq,
    withoutStart_eq_map_digitChar_iff]
  rfl

/-- A decimal number has one value. -/
theorem IsDecimal.unique {text : Text} {n m : Nat} (first : IsDecimal text n)
    (second : IsDecimal text m) : n = m := by
  have reads {value : Nat} (written : IsDecimal text value) (fits : value ≤ n + m) :
      unsigned? 10 (n + m) text = some value :=
    unsigned?_ten_eq_some_iff.mpr ⟨written, fits.trans_lt Nat.lt_two_pow_self⟩
  exact Option.some.inj ((reads first (by omega)).symm.trans (reads second (by omega)))

theorem IsDecimal.ne_nil {text : Text} {n : Nat} (written : IsDecimal text n) : text ≠ [] := by
  obtain ⟨digits, some, -, rfl | rfl, -⟩ := written
  · simpa using some
  · simp

theorem exists_digitChar_of_isDigit {c : Char} (digit : c.isDigit = true) :
    ∃ n < 10, c = Nat.digitChar n := by
  simp only [Char.isDigit, Bool.and_eq_true, decide_eq_true_eq, UInt32.le_iff_toNat_le] at digit
  have low : 48 ≤ c.toNat := digit.1
  have high : c.toNat ≤ 57 := digit.2
  refine ⟨c.toNat - 48, by omega, Char.toNat_inj.mp ?_⟩
  rw [Nat.toNat_digitChar_of_lt_ten (by omega)]
  omega

/-- What holds nothing but digits is a decimal number. -/
theorem exists_isDecimal {text : Text} (some : text ≠ [])
    (digits : ∀ c ∈ text, c.isDigit = true) : ∃ n, IsDecimal text n := by
  have values : ∃ values : List Nat, (∀ digit ∈ values, digit < 10) ∧
      text = values.map Nat.digitChar := by
    clear some
    induction text with
    | nil => exact ⟨[], by simp, rfl⟩
    | cons c rest ih =>
      obtain ⟨first, others⟩ := List.forall_mem_cons.mp digits
      obtain ⟨digit, below, rfl⟩ := exists_digitChar_of_isDigit first
      obtain ⟨values, small, rfl⟩ := ih others
      exact ⟨digit :: values, List.forall_mem_cons.mpr ⟨below, small⟩, rfl⟩
  obtain ⟨values, small, rfl⟩ := values
  refine ⟨_, values.reverse, by simpa using some, by simpa using small, .inl ?_, rfl⟩
  rw [List.reverse_reverse]

/-- A number is refused exactly if it does not fit. -/
theorem IsDecimal.u32?_eq_none_iff {text : Text} {n : Nat} (written : IsDecimal text n) :
    u32? text = none ↔ 2 ^ 32 ≤ n := by
  rw [u32?, Option.map_eq_none_iff, Option.eq_none_iff_forall_ne_some]
  simp only [ne_eq, unsigned?_ten_eq_some_iff, not_and, not_lt]
  exact ⟨fun large => large n written, fun large m other => written.unique other ▸ large⟩

/-- What is read as a number is a decimal number that fits. -/
theorem u64?_eq_some_iff {text : Text} {n : UInt64} :
    u64? text = some n ↔ IsDecimal text n.toNat := by
  simp only [u64?, Option.map_eq_some_iff, unsigned?_ten_eq_some_iff]
  constructor
  · rintro ⟨value, ⟨written, fits⟩, rfl⟩
    rwa [UInt64.toNat_ofNat_of_lt' fits]
  · intro written
    exact ⟨n.toNat, ⟨written, n.toNat_lt⟩, UInt64.ofNat_toNat⟩

end ProxyControl.Text
