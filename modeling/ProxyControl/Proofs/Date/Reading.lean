import Mathlib.Data.List.TakeWhile
import Mathlib.Data.Option.Basic
import ProxyControl.Date.Written
import ProxyControl.Proofs.Text.Number
import ProxyControl.Proofs.Text.Occurrence

/-!
# What is read of a time

Each reader of a part of a time takes digits and a few marks from the front of a text and leaves
the rest to the next one. So a time that is read as a whole begins with a digit and holds no other
characters.
-/
namespace ProxyControl.Date

open Text

def timeMarks : Text := ['-', 'T', 't', ':', '.', 'Z', 'z', '+', '\u2212']

/-- The characters in which RFC 3339 times are written. -/
def IsTimeChar (c : Char) : Prop := c.isDigit = true ∨ c ∈ timeMarks ∨ c = ' '

theorem not_isSpace_of_isDigit {c : Char} (digit : c.isDigit = true) :
    isSpace c = false ∧ c ≠ '\x00' := by
  obtain ⟨n, below, rfl⟩ := exists_digitChar_of_isDigit digit
  exact ⟨isSpace_digitChar (by omega), Nat.digitChar_ne '\x00' (by decide)⟩

/-- But for the blank they are neither white space nor zero. -/
theorem IsTimeChar.not_isSpace {c : Char} (time : IsTimeChar c) (other : c ≠ ' ') :
    isSpace c = false ∧ c ≠ '\x00' := by
  rcases time with digit | mark | blank
  · exact not_isSpace_of_isDigit digit
  · have marks : ∀ c ∈ timeMarks, isSpace c = false ∧ c ≠ '\x00' := by simp [timeMarks, isSpace]
    exact marks c mark
  · exact absurd blank other

/-- What stands in front of the rest is written in the characters of times. -/
def Leaves (text rest : Text) : Prop := ∃ front, text = front ++ rest ∧ ∀ c ∈ front, IsTimeChar c

variable {text rest more : Text}

theorem Leaves.trans (first : Leaves text rest) (second : Leaves rest more) :
    Leaves text more := by
  obtain ⟨front, rfl, inFront⟩ := first
  obtain ⟨middle, rfl, inMiddle⟩ := second
  exact ⟨front ++ middle, by simp, List.forall_mem_append.mpr ⟨inFront, inMiddle⟩⟩

theorem Leaves.cons {c : Char} (time : IsTimeChar c) (rest : Text) : Leaves (c :: rest) rest :=
  ⟨[c], rfl, by simpa using time⟩

/-! ### Parts -/

theorem exists_digits_of_number? {least most n : Nat}
    (read : number? least most text = some (n, rest)) :
    ∃ digits, text = digits ++ rest ∧ (∀ c ∈ digits, c.isDigit = true) ∧
      least ≤ digits.length := by
  simp only [number?] at read
  split at read
  · cases read
  next enough =>
    obtain ⟨value, -, same⟩ := Option.map_eq_some_iff.mp read
    obtain ⟨-, rfl⟩ := Prod.mk.inj same
    have front : (text.take most).takeWhile Char.isDigit <+: text :=
      (List.takeWhile_prefix _).trans (List.take_prefix most text)
    refine ⟨_, ?_, fun c member => List.mem_takeWhile_imp member, Nat.le_of_not_lt enough⟩
    exact List.prefix_append_drop front

theorem leaves_of_number? {least most n : Nat} (read : number? least most text = some (n, rest)) :
    Leaves text rest := by
  obtain ⟨digits, whole, inside, -⟩ := exists_digits_of_number? read
  exact ⟨digits, whole, fun c member => .inl (inside c member)⟩

theorem leaves_of_after? {mark : Text} (marks : ∀ c ∈ mark, IsTimeChar c)
    (read : after? mark text = some rest) : Leaves text rest :=
  ⟨mark, after?_eq_some_iff.mp read, marks⟩

theorem isTimeChar_dash : ∀ c ∈ ("-" : Text), IsTimeChar c := by
  simp [ofString_eq, IsTimeChar, timeMarks]

theorem isTimeChar_colon : ∀ c ∈ (":" : Text), IsTimeChar c := by
  simp [ofString_eq, IsTimeChar, timeMarks]

theorem leaves_of_day? {day : CivilTime} (read : day? text = some (day, rest)) :
    Leaves text rest := by
  simp only [day?, Option.bind_eq_bind, Option.bind_eq_some_iff, Option.pure_def,
    Option.some.injEq, Prod.mk.injEq, Prod.exists] at read
  obtain ⟨year, _, first, _, dash, month, _, second, _, dash', _, _, third, -, rfl⟩ := read
  exact (leaves_of_number? first).trans <| (leaves_of_after? isTimeChar_dash dash).trans <|
    (leaves_of_number? second).trans <| (leaves_of_after? isTimeChar_dash dash').trans <|
      leaves_of_number? third

theorem leaves_of_fraction? {nanos : Nat} (read : fraction? text = some (nanos, rest)) :
    Leaves text rest := by
  unfold fraction? at read
  split at read
  next behind =>
    obtain ⟨⟨n, left⟩, digits, same⟩ := Option.map_eq_some_iff.mp read
    obtain ⟨-, rfl⟩ := Prod.mk.inj same
    -- digits beyond the nanoseconds are passed over unread
    have dropped : Leaves left (left.dropWhile Char.isDigit) :=
      ⟨left.takeWhile Char.isDigit, List.takeWhile_append_dropWhile.symm,
        fun c member => .inl (List.mem_takeWhile_imp member)⟩
    exact (Leaves.cons (by simp [IsTimeChar, timeMarks]) behind).trans <|
      (leaves_of_number? digits).trans dropped
  next =>
    cases read
    exact ⟨[], rfl, List.forall_mem_nil _⟩

theorem leaves_of_clockTime? {day time : CivilTime}
    (read : clockTime? day text = some (time, rest)) : Leaves text rest := by
  simp only [clockTime?, Option.bind_eq_bind, Option.bind_eq_some_iff, Option.pure_def,
    Option.some.injEq, Prod.mk.injEq, Prod.exists] at read
  obtain ⟨_, _, first, _, colon, _, _, second, _, colon', _, _, third, _, _, fraction, -, rfl⟩ := read
  exact (leaves_of_number? first).trans <| (leaves_of_after? isTimeChar_colon colon).trans <|
    (leaves_of_number? second).trans <| (leaves_of_after? isTimeChar_colon colon').trans <|
      (leaves_of_number? third).trans <| leaves_of_fraction? fraction

/-- Nothing stands behind the hours and minutes of a zone. -/
theorem leaves_of_offset {hours minutes : Nat × Text} {colon : Text}
    (first : number? 2 2 text = some hours) (mark : after? ":" hours.2 = some colon)
    (second : number? 2 2 colon = some minutes)
    (checks : (minutes.2.isEmpty && hours.1 < 24 && minutes.1 < 60) = true) : Leaves text [] := by
  obtain ⟨minutes, rest⟩ := minutes
  obtain rfl : rest = [] := by simp_all
  exact (leaves_of_number? first).trans <| (leaves_of_after? isTimeChar_colon mark).trans <|
    leaves_of_number? second

theorem leaves_of_zone? {offset : Int} (read : zone? text = some offset) : Leaves text [] := by
  unfold zone? at read
  split at read
  next => exact .cons (by simp [IsTimeChar, timeMarks]) []
  next => exact .cons (by simp [IsTimeChar, timeMarks]) []
  next sign behind _ _ =>
    simp only [Option.bind_eq_bind, Option.pure_def] at read
    split at read
    next plus =>
      simp only [Option.bind_some, Option.bind_eq_some_iff, Option.guard_eq_some'] at read
      obtain ⟨_, first, _, mark, _, second, _, checks, -⟩ := read
      exact (Leaves.cons (by simp [IsTimeChar, timeMarks, plus]) behind).trans
        (leaves_of_offset first mark second checks)
    next =>
      split at read
      next minus =>
        simp only [Option.bind_some, Option.bind_eq_some_iff, Option.guard_eq_some'] at read
        obtain ⟨_, first, _, mark, _, second, _, checks, -⟩ := read
        have time : IsTimeChar sign := by
          rcases by simpa using minus with rfl | rfl <;> simp [IsTimeChar, timeMarks]
        exact (Leaves.cons time behind).trans (leaves_of_offset first mark second checks)
      next => cases read
  next => cases read

/-! ### Whole times -/

theorem isTimeChar_of_isTimeMark {c : Char} (mark : isTimeMark c = true) : IsTimeChar c := by
  simp only [isTimeMark, Bool.or_eq_true, beq_iff_eq] at mark
  rcases mark with (rfl | rfl) | rfl <;> simp [IsTimeChar, timeMarks]

theorem leaves_of_rfc3339Time? {moment : Moment} (read : rfc3339Time? text = some moment) :
    ∃ day rest, day? text = some (day, rest) ∧ Leaves rest [] := by
  simp only [rfc3339Time?, Option.bind_eq_bind, Option.bind_eq_some_iff, Option.pure_def] at read
  obtain ⟨⟨day, rest⟩, date, read⟩ := read
  refine ⟨day, rest, date, ?_⟩
  cases rest with
  | nil => cases read
  | cons c behind =>
    simp only at read
    split at read
    next mark =>
      simp only [Option.bind_some, Option.bind_eq_some_iff] at read
      obtain ⟨_, clock, _, zone, -⟩ := read
      exact (Leaves.cons (isTimeChar_of_isTimeMark mark) behind).trans <|
        (leaves_of_clockTime? clock).trans (leaves_of_zone? zone)
    next => cases read

/-- A time begins with the first digit of its year and is written in the characters of times. -/
theorem of_rfc3339Time? {moment : Moment} (read : rfc3339Time? text = some moment) :
    (∀ c ∈ text, IsTimeChar c) ∧ ∃ c ∈ text.head?, c.isDigit = true := by
  obtain ⟨day, rest, date, onward⟩ := leaves_of_rfc3339Time? read
  obtain ⟨front, whole, inside⟩ := (leaves_of_day? date).trans onward
  refine ⟨by rwa [whole, List.append_nil], ?_⟩
  simp only [day?, Option.bind_eq_bind, Option.bind_eq_some_iff] at date
  obtain ⟨⟨year, _⟩, first, -⟩ := date
  obtain ⟨digits, rfl, all, some⟩ := exists_digits_of_number? first
  obtain ⟨c, more, rfl⟩ := List.exists_cons_of_length_pos (by omega : 0 < digits.length)
  exact ⟨c, rfl, all c List.mem_cons_self⟩

end ProxyControl.Date
