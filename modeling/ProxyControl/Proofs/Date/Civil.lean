import ProxyControl.Proofs.Date.Calendar
import ProxyControl.Proofs.Date.Reading
import ProxyControl.Proofs.Text.Words

/-!
# Civil times in both forms

A date and time of day can be written in two forms, and is read back from either as the instant that
the calendar gives it. White space, the case of the month's name and the padding of the day make no
difference to the one form, and an offset moves the instant in the other. A day that its month does
not have is refused in both.
-/
namespace ProxyControl

open Text

namespace Date

/-! ### Digits -/

/-- Two digits; there is room for no more. -/
def twoDigits (n : Nat) : Text := [Nat.digitChar (n / 10), Nat.digitChar (n % 10)]

def fourDigits (n : Nat) : Text := twoDigits (n / 100) ++ twoDigits (n % 100)

/-- Digits, and the number that they are read as. -/
structure AreDigits (digits : Text) (n : Nat) : Prop where
  areDigits : ∀ c ∈ digits, c.isDigit = true
  value : digits? 10 digits = some n

theorem areDigits_map {digits : List Nat} (some : digits ≠ [])
    (small : ∀ digit ∈ digits, digit < 10) :
    AreDigits (digits.map Nat.digitChar) (Nat.ofDigits 10 digits.reverse) where
  areDigits := by
    intro c member
    obtain ⟨digit, inDigits, rfl⟩ := List.mem_map.mp member
    have below := small digit inDigits
    interval_cases digit <;> rfl
  value := digits?_ten_eq_some_iff.mpr
    ⟨digits.reverse, by simpa using some, by simpa using small, by rw [List.reverse_reverse], rfl⟩

theorem areDigits_digitChar {n : Nat} (small : n ≤ 9) : AreDigits [Nat.digitChar n] n := by
  have one : AreDigits ([n].map Nat.digitChar) (Nat.ofDigits 10 [n]) :=
    areDigits_map (List.cons_ne_nil _ _) (by simp; omega)
  rwa [Nat.ofDigits_singleton] at one

theorem areDigits_twoDigits {n : Nat} (small : n ≤ 99) : AreDigits (twoDigits n) n := by
  have two : AreDigits ([n / 10, n % 10].map Nat.digitChar) (Nat.ofDigits 10 [n % 10, n / 10]) :=
    areDigits_map (List.cons_ne_nil _ _) (by simp; omega)
  have value : Nat.ofDigits 10 [n % 10, n / 10] = n := by
    simp only [Nat.ofDigits_cons, Nat.ofDigits_nil]
    omega
  rwa [value] at two

theorem areDigits_fourDigits {n : Nat} (small : n ≤ 9999) : AreDigits (fourDigits n) n := by
  have four : AreDigits
      ([n / 100 / 10, n / 100 % 10, n % 100 / 10, n % 100 % 10].map Nat.digitChar)
      (Nat.ofDigits 10 [n % 100 % 10, n % 100 / 10, n / 100 % 10, n / 100 / 10]) :=
    areDigits_map (List.cons_ne_nil _ _) (by simp; omega)
  have value :
      Nat.ofDigits 10 [n % 100 % 10, n % 100 / 10, n / 100 % 10, n / 100 / 10] = n := by
    simp only [Nat.ofDigits_cons, Nat.ofDigits_nil]
    omega
  rwa [value] at four

namespace AreDigits

variable {least most n : Nat} {digits : Text} (number : AreDigits digits n)
include number

theorem ne_nil : digits ≠ [] := by
  rintro rfl
  cases number.value

theorem isSpace_of_mem : ∀ c ∈ digits, isSpace c = false := fun c member =>
  (not_isSpace_of_isDigit (number.areDigits c member)).1

theorem isDigit_of_mem_head? (rest : Text) : ∀ c ∈ (digits ++ rest).head?, c.isDigit = true := by
  intro c first
  rw [List.head?_append_of_ne_nil digits number.ne_nil] at first
  exact number.areDigits c (List.mem_of_mem_head? first)

/-- A number ends where it has all the digits it may have, or where something else follows. -/
theorem number?_append (enough : least ≤ digits.length) (fits : digits.length ≤ most) {rest : Text}
    (stops : digits.length = most ∨ ∀ c ∈ rest.head?, c.isDigit = false) :
    number? least most (digits ++ rest) = some (n, rest) := by
  -- what follows adds no digit
  have none : (rest.take (most - digits.length)).takeWhile Char.isDigit = [] := by
    rcases stops with full | other
    · rw [full, Nat.sub_self]
      rfl
    · cases rest with
      | nil => rw [List.take_nil, List.takeWhile_nil]
      | cons c rest =>
        cases most - digits.length with
        | zero => rfl
        | succ more => rw [List.take_succ_cons, List.takeWhile_cons_of_neg (by simp [other c rfl])]
  have taken : ((digits ++ rest).take most).takeWhile Char.isDigit = digits := by
    rw [List.take_append, List.take_of_length_le fits,
      List.takeWhile_append_of_pos number.areDigits, none, List.append_nil]
  simp only [number?, taken]
  rw [if_neg (Nat.not_lt.mpr enough), number.value, Option.map_some, List.drop_left]

theorem trimStart_append (rest : Text) : trimStart (digits ++ rest) = digits ++ rest :=
  trimStart_of_head? fun c first =>
    (not_isSpace_of_isDigit (number.isDigit_of_mem_head? rest c first)).1

end AreDigits

theorem number?_twoDigits {least n : Nat} (enough : least ≤ 2) (small : n ≤ 99) (rest : Text) :
    number? least 2 (twoDigits n ++ rest) = some (n, rest) :=
  (areDigits_twoDigits small).number?_append enough (Nat.le_refl 2) (.inl rfl)

theorem number?_fourDigits {least n : Nat} (enough : least ≤ 4) (small : n ≤ 9999) (rest : Text) :
    number? least 4 (fourDigits n ++ rest) = some (n, rest) :=
  (areDigits_fourDigits small).number?_append enough (Nat.le_refl 4) (.inl rfl)

theorem spacedNumber?_twoDigits {n : Nat} (small : n ≤ 99) (rest : Text) :
    spacedNumber? 2 (twoDigits n ++ rest) = some (n, rest) := by
  rw [spacedNumber?, (areDigits_twoDigits small).trimStart_append,
    number?_twoDigits (Nat.le_succ 1) small]

/-! ### Forms -/

def shortNames : List Text :=
  ["Jan", "Feb", "Mar", "Apr", "May", "Jun", "Jul", "Aug", "Sep", "Oct", "Nov", "Dec"]

/-- The short name of a month, in any letter case. -/
def IsMonthName (month : Nat) (name : Text) : Prop :=
  ∃ short ∈ shortNames[month - 1]?, lowercase name = lowercase short

/-- A day in two digits, or in one if that is enough. -/
def IsDay (day : Nat) (text : Text) : Prop :=
  text = twoDigits day ∨ day ≤ 9 ∧ text = [Nat.digitChar day]

end Date

namespace CivilTime

open Date

/-- The time of day, as `hh:mm:ss`. -/
def clock (t : CivilTime) : Text :=
  twoDigits t.hour ++ ':' :: (twoDigits t.minute ++ ':' :: twoDigits t.second)

/-- The form `Mon DD hh:mm:ss YYYY GMT`, with white space of any kind and length between its parts
and around them. -/
def IsCertificateForm (t : CivilTime) (text : Text) : Prop :=
  ∃ front name day rest, isBlank front = true ∧ IsMonthName t.month name ∧ IsDay t.day day ∧
    IsSpread [day, t.clock, fourDigits t.year.toNat, "GMT"] rest ∧ text = front ++ name ++ rest

/-- The form `YYYY-MM-DDThh:mm:ss`, with a zone behind it. -/
def rfc3339Form (t : CivilTime) (zone : Text) : Text :=
  fourDigits t.year.toNat ++ '-' :: (twoDigits t.month ++ '-' :: (twoDigits t.day ++
    'T' :: (t.clock ++ zone)))

end CivilTime

namespace Date

/-- Hours and minutes behind a sign. -/
def offsetZone (sign : Char) (hours minutes : Nat) : Text :=
  sign :: (twoDigits hours ++ ':' :: twoDigits minutes)

/-! ### The form of certificates -/

/-- Every short name has three letters, and is the name of its month. -/
theorem shortNames_spec : ∀ index < 12, ∀ short ∈ shortNames[index]?, short.length = 3 ∧
    monthNames.idxOf? (lowercase short) = some index ∧
      (lowercase short).all (!isSpace ·) = true := by
  decide +kernel

theorem length_lowercase (text : Text) : (lowercase text).length = text.length :=
  List.length_map _

theorem month?_append {month : Nat} (first : 1 ≤ month) (last : month ≤ 12) {name : Text}
    (named : IsMonthName month name) (rest : Text) :
    month? (name ++ rest) = some (month, rest) := by
  obtain ⟨short, known, same⟩ := named
  obtain ⟨length, index, -⟩ := shortNames_spec (month - 1) (by omega) short known
  have three : name.length = 3 := by
    rw [← length_lowercase, same, length_lowercase, length]
  rw [month?, ← three, List.take_left, List.drop_left, same, index, Option.map_some,
    Nat.sub_add_cancel first]

theorem trimStart_blank (text : Text) : trimStart (' ' :: text) = trimStart text := rfl

theorem IsDay.areDigits {day : Nat} (small : day ≤ 99) {text : Text} (written : IsDay day text) :
    AreDigits text day ∧ 1 ≤ text.length ∧ text.length ≤ 2 := by
  rcases written with rfl | ⟨single, rfl⟩
  · exact ⟨areDigits_twoDigits small, Nat.le_succ 1, Nat.le_refl 2⟩
  · exact ⟨areDigits_digitChar single, Nat.le_refl 1, Nat.le_succ 1⟩

theorem spacedNumber?_day {day : Nat} (small : day ≤ 99) {text : Text} (written : IsDay day text)
    {c : Char} (other : c.isDigit = false) (rest : Text) :
    spacedNumber? 2 (' ' :: (text ++ c :: rest)) = some (day, c :: rest) := by
  obtain ⟨number, one, two⟩ := written.areDigits small
  rw [spacedNumber?, trimStart_blank, number.trimStart_append]
  exact number.number?_append one two (.inr (by simpa using other))

theorem year?_fourDigits {year : Nat} (small : year ≤ 9999) (rest : Text) :
    year? (' ' :: (fourDigits year ++ rest)) = some ((year : Int), rest) := by
  have digits := areDigits_fourDigits small
  have first := digits.isDigit_of_mem_head? rest
  rw [year?, trimStart_blank, digits.trimStart_append]
  -- a year that begins with a digit has no sign
  split
  next signed => simpa using first '-' (by simp [signed])
  next signed => simpa using first '+' (by simp [signed])
  next => rw [number?_fourDigits (by decide) small, Option.map_some]

variable {t : CivilTime}

/-- White space has no letter case. -/
theorem toLower_of_isSpace {c : Char} (space : isSpace c = true) : c.toLower = c := by
  unfold Char.toLower
  split
  next upper =>
    have low := UInt32.le_iff_toNat_le.mp upper.1
    have high := UInt32.le_iff_toNat_le.mp upper.2
    simp only [isSpace, Bool.or_eq_true, Bool.and_eq_true, decide_eq_true_eq, beq_iff_eq,
      UInt32.le_iff_toNat_le, ← UInt32.toNat_inj] at space
    simp at low high space
    omega
  next => rfl

theorem IsMonthName.isWord {month : Nat} (first : 1 ≤ month) (last : month ≤ 12) {name : Text}
    (named : IsMonthName month name) : name ≠ [] ∧ ∀ c ∈ name, isSpace c = false := by
  obtain ⟨short, known, same⟩ := named
  obtain ⟨length, -, letters⟩ := shortNames_spec (month - 1) (by omega) short known
  constructor
  · rintro rfl
    rw [← length_lowercase, ← same] at length
    cases length
  · intro c member
    rw [Bool.eq_false_iff]
    intro space
    -- white space would be there in lower case too
    have lower := List.all_eq_true.mp letters c.toLower (same ▸ List.mem_map_of_mem member)
    rw [toLower_of_isSpace space, space] at lower
    cases lower

theorem fits_of_isWritable (written : t.IsWritable) : t.year.toNat ≤ 9999 ∧ t.month ≤ 99 ∧
    t.hour ≤ 99 ∧ t.minute ≤ 99 ∧ t.second ≤ 99 := by
  obtain ⟨year, month, -, hour, minute, second, -⟩ := written
  omega

theorem isWord_clock (written : t.IsWritable) :
    t.clock ≠ [] ∧ ∀ c ∈ t.clock, isSpace c = false := by
  obtain ⟨-, -, hour, minute, second⟩ := fits_of_isWritable written
  refine ⟨by simp [CivilTime.clock, twoDigits], ?_⟩
  simp only [CivilTime.clock, List.forall_mem_append, List.forall_mem_cons]
  exact ⟨(areDigits_twoDigits hour).isSpace_of_mem, rfl,
    (areDigits_twoDigits minute).isSpace_of_mem, rfl, (areDigits_twoDigits second).isSpace_of_mem⟩

/-- Behind its white space a certificate's date is its parts with a blank between them. -/
theorem join_words_of_isCertificateForm (written : t.IsWritable) {text : Text}
    (form : t.IsCertificateForm text) :
    ∃ name day, IsMonthName t.month name ∧ IsDay t.day day ∧
      join [' '] (words text) = name ++ ' ' :: (day ++ ' ' :: (t.clock ++ ' ' ::
        (fourDigits t.year.toNat ++ ' ' :: "GMT"))) := by
  obtain ⟨front, name, day, rest, blank, named, dayWritten, spread, rfl⟩ := form
  refine ⟨name, day, named, dayWritten, ?_⟩
  -- one more blank in front makes the month's name a part like the others
  have parts : IsSpread [name, day, t.clock, fourDigits t.year.toNat, "GMT"]
      (' ' :: front ++ name ++ rest) := .cons (by rw [isBlank_cons, blank]; rfl) (by simp) spread
  obtain ⟨year, -⟩ := fits_of_isWritable written
  have dayNumber := (dayWritten.areDigits written.day).1
  have yearNumber := areDigits_fourDigits year
  have areWords : ∀ part ∈ [name, day, t.clock, fourDigits t.year.toNat, "GMT"],
      part ≠ [] ∧ ∀ c ∈ part, isSpace c = false := by
    simp only [List.forall_mem_cons]
    exact ⟨named.isWord written.month.1 written.month.2,
      ⟨dayNumber.ne_nil, dayNumber.isSpace_of_mem⟩, isWord_clock written,
      ⟨yearNumber.ne_nil, yearNumber.isSpace_of_mem⟩, by simp [ofString_eq, isSpace],
      List.forall_mem_nil _⟩
  have whole := parts.words_eq areWords
  rw [List.append_assoc, List.cons_append, words_cons rfl, ← List.append_assoc] at whole
  rw [whole]
  simp [join, List.intercalate]

/-- The numbers of a time are all that there is to it. -/
theorem same_time (written : t.IsWritable) :
    ({ year := t.year.toNat, month := t.month, day := t.day, hour := t.hour, minute := t.minute
       second := t.second } : CivilTime) = t := by
  rw [CivilTime.natCast_toNat_year written]
  have nanos := written.nanos
  cases t
  simp_all

theorem isYear_of_isWritable (written : t.IsWritable) : isYear t.year.toNat = true := by
  rw [CivilTime.natCast_toNat_year written]
  have year := written.year
  simp only [isYear, Bool.and_eq_true, decide_eq_true_eq]
  omega

theorem after?_colon (rest : Text) : after? ":" (':' :: rest) = some rest :=
  after?_eq_some_iff.mpr (by rw [ofString_eq]; rfl)

/-- Every form of a time is read as the time that it is the form of, if the calendar has it. -/
theorem certificateTime?_of_form (written : t.IsWritable) {text : Text}
    (form : t.IsCertificateForm text) :
    certificateTime? text = if t.isValid then some (t.moment 0) else none := by
  obtain ⟨name, day, named, dayWritten, joined⟩ := join_words_of_isCertificateForm written form
  obtain ⟨year, -, hour, minute, second⟩ := fits_of_isWritable written
  have month (rest : Text) : month? (name ++ rest) = some (t.month, rest) :=
    month?_append written.month.1 written.month.2 named rest
  have dayRead (rest : Text) :
      spacedNumber? 2 (' ' :: (day ++ ' ' :: rest)) = some (t.day, ' ' :: rest) :=
    spacedNumber?_day written.day dayWritten rfl rest
  have spacedHour (rest : Text) : spacedNumber? 2 (' ' :: (twoDigits t.hour ++ rest)) =
      some (t.hour, rest) := spacedNumber?_twoDigits hour rest
  have gmt : after? "GMT" (trimStart (' ' :: "GMT")) = some [] := by decide +kernel
  simp only [certificateTime?, joined, month, dayRead, CivilTime.clock, List.append_assoc,
    List.cons_append, Option.bind_eq_bind, Option.bind_some, spacedHour, after?_colon,
    spacedNumber?_twoDigits minute, spacedNumber?_twoDigits second, year?_fourDigits year, gmt]
  rw [same_time written, isYear_of_isWritable written]
  cases t.isValid <;> rfl

/-! ### The form of RFC 3339 -/

theorem after?_dash (rest : Text) : after? "-" ('-' :: rest) = some rest :=
  after?_eq_some_iff.mpr (by rw [ofString_eq]; rfl)

/-- A zone ends a time, whatever it says. -/
theorem rfc3339Time?_form (written : t.IsWritable) {zone : Text} {offset : Int}
    (whole : '.' ∉ zone.head?) (read : zone? zone = some offset) :
    rfc3339Time? (t.rfc3339Form zone) = if t.isValid then some (t.moment offset) else none := by
  obtain ⟨year, month, hour, minute, second⟩ := fits_of_isWritable written
  have fraction : fraction? zone = some (0, zone) := by
    unfold fraction?
    split
    next behind => exact absurd rfl whole
    next => rfl
  have day (rest : Text) : number? 2 2 (twoDigits t.day ++ rest) = some (t.day, rest) :=
    number?_twoDigits (Nat.le_refl 2) written.day rest
  simp only [rfc3339Time?, day?, clockTime?, CivilTime.rfc3339Form, CivilTime.clock,
    List.append_assoc, List.cons_append, Option.bind_eq_bind, Option.bind_some, Option.pure_def,
    number?_fourDigits (Nat.le_refl 4) year, number?_twoDigits (Nat.le_refl 2) month, day,
    number?_twoDigits (Nat.le_refl 2) hour, number?_twoDigits (Nat.le_refl 2) minute,
    number?_twoDigits (Nat.le_refl 2) second, after?_dash, after?_colon, fraction, read]
  have mark : isTimeMark 'T' = true := rfl
  rw [if_pos mark]
  simp only [CivilTime.midnight, same_time written]
  cases t.isValid <;> rfl

theorem zone?_offsetZone {hours minutes : Nat} (fits : hours < 24) (fits' : minutes < 60) :
    zone? (offsetZone '+' hours minutes) = some (hours * 3600 + minutes * 60 : Int) ∧
      zone? (offsetZone '-' hours minutes) = some (-(hours * 3600 + minutes * 60 : Int)) := by
  have first (rest : Text) : number? 2 2 (twoDigits hours ++ rest) = some (hours, rest) :=
    number?_twoDigits (Nat.le_refl 2) (by omega) rest
  have last : number? 2 2 (twoDigits minutes) = some (minutes, []) := by
    have read := number?_twoDigits (Nat.le_refl 2) (by omega : minutes ≤ 99) []
    rwa [List.append_nil] at read
  constructor <;>
    simp [offsetZone, zone?, first, last, after?_colon, fits, fits']

/-- There is no white space around or in the form. -/
theorem trim_rfc3339Form (written : t.IsWritable) {zone : Text}
    (word : ∀ c ∈ zone, isSpace c = false) : trim (t.rfc3339Form zone) = t.rfc3339Form zone := by
  obtain ⟨year, month, -⟩ := fits_of_isWritable written
  refine trim_of_forall ?_
  simp only [CivilTime.rfc3339Form, List.forall_mem_append, List.forall_mem_cons]
  exact ⟨(areDigits_fourDigits year).isSpace_of_mem, rfl,
    (areDigits_twoDigits month).isSpace_of_mem, rfl,
    (areDigits_twoDigits written.day).isSpace_of_mem, rfl, (isWord_clock written).2, word⟩

/-! ### Both forms -/

/-- What both readers make of a time, and how it compares with another one. -/
structure AgreeOn (t other : CivilTime) : Prop where
  /-- A time that the calendar has is one instant in both forms. -/
  reads : t.HasDay → ∀ line,
    (∀ text, t.IsCertificateForm text → ofCertificate text line = .ok ⟨t.instant, 0⟩) ∧
    ofRfc3339 (t.rfc3339Form "Z") line = .ok ⟨t.instant, 0⟩
  /-- A clock that is ahead of UTC shows a time that has yet to come there. -/
  offset : t.HasDay → ∀ line (hours minutes : Nat), hours < 24 → minutes < 60 →
    ofRfc3339 (t.rfc3339Form (offsetZone '+' hours minutes)) line =
      .ok ⟨t.instant - (hours * 3600 + minutes * 60), 0⟩ ∧
    ofRfc3339 (t.rfc3339Form (offsetZone '-' hours minutes)) line =
      .ok ⟨t.instant + (hours * 3600 + minutes * 60), 0⟩
  /-- A day that its month does not have is reported with the line that it stands in. -/
  refused : ¬ t.HasDay → ∀ line,
    (∀ text, t.IsCertificateForm text →
      ofCertificate text line = .error (.unread (.invalid "date" text) line)) ∧
    ofRfc3339 (t.rfc3339Form "Z") line =
      .error (.unread (.invalid "date" (t.rfc3339Form "Z")) line)
  distinct : t.HasDay → other.HasDay → t ≠ other → t.instant ≠ other.instant
  increasing : t.HasDay → other.HasDay → t.units < other.units → t.instant < other.instant

theorem ofRfc3339_form (written : t.IsWritable) {zone : Text} {offset : Int}
    (word : ∀ c ∈ zone, isSpace c = false) (whole : '.' ∉ zone.head?)
    (read : zone? zone = some offset) (line : Text) :
    ofRfc3339 (t.rfc3339Form zone) line =
      if t.isValid then .ok (t.moment offset)
      else .error (.unread (.invalid "date" (t.rfc3339Form zone)) line) := by
  rw [ofRfc3339, trim_rfc3339Form written word, rfc3339Time?_form written whole read]
  cases t.isValid <;> rfl

theorem ofRfc3339_utc (written : t.IsWritable) (line : Text) :
    ofRfc3339 (t.rfc3339Form "Z") line =
      if t.isValid then .ok (t.moment 0)
      else .error (.unread (.invalid "date" (t.rfc3339Form "Z")) line) :=
  ofRfc3339_form written (by simp [ofString_eq, isSpace]) (by decide +kernel) (by decide +kernel)
    line

theorem ofCertificate_form (written : t.IsWritable) {text : Text}
    (form : t.IsCertificateForm text) (line : Text) :
    ofCertificate text line =
      if t.isValid then .ok (t.moment 0) else .error (.unread (.invalid "date" text) line) := by
  rw [ofCertificate, certificateTime?_of_form written form]
  cases t.isValid <;> rfl

theorem isWord_offsetZone {sign : Char} (mark : isSpace sign = false) {hours minutes : Nat}
    (fits : hours < 24) (fits' : minutes < 60) :
    ∀ c ∈ offsetZone sign hours minutes, isSpace c = false := by
  simp only [offsetZone, List.forall_mem_cons, List.forall_mem_append]
  exact ⟨mark, (areDigits_twoDigits (by omega)).isSpace_of_mem, rfl,
    (areDigits_twoDigits (by omega)).isSpace_of_mem⟩

/-- Both forms of a time name the instant that the calendar gives it, and later times are later
instants. -/
theorem forms_agree {t other : CivilTime} (written : t.IsWritable) (written' : other.IsWritable) :
    AgreeOn t other where
  reads hasDay line := by
    have valid := (CivilTime.isValid_iff written).mpr hasDay
    have moment := CivilTime.moment_eq written hasDay 0
    rw [Int.sub_zero] at moment
    refine ⟨fun text form => ?_, ?_⟩
    · rw [ofCertificate_form written form, if_pos valid, moment]
    · rw [ofRfc3339_utc written, if_pos valid, moment]
  offset hasDay line hours minutes fits fits' := by
    have valid := (CivilTime.isValid_iff written).mpr hasDay
    obtain ⟨ahead, behind⟩ := zone?_offsetZone fits fits'
    rw [ofRfc3339_form written (isWord_offsetZone rfl fits fits') (by simp [offsetZone]) ahead,
      ofRfc3339_form written (isWord_offsetZone rfl fits fits') (by simp [offsetZone]) behind,
      if_pos valid, if_pos valid, CivilTime.moment_eq written hasDay,
      CivilTime.moment_eq written hasDay, Int.sub_neg]
    exact ⟨rfl, rfl⟩
  refused noDay line := by
    have invalid : ¬ t.isValid = true := fun valid =>
      noDay ((CivilTime.isValid_iff written).mp valid)
    refine ⟨fun text form => ?_, ?_⟩
    · rw [ofCertificate_form written form, if_neg invalid]
    · rw [ofRfc3339_utc written, if_neg invalid]
  distinct hasDay hasDay' differ := by
    rcases CivilTime.units_lt_or_gt written written' differ with before | after
    · exact (CivilTime.instant_lt written hasDay written' hasDay' before).ne
    · exact (CivilTime.instant_lt written' hasDay' written hasDay after).ne'
  increasing hasDay hasDay' before :=
    CivilTime.instant_lt written hasDay written' hasDay' before

/-- The last second of a leap day. -/
def leapDay : CivilTime :=
  { year := 2000, month := 2, day := 29, hour := 23, minute := 59, second := 59 }

/-- The same day of a century without a leap day. -/
def noLeapDay : CivilTime := { leapDay with year := 1900 }

def nextDay : CivilTime := .midnight 2000 3 1

/-- One way of writing the leap day: ` feb`, a tab, `29 23:59:59  2000 GMT`, and a newline. -/
def leapDayForm : Text :=
  [' '] ++ "feb" ++ (['\t'] ++ "29" ++ ([' '] ++ leapDay.clock ++
    ([' ', ' '] ++ fourDigits 2000 ++ ([' '] ++ "GMT" ++ ['\n']))))

theorem isCertificateForm_leapDayForm : leapDay.IsCertificateForm leapDayForm := by
  refine ⟨[' '], "feb", "29", _, rfl, ⟨"Feb", rfl, by decide +kernel⟩, .inl (by decide +kernel),
    ?_, rfl⟩
  exact .cons rfl (by simp) <| .cons rfl (by simp) <| .cons rfl (by simp) <|
    .cons rfl (by simp) <| .nil rfl

/-- A leap day is read from both forms and followed by the first of March; where there is none it is
refused in both. -/
theorem forms_agree_leapDay :
    leapDay.HasDay ∧ nextDay.HasDay ∧ ¬ noLeapDay.HasDay ∧
    ofCertificate leapDayForm [] = .ok ⟨951868799, 0⟩ ∧
    ofRfc3339 "2000-02-29T23:59:59Z" [] = .ok ⟨951868799, 0⟩ ∧
    leapDay.instant < nextDay.instant ∧
    AgreeOn leapDay nextDay ∧ AgreeOn noLeapDay leapDay := by
  have written : leapDay.IsWritable := by constructor <;> decide
  have writtenNext : nextDay.IsWritable := by constructor <;> decide
  have writtenNo : noLeapDay.IsWritable := by constructor <;> decide
  have hasDay : leapDay.HasDay := by unfold CivilTime.HasDay; decide
  have hasDayNext : nextDay.HasDay := by unfold CivilTime.HasDay; decide
  have noDay : ¬ noLeapDay.HasDay := by unfold CivilTime.HasDay; decide
  have agree := forms_agree written writtenNext
  have instant : leapDay.instant = 951868799 := by decide +kernel
  have fromCertificate := (agree.reads hasDay []).1 leapDayForm isCertificateForm_leapDayForm
  rw [instant] at fromCertificate
  exact ⟨hasDay, hasDayNext, noDay, fromCertificate, by decide +kernel,
    agree.increasing hasDay hasDayNext (by decide), agree, forms_agree writtenNo written⟩

end Date

end ProxyControl
