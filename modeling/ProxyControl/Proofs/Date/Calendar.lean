import Mathlib.Algebra.BigOperators.Intervals
import Mathlib.Algebra.BigOperators.Ring.Finset
import Mathlib.Algebra.Order.BigOperators.Group.Finset
import Mathlib.Order.Interval.Finset.Nat
import Mathlib.Tactic.IntervalCases
import ProxyControl.Date.Calendar

/-!
# Counting days

The calendar by its rules: so many days in a month, twelve months in a year, and a day more in leap
years. The days up to a date are those of the years and months before it. A later date has more days
before it, and the closed form that moments go by counts the same days.
-/
namespace ProxyControl

namespace Calendar

/-! ### The rules -/

/-- Every fourth year, of the centuries only every fourth. -/
def IsLeapYear (year : Nat) : Prop := 4 ∣ year ∧ (100 ∣ year → 400 ∣ year)

instance (year : Nat) : Decidable (IsLeapYear year) :=
  inferInstanceAs (Decidable (4 ∣ year ∧ (100 ∣ year → 400 ∣ year)))

/-- April, June, September and November have thirty days. -/
def daysIn (year month : Nat) : Nat :=
  if month = 2 then if IsLeapYear year then 29 else 28
  else if month ∈ [4, 6, 9, 11] then 30 else 31

def daysInYear (year : Nat) : Nat := ∑ month ∈ Finset.Ico 1 13, daysIn year month

/-- The days before a date, from the first day of year 0 on. -/
def daysBefore (year month day : Nat) : Nat :=
  ∑ earlier ∈ Finset.range year, daysInYear earlier +
    ∑ earlier ∈ Finset.Ico 1 month, daysIn year earlier + (day - 1)

theorem daysBefore_first (year : Nat) :
    daysBefore year 1 1 = ∑ earlier ∈ Finset.range year, daysInYear earlier := by
  simp [daysBefore]

/-! ### The closed form -/

theorem isLeap_natCast (year : Nat) : isLeap year = decide (IsLeapYear year) := by
  have divides (n : Nat) : (year : Int) % n = 0 ↔ n ∣ year := by
    rw [← Int.natCast_mod, Int.natCast_eq_zero, Nat.dvd_iff_mod_eq_zero]
  have every4 := divides 4
  have every100 := divides 100
  have every400 := divides 400
  push_cast at every4 every100 every400
  rw [Bool.eq_iff_iff]
  simp only [isLeap, IsLeapYear, Bool.and_eq_true, Bool.or_eq_true, beq_iff_eq, bne_iff_ne, ne_eq,
    decide_eq_true_eq, every4, every100, every400, imp_iff_not_or]

theorem daysIn_eq (year month : Nat) : daysIn year month =
    if month = 2 then if isLeap year then 29 else 28
    else if month ∈ [4, 6, 9, 11] then 30 else 31 := by
  simp only [daysIn, isLeap_natCast, decide_eq_true_eq]

theorem monthLength_natCast {year month : Nat} (first : 1 ≤ month) (last : month ≤ 12) :
    monthLength year month = daysIn year month := by
  rw [daysIn_eq]
  unfold monthLength
  generalize isLeap year = leap
  interval_cases month <;> cases leap <;> rfl

theorem daysInYear_eq (year : Nat) : daysInYear year = if IsLeapYear year then 366 else 365 := by
  simp only [daysInYear, daysIn]
  by_cases leap : IsLeapYear year <;> simp [leap] <;> decide

/-- The leap years before a year are counted by its quotients. -/
theorem daysBeforeYear_natCast (year : Nat) :
    daysBeforeYear year = ∑ earlier ∈ Finset.range year, (daysInYear earlier : Int) := by
  induction year with
  | zero => rfl
  | succ year ih =>
    rw [Finset.sum_range_succ, ← ih, daysInYear_eq]
    simp only [daysBeforeYear]
    by_cases leap : IsLeapYear year
    · rw [if_pos leap]
      simp only [IsLeapYear] at leap
      push_cast
      omega
    · rw [if_neg leap]
      simp only [IsLeapYear] at leap
      push_cast
      omega

theorem daysBeforeMonth_natCast {year month : Nat} (first : 1 ≤ month) (last : month ≤ 12) :
    daysBeforeMonth year month = ∑ earlier ∈ Finset.Ico 1 month, daysIn year earlier := by
  simp only [daysIn_eq, daysBeforeMonth]
  generalize isLeap year = leap
  interval_cases month <;> cases leap <;> decide

/-- Days are numbered from the first day of 1970 on. -/
theorem dayNumber_natCast {year month day : Nat} (firstMonth : 1 ≤ month) (lastMonth : month ≤ 12)
    (firstDay : 1 ≤ day) :
    dayNumber year month day = (daysBefore year month day : Int) - daysBefore 1970 1 1 := by
  have epoch : epochDays = (daysBefore 1970 1 1 : Int) := by
    rw [daysBefore_first, Nat.cast_sum]
    exact daysBeforeYear_natCast 1970
  have counted : (daysBefore year month day : Int) =
      daysBeforeYear year + daysBeforeMonth year month + (day - 1 : Int) := by
    rw [daysBefore, daysBeforeYear_natCast, daysBeforeMonth_natCast firstMonth lastMonth]
    simp only [Nat.cast_add, Nat.cast_sum, Nat.cast_sub firstDay, Nat.cast_one]
  rw [dayNumber, epoch, counted]

/-! ### The order of days -/

theorem daysBefore_succ_month {year month : Nat} (first : 1 ≤ month) :
    daysBefore year (month + 1) 1 = daysBefore year month 1 + daysIn year month := by
  rw [daysBefore, daysBefore, Finset.sum_Ico_succ_top first]
  omega

theorem daysBefore_month_mono {year month later : Nat} (le : month ≤ later) :
    daysBefore year month 1 ≤ daysBefore year later 1 := by
  have more : ∑ earlier ∈ Finset.Ico 1 month, daysIn year earlier ≤
      ∑ earlier ∈ Finset.Ico 1 later, daysIn year earlier :=
    Finset.sum_le_sum_of_subset (Finset.Ico_subset_Ico_right le)
  rw [daysBefore, daysBefore]
  omega

/-- A year is over after its twelfth month. -/
theorem daysBefore_succ_year (year : Nat) : daysBefore (year + 1) 1 1 = daysBefore year 13 1 := by
  rw [daysBefore_first, daysBefore, Finset.sum_range_succ, daysInYear, Nat.sub_self, Nat.add_zero]

theorem daysBefore_year_mono {year later : Nat} (le : year ≤ later) :
    daysBefore year 1 1 ≤ daysBefore later 1 1 := by
  rw [daysBefore_first, daysBefore_first]
  exact Finset.sum_le_sum_of_subset (Finset.range_subset_range.mpr le)

theorem daysBefore_day {year month day : Nat} (first : 1 ≤ day) :
    daysBefore year month day + 1 = daysBefore year month 1 + day := by
  rw [daysBefore, daysBefore]
  omega

/-- A day is over before the next month begins. -/
theorem daysBefore_lt_succ_month {year month day : Nat} (firstMonth : 1 ≤ month)
    (firstDay : 1 ≤ day) (lastDay : day ≤ daysIn year month) :
    daysBefore year month day < daysBefore year (month + 1) 1 := by
  rw [daysBefore_succ_month firstMonth]
  have upTo : daysBefore year month day + 1 = daysBefore year month 1 + day :=
    daysBefore_day firstDay
  omega

/-- Later days have more days before them. -/
theorem daysBefore_lt {year month day year' month' day' : Nat}
    (firstMonth : 1 ≤ month) (lastMonth : month ≤ 12) (firstDay : 1 ≤ day)
    (lastDay : day ≤ daysIn year month) (firstMonth' : 1 ≤ month') (firstDay' : 1 ≤ day')
    (before : year < year' ∨ year = year' ∧ (month < month' ∨ month = month' ∧ day < day')) :
    daysBefore year month day < daysBefore year' month' day' := by
  have day_ge : daysBefore year' month' 1 ≤ daysBefore year' month' day' := by
    have upTo : daysBefore year' month' day' + 1 = daysBefore year' month' 1 + day' :=
      daysBefore_day firstDay'
    omega
  have ends := daysBefore_lt_succ_month firstMonth firstDay lastDay
  -- the first number that differs decides: the whole of the earlier year or month is over by then
  rcases before with earlierYear | ⟨rfl, earlierMonth | ⟨rfl, earlierDay⟩⟩
  · calc daysBefore year month day
        < daysBefore year (month + 1) 1 := ends
      _ ≤ daysBefore year 13 1 := daysBefore_month_mono (by omega)
      _ = daysBefore (year + 1) 1 1 := (daysBefore_succ_year year).symm
      _ ≤ daysBefore year' 1 1 := daysBefore_year_mono earlierYear
      _ ≤ daysBefore year' month' 1 := daysBefore_month_mono firstMonth'
      _ ≤ daysBefore year' month' day' := day_ge
  · calc daysBefore year month day
        < daysBefore year (month + 1) 1 := ends
      _ ≤ daysBefore year month' 1 := daysBefore_month_mono earlierMonth
      _ ≤ daysBefore year month' day' := day_ge
  · rw [daysBefore, daysBefore]
    omega

end Calendar

/-! ### Civil times -/

namespace CivilTime

open Calendar

/-- Seconds since the start of 1970, counted from the days before. -/
def instant (t : CivilTime) : Int :=
  ((daysBefore t.year.toNat t.month t.day : Int) - daysBefore 1970 1 1) * 86400 +
    t.hour * 3600 + t.minute * 60 + t.second

/-- Whether a time can be written down: a year of four digits, a month of the twelve, a day of two
digits, and a time of day. -/
structure IsWritable (t : CivilTime) : Prop where
  year : 0 ≤ t.year ∧ t.year ≤ 9999
  month : 1 ≤ t.month ∧ t.month ≤ 12
  day : t.day ≤ 99
  hour : t.hour < 24
  minute : t.minute < 60
  second : t.second < 60
  nanos : t.nanos = 0

/-- Whether the month has the day. -/
def HasDay (t : CivilTime) : Prop := 1 ≤ t.day ∧ t.day ≤ daysIn t.year.toNat t.month

/-- The numbers of a time, the greatest unit first. -/
def units (t : CivilTime) : List Int := [t.year, t.month, t.day, t.hour, t.minute, t.second]

section

variable {t : CivilTime} (written : t.IsWritable)
include written

theorem natCast_toNat_year : (t.year.toNat : Int) = t.year := Int.toNat_of_nonneg written.year.1

theorem isValid_iff : t.isValid = true ↔ t.HasDay := by
  have length : monthLength t.year.toNat t.month = daysIn t.year.toNat t.month :=
    monthLength_natCast written.month.1 written.month.2
  rw [natCast_toNat_year written] at length
  have hour := written.hour
  have minute := written.minute
  have second := written.second
  simp only [isValid, HasDay, length, Bool.and_eq_true, decide_eq_true_eq]
  omega

/-- Moments go by the days before. -/
theorem moment_eq (hasDay : t.HasDay) (offset : Int) :
    t.moment offset = ⟨t.instant - offset, 0⟩ := by
  have days : dayNumber t.year.toNat t.month t.day = _ :=
    dayNumber_natCast written.month.1 written.month.2 hasDay.1
  rw [natCast_toNat_year written] at days
  have second : min t.second 59 = t.second := by
    have second := written.second
    omega
  simp only [moment, days, second, written.nanos, Nat.sub_self, Nat.zero_mul, Nat.add_zero]
  rw [instant]

end

theorem units_lt_iff {t u : CivilTime} : t.units < u.units ↔
    t.year < u.year ∨ t.year = u.year ∧ (t.month < u.month ∨ t.month = u.month ∧
      (t.day < u.day ∨ t.day = u.day ∧ (t.hour < u.hour ∨ t.hour = u.hour ∧
        (t.minute < u.minute ∨ t.minute = u.minute ∧ t.second < u.second)))) := by
  simp [units, List.cons_lt_cons_iff]

/-- What is later has a later instant. -/
theorem instant_lt {t u : CivilTime} (written : t.IsWritable) (hasDay : t.HasDay)
    (written' : u.IsWritable) (hasDay' : u.HasDay) (before : t.units < u.units) :
    t.instant < u.instant := by
  rw [units_lt_iff] at before
  obtain ⟨year, month, -, hour, minute, second, -⟩ := written
  obtain ⟨year', month', -, hour', minute', second', -⟩ := written'
  rw [instant, instant]
  by_cases sameDay : t.year = u.year ∧ t.month = u.month ∧ t.day = u.day
  · -- on one day the time of day decides
    obtain ⟨sameYear, sameMonth, sameDay⟩ := sameDay
    rw [sameYear, sameMonth, sameDay]
    omega
  · have earlier : daysBefore t.year.toNat t.month t.day < daysBefore u.year.toNat u.month u.day :=
      daysBefore_lt month.1 month.2 hasDay.1 hasDay.2 month'.1 hasDay'.1 (by omega)
    omega

/-- Of two times that differ one is later. -/
theorem units_lt_or_gt {t u : CivilTime} (written : t.IsWritable) (written' : u.IsWritable)
    (differ : t ≠ u) : t.units < u.units ∨ u.units < t.units := by
  by_contra neither
  rw [units_lt_iff, units_lt_iff] at neither
  have same : t.year = u.year ∧ t.month = u.month ∧ t.day = u.day ∧ t.hour = u.hour ∧
      t.minute = u.minute ∧ t.second = u.second := by omega
  have nanos : t.nanos = u.nanos := written.nanos.trans written'.nanos.symm
  cases t
  cases u
  simp only [mk.injEq, ne_eq] at differ same nanos
  exact differ ⟨same.1, same.2.1, same.2.2.1, same.2.2.2.1, same.2.2.2.2.1, same.2.2.2.2.2, nanos⟩

end CivilTime

end ProxyControl
