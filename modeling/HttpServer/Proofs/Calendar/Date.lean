import HttpServer.Calendar.Date
import Mathlib.Order.Monotone.Basic
import Mathlib.Tactic.IntervalCases
import Mathlib.Tactic.SplitIfs

/-!
# Dates are counted back

The date of a day is found by counting from 1 March of the year 0, and a date is counted by the days
of whole years and months before it. The two agree: every day has a valid date, and the count of
that date is the day. In years that start in March a leap day comes last, so the date of a day is
that of a day of the year (`Date.ofMarch`), and what is left is to find the year and the month.

A cycle of 400 years consists of centuries, of groups of four years, and of years. The lengths of
these are not quite equal; the exceptions are at the end of a century and of a group, and the year
of a day is corrected for them (`Date.yearOfCycle_parts`).

## Main definitions

* `Date.yearLength`: the number of days of a year.
* `Date.ofMarch`: the date of a day of a year that starts in March.
* `Date.next`: the date that follows in the calendar.

## Main results

* `Date.yearOfCycle_spec`, `Date.monthOfYear_spec`: the year and the month of a day.
* `Date.isValid_ofDay`, `Date.toDay_ofDay`: the date of a day is valid, and is counted back.
* `Date.IsValid.toDay_next`: the count of a date is that of the days of the calendar.
* `Date.le_year_ofDay_iff`: the days from the start of a year on.
-/

namespace HttpServer

namespace Date

/-! ### Years -/

/-- The number of days of a year. -/
def yearLength (year : Int) : Nat :=
  if isLeapYear year then 366 else 365

theorem isLeapYear_iff {year : Int} :
    isLeapYear year = true ↔ year % 4 = 0 ∧ (year % 100 ≠ 0 ∨ year % 400 = 0) := by
  simp only [isLeapYear, Bool.and_eq_true, Bool.or_eq_true, beq_iff_eq, bne_iff_ne]

theorem daysBeforeStart_succ (year : Int) :
    daysBeforeStart (year + 1) = daysBeforeStart year + yearLength year := by
  simp only [daysBeforeStart, yearLength, isLeapYear_iff]
  split <;> omega

theorem daysBeforeStart_mono {y z : Int} (h : y ≤ z) : daysBeforeStart y ≤ daysBeforeStart z := by
  simp only [daysBeforeStart]
  omega

/-- Whole cycles and the years of the last one. -/
theorem daysBeforeStart_cycle (cycle : Int) (year : Nat) :
    daysBeforeStart (cycle * 400 + year + 1) =
      cycle * cycleDays + (daysBeforeYear year + year / 400 : Nat) := by
  simp only [daysBeforeStart, cycleDays, daysBeforeYear]
  omega

/-- A day of a cycle is counted by centuries, by groups of four years in the century, by years in
the group, and by days. Only the last year of a group has a last day more, and the last group of a
century only if the century is the last one. -/
theorem exists_parts {day : Nat} (h : day < 146097) : ∃ c q s d : Nat,
    day = 36524 * c + 1461 * q + 365 * s + d ∧ c ≤ 3 ∧ q ≤ 24 ∧ s ≤ 3 ∧
      (d < 365 ∨ d = 365 ∧ s = 3 ∧ (q < 24 ∨ c = 3)) := by
  obtain ⟨c, r, hday, hc, hr⟩ : ∃ c r : Nat, day = 36524 * c + r ∧ c ≤ 3 ∧
      (r < 36524 ∨ r = 36524 ∧ c = 3) := by
    by_cases hlast : day = 146096
    · exact ⟨3, 36524, by omega⟩
    · exact ⟨day / 36524, day % 36524, by omega⟩
  obtain ⟨s, d, hsd, hs, hd⟩ : ∃ s d : Nat, r % 1461 = 365 * s + d ∧ s ≤ 3 ∧
      (d < 365 ∨ d = 365 ∧ s = 3) := by
    by_cases hlast : r % 1461 = 1460
    · exact ⟨3, 365, by omega⟩
    · exact ⟨r % 1461 / 365, r % 1461 % 365, by omega⟩
  exact ⟨c, r / 1461, s, d, by omega⟩

theorem yearOfCycle_parts {c q s d : Nat} (hc : c ≤ 3) (hq : q ≤ 24) (hs : s ≤ 3)
    (hd : d < 365 ∨ d = 365 ∧ s = 3 ∧ (q < 24 ∨ c = 3)) :
    yearOfCycle (36524 * c + 1461 * q + 365 * s + d) = 100 * c + 4 * q + s := by
  generalize hday : 36524 * c + 1461 * q + 365 * s + d = day
  rw [yearOfCycle]
  by_cases hlast : day = 146096
  · subst hlast
    omega
  · have hcentury : day / 36524 = c := by omega
    have hcycle : day / 146096 = 0 := by omega
    by_cases hlate : 1460 ≤ 24 * c + q + 365 * s + d
    · have hgroup : day / 1460 = 25 * c + q + 1 := by omega
      omega
    · have hgroup : day / 1460 = 25 * c + q := by omega
      omega

theorem daysBeforeYear_parts {c q s : Nat} (hq : q ≤ 24) (hs : s ≤ 3) :
    daysBeforeYear (100 * c + 4 * q + s) = 36524 * c + 1461 * q + 365 * s := by
  rw [daysBeforeYear]
  omega

/-- **The year of a day** starts on that day or before it, and the next year starts later. -/
theorem yearOfCycle_spec {day : Nat} (h : day < 146097) :
    yearOfCycle day < 400 ∧ daysBeforeYear (yearOfCycle day) ≤ day ∧
      day < daysBeforeYear (yearOfCycle day + 1) + (yearOfCycle day + 1) / 400 := by
  obtain ⟨c, q, s, d, rfl, hc, hq, hs, hd⟩ := exists_parts h
  rw [yearOfCycle_parts hc hq hs hd, daysBeforeYear_parts hq hs]
  refine ⟨by omega, by omega, ?_⟩
  -- The next year is one of the same group, or starts a group, a century or a cycle.
  have hnext : s < 3 ∨ s = 3 ∧ q < 24 ∨ s = 3 ∧ q = 24 ∧ c < 3 ∨ s = 3 ∧ q = 24 ∧ c = 3 := by
    omega
  rcases hnext with hs | ⟨rfl, hq⟩ | ⟨rfl, rfl, hc⟩ | ⟨rfl, rfl, rfl⟩
  · have hyear : 100 * c + 4 * q + s + 1 = 100 * c + 4 * q + (s + 1) := rfl
    rw [hyear, daysBeforeYear_parts hq hs]
    omega
  · have hyear : 100 * c + 4 * q + 3 + 1 = 100 * c + 4 * (q + 1) + 0 := by omega
    rw [hyear, daysBeforeYear_parts hq (Nat.zero_le 3)]
    omega
  · have hyear : 100 * c + 4 * 24 + 3 + 1 = 100 * (c + 1) + 4 * 0 + 0 := by omega
    rw [hyear, daysBeforeYear_parts (Nat.zero_le 24) (Nat.zero_le 3)]
    omega
  · have hcycle : daysBeforeYear (100 * 3 + 4 * 24 + 3 + 1) = 146096 := rfl
    omega

/-! ### Months -/

/-- **The month of a day** starts on that day or before it, and the next month starts later. -/
theorem monthOfYear_spec {day : Nat} (h : day < 366) :
    monthOfYear day < 12 ∧ daysBeforeMonth (monthOfYear day) ≤ day ∧
      day < daysBeforeMonth (monthOfYear day + 1) := by
  simp only [monthOfYear, daysBeforeMonth]
  omega

/-- From March on, the days before a month are those from March on and those up to March. -/
theorem daysBefore_march (year : Int) {month : Nat} (h : month < 10) :
    daysBefore year (month + 3) + 306 = daysBeforeMonth month + yearLength year := by
  interval_cases month <;> simp [daysBefore, monthLength, daysBeforeMonth, yearLength] <;>
    split <;> rfl

theorem monthLength_march (year : Int) {month : Nat} (h : month < 10) :
    daysBeforeMonth (month + 1) = daysBeforeMonth month + monthLength year (month + 3) := by
  interval_cases month <;> rfl

/-! ### Years that start in March -/

/-- The date of a day of the year that starts in March of `year`. -/
def ofMarch (year : Int) (day : Nat) : Date :=
  let month := monthOfYear day
  let dayOfMonth := day - daysBeforeMonth month + 1
  if month < 10 then ⟨year, month + 3, dayOfMonth⟩ else ⟨year + 1, month - 9, dayOfMonth⟩

section OfMarch

variable {year : Int} {day : Nat} (h : day < yearLength (year + 1))

theorem yearLength_le (year : Int) : yearLength year ≤ 366 := by
  rw [yearLength]
  split <;> decide

/-- A day of January or February belongs to the end of the year before. -/
theorem monthOfYear_winter {month : Nat} (hmonth : month < 12) (hten : ¬month < 10) :
    month = 10 ∨ month = 11 := by
  omega

include h in
theorem isValid_ofMarch : (ofMarch year day).IsValid := by
  obtain ⟨hmonth, hle, hlt⟩ := monthOfYear_spec (Nat.lt_of_lt_of_le h (yearLength_le _))
  rw [ofMarch]
  generalize monthOfYear day = month at hmonth hle hlt
  split
  · rename_i hten
    rw [monthLength_march year hten] at hlt
    show 1 ≤ month + 3 ∧ month + 3 ≤ 12 ∧ 1 ≤ day - daysBeforeMonth month + 1 ∧
      day - daysBeforeMonth month + 1 ≤ monthLength year (month + 3)
    omega
  · rename_i hten
    obtain rfl | rfl := monthOfYear_winter hmonth hten
    · have hstart : daysBeforeMonth 10 = 306 := rfl
      have hnext : daysBeforeMonth (10 + 1) = 337 := rfl
      show 1 ≤ 1 ∧ 1 ≤ 12 ∧ 1 ≤ day - daysBeforeMonth 10 + 1 ∧ day - daysBeforeMonth 10 + 1 ≤ 31
      omega
    · have hstart : daysBeforeMonth 11 = 337 := rfl
      have hlength : monthLength (year + 1) 2 + 337 = yearLength (year + 1) := by
        rw [monthLength, yearLength, if_pos rfl]
        split <;> rfl
      show 1 ≤ 2 ∧ 2 ≤ 12 ∧ 1 ≤ day - daysBeforeMonth 11 + 1 ∧
        day - daysBeforeMonth 11 + 1 ≤ monthLength (year + 1) 2
      omega

include h in
theorem toDay_ofMarch :
    (ofMarch year day).toDay = daysBeforeStart (year + 1) + day + marchOfYearZero := by
  obtain ⟨hmonth, hle, -⟩ := monthOfYear_spec (Nat.lt_of_lt_of_le h (yearLength_le _))
  have hzero : marchOfYearZero = -719468 := rfl
  rw [ofMarch]
  generalize monthOfYear day = month at hmonth hle
  split
  · rename_i hten
    have hstart := daysBeforeStart_succ year
    have hmarch := daysBefore_march year hten
    simp only [toDay]
    omega
  · rename_i hten
    obtain rfl | rfl := monthOfYear_winter hmonth hten
    · have hstart : daysBeforeMonth 10 = 306 := rfl
      have hbefore : daysBefore (year + 1) (10 - 9) = 0 := rfl
      simp only [toDay]
      omega
    · have hstart : daysBeforeMonth 11 = 337 := rfl
      have hbefore : daysBefore (year + 1) (11 - 9) = 31 := rfl
      simp only [toDay]
      omega

end OfMarch

/-! ### The date of a day -/

/-- Every day is a day of a year that starts in March. -/
theorem exists_ofMarch (n : Int) : ∃ (year : Int) (day : Nat), ofDay n = ofMarch year day ∧
    day < yearLength (year + 1) ∧ n = daysBeforeStart (year + 1) + day + marchOfYearZero := by
  generalize hcount : n - marchOfYearZero = count
  have hnonneg : 0 ≤ count % cycleDays := Int.emod_nonneg _ (by decide)
  have hlt : count % cycleDays < 146097 := Int.emod_lt_of_pos _ (by decide)
  have hsplit : count / cycleDays * cycleDays + count % cycleDays = count :=
    Int.ediv_mul_add_emod count cycleDays
  have hdate : ofDay n = ofMarch (count / cycleDays * 400 + yearOfCycle (count % cycleDays).toNat)
      ((count % cycleDays).toNat - daysBeforeYear (yearOfCycle (count % cycleDays).toNat)) := by
    rw [ofDay, hcount]
    rfl
  generalize count / cycleDays = cycle at hsplit hdate
  generalize count % cycleDays = rest at hnonneg hlt hsplit hdate
  obtain ⟨day, rfl⟩ := Int.eq_ofNat_of_zero_le hnonneg
  rw [Int.toNat_natCast] at hdate
  obtain ⟨hyear, hle, hnext⟩ := yearOfCycle_spec (Int.ofNat_lt.1 hlt)
  generalize yearOfCycle day = year at hyear hle hnext hdate
  have hthis := daysBeforeStart_cycle cycle year
  have hthat := daysBeforeStart_cycle cycle (year + 1)
  have hstep : cycle * 400 + ((year + 1 : Nat) : Int) + 1 = cycle * 400 + year + 1 + 1 := by omega
  rw [hstep, daysBeforeStart_succ] at hthat
  exact ⟨_, _, hdate, by omega, by omega⟩

theorem isValid_ofDay (n : Int) : (ofDay n).IsValid := by
  obtain ⟨year, day, hdate, hday, -⟩ := exists_ofMarch n
  rw [hdate]
  exact isValid_ofMarch hday

/-- **A day is counted back from its date.** -/
theorem toDay_ofDay (n : Int) : (ofDay n).toDay = n := by
  obtain ⟨year, day, hdate, hday, hn⟩ := exists_ofMarch n
  rw [hdate, toDay_ofMarch hday, hn]

/-! ### Days in their order -/

/-- 1 January of a year. -/
def newYear (year : Int) : Date := ⟨year, 1, 1⟩

/-- The date that follows in the calendar. -/
def next (d : Date) : Date :=
  if d.day < monthLength d.year d.month then ⟨d.year, d.month, d.day + 1⟩
  else if d.month < 12 then ⟨d.year, d.month + 1, 1⟩
  else newYear (d.year + 1)

theorem daysBefore_succ (year : Int) {month : Nat} (h : 1 ≤ month) :
    daysBefore year (month + 1) = daysBefore year month + monthLength year month := by
  obtain ⟨month, rfl⟩ := Nat.exists_eq_add_of_le' h
  rfl

/-- The days before the end of December are those of the whole year. -/
theorem daysBefore_thirteen (year : Int) : daysBefore year 13 = yearLength year := by
  have hmarch : daysBefore year 12 + 306 = daysBeforeMonth 9 + yearLength year :=
    daysBefore_march year (by decide)
  have hstart : daysBeforeMonth 9 = 275 := rfl
  have hdecember : daysBefore year 13 = daysBefore year 12 + 31 := rfl
  omega

theorem daysBefore_mono (year : Int) : Monotone (daysBefore year) := by
  refine monotone_nat_of_le_succ fun month => ?_
  cases month with
  | zero => exact Nat.zero_le _
  | succ month => exact Nat.le_add_right _ _

theorem toDay_newYear (year : Int) : (newYear year).toDay = daysBeforeStart year - 719162 := by
  have hbefore : daysBefore year 1 = 0 := rfl
  simp only [newYear, toDay, hbefore]
  omega

theorem toDay_newYear_1970 : (newYear 1970).toDay = 0 := rfl

/-- **The days of the calendar are counted one by one.** -/
theorem IsValid.toDay_next {d : Date} (h : d.IsValid) : d.next.toDay = d.toDay + 1 := by
  obtain ⟨hmonth, hmonth', -, hday⟩ := h
  have hbefore := daysBefore_succ d.year hmonth
  rw [next]
  split_ifs with hinside hyear
  · simp only [toDay]
    omega
  · simp only [toDay, hbefore]
    omega
  · have hdecember : d.month = 12 := by omega
    have hlength := daysBefore_thirteen d.year
    rw [hdecember] at hbefore hday hinside
    rw [toDay_newYear, daysBeforeStart_succ, ← hlength, hbefore, toDay, hdecember]
    omega

theorem monthLength_le (year : Int) (month : Nat) : monthLength year month ≤ 31 := by
  rw [monthLength]
  split_ifs <;> decide

/-- A valid date lies in its year. -/
theorem IsValid.toDay_mem_year {d : Date} (h : d.IsValid) :
    (newYear d.year).toDay ≤ d.toDay ∧ d.toDay < (newYear (d.year + 1)).toDay := by
  obtain ⟨hmonth, hmonth', hday, hday'⟩ := h
  have hbefore := daysBefore_succ d.year hmonth
  have hlength : daysBefore d.year (d.month + 1) ≤ yearLength d.year :=
    daysBefore_thirteen d.year ▸ daysBefore_mono d.year (Nat.succ_le_succ hmonth')
  rw [toDay_newYear, toDay_newYear, daysBeforeStart_succ, toDay]
  omega

/-- **The year of a day** is at least each year whose first day it has reached. -/
theorem le_year_ofDay_iff {year n : Int} : year ≤ (ofDay n).year ↔ (newYear year).toDay ≤ n := by
  obtain ⟨hstart, hend⟩ := (isValid_ofDay n).toDay_mem_year
  rw [toDay_ofDay, toDay_newYear] at hstart hend
  rw [toDay_newYear]
  constructor
  · intro hle
    have hmono := daysBeforeStart_mono hle
    omega
  · intro hn
    by_contra hlt
    have hmono := daysBeforeStart_mono (show (ofDay n).year + 1 ≤ year by omega)
    omega

end Date

end HttpServer
