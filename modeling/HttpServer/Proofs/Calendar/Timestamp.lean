import HttpServer.Calendar.Timestamp
import HttpServer.Proofs.Calendar.Date
import HttpServer.Proofs.Text.Numeral
import HttpServer.Proofs.Text.Split

/-!
# Date texts denote their instants

The text of an instant is read back as a weekday, a date and a time of day. What is read exists in
the calendar and on the clock, and counting its days and its seconds gives the second of the instant
back: the day because a day is counted back from its date, the time because it is the remainder of
the seconds by those of a day, split by hours and minutes. A leap second is written as the second 60
and is counted as the second 59, behind which it comes. As the reading gives the second, instants in
different seconds have different texts.

## Main definitions

* `Timestamp.IsAccepted`: the instants that have a text.
* `Timestamp.Reading`, `Timestamp.Reading.read?`: what a text says, and its reader.
* `Timestamp.Reading.IsValid`, `Timestamp.Reading.seconds`: the readings that exist, and the second
  that a reading stands for.

## Main results

* `Timestamp.isValid_iff`: the instants that have a text.
* `Timestamp.read?_dateText`: a text is read back.
* `Timestamp.seconds_reading`: what is read stands for the second of the instant.
* `Timestamp.httpDate_denotes`: all of it together.
-/

namespace HttpServer

namespace Timestamp

/-! ### The accepted instants -/

/-- The instant lies in a year from -262143 to 262142, and what lies in a leap second lies behind
the last second of a minute. -/
structure IsAccepted (t : Timestamp) : Prop where
  le_seconds : (Date.newYear (-262143)).toDay * 86400 ≤ t.seconds
  seconds_lt : t.seconds < (Date.newYear 262143).toDay * 86400
  nanos_lt : t.nanos < 2000000000
  ends_minute : 1000000000 ≤ t.nanos → t.seconds % 60 = 59

theorem isValid_iff {t : Timestamp} : t.isValid = true ↔ t.IsAccepted := by
  have hfirst : (Date.newYear (-262143)).toDay * 86400 = first := rfl
  have hlast : (Date.newYear 262143).toDay * 86400 = last + 1 := rfl
  have hleap : (!t.isLeap || t.second == 59) = true ↔
      (1000000000 ≤ t.nanos → t.seconds % 60 = 59) := by
    rw [Bool.or_eq_true, Bool.not_eq_true', isLeap, decide_eq_false_iff_not, beq_iff_eq, second]
    omega
  rw [isValid, Bool.and_eq_true, Bool.and_eq_true, Bool.and_eq_true, hleap, decide_eq_true_eq,
    decide_eq_true_eq, decide_eq_true_eq]
  constructor
  · rintro ⟨⟨⟨hle, hlt⟩, hnanos⟩, hminute⟩
    exact ⟨by omega, by omega, hnanos, hminute⟩
  · rintro ⟨hle, hlt, hnanos, hminute⟩
    exact ⟨⟨⟨by omega, by omega⟩, hnanos⟩, hminute⟩

/-! ### The reader -/

/-- What a date text says. -/
structure Reading where
  /-- The day of the week, counted from Monday. -/
  weekday : Nat
  /-- The date. -/
  date : Date
  /-- The hour of the day. -/
  hour : Nat
  /-- The minute of the hour. -/
  minute : Nat
  /-- The second of the minute. -/
  second : Nat
  deriving DecidableEq, Repr

/-- A number of two digits. -/
def readField? (t : Text) : Option Nat :=
  if t.length = 2 then readDecimal? 99 t else none

/-- A number of four digits, or of five or six without a zero in front. -/
def readLong? (t : Text) : Option Nat :=
  if t.length = 4 ∨ 4 < t.length ∧ t.head? ≠ some '0' then readDecimal? 999999 t else none

/-- A year, which has a sign if and only if it is not among those from 0 to 9999. -/
def readYear? : Text → Option Int
  | '-' :: t => ((readLong? t).filter fun n => 0 < n).map fun n : Nat => -(n : Int)
  | '+' :: t => ((readLong? t).filter fun n => 9999 < n).map fun n : Nat => (n : Int)
  | t => ((readLong? t).filter fun n => n ≤ 9999).map fun n : Nat => (n : Int)

/-- A name by its place among others. -/
def readName? (names : List Text) (t : Text) : Option Nat :=
  names.idxOf? t

/-- A field up to its separator, and what follows that. -/
def readUpTo? {α : Type} (sep : Char) (read? : Text → Option α) (t : Text) : Option (α × Text) := do
  let (field, t) ← splitOnce? sep t
  let value ← read? field
  some (value, t)

/-- A weekday with a date, and what follows them. -/
def readDate? (t : Text) : Option ((Nat × Date) × Text) := do
  let (weekday, t) ← readUpTo? ',' (readName? weekdays) t
  let t ← dropLead? " ".toList t
  let (day, t) ← readUpTo? ' ' readField? t
  let (month, t) ← readUpTo? ' ' (readName? months) t
  let (year, t) ← readUpTo? ' ' readYear? t
  some ((weekday, ⟨year, month + 1, day⟩), t)

/-- What a text says, if it is a date text. -/
def Reading.read? (t : Text) : Option Reading := do
  let ((weekday, date), t) ← readDate? t
  let (hour, t) ← readUpTo? ':' readField? t
  let (minute, t) ← readUpTo? ':' readField? t
  let (second, t) ← readUpTo? ' ' readField? t
  if t = "GMT".toList then some ⟨weekday, date, hour, minute, second⟩ else none

example : Reading.read? "Sun, 06 Nov 1994 08:49:37 GMT".toList =
    some ⟨6, ⟨1994, 11, 6⟩, 8, 49, 37⟩ := by
  decide

/-- The weekday is that of the date, and the date and the time of day exist. The second 60 is that
of a leap second. -/
structure Reading.IsValid (r : Reading) : Prop where
  weekday : (r.weekday : Int) = (r.date.toDay + 3) % 7
  date : r.date.IsValid
  hour : r.hour < 24
  minute : r.minute < 60
  second : r.second ≤ 60

/-- The second that a reading stands for. A leap second stands for the second before it. -/
def Reading.seconds (r : Reading) : Int :=
  r.date.toDay * 86400 + (3600 * r.hour + 60 * r.minute + min r.second 59 : Nat)

/-! ### Fields are read back -/

theorem readUpTo?_append {α : Type} {sep : Char} {read? : Text → Option α} {field : Text} {x : α}
    (h : sep ∉ field) (hread : read? field = some x) (t : Text) :
    readUpTo? sep read? (field ++ sep :: t) = some (x, t) := by
  simp only [readUpTo?, splitOnce?_append h, Option.bind_eq_bind, Option.bind_some, hread]

theorem readUpTo?_number {sep : Char} (hsep : ∀ d < 10, digit d ≠ sep) {n : Nat} (h : n < 100)
    (t : Text) : readUpTo? sep readField? (decimalPadded 2 n ++ sep :: t) = some (n, t) := by
  refine readUpTo?_append (notMem_decimalPadded hsep 2 n) ?_ t
  rw [readField?, if_pos (length_decimalPadded (by decide) h),
    readDecimal?_decimalPadded (Nat.le_of_lt_succ h)]

theorem readUpTo?_weekday {weekday : Nat} (h : weekday < 7) (t : Text) :
    readUpTo? ',' (readName? weekdays) (weekdays.getD weekday [] ++ ',' :: t) =
      some (weekday, t) := by
  have hname : ',' ∉ weekdays.getD weekday [] ∧
      readName? weekdays (weekdays.getD weekday []) = some weekday := by
    interval_cases weekday <;> decide
  exact readUpTo?_append hname.1 hname.2 t

theorem readUpTo?_month {month : Nat} (h : month < 12) (t : Text) :
    readUpTo? ' ' (readName? months) (months.getD month [] ++ ' ' :: t) = some (month, t) := by
  have hname : ' ' ∉ months.getD month [] ∧
      readName? months (months.getD month []) = some month := by
    interval_cases month <;> decide
  exact readUpTo?_append hname.1 hname.2 t

theorem readLong?_decimalPadded {n : Nat} (h : n ≤ 999999) :
    readLong? (decimalPadded 4 n) = some n := by
  have hlong : (decimalPadded 4 n).length = 4 ∨
      4 < (decimalPadded 4 n).length ∧ (decimalPadded 4 n).head? ≠ some '0' := by
    by_cases hshort : n < 10 ^ 4
    · exact .inl (length_decimalPadded (by decide) hshort)
    · obtain ⟨hdecimal, hlength⟩ := decimalPadded_of_le (by decide) (Nat.not_lt.1 hshort)
      rw [hdecimal]
      exact .inr ⟨hlength, head?_decimal_ne (by omega)⟩
  rw [readLong?, if_pos hlong, readDecimal?_decimalPadded h]

/-- A numeral has no sign. -/
theorem readYear?_decimalPadded {n : Nat} (h : n ≤ 9999) :
    readYear? (decimalPadded 4 n) = some (n : Int) := by
  rw [readYear?.eq_def]
  split
  · rename_i ht
    exact absurd (ht ▸ List.mem_cons_self) (notMem_decimalPadded (by decide) 4 n)
  · rename_i ht
    exact absurd (ht ▸ List.mem_cons_self) (notMem_decimalPadded (by decide) 4 n)
  · rw [readLong?_decimalPadded (by omega), Option.filter_some, if_pos (decide_eq_true h)]
    rfl

theorem readYear?_yearText {year : Int} (h : year.natAbs ≤ 999999) :
    readYear? (yearText year) = some year := by
  rw [yearText]
  split_ifs with hneg hshort
  · have hpos : 0 < year.natAbs := by omega
    rw [readYear?, readLong?_decimalPadded h, Option.filter_some, if_pos (decide_eq_true hpos),
      Option.map_some, Option.some_inj]
    omega
  · rw [readYear?_decimalPadded (by omega), Option.some_inj]
    omega
  · have hlong : 9999 < year.natAbs := by omega
    rw [readYear?, readLong?_decimalPadded h, Option.filter_some, if_pos (decide_eq_true hlong),
      Option.map_some, Option.some_inj]
    omega

theorem readUpTo?_year {year : Int} (h : year.natAbs ≤ 999999) (t : Text) :
    readUpTo? ' ' readYear? (yearText year ++ ' ' :: t) = some (year, t) := by
  have hspace : ' ' ∉ yearText year := by
    have hdigits := notMem_decimalPadded (c := ' ') (by decide) 4 year.natAbs
    rw [yearText]
    split_ifs
    · simp [hdigits]
    · exact hdigits
    · simp [hdigits]
  exact readUpTo?_append hspace (readYear?_yearText h) t

/-- **A date is read back** with its weekday, in front of anything. -/
theorem readDate?_append {weekday : Nat} {date : Date} (hweekday : weekday < 7)
    (hdate : date.IsValid) (hyear : date.year.natAbs ≤ 999999) (t : Text) :
    readDate? (weekdays.getD weekday [] ++ ',' :: (" ".toList ++ (decimalPadded 2 date.day ++ ' ' ::
      (months.getD (date.month - 1) [] ++ ' ' :: (yearText date.year ++ ' ' :: t))))) =
        some ((weekday, date), t) := by
  obtain ⟨hmonth, hmonth', -, hday⟩ := hdate
  have hlength := Date.monthLength_le date.year date.month
  have hmonths : date.month - 1 < 12 := by omega
  have hdays : date.day < 100 := by omega
  have hnumber : date.month - 1 + 1 = date.month := by omega
  simp only [readDate?, Option.bind_eq_bind, Option.bind_some, readUpTo?_weekday hweekday,
    dropLead?_append, readUpTo?_number (by decide : ∀ d < 10, digit d ≠ ' ') hdays,
    readUpTo?_month hmonths, readUpTo?_year hyear, hnumber]

/-- What the text of an instant says. -/
def reading (t : Timestamp) : Reading where
  weekday := Date.weekday t.day
  date := Date.ofDay t.day
  hour := t.secondOfDay / 3600
  minute := t.secondOfDay / 60 % 60
  second := t.secondOfDay % 60 + if t.isLeap then 1 else 0

/-- The text of an instant, one field in front of the rest. -/
theorem dateText_eq (t : Timestamp) : t.dateText =
    weekdays.getD t.reading.weekday [] ++ ',' :: (" ".toList ++
      (decimalPadded 2 t.reading.date.day ++ ' ' ::
        (months.getD (t.reading.date.month - 1) [] ++ ' ' ::
          (yearText t.reading.date.year ++ ' ' ::
            (decimalPadded 2 t.reading.hour ++ ':' ::
              (decimalPadded 2 t.reading.minute ++ ':' ::
                (decimalPadded 2 t.reading.second ++ ' ' :: "GMT".toList))))))) := by
  simp only [dateText, List.append_assoc, List.cons_append]
  rfl

/-! ### Texts are read back -/

theorem date_reading (t : Timestamp) : t.reading.date.toDay = t.day :=
  Date.toDay_ofDay t.day

/-- What the text of an instant says exists in the calendar and on the clock. -/
theorem isValid_reading (t : Timestamp) : t.reading.IsValid where
  weekday := by
    rw [date_reading]
    exact Int.toNat_of_nonneg (Int.emod_nonneg _ (by decide))
  date := Date.isValid_ofDay t.day
  hour := by
    show t.secondOfDay / 3600 < 24
    rw [secondOfDay]
    omega
  minute := Nat.mod_lt _ (by decide)
  second := by
    show t.secondOfDay % 60 + _ ≤ 60
    split <;> omega

section Accepted

variable {t : Timestamp} (h : t.IsAccepted)

include h in
theorem year_reading : -262143 ≤ t.reading.date.year ∧ t.reading.date.year ≤ 262142 := by
  have hday : t.day = t.seconds / 86400 := rfl
  have hfirst := h.le_seconds
  have hlast := h.seconds_lt
  have hlow : -262143 ≤ (Date.ofDay t.day).year := Date.le_year_ofDay_iff.2 (by omega)
  have hhigh : ¬262143 ≤ (Date.ofDay t.day).year := fun hle => by
    have hreached := Date.le_year_ofDay_iff.1 hle
    omega
  exact ⟨hlow, Int.lt_add_one_iff.1 (Int.not_le.1 hhigh)⟩

include h in
/-- **A date text is read back.** -/
theorem read?_dateText : Reading.read? t.dateText = some t.reading := by
  obtain ⟨hlow, hhigh⟩ := year_reading h
  obtain ⟨hweekday, hdate, hhour, hminute, hsecond⟩ := isValid_reading t
  have hread := readDate?_append (show t.reading.weekday < 7 by omega) hdate (by omega)
  have hspace : ∀ d < 10, digit d ≠ ' ' := by decide
  have hcolon : ∀ d < 10, digit d ≠ ':' := by decide
  rw [dateText_eq]
  simp only [Reading.read?, Option.bind_eq_bind, Option.bind_some, hread,
    readUpTo?_number hcolon (show t.reading.hour < 100 by omega),
    readUpTo?_number hcolon (show t.reading.minute < 100 by omega),
    readUpTo?_number hspace (show t.reading.second < 100 by omega), if_true]

include h in
theorem second_reading : t.reading.second = 60 ↔ 1000000000 ≤ t.nanos := by
  have hleap := h.ends_minute
  show t.secondOfDay % 60 + (if t.isLeap then 1 else 0) = 60 ↔ _
  rw [isLeap, secondOfDay]
  simp only [decide_eq_true_eq]
  split <;> omega

include h in
/-- **What is read stands for the second of the instant.** -/
theorem seconds_reading : t.reading.seconds = t.seconds := by
  have hleap := h.ends_minute
  have hday : t.day = t.seconds / 86400 := rfl
  rw [Reading.seconds, date_reading]
  show t.day * 86400 + (3600 * (t.secondOfDay / 3600) + 60 * (t.secondOfDay / 60 % 60) +
    min (t.secondOfDay % 60 + if t.isLeap then 1 else 0) 59 : Nat) = t.seconds
  rw [isLeap, secondOfDay]
  simp only [decide_eq_true_eq]
  split <;> omega

end Accepted

/-! ### Texts and instants -/

theorem httpDate?_of_isAccepted {t : Timestamp} (h : t.IsAccepted) :
    t.httpDate? = some t.dateText := by
  rw [httpDate?, if_pos (isValid_iff.2 h)]

theorem isSome_httpDate?_iff {t : Timestamp} : t.httpDate?.isSome = true ↔ t.IsAccepted := by
  rw [httpDate?, ← isValid_iff, Option.isSome_ite]

/-- **A text is that of one second only.** -/
theorem seconds_eq_of_httpDate?_eq {t u : Timestamp} (ht : t.IsAccepted) (hu : u.IsAccepted)
    (h : t.httpDate? = u.httpDate?) : t.seconds = u.seconds := by
  rw [httpDate?_of_isAccepted ht, httpDate?_of_isAccepted hu, Option.some_inj] at h
  have hreading : some t.reading = some u.reading := by
    rw [← read?_dateText ht, ← read?_dateText hu, h]
  rw [← seconds_reading ht, ← seconds_reading hu, Option.some_inj.1 hreading]

/-- **A date text denotes its instant.** An instant has a text if it lies in the accepted range.
What the text says exists in the calendar and on the clock, with the weekday of its date, and stands
for the second of the instant; the second is 60 in a leap second and nowhere else. So instants in
different seconds have different texts. The days of the dates are counted one by one from
1 January 1970. -/
theorem httpDate_denotes (t : Timestamp) :
    (t.httpDate?.isSome = true ↔ t.IsAccepted) ∧
      (t.IsAccepted → ∃ text r, t.httpDate? = some text ∧ Reading.read? text = some r ∧
        r.IsValid ∧ (-262143 ≤ r.date.year ∧ r.date.year ≤ 262142) ∧ r.seconds = t.seconds ∧
        (r.second = 60 ↔ 1000000000 ≤ t.nanos) ∧
        ∀ u : Timestamp, u.IsAccepted → u.seconds ≠ t.seconds → u.httpDate? ≠ some text) ∧
      (Date.newYear 1970).toDay = 0 ∧ ∀ d : Date, d.IsValid → d.next.toDay = d.toDay + 1 := by
  refine ⟨isSome_httpDate?_iff, fun h => ?_, Date.toDay_newYear_1970,
    fun _ => Date.IsValid.toDay_next⟩
  have htext := httpDate?_of_isAccepted h
  refine ⟨t.dateText, t.reading, htext, read?_dateText h, isValid_reading t, year_reading h,
    seconds_reading h, second_reading h, fun u hu hne heq => ?_⟩
  exact hne (seconds_eq_of_httpDate?_eq hu h (heq.trans htext.symm))

/-- The leap second at the end of 2016 is the second 60 behind the second 59, and the next second
starts the next year. -/
theorem httpDate_denotes_leapSecond :
    (⟨1483228799, 1000000000⟩ : Timestamp).IsAccepted ∧
      (∃ r, (⟨1483228799, 1000000000⟩ : Timestamp).httpDate? =
          some "Sat, 31 Dec 2016 23:59:60 GMT".toList ∧
        Reading.read? "Sat, 31 Dec 2016 23:59:60 GMT".toList = some r ∧ r.IsValid ∧
        r = ⟨5, ⟨2016, 12, 31⟩, 23, 59, 60⟩ ∧ r.seconds = 1483228799) ∧
      (⟨1483228800, 0⟩ : Timestamp).httpDate? ≠
        some "Sat, 31 Dec 2016 23:59:60 GMT".toList := by
  have haccepted : (⟨1483228799, 1000000000⟩ : Timestamp).IsAccepted := by
    refine ⟨?_, ?_, ?_, ?_⟩ <;> decide
  have hnext : (⟨1483228800, 0⟩ : Timestamp).IsAccepted := by
    refine ⟨?_, ?_, ?_, ?_⟩ <;> decide
  have hknown : (⟨1483228799, 1000000000⟩ : Timestamp).httpDate? =
      some "Sat, 31 Dec 2016 23:59:60 GMT".toList := by decide +kernel
  obtain ⟨-, hdenotes, -, -⟩ := httpDate_denotes ⟨1483228799, 1000000000⟩
  obtain ⟨text, r, htext, hread, hvalid, -, hseconds, -, hother⟩ := hdenotes haccepted
  obtain rfl : "Sat, 31 Dec 2016 23:59:60 GMT".toList = text :=
    Option.some_inj.1 (hknown.symm.trans htext)
  have hr : Reading.read? "Sat, 31 Dec 2016 23:59:60 GMT".toList =
      some ⟨5, ⟨2016, 12, 31⟩, 23, 59, 60⟩ := by decide
  exact ⟨haccepted, ⟨r, htext, hread, hvalid, Option.some_inj.1 (hread.symm.trans hr), hseconds⟩,
    hother ⟨1483228800, 0⟩ hnext (by decide)⟩

end Timestamp

end HttpServer
