import HttpServer.Calendar.Date
import HttpServer.Text.Numeral

/-!
# Instants and their text

An instant is a number of seconds since the start of 1970, before which it is negative, and a number
of nanoseconds behind it. A whole second of extra nanoseconds is a leap second, which only the last
second of a minute can have. The text of an instant is the one that a `Date` header wants, as in
`Sun, 06 Nov 1994 08:49:37 GMT`.

## Main definitions

* `Timestamp`, `Timestamp.isValid`: the instants that have a text.
* `Timestamp.httpDate?`: the text.
-/

namespace HttpServer

/-- An instant. -/
structure Timestamp where
  /-- The seconds since the start of 1970. -/
  seconds : Int
  /-- The nanoseconds behind them. -/
  nanos : Nat := 0
  deriving DecidableEq, Repr

namespace Timestamp

/-- The first second of the year -262143. -/
def first : Int := -8334601228800

/-- The last second of the year 262142. -/
def last : Int := 8210266876799

/-- The second of the minute, without a leap second. -/
def second (t : Timestamp) : Nat :=
  (t.seconds % 60).toNat

/-- The instant lies in a leap second. -/
def isLeap (t : Timestamp) : Bool :=
  1000000000 ≤ t.nanos

/-- The instant lies in the accepted range, and its leap second, if it is one, ends a minute. -/
def isValid (t : Timestamp) : Bool :=
  first ≤ t.seconds && t.seconds ≤ last && t.nanos < 2000000000 && (!t.isLeap || t.second == 59)

/-- The names of the days from Monday. -/
def weekdays : List Text :=
  ["Mon", "Tue", "Wed", "Thu", "Fri", "Sat", "Sun"].map String.toList

/-- The names of the months. -/
def months : List Text :=
  ["Jan", "Feb", "Mar", "Apr", "May", "Jun", "Jul", "Aug", "Sep", "Oct", "Nov", "Dec"].map
    String.toList

/-- A year: four digits from 0 to 9999, and otherwise a sign and at least four digits. -/
def yearText (year : Int) : Text :=
  if year < 0 then '-' :: decimalPadded 4 year.natAbs
  else if year ≤ 9999 then decimalPadded 4 year.natAbs
  else '+' :: decimalPadded 4 year.natAbs

/-- The day of an instant. -/
def day (t : Timestamp) : Int :=
  t.seconds / 86400

/-- The second of the day, without a leap second. -/
def secondOfDay (t : Timestamp) : Nat :=
  (t.seconds % 86400).toNat

/-- The text of an instant, whether or not it is valid. -/
def dateText (t : Timestamp) : Text :=
  let date := Date.ofDay t.day
  let s := t.secondOfDay
  weekdays.getD (Date.weekday t.day) [] ++ ", ".toList ++ decimalPadded 2 date.day ++
    ' ' :: months.getD (date.month - 1) [] ++ ' ' :: yearText date.year ++
    ' ' :: decimalPadded 2 (s / 3600) ++ ':' :: decimalPadded 2 (s / 60 % 60) ++
    ':' :: decimalPadded 2 (s % 60 + if t.isLeap then 1 else 0) ++ " GMT".toList

/-- The text of an instant for a `Date` header, if the instant is valid. -/
def httpDate? (t : Timestamp) : Option Text :=
  if t.isValid then some t.dateText else none

end Timestamp

end HttpServer
