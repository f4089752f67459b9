import HttpServer.Text.Basic

/-!
# Numerals

Natural numbers as text: the shortest decimal numeral, numerals padded to a width, upper-case
hexadecimal digits, and the reading of an unsigned number of at most 64 bits.

## Main statements

* `decimal_eq`: the numeral is that of the tenth part and one more digit.
* `readU64?_le`: a number that was read needs at most 64 bits.
-/

namespace HttpServer

/-- The digit of a number below sixteen, in lower case. -/
def digit (n : Nat) : Char :=
  if n < 10 then Char.ofNat (0x30 + n) else Char.ofNat (0x57 + n)

/-- The decimal numeral of a number, without leading zeros. -/
def decimal (n : Nat) : Text :=
  if n < 10 then [digit n] else decimal (n / 10) ++ [digit (n % 10)]

/-- The lower-case hexadecimal numeral of a number, without leading zeros. -/
def hexadecimal (n : Nat) : Text :=
  if n < 16 then [digit n] else hexadecimal (n / 16) ++ [digit (n % 16)]

theorem decimal_eq (n : Nat) :
    decimal n = if n < 10 then [digit n] else decimal (n / 10) ++ [digit (n % 10)] := by
  rw [decimal]

/-- The decimal numeral of a number with zeros in front up to `width` digits. -/
def decimalPadded (width n : Nat) : Text :=
  let t := decimal n
  List.replicate (width - t.length) '0' ++ t

/-- The value of an ASCII decimal digit. -/
def decimalDigit? (c : Char) : Option Nat :=
  if '0' ≤ c ∧ c ≤ '9' then some (c.toNat - 0x30) else none

/-- The value of an ASCII hexadecimal digit of either case. -/
def hexDigit? (c : Char) : Option Nat :=
  if '0' ≤ c ∧ c ≤ '9' then some (c.toNat - 0x30)
  else if 'a' ≤ c ∧ c ≤ 'f' then some (c.toNat - 0x57)
  else if 'A' ≤ c ∧ c ≤ 'F' then some (c.toNat - 0x37)
  else none

/-- The number that digits of the given base spell, `value` being what stands before them. A number
above the bound is refused at the digit where it gets there, so a long numeral is not read on. -/
def digitsUpTo? (bound base : Nat) (digit? : Char → Option Nat) (value : Nat) :
    Text → Option Nat
  | [] => some value
  | c :: t =>
    match digit? c with
    | some d =>
      if value * base + d ≤ bound then digitsUpTo? bound base digit? (value * base + d) t else none
    | none => none

/-- The number of at most `bound` that a non-empty text of decimal digits spells. -/
def readDecimal? (bound : Nat) (t : Text) : Option Nat :=
  if t.isEmpty then none else digitsUpTo? bound 10 decimalDigit? 0 t

/-- The text without one leading `+`. -/
def dropPlus : Text → Text
  | '+' :: t => t
  | t => t

/-- The greatest number of 64 bits. -/
def maxU64 : Nat := 18446744073709551615

/-- An unsigned number of at most 64 bits: one optional `+`, then decimal digits, at least one. A
number that needs more bits is refused. -/
def readU64? (t : Text) : Option Nat :=
  readDecimal? maxU64 (dropPlus t)

theorem digitsUpTo?_le {bound base value n : Nat} {digit? : Char → Option Nat} {t : Text}
    (hv : value ≤ bound) (h : digitsUpTo? bound base digit? value t = some n) : n ≤ bound := by
  induction t generalizing value with
  | nil =>
    cases h
    exact hv
  | cons c t ih =>
    rw [digitsUpTo?] at h
    split at h
    · split at h
      · rename_i hb
        exact ih hb h
      · cases h
    · cases h

theorem readU64?_le {t : Text} {n : Nat} (h : readU64? t = some n) : n ≤ maxU64 := by
  rw [readU64?, readDecimal?] at h
  split at h
  · cases h
  · exact digitsUpTo?_le (Nat.zero_le _) h

end HttpServer
