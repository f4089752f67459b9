import HttpServer.Proofs.Text.Blank
import HttpServer.Text.Numeral
import Mathlib.Tactic.IntervalCases

/-!
# Numerals are read back

A decimal numeral is read back as its number, if that fits into 64 bits, and is refused otherwise.
Other texts are read as well, with a sign or with zeros in front.

## Main definitions

* `SpellsU64`: the spellings of a number of at most 64 bits.

## Main results

* `readU64?_decimal`, `readDecimal?_decimalPadded`: reading a numeral, and a padded one.
* `readU64?_eq_some_iff`: all that is read.
* `solid_decimal`: a numeral has no white space.
-/

namespace HttpServer

theorem digit_spec {n : Nat} (h : n < 10) :
    decimalDigit? (digit n) = some n ∧ digit n ≠ '+' ∧ isBlank (digit n) = false := by
  interval_cases n <;> decide

theorem decimal_ne_nil (n : Nat) : decimal n ≠ [] := by
  rw [decimal]
  split
  · exact List.cons_ne_nil _ _
  · exact List.append_ne_nil_of_right_ne_nil _ (List.cons_ne_nil _ _)

theorem exists_digit_of_mem_decimal {n : Nat} {c : Char} (h : c ∈ decimal n) :
    ∃ d < 10, c = digit d := by
  induction n using Nat.strong_induction_on with
  | _ n ih =>
    rw [decimal] at h
    split at h
    · exact ⟨n, ‹_›, List.mem_singleton.1 h⟩
    · rcases List.mem_append.1 h with h | h
      · exact ih (n / 10) (by omega) h
      · exact ⟨n % 10, by omega, List.mem_singleton.1 h⟩

theorem notMem_decimal {c : Char} (h : ∀ d < 10, digit d ≠ c) (n : Nat) : c ∉ decimal n := by
  intro hm
  obtain ⟨d, hd, hdigit⟩ := exists_digit_of_mem_decimal hm
  exact h d hd hdigit.symm

theorem notMem_decimalPadded {c : Char} (h : ∀ d < 10, digit d ≠ c) (width n : Nat) :
    c ∉ decimalPadded width n := by
  intro hm
  rcases List.mem_append.1 hm with hm | hm
  · exact h 0 (by decide) (List.eq_of_mem_replicate hm).symm
  · exact notMem_decimal h n hm

theorem solid_decimal (n : Nat) : Text.Solid (decimal n) := by
  intro c hc
  obtain ⟨d, hd, rfl⟩ := exists_digit_of_mem_decimal hc
  exact (digit_spec hd).2.2

theorem dropPlus_decimal (n : Nat) : dropPlus (decimal n) = decimal n := by
  cases hn : decimal n with
  | nil => rfl
  | cons c t =>
    obtain ⟨d, hd, rfl⟩ := exists_digit_of_mem_decimal (hn ▸ List.mem_cons_self : c ∈ decimal n)
    rw [dropPlus]
    rintro t' h
    exact (digit_spec hd).2.1 (List.cons.inj h).1

/-- A last digit is read behind what stands before it. -/
theorem digitsUpTo?_concat {bound base : Nat} {digit? : Char → Option Nat} {value d : Nat}
    {s : Text} {c : Char} (hc : digit? c = some d) :
    digitsUpTo? bound base digit? value (s ++ [c]) =
      (digitsUpTo? bound base digit? value s).bind fun m =>
        if m * base + d ≤ bound then some (m * base + d) else none := by
  induction s generalizing value with
  | nil => simp only [List.nil_append, digitsUpTo?, hc, Option.bind_some]
  | cons a s ih =>
    rw [List.cons_append, digitsUpTo?, digitsUpTo?]
    split
    · split
      · exact ih
      · rfl
    · rfl

theorem digitsUpTo?_decimal (bound n : Nat) :
    digitsUpTo? bound 10 decimalDigit? 0 (decimal n) = if n ≤ bound then some n else none := by
  induction n using Nat.strong_induction_on with
  | _ n ih =>
    rw [decimal]
    split
    · rename_i hn
      simp only [digitsUpTo?, (digit_spec hn).1, Nat.zero_mul, Nat.zero_add]
    · have hd : n / 10 * 10 + n % 10 = n := Nat.div_add_mod' n 10
      rw [digitsUpTo?_concat (digit_spec (Nat.mod_lt n (by decide))).1, ih (n / 10) (by omega)]
      by_cases hb : n / 10 ≤ bound
      · rw [if_pos hb, Option.bind_some, hd]
      · rw [if_neg hb, if_neg (by omega), Option.bind_none]

/-- **A numeral is read back** if its number fits into 64 bits. -/
theorem readU64?_decimal (n : Nat) :
    readU64? (decimal n) = if n ≤ maxU64 then some n else none := by
  rw [readU64?, dropPlus_decimal, readDecimal?, if_neg (by simp [decimal_ne_nil]),
    digitsUpTo?_decimal]

/-! ### Padded numerals -/

theorem length_decimal_le_iff {width n : Nat} (hwidth : 0 < width) :
    (decimal n).length ≤ width ↔ n < 10 ^ width := by
  induction width generalizing n with
  | zero => exact absurd hwidth (Nat.lt_irrefl 0)
  | succ width ih =>
    have hpow : 10 ^ (width + 1) = 10 ^ width * 10 := Nat.pow_succ 10 width
    have hpos : 0 < 10 ^ width := Nat.pow_pos (by decide)
    rw [decimal]
    split
    · rw [List.length_singleton]
      omega
    · rename_i hn
      have hlength : 0 < (decimal (n / 10)).length := List.length_pos_iff.2 (decimal_ne_nil _)
      rw [List.length_append, List.length_singleton, Nat.add_le_add_iff_right]
      cases width with
      | zero => omega
      | succ width =>
        rw [ih (Nat.succ_pos width)]
        omega

/-- The numeral of a number above zero does not start with a zero. -/
theorem head?_decimal_ne {n : Nat} (h : 0 < n) : (decimal n).head? ≠ some '0' := by
  induction n using Nat.strongRecOn with
  | ind n ih =>
    rw [decimal]
    split
    · interval_cases n <;> decide
    · rename_i hn
      have hfront := ih (n / 10) (by omega) (by omega)
      cases hdigits : decimal (n / 10) with
      | nil => exact absurd hdigits (decimal_ne_nil _)
      | cons c t => rwa [hdigits] at hfront

theorem length_decimalPadded {width n : Nat} (hwidth : 0 < width) (h : n < 10 ^ width) :
    (decimalPadded width n).length = width := by
  have hlength := (length_decimal_le_iff hwidth).2 h
  rw [decimalPadded, List.length_append, List.length_replicate]
  omega

/-- A number that fills its width has no zeros in front. -/
theorem decimalPadded_of_le {width n : Nat} (hwidth : 0 < width) (h : 10 ^ width ≤ n) :
    decimalPadded width n = decimal n ∧ width < (decimal n).length := by
  have hlength : width < (decimal n).length :=
    Nat.lt_of_not_le fun hle => Nat.not_lt.2 h ((length_decimal_le_iff hwidth).1 hle)
  rw [decimalPadded, Nat.sub_eq_zero_of_le (Nat.le_of_lt hlength)]
  exact ⟨rfl, hlength⟩

/-- Zeros in front of a numeral add nothing to its number. -/
theorem digitsUpTo?_replicate_append (bound count : Nat) (t : Text) :
    digitsUpTo? bound 10 decimalDigit? 0 (List.replicate count '0' ++ t) =
      digitsUpTo? bound 10 decimalDigit? 0 t := by
  induction count with
  | zero => rfl
  | succ count ih =>
    have hzero : decimalDigit? '0' = some 0 := by decide
    rw [List.replicate_succ, List.cons_append, digitsUpTo?, hzero]
    simp only [Nat.zero_mul, Nat.add_zero, Nat.zero_le, if_true]
    exact ih

/-- **A padded numeral is read back** if its number is within the bound. -/
theorem readDecimal?_decimalPadded {bound n : Nat} (h : n ≤ bound) (width : Nat) :
    readDecimal? bound (decimalPadded width n) = some n := by
  have hne : decimalPadded width n ≠ [] :=
    List.append_ne_nil_of_right_ne_nil _ (decimal_ne_nil n)
  rw [readDecimal?, if_neg (by simp [hne]), decimalPadded, digitsUpTo?_replicate_append,
    digitsUpTo?_decimal, if_pos h]

/-! ### What is read -/

/-- The number that is spelled by the digits of `n` and one more. -/
def appendDigit (n : Nat) (c : Char) : Nat :=
  10 * n + (c.toNat - '0'.toNat)

/-- An optional `+` and decimal digits, at least one, that spell a number of at most 64 bits. -/
def SpellsU64 (t : Text) (n : Nat) : Prop :=
  ∃ sign digits : Text, t = sign ++ digits ∧ (sign = [] ∨ sign = ['+']) ∧ digits ≠ [] ∧
    (∀ c ∈ digits, c.isDigit = true) ∧ digits.foldl appendDigit 0 = n ∧ n < 2 ^ 64

theorem decimalDigit?_eq (c : Char) :
    decimalDigit? c = if c.isDigit = true then some (c.toNat - '0'.toNat) else none := by
  have hrange : ('0' ≤ c ∧ c ≤ '9') ↔ c.isDigit = true := by
    rw [Char.isDigit, Bool.and_eq_true, decide_eq_true_eq, decide_eq_true_eq]
    rfl
  rw [decimalDigit?]
  simp only [hrange]
  rfl

theorem le_foldl_appendDigit (digits : Text) (n : Nat) : n ≤ digits.foldl appendDigit n := by
  induction digits generalizing n with
  | nil => exact Nat.le_refl n
  | cons c digits ih =>
    refine Nat.le_trans ?_ (ih (appendDigit n c))
    rw [appendDigit]
    omega

/-- Digits are read up to a bound: a number that is above it on the way is above it in the end. -/
theorem digitsUpTo?_eq_some_iff {bound value n : Nat} {t : Text} (hvalue : value ≤ bound) :
    digitsUpTo? bound 10 decimalDigit? value t = some n ↔
      (∀ c ∈ t, c.isDigit = true) ∧ t.foldl appendDigit value = n ∧ n ≤ bound := by
  induction t generalizing value with
  | nil =>
    rw [digitsUpTo?, Option.some_inj]
    exact ⟨fun h => ⟨List.forall_mem_nil _, h, h ▸ hvalue⟩, fun h => h.2.1⟩
  | cons c t ih =>
    rw [digitsUpTo?, decimalDigit?_eq, List.forall_mem_cons, List.foldl_cons]
    by_cases hc : c.isDigit = true
    · have hstep : value * 10 + (c.toNat - '0'.toNat) = appendDigit value c := by
        rw [appendDigit, Nat.mul_comm]
      rw [if_pos hc, and_iff_right hc]
      dsimp only
      rw [hstep]
      by_cases hbound : appendDigit value c ≤ bound
      · rw [if_pos hbound, ih hbound]
      · rw [if_neg hbound]
        refine ⟨fun h => absurd h.symm (Option.some_ne_none n), fun h => ?_⟩
        have hgrow := le_foldl_appendDigit t (appendDigit value c)
        omega
    · rw [if_neg hc]
      exact ⟨fun h => absurd h.symm (Option.some_ne_none n), fun h => absurd h.1.1 hc⟩

theorem readDecimal?_eq_some_iff {bound n : Nat} {t : Text} : readDecimal? bound t = some n ↔
    t ≠ [] ∧ (∀ c ∈ t, c.isDigit = true) ∧ t.foldl appendDigit 0 = n ∧ n ≤ bound := by
  rw [readDecimal?, ← digitsUpTo?_eq_some_iff (Nat.zero_le bound)]
  cases t with
  | nil => exact ⟨fun h => absurd h.symm (Option.some_ne_none n), fun h => absurd rfl h.1⟩
  | cons c t => exact (and_iff_right (List.cons_ne_nil c t)).symm

theorem exists_sign (t : Text) :
    ∃ sign : Text, t = sign ++ dropPlus t ∧ (sign = [] ∨ sign = ['+']) := by
  rw [dropPlus.eq_def]
  split
  · exact ⟨['+'], rfl, .inr rfl⟩
  · exact ⟨[], rfl, .inl rfl⟩

/-- **The numbers of at most 64 bits** and their spellings. -/
theorem readU64?_eq_some_iff {t : Text} {n : Nat} : readU64? t = some n ↔ SpellsU64 t n := by
  have hmax : n ≤ maxU64 ↔ n < 2 ^ 64 := Nat.lt_succ_iff.symm
  rw [readU64?, readDecimal?_eq_some_iff, hmax]
  constructor
  · intro hread
    obtain ⟨sign, ht, hsign⟩ := exists_sign t
    exact ⟨sign, dropPlus t, ht, hsign, hread⟩
  · rintro ⟨sign, digits, rfl, hsign, hread⟩
    have hdrop : dropPlus (sign ++ digits) = digits := by
      rcases hsign with rfl | rfl
      · rw [List.nil_append, dropPlus.eq_def]
        split
        · exact absurd (hread.2.1 '+' List.mem_cons_self) (by decide)
        · rfl
      · rfl
    rwa [hdrop]

end HttpServer
