import HttpServer.Text.Split
import Mathlib.Data.List.Infix

/-!
# Separators of two elements

A line ends with a CR and an LF, and a header name is set off from its value by a colon and a
space. Such a separator is an element `x` with an element `y` directly behind it. A text is cut at
the first place where both stand, or at every such place from left to right; a lone `x` or a lone
`y` separates nothing.

## Main definitions

* `splitOnPair`: the parts between the separators.
* `splitOncePair?`: what stands before and after the first separator.

## Main results

* `splitOncePair?_append`, `splitOnPair_append`: a cut in front of anything.
* `splitOncePair?_eq_none`: without a separator there is no cut.
* `splitOnPair_flatMap`: parts that each end in the separator.
-/

namespace HttpServer

variable {α : Type} {x y : α}

/-! ### Where a separator can start -/

/-- A separator that is not at the start of `a ++ [x]` does not start in a nonempty `a`, whatever
follows. -/
theorem not_prefix_append {a : List α} (h : ¬[x, y] <+: a ++ [x]) (ha : a ≠ []) (s : List α) :
    ¬[x, y] <+: a ++ x :: s := by
  intro hp
  match a with
  | [] => exact ha rfl
  | [b] => simp_all
  | b :: c :: a => simp_all

theorem not_infix_of_notMem {a : List α} (h : x ∉ a) (hxy : x ≠ y) : ¬[x, y] <:+: a ++ [x] := by
  intro hi
  rcases List.infix_concat_iff.1 hi with ⟨t, ht⟩ | hi
  · have hlast := congrArg List.getLast? ht
    rw [List.getLast?_concat, List.getLast?_append_of_ne_nil t (List.cons_ne_nil x [y])] at hlast
    exact hxy (Option.some.inj hlast).symm
  · exact h (hi.subset List.mem_cons_self)

variable [DecidableEq α]

/-- The parts of a list between the places where `y` directly follows `x`. -/
def splitOnPair (x y : α) : List α → List (List α)
  | [] => [[]]
  | [a] => [[a]]
  | a :: b :: s =>
    if a = x ∧ b = y then [] :: splitOnPair x y s
    else (splitOnPair x y (b :: s)).modifyHead (a :: ·)

/-- What stands before and after the first place where `y` directly follows `x`, if there is one. -/
def splitOncePair? (x y : α) : List α → Option (List α × List α)
  | [] => none
  | [_] => none
  | a :: b :: s =>
    if a = x ∧ b = y then some ([], s)
    else (splitOncePair? x y (b :: s)).map fun p => (a :: p.1, p.2)

theorem splitOnPair_cons {a : α} {s : List α} (h : ¬[x, y] <+: a :: s) :
    splitOnPair x y (a :: s) = (splitOnPair x y s).modifyHead (a :: ·) := by
  cases s with
  | nil => rfl
  | cons b s =>
    rw [splitOnPair, if_neg]
    rintro ⟨rfl, rfl⟩
    exact h (List.prefix_append [a, b] s)

theorem splitOncePair?_cons {a : α} {s : List α} (h : ¬[x, y] <+: a :: s) :
    splitOncePair? x y (a :: s) = (splitOncePair? x y s).map fun p => (a :: p.1, p.2) := by
  cases s with
  | nil => rfl
  | cons b s =>
    rw [splitOncePair?, if_neg]
    rintro ⟨rfl, rfl⟩
    exact h (List.prefix_append [a, b] s)

/-! ### The first separator -/

/-- The first separator cuts a list, whatever stands behind it. -/
theorem splitOncePair?_append {a : List α} (h : ¬[x, y] <:+: a ++ [x]) (b : List α) :
    splitOncePair? x y (a ++ x :: y :: b) = some (a, b) := by
  induction a with
  | nil => rw [List.nil_append, splitOncePair?, if_pos ⟨rfl, rfl⟩]
  | cons c a ih =>
    have hhead : ¬[x, y] <+: (c :: a) ++ x :: y :: b :=
      not_prefix_append (fun hp => h hp.isInfix) (List.cons_ne_nil c a) _
    rw [List.cons_append] at hhead ⊢
    rw [splitOncePair?_cons hhead, ih fun hi => h (hi.trans (List.suffix_cons c _).isInfix)]
    rfl

theorem splitOncePair?_eq_none {s : List α} (h : ¬[x, y] <:+: s) : splitOncePair? x y s = none := by
  induction s with
  | nil => rfl
  | cons a s ih =>
    rw [splitOncePair?_cons fun hp => h hp.isInfix,
      ih fun hi => h (hi.trans (List.suffix_cons a s).isInfix), Option.map_none]

/-! ### All separators -/

/-- What stands in front of the first separator is the first part. -/
theorem splitOnPair_append {a : List α} (h : ¬[x, y] <:+: a ++ [x]) (b : List α) :
    splitOnPair x y (a ++ x :: y :: b) = a :: splitOnPair x y b := by
  induction a with
  | nil => rw [List.nil_append, splitOnPair, if_pos ⟨rfl, rfl⟩]
  | cons c a ih =>
    have hhead : ¬[x, y] <+: (c :: a) ++ x :: y :: b :=
      not_prefix_append (fun hp => h hp.isInfix) (List.cons_ne_nil c a) _
    rw [List.cons_append] at hhead ⊢
    rw [splitOnPair_cons hhead, ih fun hi => h (hi.trans (List.suffix_cons c _).isInfix)]
    rfl

/-- Parts that each end in the separator are cut apart, with an empty part at the end. -/
theorem splitOnPair_flatMap {parts : List (List α)} (h : ∀ p ∈ parts, x ∉ p) (hxy : x ≠ y) :
    splitOnPair x y (parts.flatMap fun p => p ++ [x, y]) = parts ++ [[]] := by
  induction parts with
  | nil => rfl
  | cons p parts ih =>
    have hp := not_infix_of_notMem (h p List.mem_cons_self) hxy
    have hcons : ∀ s, p ++ [x, y] ++ s = p ++ x :: y :: s := fun s => by simp
    rw [List.flatMap_cons, hcons, splitOnPair_append hp,
      ih fun q hq => h q (List.mem_cons_of_mem p hq), List.cons_append]

end HttpServer
