import HttpServer.Text.Basic

/-!
# Splitting

A separator cuts a list into parts. `splitOn` cuts at every separator, so a list with `n`
separators has `n + 1` parts, and `splitOnce?` cuts at the first one only. `pieces` cuts by length.
All of them work on texts and on bytes.

## Main statements

* `splitOn_ne_nil`: there is always a part.
* `flatten_pieces`: the pieces of a list make up the list.
* `splitOnce?_eq_none_iff`: the first cut fails exactly when the separator does not occur.
-/

namespace HttpServer

variable {α : Type} [DecidableEq α]

/-- The parts of a list between the occurrences of `sep`. -/
def splitOn (sep : α) : List α → List (List α)
  | [] => [[]]
  | a :: s =>
    if a = sep then [] :: splitOn sep s
    else
      match splitOn sep s with
      | [] => [[a]]
      | part :: parts => (a :: part) :: parts

/-- What stands before and after the first `sep`, if it occurs. -/
def splitOnce? (sep : α) : List α → Option (List α × List α)
  | [] => none
  | a :: s => if a = sep then some ([], s) else (splitOnce? sep s).map fun p => (a :: p.1, p.2)

/-- What stands before the first `sep`, or the whole list. -/
def before (sep : α) (s : List α) : List α :=
  s.takeWhile (· ≠ sep)

/-- The rest of `s` behind `lead`, if `s` starts so. -/
def dropLead? (lead s : List α) : Option (List α) :=
  match lead, s with
  | [], s => some s
  | _ :: _, [] => none
  | a :: lead, b :: s => if a = b then dropLead? lead s else none

/-- A list in pieces of at most `size` elements; an empty list has no piece. A size of zero counts
as one. -/
def pieces {α : Type} (size : Nat) (s : List α) : List (List α) :=
  if h : s = [] then []
  else
    have : (s.drop (max size 1)).length < s.length := by
      have := List.length_pos_iff.2 h
      rw [List.length_drop]
      omega
    s.take (max size 1) :: pieces size (s.drop (max size 1))
termination_by s.length

theorem splitOn_ne_nil (sep : α) (s : List α) : splitOn sep s ≠ [] := by
  cases s with
  | nil => simp [splitOn]
  | cons a s =>
    rw [splitOn]
    split
    · simp
    · split <;> simp

theorem splitOnce?_eq_none_iff {sep : α} {s : List α} : splitOnce? sep s = none ↔ sep ∉ s := by
  induction s with
  | nil => simp [splitOnce?]
  | cons a s ih =>
    by_cases h : a = sep
    · simp [splitOnce?, h]
    · simp [splitOnce?, h, ih, Ne.symm h]

theorem flatten_pieces {α : Type} (size : Nat) (s : List α) : (pieces size s).flatten = s := by
  induction s using pieces.induct size with
  | case1 => simp [pieces]
  | case2 s h _ ih =>
    rw [pieces, dif_neg h, List.flatten_cons, ih, List.take_append_drop]

theorem dropLead?_append (lead s : List α) : dropLead? lead (lead ++ s) = some s := by
  induction lead with
  | nil => cases s <;> rfl
  | cons a lead ih => simpa [dropLead?] using ih

theorem eq_append_of_dropLead? {lead s rest : List α} (h : dropLead? lead s = some rest) :
    s = lead ++ rest := by
  induction lead generalizing s with
  | nil => cases s <;> simp_all [dropLead?]
  | cons a lead ih =>
    cases s with
    | nil => simp [dropLead?] at h
    | cons b s =>
      rw [dropLead?] at h
      split at h
      · rename_i hab
        rw [hab, ih h, List.cons_append]
      · cases h

end HttpServer
