import HttpServer.Text.Split

/-!
# Splitting what was joined

Splitting at a separator undoes joining with it, provided that the separator does not occur in the
joined parts.

## Main results

* `splitOn_append`: a separator between two lists cuts them apart.
* `splitOn_join`, `splitOn_flatMap_append`: joined and terminated parts.
* `intercalate_splitOn`: the parts put together again.
* `splitOnce?_append`, `before_append`, `before_eq_iff`: the first cut.
-/

namespace HttpServer

variable {α : Type} [DecidableEq α] {sep : α}

/-- A separator between two lists cuts them apart. -/
theorem splitOn_append (a b : List α) :
    splitOn sep (a ++ sep :: b) = splitOn sep a ++ splitOn sep b := by
  induction a with
  | nil => simp [splitOn]
  | cons x a ih =>
    rw [List.cons_append, splitOn, splitOn]
    split
    · rw [ih, List.cons_append]
    · rw [ih]
      cases ha : splitOn sep a with
      | nil => exact absurd ha (splitOn_ne_nil sep a)
      | cons part parts => rfl

theorem splitOn_of_notMem {a : List α} (h : sep ∉ a) : splitOn sep a = [a] := by
  induction a with
  | nil => rfl
  | cons x a ih =>
    obtain ⟨hx, ha⟩ := not_or.1 fun hm => h (List.mem_cons.2 hm)
    rw [splitOn, if_neg (Ne.symm hx), ih ha]

/-- What stands in front of the first separator belongs to the first part. -/
theorem splitOn_append_of_notMem {a s p : List α} {parts : List (List α)} (h : sep ∉ a)
    (hs : splitOn sep s = p :: parts) : splitOn sep (a ++ s) = (a ++ p) :: parts := by
  induction a with
  | nil => exact hs
  | cons x a ih =>
    obtain ⟨hx, ha⟩ := not_or.1 fun hm => h (List.mem_cons.2 hm)
    rw [List.cons_append, splitOn, if_neg (Ne.symm hx), ih ha]
    rfl

theorem splitOnce?_append {a : List α} (h : sep ∉ a) (b : List α) :
    splitOnce? sep (a ++ sep :: b) = some (a, b) := by
  induction a with
  | nil => simp [splitOnce?]
  | cons x a ih =>
    obtain ⟨hx, ha⟩ := not_or.1 fun hm => h (List.mem_cons.2 hm)
    rw [List.cons_append, splitOnce?, if_neg (Ne.symm hx), ih ha]
    rfl

theorem before_eq_iff {s a : List α} : before sep s = a ↔
    sep ∉ a ∧ ∃ rest, s = a ++ rest ∧ (rest = [] ∨ rest.head? = some sep) := by
  constructor
  · rintro rfl
    refine ⟨fun hm => ?_, s.dropWhile (· ≠ sep), List.takeWhile_append_dropWhile.symm, ?_⟩
    · exact absurd rfl (of_decide_eq_true (List.all_eq_true.1 List.all_takeWhile sep hm))
    · have hhead := List.head?_dropWhile_not (fun x => decide (x ≠ sep)) s
      cases hrest : s.dropWhile (· ≠ sep) with
      | nil => exact .inl rfl
      | cons x rest =>
        rw [hrest] at hhead
        exact .inr (congrArg some (by simpa using hhead))
  · rintro ⟨hnot, rest, rfl, hrest⟩
    have hkeep : ∀ x ∈ a, decide (x ≠ sep) = true := fun x hx =>
      decide_eq_true fun hsep => hnot (hsep ▸ hx)
    have hstop : rest.takeWhile (· ≠ sep) = [] := by
      rcases hrest with rfl | hrest
      · rfl
      · obtain ⟨b, rfl⟩ := List.head?_eq_some_iff.1 hrest
        exact List.takeWhile_cons_of_neg (by simp)
    rw [before, List.takeWhile_append_of_pos hkeep, hstop, List.append_nil]

theorem before_append {a : List α} (h : sep ∉ a) (b : List α) : before sep (a ++ sep :: b) = a :=
  before_eq_iff.2 ⟨h, _, rfl, .inr rfl⟩

/-- Parts that each end in the separator are cut apart from each other and from what follows. -/
theorem splitOn_flatMap_append {parts : List (List α)} (h : ∀ p ∈ parts, sep ∉ p) (s : List α) :
    splitOn sep ((parts.flatMap fun p => p ++ [sep]) ++ s) = parts ++ splitOn sep s := by
  induction parts with
  | nil => rfl
  | cons p parts ih =>
    rw [List.flatMap_cons, List.append_assoc, List.append_assoc, List.singleton_append,
      splitOn_append, splitOn_of_notMem (h p List.mem_cons_self),
      ih fun q hq => h q (List.mem_cons_of_mem p hq), List.singleton_append, List.cons_append]

/-- The parts of a list, put together again. -/
theorem intercalate_splitOn (sep : α) (s : List α) : [sep].intercalate (splitOn sep s) = s := by
  induction s with
  | nil => rfl
  | cons a s ih =>
    rw [splitOn]
    split
    · rename_i ha
      rw [List.intercalate_cons_of_ne_nil (splitOn_ne_nil sep s), ih, ha]
      rfl
    · cases hs : splitOn sep s with
      | nil => exact absurd hs (splitOn_ne_nil sep s)
      | cons part parts =>
        rw [hs] at ih
        rw [← ih]
        exact List.intercalate_cons_cons_left

namespace Text

variable (sep : Text)

theorem join_cons_of_ne_nil (t : Text) {ts : List Text} (h : ts ≠ []) :
    join sep (t :: ts) = t ++ sep ++ join sep ts := by
  cases ts with
  | nil => exact absurd rfl h
  | cons u ts => rfl

theorem join_append_cons (s t : Text) (ts : List Text) :
    join sep ((s ++ t) :: ts) = s ++ join sep (t :: ts) := by
  cases ts with
  | nil => rfl
  | cons u ts => simp only [join, List.append_assoc]

end Text

theorem mem_of_mem_join {c d : Char} {parts : List Text} (h : d ∈ Text.join [c] parts) :
    d = c ∨ ∃ p ∈ parts, d ∈ p := by
  induction parts with
  | nil => cases h
  | cons p parts ih =>
    cases parts with
    | nil => exact .inr ⟨p, List.mem_cons_self, h⟩
    | cons q parts =>
      rw [Text.join, List.append_assoc] at h
      · rcases List.mem_append.1 h with h | h
        · exact .inr ⟨p, List.mem_cons_self, h⟩
        · rcases List.mem_cons.1 h with h | h
          · exact .inl h
          · obtain h | ⟨r, hr, hd⟩ := ih h
            · exact .inl h
            · exact .inr ⟨r, List.mem_cons_of_mem p hr, hd⟩
      · rintro ⟨⟩

/-- Joined texts are cut apart. -/
theorem splitOn_join {c : Char} {parts : List Text} (hne : parts ≠ []) (h : ∀ p ∈ parts, c ∉ p) :
    splitOn c (Text.join [c] parts) = parts := by
  induction parts with
  | nil => exact absurd rfl hne
  | cons p parts ih =>
    have hp := splitOn_of_notMem (h p List.mem_cons_self)
    cases parts with
    | nil => exact hp
    | cons q parts =>
      have hrest := ih (List.cons_ne_nil q parts) fun r hr => h r (List.mem_cons_of_mem p hr)
      rw [Text.join, List.append_assoc, List.singleton_append, splitOn_append, hp, hrest,
        List.singleton_append]
      rintro ⟨⟩

end HttpServer
