import HttpServer.Proofs.Text.Blank
import HttpServer.Request.Head
import Mathlib.Data.List.TakeWhile

/-!
# Words

The words of a text are what white space sets apart: the parts between its white space characters,
without the empty ones. Taking the first word and going on behind it finds them one by one, so a
request line is judged by its words alone, of which those behind the second do not matter.

## Main definitions

* `Text.words`: the words of a text.

## Main results

* `Text.words_append_blank`: white space sets words apart.
* `Text.words_eq`: the first word, and the words of what follows it.
* `RequestLine.split_eq`: request lines by their words.
-/

namespace HttpServer

namespace Text

/-- The words of a text, which white space sets apart. -/
def words (t : Text) : List Text :=
  (t.splitOnP HttpServer.isBlank).filter (· ≠ [])

@[simp] theorem words_nil : words [] = [] := by
  simp [words]

/-- **White space sets words apart.** -/
theorem words_append_blank {c : Char} (h : HttpServer.isBlank c = true) (s t : Text) :
    words (s ++ c :: t) = words s ++ words t := by
  rw [words, words, words, List.splitOnP_append_cons s t h, List.filter_append]

theorem words_cons_blank {c : Char} (h : HttpServer.isBlank c = true) (t : Text) :
    words (c :: t) = words t := by
  simpa using words_append_blank h [] t

theorem words_of_solid {w : Text} (hw : Solid w) (hne : w ≠ []) : words w = [w] := by
  rw [words, List.splitOnP_eq_singleton hw]
  simp [hne]

theorem words_of_isBlank {w : Text} (h : isBlank w = true) : words w = [] := by
  induction w with
  | nil => exact words_nil
  | cons c w ih =>
    obtain ⟨hc, hw⟩ := List.forall_mem_cons.1 (List.all_eq_true.1 h)
    rw [words_cons_blank hc]
    exact ih (List.all_eq_true.2 hw)

/-- White space at the end is in no word. -/
theorem words_append_of_isBlank {w : Text} (h : isBlank w = true) (t : Text) :
    words (t ++ w) = words t := by
  cases w with
  | nil => rw [List.append_nil]
  | cons c w =>
    obtain ⟨hc, hw⟩ := List.forall_mem_cons.1 (List.all_eq_true.1 h)
    rw [words_append_blank hc, words_of_isBlank (List.all_eq_true.2 hw), List.append_nil]

/-- White space at the start is in no word. -/
theorem words_trimStart (t : Text) : words (trimStart t) = words t := by
  induction t with
  | nil => rfl
  | cons c t ih =>
    cases h : HttpServer.isBlank c with
    | true =>
      rw [trimStart, List.dropWhile_cons_of_pos h, words_cons_blank h]
      exact ih
    | false => rw [trimStart, List.dropWhile_cons_of_neg (by simp [h])]

theorem eq_false_of_dropWhile_eq_cons {p : Char → Bool} {s t : Text} {c : Char}
    (h : s.dropWhile p = c :: t) : p c = false := by
  simpa [h] using List.head?_dropWhile_not p s

/-- **The first word**, and the words of what follows it. -/
theorem words_eq (t : Text) :
    words t = if (nextWord t).1 = [] then [] else (nextWord t).1 :: words (nextWord t).2 := by
  have happ : (nextWord t).1 ++ (nextWord t).2 = trimStart t := List.takeWhile_append_dropWhile
  have hsolid : Solid (nextWord t).1 := fun c hc => by
    simpa using List.mem_takeWhile_imp hc
  have hrest : ∀ c r, (nextWord t).2 = c :: r → HttpServer.isBlank c = true := fun c r hr => by
    simpa using eq_false_of_dropWhile_eq_cons hr
  rw [← words_trimStart t, ← happ]
  split
  · rename_i hw
    rw [hw, List.nil_append] at happ ⊢
    cases hr : (nextWord t).2 with
    | nil => exact words_nil
    | cons c r =>
      -- What follows an empty word starts with white space, which has been trimmed.
      have hstart := eq_false_of_dropWhile_eq_cons (happ.symm.trans hr)
      rw [hrest c r hr] at hstart
      cases hstart
  · rename_i hw
    cases hr : (nextWord t).2 with
    | nil => rw [List.append_nil, words_of_solid hsolid hw, words_nil]
    | cons c r =>
      have hc := hrest c r hr
      rw [words_append_blank hc, words_of_solid hsolid hw, words_cons_blank hc,
        List.singleton_append]

end Text

/-- A request line is judged by its first two words. -/
theorem RequestLine.split_eq (line : Text) : split line =
    match line.words with
    | [] => .error .missingMethod
    | [_] => .error .missingTarget
    | method :: target :: _ => .ok (.ofToken method, target) := by
  rw [split, Text.words_eq]
  obtain ⟨method, rest⟩ := line.nextWord
  simp only
  rw [Text.words_eq]
  obtain ⟨target, more⟩ := Text.nextWord rest
  cases method <;> cases target <;> rfl

end HttpServer
