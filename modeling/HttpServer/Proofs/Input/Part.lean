import HttpServer.Input.Part
import HttpServer.Proofs.Text.Blank
import HttpServer.Proofs.Text.Utf8
import Mathlib.Data.List.Basic

/-!
# Cutting the parts of a request

What a part of a request takes from the bytes in front of it: as many as make it complete or, where
they do not, all there are. More bytes do not change what a complete part takes; and bytes that do
not complete a part belong to it, and what is left of the part is cut from the bytes behind them. A
line is not complete without an LF, nor is the line of a header block, and a body of announced
length is complete with as many bytes.

## Main results

* `Part.cut_append_of_size?`, `Part.cut_append_of_none`: what is cut off in front of more bytes.
* `Part.size?_line_of_notMem`, `Part.size?_block_of_notMem`, `Part.size?_count`: when the parts are
  complete.
* `lineText_encode_append`: the text of a line that was written with its end.
-/

namespace HttpServer

namespace Part

theorem sizeFrom?_le {p : Part} {s : Bytes} {read n : Nat} (h : p.sizeFrom? read s = some n) :
    n ≤ read + s.length := by
  induction s generalizing read p with
  | nil =>
    rw [sizeFrom?] at h
    split at h
    · cases h
      exact Nat.le_refl _
    · cases h
  | cons b s ih =>
    rw [sizeFrom?] at h
    rw [List.length_cons]
    split at h
    · cases h
      omega
    · split at h
      · cases h
        omega
      · have := ih h
        omega

/-- A complete part is no longer than the bytes at hand. -/
theorem size?_le {p : Part} {s : Bytes} {n : Nat} (h : p.size? s = some n) : n ≤ s.length := by
  simpa using sizeFrom?_le h

theorem size?_cons {p : Part} {b : UInt8} (hd : p.isDone = false) (he : p.endsWith b = false)
    (s : Bytes) : p.size? (b :: s) = ((p.next b).size? s).map (1 + ·) := by
  rw [size?, sizeFrom?]
  simp only [hd, he, Bool.false_eq_true, if_false]
  exact sizeFrom?_eq 1 (p.next b) s

theorem cut_of_size? {p : Part} {s : Bytes} {n : Nat} (h : p.size? s = some n) :
    p.cut s = (s.take n, s.drop n) := by
  rw [cut, h]

theorem cut_of_none {p : Part} {s : Bytes} (h : p.size? s = none) : p.cut s = (s, []) := by
  rw [cut, h]

/-- A complete part is cut off in the same way when more bytes follow. -/
theorem cut_append_of_size? {p : Part} {s : Bytes} {n : Nat} (h : p.size? s = some n)
    (t : Bytes) : p.cut (s ++ t) = (s.take n, s.drop n ++ t) := by
  have hn := size?_le h
  rw [cut_of_size? (size?_append h t), List.take_append_of_le_length hn,
    List.drop_append_of_le_length hn]

/-- Bytes that do not complete a part belong to it. -/
theorem cut_append_of_none {p : Part} {s : Bytes} (h : p.size? s = none) (t : Bytes) :
    p.cut (s ++ t) = (s ++ ((p.after s).cut t).1, ((p.after s).cut t).2) := by
  have hs := size?_append_of_none h t
  cases ht : (p.after s).size? t with
  | none =>
    rw [ht, Option.map_none] at hs
    rw [cut_of_none hs, cut_of_none ht]
  | some n =>
    rw [ht, Option.map_some] at hs
    rw [cut_of_size? hs, cut_of_size? ht, List.take_length_add_append,
      List.drop_length_add_append]

/-- The two pieces of a cut make up the bytes. -/
theorem append_cut (p : Part) (s : Bytes) : (p.cut s).1 ++ (p.cut s).2 = s := by
  cases h : p.size? s with
  | none => rw [cut_of_none h, List.append_nil]
  | some n => rw [cut_of_size? h, List.take_append_drop]

/-! ### Lines -/

theorem size?_line_of_notMem {s : Bytes} (h : 0x0A ∉ s) : line.size? s = none := by
  induction s with
  | nil => rfl
  | cons b s ih =>
    obtain ⟨hb, hs⟩ := not_or.1 (fun hm => h (List.mem_cons.2 hm))
    have he : line.endsWith b = false := beq_false_of_ne (Ne.symm hb)
    rw [size?_cons rfl he, next, ih hs, Option.map_none]

/-- The first line of some bytes is not empty. -/
theorem cut_line_ne_nil (b : UInt8) (s : Bytes) : (line.cut (b :: s)).1 ≠ [] := by
  by_cases hb : b = 0x0A
  · have hsize : line.size? [b] = some 1 := by simp [size?, sizeFrom?, isDone, endsWith, hb]
    rw [← List.singleton_append, cut_append_of_size? hsize]
    exact List.cons_ne_nil _ _
  · have hsize : line.size? [b] = none := size?_line_of_notMem (by simp [Ne.symm hb])
    rw [← List.singleton_append, cut_append_of_none hsize]
    exact List.cons_ne_nil _ _

theorem after_line (s : Bytes) : line.after s = line := by
  induction s with
  | nil => rfl
  | cons b s ih => exact ih

/-! ### Blocks of lines -/

theorem size?_block_of_notMem {s : Bytes} (h : 0x0A ∉ s) (begun : Bytes) :
    (block begun).size? s = none := by
  induction s generalizing begun with
  | nil => rfl
  | cons b s ih =>
    obtain ⟨hb, hs⟩ := not_or.1 (fun hm => h (List.mem_cons.2 hm))
    have he : (block begun).endsWith b = false := by simp [endsWith, Ne.symm hb]
    rw [size?_cons rfl he, next, ih hs, Option.map_none]

theorem after_block_of_notMem {s : Bytes} (h : 0x0A ∉ s) (begun : Bytes) :
    (block begun).after s = block (s.reverse ++ begun) := by
  induction s generalizing begun with
  | nil => rfl
  | cons b s ih =>
    obtain ⟨hb, hs⟩ := not_or.1 (fun hm => h (List.mem_cons.2 hm))
    have hn : (block begun).next b = block (b :: begun) := by rw [next, if_neg (Ne.symm hb)]
    rw [after, List.foldl_cons, hn, ← after, ih hs]
    simp

/-! ### Bodies -/

theorem size?_count (n : Nat) (s : Bytes) :
    (count n).size? s = if n ≤ s.length then some n else none := by
  induction s generalizing n with
  | nil => cases n <;> rfl
  | cons b s ih =>
    match n with
    | 0 => rfl
    | 1 => simp [size?, sizeFrom?, isDone, endsWith]
    | n + 2 =>
      have he : (count (n + 2)).endsWith b = false := by simp [endsWith]
      have hn : n + 2 - 1 = n + 1 := rfl
      rw [size?_cons rfl he, next, ih, List.length_cons, hn]
      by_cases hlen : n + 1 ≤ s.length
      · rw [if_pos hlen, if_pos (by omega), Option.map_some, Nat.add_comm 1]
      · rw [if_neg hlen, if_neg (by omega), Option.map_none]

end Part

/-! ### The text of a line -/

/-- The byte belongs to the end of a line. -/
def isLineEnd (b : UInt8) : Bool :=
  b == 0x0A || b == 0x0D

theorem isLineEnd_cr : ∀ b ∈ [(0x0D : UInt8)], isLineEnd b = true := by
  simp [isLineEnd]

theorem isLineEnd_crlf : ∀ b ∈ [(0x0D : UInt8), 0x0A], isLineEnd b = true := by
  simp [isLineEnd]

theorem lineText_of_getLast? {s e : Bytes} (he : ∀ b ∈ e, isLineEnd b = true)
    (hs : ∀ b, s.getLast? = some b → isLineEnd b = false) :
    lineText (s ++ e) = Utf8.decodeLossy s := by
  show Utf8.decodeLossy ((s ++ e).reverse.dropWhile isLineEnd).reverse = _
  have hend : ∀ b ∈ e.reverse, isLineEnd b = true := fun b hb => he b (List.mem_reverse.1 hb)
  have hkeep : s.reverse.dropWhile isLineEnd = s.reverse := by
    cases hr : s.reverse with
    | nil => rfl
    | cons b r =>
      have hlast : s.getLast? = some b := by rw [← List.head?_reverse, hr, List.head?_cons]
      rw [List.dropWhile_cons_of_neg]
      simp [hs b hlast]
  rw [List.reverse_append, List.dropWhile_append_of_pos hend, hkeep, List.reverse_reverse]

/-- A line that does not itself end in a CR or LF is read back, whatever line end follows it. -/
theorem lineText_encode_append {t : Text} {e : Bytes} (he : ∀ b ∈ e, isLineEnd b = true)
    (ht : ∀ c, t.getLast? = some c → c ≠ '\n' ∧ c ≠ '\r') :
    lineText (Utf8.encode t ++ e) = t := by
  rw [lineText_of_getLast? he, Utf8.decodeLossy_encode]
  intro b hb
  rcases List.eq_nil_or_concat t with rfl | ⟨u, c, rfl⟩
  · cases hb
  · rw [List.concat_eq_append] at ht hb
    obtain ⟨hlf, hcr⟩ := ht c List.getLast?_concat
    have hne : Utf8.encode [c] ≠ [] := Utf8.encode_ne_nil (List.cons_ne_nil c [])
    rw [Utf8.encode_append, List.getLast?_append_of_ne_nil _ hne] at hb
    have hmem : b ∈ Utf8.encode [c] := List.mem_of_getLast? hb
    rw [isLineEnd, Bool.or_eq_false_iff]
    refine ⟨beq_false_of_ne ?_, beq_false_of_ne ?_⟩
    · rintro rfl
      have h := (Utf8.mem_encode_iff_of_ascii (c := '\n') (by decide)).1 hmem
      exact hlf (List.mem_singleton.1 h).symm
    · rintro rfl
      have h := (Utf8.mem_encode_iff_of_ascii (c := '\r') (by decide)).1 hmem
      exact hcr (List.mem_singleton.1 h).symm

end HttpServer
