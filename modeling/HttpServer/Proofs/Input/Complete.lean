import HttpServer.Proofs.Input.Part
import Mathlib.Data.List.Induction

/-!
# Parts that are complete

Some bytes fill a part if it ends with the last of them. What fills a part is cut off in front of
anything, and no proper beginning of it is a complete part, so a reader that has got less takes all
there is and knows that the part did not end.

Every byte string either starts with what fills a part or leaves the part open, and which of the two
it is can be told from the bytes: there is an LF, a blank line or a CR LF, or there is none.

## Main definitions

* `Part.FilledBy`: bytes that make up a whole part.
* `blockBytes`: some header lines and the blank one behind them.
* `EndsAtCrLf`: bytes that go through their first CR LF.

## Main results

* `Part.FilledBy.cut_append`, `Part.FilledBy.cut_of_prefix_of_ne`: what is cut off.
* `Part.filledBy_line`, `Part.filledBy_block`, `Part.filledBy_count`, `Part.filledBy_crlf`: what
  fills each part.
* `exists_lines`, `exists_crLf`: the two cases for a block and for a CR LF.
-/

namespace HttpServer

/-- Some header lines, each with its LF, and a last line behind them. -/
def blockBytes (lines : List Bytes) (last : Bytes) : Bytes :=
  lines.flatMap (fun l => l ++ [0x0A]) ++ last ++ [0x0A]

/-- The bytes go through their first CR LF. -/
def EndsAtCrLf (s : Bytes) : Prop :=
  ∃ t, s = t ++ [0x0D, 0x0A] ∧ ¬[0x0D, 0x0A] <:+: t ++ [0x0D]

/-- A line of a header block: it has no LF and is not blank. -/
structure IsFieldLine (l : Bytes) : Prop where
  lf : 0x0A ∉ l
  text : (lineText l).isBlank = false

/-- A line that ends a header block. -/
structure IsBlankLine (l : Bytes) : Prop where
  lf : 0x0A ∉ l
  text : (lineText l).isBlank = true

namespace Part

/-- The bytes make up the whole part, which ends with the last of them. -/
def FilledBy (p : Part) (s : Bytes) : Prop :=
  p.size? s = some s.length

namespace FilledBy

variable {p : Part} {s t : Bytes}

/-- What fills a part is cut off, whatever follows. -/
theorem cut_append (h : p.FilledBy s) (rest : Bytes) : p.cut (s ++ rest) = (s, rest) := by
  rw [cut_append_of_size? h, List.take_length, List.drop_length, List.nil_append]

/-- A proper beginning of what fills a part does not complete it. -/
theorem size?_eq_none (h : p.FilledBy s) (ht : t <+: s) (hne : t ≠ s) : p.size? t = none := by
  cases hn : p.size? t with
  | none => rfl
  | some n =>
    obtain ⟨u, rfl⟩ := ht
    have hall : n = (t ++ u).length := Option.some.inj ((size?_append hn u).symm.trans h)
    have hle := size?_le hn
    have hu : u.length = 0 := by
      rw [List.length_append] at hall
      omega
    rw [List.length_eq_zero_iff.1 hu, List.append_nil] at hne
    exact absurd rfl hne

theorem cut_of_prefix_of_ne (h : p.FilledBy s) (ht : t <+: s) (hne : t ≠ s) : p.cut t = (t, []) :=
  cut_of_none (h.size?_eq_none ht hne)

end FilledBy

variable {p : Part} {s t : Bytes}

/-- What is left of a part is filled by further bytes. -/
theorem filledBy_append (h : p.size? s = none) (ht : (p.after s).FilledBy t) :
    p.FilledBy (s ++ t) := by
  rw [FilledBy, size?_append_of_none h, ht, Option.map_some, List.length_append]

theorem filledBy_singleton {b : UInt8} (hd : p.isDone = false) (he : p.endsWith b = true) :
    p.FilledBy [b] := by
  simp [FilledBy, size?, sizeFrom?, hd, he]

theorem after_append (p : Part) (s t : Bytes) : p.after (s ++ t) = (p.after s).after t :=
  List.foldl_append

theorem size?_singleton {b : UInt8} (hd : p.isDone = false) (he : p.endsWith b = false)
    (hn : (p.next b).isDone = false) : p.size? [b] = none := by
  simp [size?, sizeFrom?, hd, he, hn]

/-- A line is filled through its LF. -/
theorem filledBy_line (h : 0x0A ∉ s) : line.FilledBy (s ++ [0x0A]) := by
  refine filledBy_append (size?_line_of_notMem h) ?_
  rw [after_line]
  exact filledBy_singleton rfl rfl

/-! ### Blocks of lines -/

/-- A header line leaves a block as if nothing had been read. -/
theorem size?_block_line {l : Bytes} (h : IsFieldLine l) :
    (block []).size? (l ++ [0x0A]) = none ∧ (block []).after (l ++ [0x0A]) = block [] := by
  have hafter := after_block_of_notMem h.lf []
  rw [List.append_nil] at hafter
  have he : (block l.reverse).endsWith 0x0A = false := by simp [endsWith, h.text]
  constructor
  · rw [size?_append_of_none (size?_block_of_notMem h.lf []), hafter, size?_singleton rfl he rfl,
      Option.map_none]
  · rw [after_append, hafter]
    rfl

/-- Header lines leave a block as if nothing had been read. -/
theorem size?_block_lines {lines : List Bytes} (h : ∀ l ∈ lines, IsFieldLine l) :
    (block []).size? (lines.flatMap fun l => l ++ [0x0A]) = none ∧
      (block []).after (lines.flatMap fun l => l ++ [0x0A]) = block [] := by
  induction lines with
  | nil => exact ⟨rfl, rfl⟩
  | cons l lines ih =>
    obtain ⟨hsize, hafter⟩ := size?_block_line (h l List.mem_cons_self)
    obtain ⟨hsize', hafter'⟩ := ih fun m hm => h m (List.mem_cons_of_mem l hm)
    rw [List.flatMap_cons]
    constructor
    · rw [size?_append_of_none hsize, hafter, hsize', Option.map_none]
    · rw [after_append, hafter, hafter']

/-- A block is filled through its blank line. -/
theorem filledBy_block {lines : List Bytes} (h : ∀ l ∈ lines, IsFieldLine l) {blank : Bytes}
    (hb : IsBlankLine blank) : (block []).FilledBy (blockBytes lines blank) := by
  obtain ⟨hsize, hafter⟩ := size?_block_lines h
  have he : (block blank.reverse).endsWith 0x0A = true := by simp [endsWith, hb.text]
  rw [blockBytes, List.append_assoc]
  refine filledBy_append hsize ?_
  rw [hafter]
  refine filledBy_append (size?_block_of_notMem hb.lf []) ?_
  rw [after_block_of_notMem hb.lf, List.append_nil]
  exact filledBy_singleton rfl he

/-! ### Bodies -/

theorem filledBy_count (s : Bytes) : (count s.length).FilledBy s := by
  simp [FilledBy, size?_count]

/-- Bytes without a CR LF do not complete the part that ends with one; what is left of it depends on
whether a CR is their last byte. -/
theorem size?_crlf {s : Bytes} (h : ¬[0x0D, 0x0A] <:+: s) :
    (crlf false).size? s = none ∧
      (crlf false).after s = crlf (decide (s.getLast? = some 0x0D)) := by
  induction s using List.reverseRecOn with
  | nil => exact ⟨rfl, rfl⟩
  | append_singleton s b ih =>
    obtain ⟨hsize, hafter⟩ := ih fun hs => h (List.infix_concat_iff.2 (.inr hs))
    have he : (crlf (decide (s.getLast? = some 0x0D))).endsWith b = false := by
      rw [endsWith, Bool.and_eq_false_imp, decide_eq_true_eq]
      intro hcr
      refine beq_false_of_ne fun hlf => h (List.infix_concat_iff.2 (.inl ?_))
      obtain ⟨t, rfl⟩ := List.getLast?_eq_some_iff.1 hcr
      exact ⟨t, by simp [hlf]⟩
    constructor
    · rw [size?_append_of_none hsize, hafter, size?_singleton rfl he rfl, Option.map_none]
    · rw [after_append, hafter, List.getLast?_concat]
      show crlf (b == 0x0D) = _
      simp [beq_eq_decide]

/-- A body without an announced length is filled through its first CR LF. -/
theorem filledBy_crlf {s : Bytes} (h : EndsAtCrLf s) : (crlf false).FilledBy s := by
  obtain ⟨t, rfl, ht⟩ := h
  obtain ⟨hsize, hafter⟩ := size?_crlf ht
  have hs : t ++ [0x0D, 0x0A] = t ++ [0x0D] ++ [0x0A] := by simp
  rw [hs]
  refine filledBy_append hsize ?_
  rw [hafter, List.getLast?_concat]
  exact filledBy_singleton rfl rfl

end Part

/-! ### The text of a line -/

/-- An LF at the end of a line is no part of its text. -/
theorem lineText_concat (s : Bytes) : lineText (s ++ [0x0A]) = lineText s := by
  simp [lineText]

/-! ### Cutting bytes into lines -/

/-- Every byte string has header lines at its start that are followed either by a blank line, or by
a last line without its LF. -/
theorem exists_lines (s : Bytes) : ∃ lines : List Bytes, (∀ l ∈ lines, IsFieldLine l) ∧
    ((∃ blank rest, IsBlankLine blank ∧ s = blockBytes lines blank ++ rest) ∨
      ∃ last, 0x0A ∉ last ∧ s = lines.flatMap (fun l => l ++ [0x0A]) ++ last) := by
  induction hn : s.length using Nat.strongRecOn generalizing s with
  | ind n ih =>
    by_cases hlf : (0x0A : UInt8) ∈ s
    · obtain ⟨l, rest, rfl, hl⟩ := List.eq_append_cons_of_mem hlf
      by_cases hb : (lineText l).isBlank = true
      · exact ⟨[], List.forall_mem_nil _, .inl ⟨l, rest, ⟨hl, hb⟩, by simp [blockBytes]⟩⟩
      · have hfield : IsFieldLine l := ⟨hl, by simpa using hb⟩
        have hlt : rest.length < n := by
          rw [← hn, List.length_append, List.length_cons]
          omega
        obtain ⟨lines, hlines, hrest⟩ := ih _ hlt rest rfl
        refine ⟨l :: lines, List.forall_mem_cons.2 ⟨hfield, hlines⟩, ?_⟩
        rcases hrest with ⟨blank, rest', hblank, hrest⟩ | ⟨last, hlast, hrest⟩
        · exact .inl ⟨blank, rest', hblank, by simp [hrest, blockBytes]⟩
        · exact .inr ⟨last, hlast, by simp [hrest]⟩
    · exact ⟨[], List.forall_mem_nil _, .inr ⟨s, hlf, rfl⟩⟩

/-- Every byte string either starts with bytes through their first CR LF or has none. -/
theorem exists_crLf (s : Bytes) :
    (∃ t rest, EndsAtCrLf t ∧ s = t ++ rest) ∨ ¬[0x0D, 0x0A] <:+: s := by
  induction s using List.reverseRecOn with
  | nil => exact .inr (by simp)
  | append_singleton s b ih =>
    rcases ih with ⟨t, rest, ht, rfl⟩ | hs
    · exact .inl ⟨t, rest ++ [b], ht, List.append_assoc t rest [b]⟩
    · by_cases hb : [0x0D, 0x0A] <:+: s ++ [b]
      · rcases List.infix_concat_iff.1 hb with ⟨t, ht⟩ | hs'
        · have hs' : t ++ [0x0D] = s := by
            have hlast : (t ++ [0x0D]) ++ [0x0A] = s ++ [b] := by simpa using ht
            exact (List.append_inj' hlast rfl).1
          exact .inl ⟨s ++ [b], [], ⟨t, ht.symm, hs' ▸ hs⟩, (List.append_nil _).symm⟩
        · exact absurd hs' hs
      · exact .inr hb

end HttpServer
