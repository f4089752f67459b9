import HttpServer.Proofs.Request.Decoding
import HttpServer.Proofs.Request.Truncation
import HttpServer.Proofs.Text.Lossy
import Mathlib.Logic.Relation

/-!
# Spellings of a head

One head can be spelled in many ways. The CRs in front of an LF are no part of a line, white space
around a name or a value is trimmed, names are put in lower case, lines without a colon are skipped,
words behind the second are passed over, and fields with different names may stand in any order.
Each of these respellings is a step from one head to another (`HeadSpelling.Step`). A step leads
from a complete head to a complete head with the same first two words and the same fields, and so do
any number of them, whatever lines they are about and in whatever order they come.

Lines are compared by their lenient reading with everything in front of the LF
(`words_lineText`, `Fields.parseLine?_lineText`), for the CRs that a line is read without are white
space, and a header line that is not text is cut apart at the same places as one that is.

## Main definitions

* `HeadSpelling`, `HeadSpelling.Complete`: a head as it stands on the wire.
* `Padding`, `Padding.line`: a header line with white space around its name and its value.
* `Respelled`, `HeadSpelling.Step`: respelling a line, and a head.

## Main results

* `HeadSpelling.Step.complete`, `HeadSpelling.Step.fields_eq`: what a step keeps.
* `Request.read_respelled`: what is read of a head does not depend on its spelling.
-/

namespace HttpServer

/-! ### Lines with their CRs -/

/-- The CRs in front of an LF. -/
def crs (n : Nat) : Bytes :=
  List.replicate n 0x0D

theorem encode_replicate_cr (n : Nat) : Utf8.encode (List.replicate n '\r') = crs n := by
  induction n with
  | zero => rfl
  | succ n ih => rw [List.replicate_succ, Utf8.encode_cons, ih, crs, crs, List.replicate_succ]; rfl

theorem isBlank_replicate_cr (n : Nat) : Text.isBlank (List.replicate n '\r') = true :=
  List.all_eq_true.2 fun c hc => by rw [List.eq_of_mem_replicate hc]; decide

theorem decodeLossy_append_crs (s : Bytes) (n : Nat) :
    Utf8.decodeLossy (s ++ crs n) = Utf8.decodeLossy s ++ List.replicate n '\r' := by
  rw [← encode_replicate_cr, Utf8.decodeLossy_append_encode]

theorem colon_mem_decodeLossy_iff {s : Bytes} : ':' ∈ Utf8.decodeLossy s ↔ 0x3A ∈ s :=
  Utf8.mem_decodeLossy_iff_of_ascii (c := ':') (by decide)

theorem lf_mem_bytes_iff {t : Text} : 0x0A ∈ t.bytes ↔ '\n' ∈ t :=
  Utf8.mem_encode_iff_of_ascii (c := '\n') (by decide)

theorem Text.colon_notMem_of_isBlank {w : Text} (h : w.isBlank = true) : ':' ∉ w := fun hm =>
  absurd (List.all_eq_true.1 h _ hm) (by decide)

/-- What a line is read without is white space at its end. -/
theorem exists_decodeLossy_eq {s : Bytes} (h : 0x0A ∉ s) :
    ∃ w : Text, w.isBlank = true ∧ Utf8.decodeLossy s = lineText s ++ w := by
  induction s using List.reverseRecOn with
  | nil => exact ⟨[], rfl, rfl⟩
  | append_singleton s b ih =>
    by_cases hb : b = 0x0D
    · obtain ⟨w, hw, heq⟩ := ih fun hm => h (List.mem_append_left _ hm)
      have hline : lineText (s ++ [0x0D]) = lineText s := by simp [lineText]
      refine ⟨w ++ ['\r'], ?_, ?_⟩
      · rw [Text.isBlank_append, hw]
        rfl
      · rw [hb, hline, ← List.append_assoc, ← heq]
        exact decodeLossy_append_crs s 1
    · have hlf : b ≠ 0x0A := fun hlf => h (by simp [hlf])
      have hline : lineText (s ++ [b] ++ []) = Utf8.decodeLossy (s ++ [b]) := by
        refine lineText_of_getLast? (List.forall_mem_nil _) fun d hd => ?_
        rw [List.getLast?_concat] at hd
        cases hd
        simp [isLineEnd, hb, hlf]
      rw [List.append_nil] at hline
      exact ⟨[], rfl, by rw [hline, List.append_nil]⟩

theorem words_lineText {s : Bytes} (h : 0x0A ∉ s) :
    (lineText s).words = (Utf8.decodeLossy s).words := by
  obtain ⟨w, hw, heq⟩ := exists_decodeLossy_eq h
  rw [heq, Text.words_append_of_isBlank hw]

theorem isBlank_lineText {s : Bytes} (h : 0x0A ∉ s) :
    (lineText s).isBlank = (Utf8.decodeLossy s).isBlank := by
  obtain ⟨w, hw, heq⟩ := exists_decodeLossy_eq h
  rw [heq, Text.isBlank_append, hw, Bool.and_true]

/-- A line with a colon is a header line, even if nothing else stands on it. -/
theorem isFieldLine_of_colon {l : Bytes} (hlf : 0x0A ∉ l) (hcolon : 0x3A ∈ l) : IsFieldLine l where
  lf := hlf
  text := by
    rw [isBlank_lineText hlf]
    exact Text.isBlank_eq_false_of_mem (colon_mem_decodeLossy_iff.2 hcolon) (by decide)

namespace Fields

/-- The field of a header line, if it has a colon. -/
def ofLine? (l : Bytes) : Option (Text × Text) :=
  parseLine? (lineText l)

theorem parseLine?_append {name : Text} (h : ':' ∉ name) (value : Text) :
    parseLine? (name ++ ':' :: value) = some (Text.lower name.trim, value.trim) := by
  rw [parseLine?, splitOnce?_append h, Option.map_some]

theorem parseLine?_append_blank {w : Text} (h : w.isBlank = true) (t : Text) :
    parseLine? (t ++ w) = parseLine? t := by
  by_cases ht : ':' ∈ t
  · obtain ⟨name, value, rfl, hname⟩ := List.eq_append_cons_of_mem ht
    rw [List.append_assoc, List.cons_append, parseLine?_append hname, parseLine?_append hname,
      Text.trim_append_blank h]
  · have hboth : ':' ∉ t ++ w := fun hm =>
      (List.mem_append.1 hm).elim ht (Text.colon_notMem_of_isBlank h)
    rw [parseLine?, parseLine?, splitOnce?_eq_none_iff.2 ht, splitOnce?_eq_none_iff.2 hboth]

theorem ofLine?_eq {l : Bytes} (h : 0x0A ∉ l) :
    ofLine? l = parseLine? (Utf8.decodeLossy l) := by
  obtain ⟨w, hw, heq⟩ := exists_decodeLossy_eq h
  rw [ofLine?, heq, parseLine?_append_blank hw]

theorem ofLine?_of_no_colon {l : Bytes} (h : 0x0A ∉ l) (hcolon : 0x3A ∉ l) : ofLine? l = none := by
  have hnone : ':' ∉ Utf8.decodeLossy l := mt colon_mem_decodeLossy_iff.1 hcolon
  rw [ofLine?_eq h, parseLine?, splitOnce?_eq_none_iff.2 hnone, Option.map_none]

end Fields

/-! ### Header lines -/

/-- White space around the name and the value of a header line. -/
structure Padding where
  /-- In front of the name. -/
  beforeName : Text
  /-- Behind the name. -/
  afterName : Text
  /-- In front of the value. -/
  beforeValue : Text
  /-- Behind the value. -/
  afterValue : Text
  blank : (beforeName ++ afterName ++ beforeValue ++ afterValue).isBlank = true
  lf : '\n' ∉ beforeName ++ afterName ++ beforeValue ++ afterValue

namespace Padding

variable (p : Padding) {name value : Bytes}

/-- A header line. -/
def line (name value : Bytes) : Bytes :=
  p.beforeName.bytes ++ name ++ p.afterName.bytes ++ [0x3A] ++ p.beforeValue.bytes ++ value ++
    p.afterValue.bytes

theorem colon_mem_line : 0x3A ∈ p.line name value := by
  simp [line]

theorem lf_notMem_line_iff : 0x0A ∉ p.line name value ↔ 0x0A ∉ name ∧ 0x0A ∉ value := by
  have hlf := p.lf
  simp only [List.mem_append, not_or] at hlf
  obtain ⟨⟨⟨h₁, h₂⟩, h₃⟩, h₄⟩ := hlf
  simp [line, lf_mem_bytes_iff, h₁, h₂, h₃, h₄]

theorem decodeLossy_line : Utf8.decodeLossy (p.line name value) =
    (p.beforeName ++ (Utf8.decodeLossy name ++ p.afterName)) ++
      ':' :: (p.beforeValue ++ (Utf8.decodeLossy value ++ p.afterValue)) := by
  have hline : p.line name value = Utf8.encode p.beforeName ++ (name ++
      (Utf8.encode (p.afterName ++ ':' :: p.beforeValue) ++
        (value ++ Utf8.encode p.afterValue))) := by
    have hcolon : Utf8.encodeChar ':' = [0x3A] := rfl
    simp [line, Text.bytes, Utf8.encode_append, Utf8.encode_cons, hcolon]
  rw [hline, Utf8.decodeLossy_encode_append, Utf8.decodeLossy_text name (by simp),
    Utf8.decodeLossy_append_encode]
  simp

/-- The field of a header line does not depend on the white space. -/
theorem ofLine?_line (hlf : 0x0A ∉ p.line name value) (hcolon : 0x3A ∉ name) :
    Fields.ofLine? (p.line name value) =
      some (Text.lower (Utf8.decodeLossy name).trim, (Utf8.decodeLossy value).trim) := by
  have hblank := p.blank
  simp only [Text.isBlank_append, Bool.and_eq_true] at hblank
  obtain ⟨⟨⟨h₁, h₂⟩, h₃⟩, h₄⟩ := hblank
  have hname : ':' ∉ p.beforeName ++ (Utf8.decodeLossy name ++ p.afterName) := by
    rw [List.mem_append, List.mem_append, colon_mem_decodeLossy_iff, not_or, not_or]
    exact ⟨Text.colon_notMem_of_isBlank h₁, hcolon, Text.colon_notMem_of_isBlank h₂⟩
  rw [Fields.ofLine?_eq hlf, decodeLossy_line, Fields.parseLine?_append hname,
    Text.trim_blank_append h₁, Text.trim_append_blank h₂, Text.trim_blank_append h₃,
    Text.trim_append_blank h₄]

end Padding

/-- Two spellings of one line, without their LF: the CRs at its end may differ, and in a header line
also the case of letters in the name, and the white space around the name and the value. -/
inductive Respelled : Bytes → Bytes → Prop
  | lineEnd (s : Bytes) (m n : Nat) : Respelled (s ++ crs m) (s ++ crs n)
  | field (p q : Padding) {name name' : Bytes} (value : Bytes) (hcolon : 0x3A ∉ name)
      (hcase : name.map Utf8.lowerByte = name'.map Utf8.lowerByte) :
      Respelled (p.line name value) (q.line name' value)

namespace Respelled

variable {l l' : Bytes}

theorem lf_notMem_crs (n : Nat) : 0x0A ∉ crs n := fun h =>
  absurd (List.eq_of_mem_replicate h) (by decide)

theorem lf_notMem (h : Respelled l l') (hl : 0x0A ∉ l) : 0x0A ∉ l' := by
  cases h with
  | lineEnd s m n =>
    intro hm
    exact (List.mem_append.1 hm).elim (fun hs => hl (List.mem_append_left _ hs)) (lf_notMem_crs n)
  | field p q value hcolon hcase =>
    obtain ⟨hname, hvalue⟩ := p.lf_notMem_line_iff.1 hl
    exact q.lf_notMem_line_iff.2
      ⟨fun hm => hname (Utf8.mem_of_map_lowerByte hcase.symm (by decide) hm), hvalue⟩

theorem isBlank_eq (h : Respelled l l') (hl : 0x0A ∉ l) :
    (lineText l').isBlank = (lineText l).isBlank := by
  have hl' := h.lf_notMem hl
  cases h with
  | lineEnd s m n =>
    simp only [isBlank_lineText hl, isBlank_lineText hl', decodeLossy_append_crs,
      Text.isBlank_append, isBlank_replicate_cr, Bool.and_true]
  | field p q value hcolon hcase =>
    rw [(isFieldLine_of_colon hl p.colon_mem_line).text,
      (isFieldLine_of_colon hl' q.colon_mem_line).text]

theorem ofLine?_eq (h : Respelled l l') (hl : 0x0A ∉ l) :
    Fields.ofLine? l' = Fields.ofLine? l := by
  have hl' := h.lf_notMem hl
  cases h with
  | lineEnd s m n =>
    simp only [Fields.ofLine?_eq hl, Fields.ofLine?_eq hl', decodeLossy_append_crs,
      Fields.parseLine?_append_blank (isBlank_replicate_cr _)]
  | field p q value hcolon hcase =>
    have hcolon' := fun hm => hcolon (Utf8.mem_of_map_lowerByte hcase.symm (by decide) hm)
    rw [p.ofLine?_line hl hcolon, q.ofLine?_line hl' hcolon', Text.lower_trim, Text.lower_trim,
      Utf8.lower_decodeLossy_congr hcase]

theorem isFieldLine (h : Respelled l l') (hl : IsFieldLine l) : IsFieldLine l' :=
  ⟨h.lf_notMem hl.lf, (h.isBlank_eq hl.lf).trans hl.text⟩

theorem isBlankLine (h : Respelled l l') (hl : IsBlankLine l) : IsBlankLine l' :=
  ⟨h.lf_notMem hl.lf, (h.isBlank_eq hl.lf).trans hl.text⟩

end Respelled

/-! ### First lines -/

/-- White space and anything behind it adds words to a line. -/
theorem words_lineText_append {s more : Bytes} {c : Char} (hc : isBlank c = true)
    (h : 0x0A ∉ s ++ (Text.bytes [c] ++ more)) :
    (lineText (s ++ (Text.bytes [c] ++ more))).words =
      (lineText s).words ++ (Utf8.decodeLossy more).words := by
  rw [words_lineText h, words_lineText (mt (List.mem_append_left _) h), Text.bytes,
    Utf8.decodeLossy_text s (List.cons_ne_nil c []), List.singleton_append,
    Text.words_append_blank hc]

/-- A first line is judged by its words. -/
theorem Head.parseLine_congr {s t : Text} (h : s.words = t.words) : parseLine s = parseLine t := by
  rw [parseLine_eq, parseLine_eq, h]

/-- Further words make no difference to a good first line. -/
theorem Head.parseLine_of_words_append {s t : Text} {more : List Text}
    (h : t.words = s.words ++ more) {m : Method × Text × Params} (hm : parseLine s = .ok m) :
    parseLine t = .ok m := by
  rw [parseLine_eq] at hm ⊢
  rw [h]
  generalize s.words = words at hm
  obtain _ | ⟨method, _ | ⟨target, words⟩⟩ := words
  · cases hm
  · cases hm
  · exact hm

/-! ### The fields of some header lines -/

namespace Fields

variable (before after : List Bytes) {l l' : Bytes}

theorem ofLines_append (lines more : List Bytes) : ofLines (lines ++ more) =
    (more.filterMap ofLine?).foldl (fun f nv => f.insert nv.1 nv.2) (ofLines lines) := by
  rw [ofLines, List.filterMap_append, ofList, List.foldl_append]
  rfl

theorem ofLines_congr (h : ofLine? l' = ofLine? l) :
    ofLines (before ++ l' :: after) = ofLines (before ++ l :: after) := by
  rw [ofLines_append, ofLines_append, List.filterMap_cons, List.filterMap_cons, h]

theorem ofLines_skip (h : ofLine? l = none) :
    ofLines (before ++ l :: after) = ofLines (before ++ after) := by
  rw [ofLines_append, ofLines_append, List.filterMap_cons, h]

theorem ofLines_swap (h : ∀ f ∈ ofLine? l, ∀ g ∈ ofLine? l', f.1 ≠ g.1) :
    ofLines (before ++ l' :: l :: after) = ofLines (before ++ l :: l' :: after) := by
  rw [ofLines_append, ofLines_append]
  simp only [List.filterMap_cons]
  cases hl : ofLine? l with
  | none => cases ofLine? l' <;> rfl
  | some f =>
    cases hl' : ofLine? l' with
    | none => rfl
    | some g =>
      have hne : f.1 ≠ g.1 := h f hl g hl'
      simp only [List.foldl_cons, insert_comm _ hne]

end Fields

/-! ### Heads -/

/-- A head as it stands on the wire, where each line is followed by an LF. -/
structure HeadSpelling where
  /-- The first line. -/
  first : Bytes
  /-- The header lines. -/
  lines : List Bytes
  /-- The blank line. -/
  blank : Bytes

namespace HeadSpelling

variable {h h' : HeadSpelling} {m : Method × Text × Params}

/-- All bytes of the head. -/
def bytes (h : HeadSpelling) : Bytes :=
  h.first ++ [0x0A] ++ blockBytes h.lines h.blank

/-- The header fields. -/
def fields (h : HeadSpelling) : Fields :=
  .ofLines h.lines

/-- The lines are those that a reader cuts off. -/
structure Framed (h : HeadSpelling) : Prop where
  first_lf : 0x0A ∉ h.first
  lines_field : ∀ l ∈ h.lines, IsFieldLine l
  blank_blank : IsBlankLine h.blank

/-- The head goes through its blank line and has a good first line, which says `m`. -/
structure Complete (h : HeadSpelling) (m : Method × Text × Params) : Prop extends Framed h where
  first_parse : Head.parseLine (lineText h.first) = .ok m

/-- A complete head is read, whatever follows it. -/
theorem Complete.ofBytes (hc : h.Complete m) (rest : Bytes) :
    Head.ofBytes (h.bytes ++ rest) = (.ok ⟨m.1, m.2.1, m.2.2, h.fields⟩, rest) := by
  rw [bytes, List.append_assoc, Head.ofBytes_line hc.first_lf, hc.first_parse]
  simp only [(Part.filledBy_block hc.lines_field hc.blank_blank).cut_append,
    Fields.ofBlock_blockBytes hc.lines_field hc.blank_blank]
  rfl

/-- One change of the spelling of a head. -/
inductive Step : HeadSpelling → HeadSpelling → Prop
  /-- The first line ends with another number of CRs. -/
  | firstEnd (first : Bytes) (m n : Nat) (lines : List Bytes) (blank : Bytes) :
      Step ⟨first ++ crs m, lines, blank⟩ ⟨first ++ crs n, lines, blank⟩
  /-- The first line goes on behind white space. -/
  | moreWords (first : Bytes) {c : Char} (hc : isBlank c = true) (hlf : c ≠ '\n') {more : Bytes}
      (hmore : 0x0A ∉ more) (lines : List Bytes) (blank : Bytes) :
      Step ⟨first, lines, blank⟩ ⟨first ++ (Text.bytes [c] ++ more), lines, blank⟩
  /-- A header line is spelled in another way. -/
  | line (first : Bytes) (before : List Bytes) {l l' : Bytes} (hl : Respelled l l')
      (after : List Bytes) (blank : Bytes) :
      Step ⟨first, before ++ l :: after, blank⟩ ⟨first, before ++ l' :: after, blank⟩
  /-- There is one more line, which is not blank and has no colon. -/
  | skipped (first : Bytes) (before : List Bytes) {l : Bytes} (hl : IsFieldLine l)
      (hcolon : 0x3A ∉ l) (after : List Bytes) (blank : Bytes) :
      Step ⟨first, before ++ after, blank⟩ ⟨first, before ++ l :: after, blank⟩
  /-- Two neighbouring fields with different names change places. -/
  | swap (first : Bytes) (before : List Bytes) {l l' : Bytes}
      (hne : ∀ f ∈ Fields.ofLine? l, ∀ g ∈ Fields.ofLine? l', f.1 ≠ g.1) (after : List Bytes)
      (blank : Bytes) :
      Step ⟨first, before ++ l :: l' :: after, blank⟩ ⟨first, before ++ l' :: l :: after, blank⟩
  /-- The blank line ends with another number of CRs. -/
  | blankEnd (first : Bytes) (lines : List Bytes) (blank : Bytes) (m n : Nat) :
      Step ⟨first, lines, blank ++ crs m⟩ ⟨first, lines, blank ++ crs n⟩

/-- **A step** leads from a complete head to a complete head that says the same. -/
theorem Step.complete (hs : Step h h') (hc : h.Complete m) : h'.Complete m := by
  obtain ⟨⟨hfirst, hlines, hblank⟩, hparse⟩ := hc
  cases hs with
  | firstEnd first k n lines blank =>
    have hlf : 0x0A ∉ first ++ crs n := (Respelled.lineEnd first k n).lf_notMem hfirst
    refine ⟨⟨hlf, hlines, hblank⟩, hparse ▸ Head.parseLine_congr ?_⟩
    simp only [words_lineText hlf, words_lineText hfirst, decodeLossy_append_crs,
      Text.words_append_of_isBlank (isBlank_replicate_cr _)]
  | @moreWords first c hgap hgaplf more hmore lines blank =>
    have hc : 0x0A ∉ Text.bytes [c] := fun hm =>
      hgaplf (List.mem_singleton.1 (lf_mem_bytes_iff.1 hm)).symm
    have hlf : 0x0A ∉ first ++ (Text.bytes [c] ++ more) := by
      rw [List.mem_append, List.mem_append, not_or, not_or]
      exact ⟨hfirst, hc, hmore⟩
    exact ⟨⟨hlf, hlines, hblank⟩,
      Head.parseLine_of_words_append (words_lineText_append hgap hlf) hparse⟩
  | line first before hl after blank =>
    rw [List.forall_mem_append, List.forall_mem_cons] at hlines
    obtain ⟨hbefore, hline, hafter⟩ := hlines
    exact ⟨⟨hfirst, List.forall_mem_append.2
      ⟨hbefore, List.forall_mem_cons.2 ⟨hl.isFieldLine hline, hafter⟩⟩, hblank⟩, hparse⟩
  | skipped first before hl hcolon after blank =>
    obtain ⟨hbefore, hafter⟩ := List.forall_mem_append.1 hlines
    exact ⟨⟨hfirst, List.forall_mem_append.2
      ⟨hbefore, List.forall_mem_cons.2 ⟨hl, hafter⟩⟩, hblank⟩, hparse⟩
  | swap first before hne after blank =>
    refine ⟨⟨hfirst, fun l hl => hlines l ?_, hblank⟩, hparse⟩
    simp only [List.mem_append, List.mem_cons] at hl ⊢
    tauto
  | blankEnd first lines blank k n =>
    exact ⟨⟨hfirst, hlines, (Respelled.lineEnd blank k n).isBlankLine hblank⟩, hparse⟩

/-- A step keeps the fields. -/
theorem Step.fields_eq (hs : Step h h') (hc : h.Complete m) : h'.fields = h.fields := by
  have hlines := hc.lines_field
  cases hs with
  | line first before hl after blank =>
    exact Fields.ofLines_congr before after (hl.ofLine?_eq (hlines _ (by simp)).lf)
  | skipped first before hl hcolon after blank =>
    exact Fields.ofLines_skip before after (Fields.ofLine?_of_no_colon hl.lf hcolon)
  | swap first before hne after blank => exact Fields.ofLines_swap before after hne
  | _ => rfl

/-- **Any number of steps** leads to a complete head that says the same. -/
theorem complete_of_steps (hs : Relation.ReflTransGen Step h h') (hc : h.Complete m) :
    h'.Complete m ∧ h'.fields = h.fields := by
  induction hs with
  | refl => exact ⟨hc, rfl⟩
  | tail _ hstep ih =>
    obtain ⟨hmid, hfields⟩ := ih
    exact ⟨hstep.complete hmid, (hstep.fields_eq hmid).trans hfields⟩

/-- Two spellings of a head are read alike, with whatever follows them. -/
theorem ofBytes_congr (hs : Relation.ReflTransGen Step h h') (hc : h.Complete m) (rest : Bytes) :
    Request.ofBytes (h'.bytes ++ rest) = Request.ofBytes (h.bytes ++ rest) := by
  obtain ⟨hc', hfields⟩ := complete_of_steps hs hc
  rw [Request.ofBytes_eq, Request.ofBytes_eq, hc.ofBytes, hc'.ofBytes, hfields]

end HeadSpelling

/-- **The spelling of a head does not matter.** Whatever deadlines there are and however the bytes
arrive, as long as no read fails and no deadline passes: if one input starts with a complete head
and another one with a respelling of it, and the same bytes follow the two heads, then the two
readings come to the same request or the same error and leave the same bytes. The two requests
announce the same length, and each field is found under its name in any case of letters. -/
theorem Request.read_respelled (head : Nat) (idle : Option Nat) {h h' : HeadSpelling}
    {m : Method × Text × Params} (hc : h.Complete m)
    (hs : Relation.ReflTransGen HeadSpelling.Step h h') {i i' : Input} {rest : Bytes}
    (hsmooth : i.Smooth) (hsmooth' : i'.Smooth) (hunread : i.unread = h.bytes ++ rest)
    (hunread' : i'.unread = h'.bytes ++ rest)
    (hlate : ∀ stage, (read { head, idle } i).1 ≠ .error (.timedOut stage))
    (hlate' : ∀ stage, (read { head, idle } i').1 ≠ .error (.timedOut stage)) :
    let d : Deadlines := { head, idle }
    (read d i').1 = (read d i).1 ∧ (read d i').2.unread = (read d i).2.unread ∧
      ∀ r r', (read d i).1 = .ok r → (read d i').1 = .ok r' →
        r'.contentLength? = r.contentLength? ∧
        ∀ name name', Text.lower name' = Text.lower name → r'.header? name' = r.header? name := by
  intro d
  obtain ⟨j, hj, hleaves⟩ := read_of_smooth rfl hsmooth hlate
  obtain ⟨j', hj', hleaves'⟩ := read_of_smooth rfl hsmooth' hlate'
  rw [hunread] at hj hleaves
  rw [hunread', HeadSpelling.ofBytes_congr hs hc] at hj' hleaves'
  rw [hj, hj']
  refine ⟨rfl, hleaves'.unread.trans hleaves.unread.symm, fun r r' hr hr' => ?_⟩
  obtain rfl : r = r' := Except.ok.inj (hr.symm.trans hr')
  exact ⟨rfl, fun name name' hname => by rw [header?, header?, hname]⟩

/-- A form whose head is spelled with other line ends, a third word, a skipped line, the two fields
the other way round, and another spelling of the name that counts for its body. -/
theorem Request.read_respelled_form :
    let line := Utf8.encode "POST /a?x=1 HTTP/1.0".toList
    let host := Utf8.encode "Host: a".toList ++ crs 1
    let p : Padding := ⟨[], [], [' '], ['\r'], by decide, by decide⟩
    let q : Padding := ⟨['\t'], [' '], [], ['\r', '\r'], by decide, by decide⟩
    let three := Utf8.encode "3".toList
    let length := p.line (Utf8.encode "Content-Length".toList) three
    let length' := q.line (Utf8.encode "content-LENGTH".toList) three
    let skipped := Utf8.encode "no colon".toList
    let h : HeadSpelling := ⟨line ++ crs 1, [host, length], [] ++ crs 1⟩
    let h' : HeadSpelling :=
      ⟨line ++ crs 0 ++ (Text.bytes [' '] ++ [0x7A]), [length', skipped, host], [] ++ crs 0⟩
    let rest := Utf8.encode "k=vGET".toList
    let i := Input.ofBytes (h.bytes ++ rest)
    let i' := Input.ofBytes (h'.bytes ++ rest)
    h.bytes = Utf8.encode "POST /a?x=1 HTTP/1.0\r\nHost: a\r\nContent-Length: 3\r\n\r\n".toList ∧
      h'.bytes = Utf8.encode
        "POST /a?x=1 HTTP/1.0 z\n\tcontent-LENGTH :3\r\r\nno colon\nHost: a\r\n\n".toList ∧
      (∃ m, h.Complete m) ∧ Relation.ReflTransGen HeadSpelling.Step h h' ∧
      (read {} i').1 = (read {} i).1 ∧ (read {} i').2.unread = (read {} i).2.unread ∧
      ∃ r, (read {} i).1 = .ok r ∧ r.contentLength? = some 3 ∧
        r.body = Utf8.encode "k=v".toList := by
  intro line host p q three length length' skipped h h' rest i i'
  have hbytes : h.bytes =
      Utf8.encode "POST /a?x=1 HTTP/1.0\r\nHost: a\r\nContent-Length: 3\r\n\r\n".toList := by
    decide +kernel
  have hbytes' : h'.bytes = Utf8.encode
      "POST /a?x=1 HTTP/1.0 z\n\tcontent-LENGTH :3\r\r\nno colon\nHost: a\r\n\n".toList := by
    decide +kernel
  have hcomplete : ∃ m, h.Complete m := by
    have hhost : IsFieldLine host := ⟨by decide, by decide +kernel⟩
    have hlength : IsFieldLine length := ⟨by decide, by decide +kernel⟩
    have hframed : h.Framed := ⟨by decide,
      List.forall_mem_cons.2 ⟨hhost, List.forall_mem_singleton.2 hlength⟩, by decide, by decide⟩
    have hok : (Head.parseLine (lineText h.first)).isOk = true := by decide +kernel
    cases hm : Head.parseLine (lineText h.first) with
    | error e =>
      rw [hm] at hok
      cases hok
    | ok m => exact ⟨m, hframed, hm⟩
  have hlength : Respelled length length' := .field p q three (by decide) (by decide)
  have hskipped : IsFieldLine skipped := ⟨by decide, by decide +kernel⟩
  have hne : ∀ f ∈ Fields.ofLine? host, ∀ g ∈ Fields.ofLine? length, f.1 ≠ g.1 := by decide +kernel
  have hz : (0x0A : UInt8) ∉ [(0x7A : UInt8)] := by decide
  have hsteps : Relation.ReflTransGen HeadSpelling.Step h h' := by
    refine .head (.firstEnd line 1 0 _ _) ?_
    refine .head (.moreWords _ (c := ' ') (by decide) (by decide) hz _ _) ?_
    refine .head (.swap _ [] hne [] _) ?_
    refine .head (.line _ [] hlength [host] _) ?_
    refine .head (.skipped _ [length'] hskipped (by decide) [host] _) ?_
    exact .single (.blankEnd _ _ [] 1 0)
  refine ⟨hbytes, hbytes', hcomplete, hsteps, ?_⟩
  obtain ⟨m, hc⟩ := hcomplete
  obtain ⟨hresult, hrest, -⟩ := read_respelled 5000 none hc hsteps
    (Input.smooth_ofBytes (h.bytes ++ rest)) (Input.smooth_ofBytes (h'.bytes ++ rest))
    (Input.unread_ofBytes _) (Input.unread_ofBytes _) (read_ofBytes_ne_timedOut _)
    (read_ofBytes_ne_timedOut _)
  refine ⟨hresult, hrest, ?_⟩
  have hread : (ofBytes (h.bytes ++ rest)).1.toOption.map (fun r => (r.contentLength?, r.body)) =
      some (some 3, Utf8.encode "k=v".toList) := by decide +kernel
  rw [← read_ofBytes] at hread
  cases hr : (read {} i).1 with
  | error e =>
    rw [hr] at hread
    cases hread
  | ok r =>
    rw [hr] at hread
    obtain ⟨hlength, hbody⟩ := Prod.mk.inj (Option.some.inj hread)
    exact ⟨r, rfl, hlength, hbody⟩

end HttpServer
