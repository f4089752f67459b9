import HttpServer.Encoding.Basic
import HttpServer.Proofs.Text.Blank
import HttpServer.Proofs.Text.Utf8

/-!
# What an output label does to a text

A label is looked up without the white space around it and in lower case. If that names no encoding,
every text is written as nothing. UTF-16 and the replacement encoding are named but never written,
so texts are UTF-8 under their labels as they are under those of UTF-8, or under none. In all other
encodings ASCII text is still written as it is, except for the three control characters with which
ISO-2022-JP selects its character sets. That encoding writes the rest of ASCII in the set in which
it starts, and so it never has to select another one.

Labels take the place of each other: what is written depends on the last one alone.

## Main definitions

* `Encoding.HasName`: the encoding that a name in lower case stands for.
* `Text.Plain`: ASCII text without those control characters.

## Main results

* `Encoding.ofOutputLabel?_eq_none_iff`, `Encoding.ofOutputLabel?_of_hasName`: what labels name.
* `Encoding.encode_of_plain`: plain text is the same in every encoding.
* `OutputEncoding.encode_eq_utf8`, `OutputEncoding.encode_unknown`: the labels under which all texts
  are UTF-8, and those under which they are nothing.
* `OutputEncoding.getElem?_results`: the last label decides.
-/

namespace HttpServer

namespace Encoding

/-! ### Labels -/

/-- The encoding is known by this name. -/
def HasName (e : Encoding) (name : Text) : Prop :=
  ∃ names, (e, names) ∈ labels ∧ String.ofList name ∈ names

theorem isBlank_of_isLabelSpace {c : Char} (h : isLabelSpace c = true) : isBlank c = true := by
  simp only [isLabelSpace, Bool.or_eq_true, beq_iff_eq] at h
  rcases h with (((rfl | rfl) | rfl) | rfl) | rfl <;> rfl

theorem dropWhile_isLabelSpace {t : Text} (h : ∀ c, t.head? = some c → isBlank c = false) :
    t.dropWhile isLabelSpace = t := by
  cases t with
  | nil => rfl
  | cons c t =>
    rw [List.dropWhile_cons_of_neg]
    intro hspace
    cases (h c rfl).symm.trans (isBlank_of_isLabelSpace hspace)

/-- A trimmed label has no white space left around it. -/
theorem normalLabel_trim (label : Text) : normalLabel label.trim = label.trim.lower := by
  have hlast : ∀ c, label.trim.reverse.head? = some c → isBlank c = false := fun c hc =>
    Text.isBlank_eq_false_of_getLast?_trim (List.head?_reverse.symm.trans hc)
  rw [normalLabel, dropWhile_isLabelSpace fun _ => Text.isBlank_eq_false_of_head?_trim,
    dropWhile_isLabelSpace hlast, List.reverse_reverse]

theorem ofOutputLabel?_eq (label : Text) : ofOutputLabel? label =
    (labels.find? fun entry => entry.2.contains (String.ofList label.trim.lower)).map Prod.fst := by
  rw [ofOutputLabel?, ofLabel?, normalLabel_trim]

/-- **A label that names no encoding** has a name that none of them is known by. -/
theorem ofOutputLabel?_eq_none_iff {label : Text} :
    ofOutputLabel? label = none ↔ ∀ e : Encoding, ¬e.HasName label.trim.lower := by
  rw [ofOutputLabel?_eq, Option.map_eq_none_iff, List.find?_eq_none]
  constructor
  · rintro h e ⟨names, hmem, hname⟩
    exact h _ hmem (List.contains_iff_mem.2 hname)
  · intro h entry hmem hname
    exact h entry.1 ⟨entry.2, hmem, List.contains_iff_mem.1 hname⟩

/-- Every text is UTF-8 in this encoding. -/
def IsUtf8 (e : Encoding) : Prop :=
  e = utf8 ∨ e = utf16 ∨ e = replacement

instance : DecidablePred IsUtf8 := fun e =>
  inferInstanceAs (Decidable (e = utf8 ∨ e = utf16 ∨ e = replacement))

/-- The names of these encodings are not among those that stand before them. -/
theorem find?_labels : ∀ entry ∈ labels, entry.1.IsUtf8 → ∀ name ∈ entry.2,
    (labels.find? fun other => other.2.contains name).map Prod.fst = some entry.1 := by
  decide +kernel

theorem ofOutputLabel?_of_hasName {e : Encoding} (he : e.IsUtf8) {label : Text}
    (h : e.HasName label.trim.lower) : ofOutputLabel? label = some e := by
  obtain ⟨names, hmem, hname⟩ := h
  rw [ofOutputLabel?_eq]
  exact find?_labels _ hmem he _ hname

/-! ### Texts in an encoding -/

/-- All but one of the encodings write each character for itself. -/
theorem encode_eq_flatMap {e : Encoding} (h : e ≠ iso2022Jp) (t : Text) :
    e.encode t = t.flatMap e.encodeChar := by
  cases e <;> first | rfl | exact absurd rfl h

theorem encode_of_isUtf8 {e : Encoding} (h : e.IsUtf8) (t : Text) : e.encode t = Utf8.encode t := by
  have hne : e ≠ iso2022Jp := by
    rintro rfl
    exact absurd h (by decide)
  have hwide : ∀ c, e.encodeWide? c = some (Utf8.encodeChar c) := by
    rcases h with rfl | rfl | rfl <;> exact fun _ => rfl
  have hchar : e.encodeChar = Utf8.encodeChar := by
    funext c
    rw [encodeChar, hwide, Option.getD_some]
    split
    · rename_i hc
      exact (Utf8.encodeChar_ascii hc).symm
    · rfl
  rw [encode_eq_flatMap hne, hchar, Utf8.encode]

end Encoding

/-- ASCII text without the control characters that select character sets. -/
def Text.Plain (t : Text) : Prop :=
  ∀ c ∈ t, c.toNat < 0x80 ∧ c.toNat ≠ 0x0E ∧ c.toNat ≠ 0x0F ∧ c.toNat ≠ 0x1B

instance : DecidablePred Text.Plain := fun t => List.decidableBAll _ t

namespace Encoding

open Text (Plain)

/-- Plain text keeps ISO-2022-JP in the set in which it starts and ends. -/
theorem Iso2022Jp.encode_of_plain {t : Text} (h : Plain t) :
    Iso2022Jp.encode t = t.map fun c => UInt8.ofNat c.toNat := by
  rw [Iso2022Jp.encode]
  induction t with
  | nil => rfl
  | cons c t ih =>
    obtain ⟨⟨hlt, hso, hsi, hesc⟩, ht⟩ := List.forall_mem_cons.1 h
    have hcontrol : isControl c = false := by simp [isControl, hso, hsi, hesc]
    have hchar : encodeChar .ascii c = ([UInt8.ofNat c.toNat], .ascii) := by
      simp [encodeChar, hcontrol, hlt, Charset.select]
    rw [encodeFrom, hchar, List.map_cons, ← ih ht]
    rfl

/-- **Plain text is the same in every encoding.** -/
theorem encode_of_plain (e : Encoding) {t : Text} (h : Plain t) : e.encode t = Utf8.encode t := by
  rw [Utf8.encode_of_ascii fun c hc => (h c hc).1]
  by_cases hjp : e = iso2022Jp
  · rw [hjp]
    exact Iso2022Jp.encode_of_plain h
  · rw [encode_eq_flatMap hjp]
    induction t with
    | nil => rfl
    | cons c t ih =>
      obtain ⟨⟨hlt, -⟩, ht⟩ := List.forall_mem_cons.1 h
      rw [List.flatMap_cons, ih ht, encodeChar, if_pos hlt, List.map_cons, List.singleton_append]

end Encoding

/-! ### Texts under a label -/

namespace OutputEncoding

theorem encode_some {label : Text} {e : Encoding} (h : Encoding.ofOutputLabel? label = some e)
    (t : Text) : OutputEncoding.encode (some label) t = e.encode t := by
  rw [OutputEncoding.encode, h]

/-- Under a label that names no encoding a text is nothing. -/
theorem encode_unknown {label : Text} (h : ∀ e : Encoding, ¬e.HasName label.trim.lower) (t : Text) :
    OutputEncoding.encode (some label) t = [] := by
  rw [OutputEncoding.encode, Encoding.ofOutputLabel?_eq_none_iff.2 h]

/-- Under the labels of UTF-8, UTF-16 and the replacement encoding a text is UTF-8. -/
theorem encode_eq_utf8 {e : Encoding} (he : e.IsUtf8) {label : Text}
    (h : e.HasName label.trim.lower) (t : Text) :
    OutputEncoding.encode (some label) t = Utf8.encode t := by
  rw [encode_some (Encoding.ofOutputLabel?_of_hasName he h), Encoding.encode_of_isUtf8 he]

/-- Under a label that names an encoding plain text is what it is without a label. -/
theorem encode_plain {e : Encoding} {label : Text} (h : e.HasName label.trim.lower) {t : Text}
    (ht : t.Plain) : OutputEncoding.encode (some label) t = Utf8.encode t := by
  obtain ⟨e', he'⟩ := Option.ne_none_iff_exists'.1
    (mt Encoding.ofOutputLabel?_eq_none_iff.1 fun hnone => hnone e h)
  rw [encode_some he', e'.encode_of_plain ht]

/-! ### Calls in turn -/

/-- The label that a call sets. -/
def label? : OutputCall → Option OutputEncoding
  | .set label => some label
  | .encode _ => none

/-- The last label that calls set, or else the one that was set before them. -/
def last (output : OutputEncoding) (calls : List OutputCall) : OutputEncoding :=
  (calls.reverse.findSome? label?).getD output

theorem last_cons (output : OutputEncoding) (call : OutputCall) (calls : List OutputCall) :
    last output (call :: calls) = last ((label? call).getD output) calls := by
  rw [last, last, List.reverse_cons, List.findSome?_append]
  cases calls.reverse.findSome? label? with
  | some label => rfl
  | none => cases call <;> rfl

/-- **The last label decides** how a text is written, and nothing else that was done before. -/
theorem getElem?_results (output : OutputEncoding) {calls : List OutputCall} {k : Nat} {t : Text}
    (h : calls[k]? = some (.encode t)) :
    (output.results calls)[k]? = some (some ((last output (calls.take k)).encode t)) := by
  induction calls generalizing output k with
  | nil => cases h
  | cons call calls ih =>
    cases k with
    | zero =>
      cases Option.some.inj h
      rfl
    | succ k =>
      rw [List.take_succ_cons, last_cons]
      cases call with
      | set label => exact ih label h
      | encode _ => exact ih output h

end OutputEncoding

end HttpServer
