import HttpServer.Text.Basic

/-!
# Escaping for markup

Text that ends up between tags or inside a quoted attribute has the four significant characters
replaced by their entities. Each character is replaced on its own, in one pass, so entity text that
was already there is escaped once more.

In escaped text no character opens or closes a tag, or ends a quoted value, and every `&` starts an
entity. So reading the four entities as their characters gives the text back, whatever characters it
had, entity text included. Text without significant characters is its own escaping.

The tags of a page are what stands between `<` and `>`. Nothing that is escaped adds to them or ends
one of them.

## Main definitions

* `Markup.escape`: text with its significant characters replaced.
* `Markup.unescape`: what escaped text stands for.
* `Markup.tags`: the tags of a page without what is quoted in them.

## Main statements

* `Markup.unescape_escape`: reading inverts escaping.
* `Markup.notMem_escape`: the characters that escaped text does not have.
-/

namespace HttpServer

namespace Markup

/-- The entity of a significant character; every other character stands for itself. -/
def escapeChar (c : Char) : Text :=
  if c = '&' then "&amp;".toList
  else if c = '<' then "&lt;".toList
  else if c = '>' then "&gt;".toList
  else if c = '"' then "&quot;".toList
  else [c]

/-- The text with `&`, `<`, `>` and `"` replaced by their entities. -/
def escape (t : Text) : Text :=
  t.flatMap escapeChar

@[simp] theorem escape_nil : escape [] = [] := rfl

/-! ### Escaped text is read back -/

/-- The text with the four entities read as their characters. Any other `&` stands for itself. -/
def unescape : Text → Text
  | [] => []
  | '&' :: 'a' :: 'm' :: 'p' :: ';' :: t => '&' :: unescape t
  | '&' :: 'l' :: 't' :: ';' :: t => '<' :: unescape t
  | '&' :: 'g' :: 't' :: ';' :: t => '>' :: unescape t
  | '&' :: 'q' :: 'u' :: 'o' :: 't' :: ';' :: t => '"' :: unescape t
  | c :: t => c :: unescape t

theorem unescape_cons_of_ne {c : Char} (h : c ≠ '&') (t : Text) :
    unescape (c :: t) = c :: unescape t := by
  rw [unescape.eq_def]
  split <;> simp_all

/-- The character is replaced by an entity. -/
def isSignificant (c : Char) : Bool :=
  c == '&' || c == '<' || c == '>' || c == '"'

theorem escapeChar_of_isSignificant_eq_false {c : Char} (h : isSignificant c = false) :
    escapeChar c = [c] := by
  simp only [isSignificant, Bool.or_eq_false_iff, beq_eq_false_iff_ne] at h
  obtain ⟨⟨⟨hamp, hlt⟩, hgt⟩, hquote⟩ := h
  rw [escapeChar, if_neg hamp, if_neg hlt, if_neg hgt, if_neg hquote]

/-- The escaping of a character is read back in front of any text. -/
theorem unescape_escapeChar_append (c : Char) (t : Text) :
    unescape (escapeChar c ++ t) = c :: unescape t := by
  by_cases h : isSignificant c = true
  · simp only [isSignificant, Bool.or_eq_true, beq_iff_eq] at h
    rcases h with ((rfl | rfl) | rfl) | rfl <;> rfl
  · have hplain := eq_false_of_ne_true h
    have hamp : c ≠ '&' := by
      rintro rfl
      exact absurd hplain (by decide)
    rw [escapeChar_of_isSignificant_eq_false hplain, List.singleton_append,
      unescape_cons_of_ne hamp]

/-- **Reading inverts escaping**, for every text. -/
theorem unescape_escape (t : Text) : unescape (escape t) = t := by
  induction t with
  | nil => rfl
  | cons c t ih => rw [escape, List.flatMap_cons, unescape_escapeChar_append, ← escape, ih]

/-- Escaped text has no character that is replaced, except for the `&` of its entities. -/
theorem notMem_escape {c : Char} (h : isSignificant c = true) (hamp : c ≠ '&') (t : Text) :
    c ∉ escape t := by
  intro hm
  obtain ⟨d, -, hd⟩ := List.mem_flatMap.1 hm
  by_cases hsig : isSignificant d = true
  · simp only [isSignificant, Bool.or_eq_true, beq_iff_eq] at h hsig
    rcases hsig with ((rfl | rfl) | rfl) | rfl <;>
      rcases h with ((rfl | rfl) | rfl) | rfl <;>
      first | exact hamp rfl | exact absurd hd (by decide)
  · rw [escapeChar_of_isSignificant_eq_false (eq_false_of_ne_true hsig)] at hd
    rw [List.mem_singleton.1 hd] at h
    exact hsig h

/-- Text without significant characters is its own escaping. -/
theorem escape_eq_self {t : Text} (h : ∀ c ∈ t, isSignificant c = false) : escape t = t := by
  induction t with
  | nil => rfl
  | cons c t ih =>
    obtain ⟨hc, ht⟩ := List.forall_mem_cons.1 h
    rw [escape, List.flatMap_cons, escapeChar_of_isSignificant_eq_false hc, ← escape, ih ht,
      List.singleton_append]

/-! ### Tags -/

/-- Where in a page a character stands. -/
inductive Zone where
  /-- Between tags. -/
  | text
  /-- In a tag. -/
  | tag
  /-- Between the quotes of a value in a tag. -/
  | quoted
  deriving DecidableEq, Repr

/-- The tags of a page from a zone on, one behind the other, with their brackets and with the quotes
of their values, but without what is quoted. -/
def tags : Zone → Text → Text
  | _, [] => []
  | .text, c :: t => if c = '<' then c :: tags .tag t else tags .text t
  | .tag, c :: t =>
    c :: if c = '"' then tags .quoted t else if c = '>' then tags .text t else tags .tag t
  | .quoted, c :: t => if c = '"' then c :: tags .tag t else tags .quoted t

example : tags .text "<a href=\"x>y\">a>b</a>".toList = "<a href=\"\"></a>".toList := rfl

/-- Text without `<` adds no tag. -/
theorem tags_text_append {s : Text} (h : '<' ∉ s) (t : Text) :
    tags .text (s ++ t) = tags .text t := by
  induction s with
  | nil => rfl
  | cons c s ih =>
    obtain ⟨hc, hs⟩ := not_or.1 fun hm => h (List.mem_cons.2 hm)
    rw [List.cons_append, tags, if_neg (Ne.symm hc), ih hs]

/-- A value without quotes ends where its quotes are closed. -/
theorem tags_quoted_append {s : Text} (h : '"' ∉ s) (t : Text) :
    tags .quoted (s ++ '"' :: t) = '"' :: tags .tag t := by
  induction s with
  | nil => rfl
  | cons c s ih =>
    obtain ⟨hc, hs⟩ := not_or.1 fun hm => h (List.mem_cons.2 hm)
    rw [List.cons_append, tags, if_neg (Ne.symm hc), ih hs]

end Markup

end HttpServer
