import HttpServer.Text.Blank
import Mathlib.Data.List.TakeWhile

/-!
# Words and trimmed texts

A text without white space is a word: trimming leaves it alone, and it is the first word of whatever
starts with it and goes on with white space. White space in front of a text changes neither its
first word nor what is left of it when it is trimmed.

## Main results

* `Text.trim_of_solid`, `Text.trim_cons_blank`, `Text.trim_append_blank`: what trimming keeps and
  what it drops.
* `Text.nextWord_append`: the first word of a text that starts with it.
-/

namespace HttpServer

/-- The printable ASCII characters behind the space are no white space. -/
theorem isBlank_eq_false_of_graphic {c : Char} (h : 0x20 < c.toNat ∧ c.toNat < 0x7F) :
    isBlank c = false := by
  simp only [isBlank, Bool.or_eq_false_iff, Bool.and_eq_false_iff, decide_eq_false_iff_not,
    beq_eq_false_iff_ne, ne_eq]
  omega

/-- Only a capital letter is changed when it is put in lower case. -/
theorem lowerChar_cases (c : Char) : lowerChar c = c ∨
    lowerChar c = Char.ofNat (c.toNat + 32) ∧ (lowerChar c).toNat = c.toNat + 32 ∧
      65 ≤ c.toNat ∧ c.toNat ≤ 90 := by
  by_cases h : 'A' ≤ c ∧ c ≤ 'Z'
  · have hA : 65 ≤ c.toNat := h.1
    have hZ : c.toNat ≤ 90 := h.2
    have hlow : lowerChar c = Char.ofNat (c.toNat + 32) := if_pos h
    refine .inr ⟨hlow, ?_, hA, hZ⟩
    rw [hlow, Char.ofNat, dif_pos (.inl (by omega))]
    rfl
  · exact .inl (if_neg h)

theorem lowerChar_lowerChar (c : Char) : lowerChar (lowerChar c) = lowerChar c := by
  rcases lowerChar_cases c with h | ⟨-, h, hA, hZ⟩
  · rw [h, h]
  · rcases lowerChar_cases (lowerChar c) with h' | ⟨-, -, hA', hZ'⟩
    · exact h'
    · omega

/-- White space is the same in upper and in lower case. -/
theorem isBlank_lowerChar (c : Char) : isBlank (lowerChar c) = isBlank c := by
  rcases lowerChar_cases c with h | ⟨-, h, hA, hZ⟩
  · rw [h]
  · rw [isBlank_eq_false_of_graphic (by omega), isBlank_eq_false_of_graphic (by omega)]

namespace Text

/-- No character of the text is white space. -/
def Solid (t : Text) : Prop :=
  ∀ c ∈ t, HttpServer.isBlank c = false

theorem solid_iff_all {t : Text} : Solid t ↔ (t.all fun c => !HttpServer.isBlank c) = true := by
  simp [Solid]

instance : DecidablePred Solid := fun _ => decidable_of_iff _ solid_iff_all.symm

theorem dropWhile_isBlank_of_solid {t : Text} (h : Solid t) :
    t.dropWhile HttpServer.isBlank = t := by
  cases t with
  | nil => rfl
  | cons c t =>
    rw [List.dropWhile_cons_of_neg]
    simp [h c List.mem_cons_self]

theorem Solid.reverse {t : Text} (h : Solid t) : Solid t.reverse := fun c hc =>
  h c (List.mem_reverse.1 hc)

theorem trim_of_solid {t : Text} (h : Solid t) : trim t = t := by
  rw [trim, trimStart, dropWhile_isBlank_of_solid h, trimEnd, dropWhile_isBlank_of_solid h.reverse,
    List.reverse_reverse]

/-- A text with other characters at its two ends is its own trimming. -/
theorem trim_of_ends {t : Text} (hhead : ∀ c, t.head? = some c → HttpServer.isBlank c = false)
    (hlast : ∀ c, t.getLast? = some c → HttpServer.isBlank c = false) : trim t = t := by
  have hkeep : ∀ s : Text, (∀ c, s.head? = some c → HttpServer.isBlank c = false) →
      s.dropWhile HttpServer.isBlank = s := by
    intro s hs
    cases s with
    | nil => rfl
    | cons c s =>
      rw [List.dropWhile_cons_of_neg]
      simp [hs c rfl]
  rw [trim, trimStart, hkeep t hhead, trimEnd,
    hkeep t.reverse fun c hc => hlast c (List.head?_reverse.symm.trans hc), List.reverse_reverse]

/-- A trimmed text does not start with white space. -/
theorem isBlank_eq_false_of_head?_trim {t : Text} {c : Char} (h : (trim t).head? = some c) :
    HttpServer.isBlank c = false := by
  have hprefix : trim t <+: trimStart t := by
    rw [← List.reverse_suffix, trim, trimEnd, List.reverse_reverse]
    exact List.dropWhile_suffix _
  have hstart := List.head?_dropWhile_not HttpServer.isBlank t
  obtain ⟨s, hs⟩ := List.head?_eq_some_iff.1 h
  obtain ⟨r, hr⟩ := hprefix
  have hdrop : t.dropWhile HttpServer.isBlank = c :: (s ++ r) := by
    rw [hs] at hr
    exact hr.symm
  rw [hdrop] at hstart
  exact hstart

theorem trim_cons_blank {c : Char} (h : HttpServer.isBlank c = true) (t : Text) :
    trim (c :: t) = trim t := by
  rw [trim, trim, trimStart, trimStart, List.dropWhile_cons_of_pos h]

theorem trim_blank_append {w : Text} (h : isBlank w = true) (t : Text) :
    trim (w ++ t) = trim t := by
  rw [trim, trim, trimStart, trimStart, List.dropWhile_append_of_pos (List.all_eq_true.1 h)]

/-- White space behind a text makes no difference to what is left of it when it is trimmed. -/
theorem trim_append_blank {w : Text} (h : isBlank w = true) (t : Text) :
    trim (t ++ w) = trim t := by
  have hw := List.all_eq_true.1 h
  have hend : ∀ s, trimEnd (s ++ w) = trimEnd s := by
    intro s
    have hreverse : ∀ c ∈ w.reverse, HttpServer.isBlank c = true := fun c hc =>
      hw c (List.mem_reverse.1 hc)
    rw [trimEnd, trimEnd, List.reverse_append, List.dropWhile_append_of_pos hreverse]
  rw [trim, trim, trimStart, trimStart, List.dropWhile_append]
  split
  · rename_i hempty
    rw [List.isEmpty_iff.1 hempty, List.dropWhile_eq_nil_iff.2 hw]
  · exact hend _

theorem lower_trim (t : Text) : lower (trim t) = trim (lower t) := by
  have hblank : HttpServer.isBlank ∘ lowerChar = HttpServer.isBlank := funext isBlank_lowerChar
  simp only [lower, trim, trimStart, trimEnd, List.dropWhile_map, hblank, ← List.map_reverse]

theorem nextWord_cons_blank {c : Char} (h : HttpServer.isBlank c = true) (t : Text) :
    nextWord (c :: t) = nextWord t := by
  rw [nextWord, nextWord, trimStart, trimStart, List.dropWhile_cons_of_pos h]

/-- A word in front of white space is the first word. -/
theorem nextWord_append {w : Text} (hw : Solid w) (hne : w ≠ []) {c : Char}
    (hc : HttpServer.isBlank c = true) (t : Text) : nextWord (w ++ c :: t) = (w, c :: t) := by
  have hstart : trimStart (w ++ c :: t) = w ++ c :: t := by
    cases w with
    | nil => exact absurd rfl hne
    | cons d w =>
      rw [trimStart, List.cons_append, List.dropWhile_cons_of_neg]
      simp [hw d List.mem_cons_self]
  have hsolid : ∀ d ∈ w, (!HttpServer.isBlank d) = true := fun d hd => by simp [hw d hd]
  rw [nextWord, hstart]
  simp only [List.takeWhile_append_of_pos hsolid, List.dropWhile_append_of_pos hsolid]
  rw [List.takeWhile_cons_of_neg (by simp [hc]), List.dropWhile_cons_of_neg (by simp [hc]),
    List.append_nil]

theorem isBlank_append (s t : Text) : isBlank (s ++ t) = (isBlank s && isBlank t) :=
  List.all_append

theorem isBlank_eq_false_of_mem {c : Char} {t : Text} (h : c ∈ t)
    (hc : HttpServer.isBlank c = false) : isBlank t = false := by
  rw [isBlank, List.all_eq_false]
  exact ⟨c, h, by simp [hc]⟩

/-- A trimmed text does not end with white space. -/
theorem isBlank_eq_false_of_getLast?_trim {t : Text} {c : Char} (h : (trim t).getLast? = some c) :
    HttpServer.isBlank c = false := by
  have hhead := List.head?_dropWhile_not HttpServer.isBlank (trimStart t).reverse
  rw [trim, trimEnd, List.getLast?_reverse] at h
  rw [h] at hhead
  exact hhead

/-- A text that is its own trimming does not end in white space. -/
theorem isBlank_eq_false_of_trim_eq {t : Text} (h : trim t = t) {c : Char}
    (hc : t.getLast? = some c) : HttpServer.isBlank c = false :=
  isBlank_eq_false_of_getLast?_trim (h.symm ▸ hc)

/-- A text that ends in some other character is trimmed at its start only, and a solid text behind
it makes no difference to that. -/
theorem trim_append_of_solid {t : Text} {c : Char} (hc : HttpServer.isBlank c = false)
    (hlast : t.getLast? = some c) :
    (trim t).getLast? = some c ∧ ∀ {w}, Solid w → trim (t ++ w) = trim t ++ w := by
  have hsplit := List.takeWhile_append_dropWhile (p := HttpServer.isBlank) (l := t)
  have hlead : isBlank (t.takeWhile HttpServer.isBlank) = true := List.all_takeWhile
  have hhead := List.head?_dropWhile_not HttpServer.isBlank t
  generalize t.takeWhile HttpServer.isBlank = lead at hsplit hlead
  generalize t.dropWhile HttpServer.isBlank = core at hsplit hhead
  subst hsplit
  have hne : core ≠ [] := by
    rintro rfl
    rw [List.append_nil] at hlast
    have hblank := List.all_eq_true.1 hlead c (List.mem_of_getLast? hlast)
    rw [hc] at hblank
    cases hblank
  have hlast_append (s : Text) {w : Text} (hw : w ≠ []) : (s ++ w).getLast? = w.getLast? := by
    rw [List.getLast?_append, List.getLast?_eq_some_getLast hw, Option.some_or]
  rw [hlast_append lead hne] at hlast
  have htrim {w : Text} (hw : Solid w) : trim (lead ++ core ++ w) = core ++ w := by
    rw [List.append_assoc, trim_blank_append hlead]
    refine trim_of_ends (fun d hd => ?_) fun d hd => ?_
    · obtain ⟨e, r, rfl⟩ := List.exists_cons_of_ne_nil hne
      cases hd
      exact hhead
    · by_cases hnil : w = []
      · rw [hnil, List.append_nil, hlast] at hd
        exact Option.some.inj hd ▸ hc
      · rw [hlast_append core hnil] at hd
        exact hw d (List.mem_of_getLast? hd)
  have hcore : trim (lead ++ core) = core := by
    have h := htrim (List.forall_mem_nil _ : Solid [])
    rwa [List.append_nil, List.append_nil] at h
  exact ⟨by rw [hcore, hlast], fun hw => by rw [hcore, htrim hw]⟩

end Text

end HttpServer
