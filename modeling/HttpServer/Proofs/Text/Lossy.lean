import HttpServer.Proofs.Text.Blank
import HttpServer.Proofs.Text.Strict
import Mathlib.Data.List.Basic

/-!
# Text among other bytes

What a client sends need not be text, and then it is read leniently. Decoding goes from left to
right and cuts a sequence off in front of the first byte that does not continue it. So a text, and
with it every ASCII character, is read as what it is in whatever surroundings it stands, and no
ASCII character is read where its byte is not.

## Main definitions

* `Utf8.lowerByte`: ASCII letters in lower case, byte by byte.

## Main results

* `Utf8.parts_append`, `Utf8.decodeLossy_append`: a cut in front of a byte that continues nothing.
* `Utf8.decodeLossy_text`: a text between any bytes.
* `Utf8.mem_decodeLossy_iff_of_ascii`: an ASCII character is read where its byte stands.
* `Utf8.lower_decodeLossy_congr`: bytes that differ in the case of letters.
-/

namespace HttpServer

namespace Utf8

/-- **A cut** in front of a byte that continues no sequence is also one between two parts. -/
theorem parts_append {s t : Bytes} (h : ∀ b, t.head? = some b → isTail b = false) :
    parts (s ++ t) = parts s ++ parts t := by
  cases t with
  | nil => rw [List.append_nil, parts.eq_def [], List.append_nil]
  | cons b t =>
    have htail : isTail b = false := h b rfl
    have hsecond : ∀ a, isSecond a b = false := fun a =>
      eq_false_of_ne_true (mt isTail_of_isSecond (by simp [htail]))
    -- A sequence that `s` leaves open ends in front of `b`, as it does at the end of `s`.
    fun_induction parts s with
    | case1 => rfl
    | _ =>
      simp only [List.cons_append, List.nil_append] at *
      rw [parts.eq_def]
      simp only [*, if_true, if_false, Bool.false_eq_true]

theorem decodeLossy_append {s t : Bytes} (h : ∀ b, t.head? = some b → isTail b = false) :
    decodeLossy (s ++ t) = decodeLossy s ++ decodeLossy t := by
  rw [decodeLossy, parts_append h, List.map_append]
  rfl

/-- No text starts with a byte that continues a sequence. -/
theorem isTail_eq_false_of_head?_encode {t : Text} {b : UInt8} (h : (encode t).head? = some b) :
    isTail b = false := by
  cases t with
  | nil => cases h
  | cons c t =>
    rw [encode_cons, List.head?_append_of_ne_nil _ (encodeChar_ne_nil c)] at h
    have hv : c.toNat < 0xD800 ∨ 0xDFFF < c.toNat ∧ c.toNat < 0x110000 := c.valid
    generalize hn : c.toNat = n at hv
    have hlead : ∀ m, m < 0x80 ∨ 0xC0 ≤ m → m < 256 → isTail (UInt8.ofNat m) = false := by
      intro m hm hlt
      refine eq_false_of_ne_true fun htail => ?_
      rw [isTail_iff, toNat_ofNat_of_lt hlt] at htail
      omega
    simp only [encodeChar, hn] at h
    split_ifs at h with h1 h2 h3 <;> cases h <;> exact hlead _ (by omega) (by omega)

theorem decodeLossy_ne_nil {s : Bytes} (h : s ≠ []) : decodeLossy s ≠ [] := by
  rw [decodeLossy, Ne, List.map_eq_nil_iff]
  fun_cases parts s <;> simp_all

theorem decodeLossy_encode_append (t : Text) (s : Bytes) :
    decodeLossy (encode t ++ s) = t ++ decodeLossy s := by
  induction t with
  | nil => rfl
  | cons c t ih =>
    rw [encode_cons, List.append_assoc, decodeLossy, parts_encodeChar_append]
    exact congrArg (c :: ·) ih

theorem decodeLossy_append_encode (s : Bytes) (t : Text) :
    decodeLossy (s ++ encode t) = decodeLossy s ++ t := by
  rw [decodeLossy_append fun b => isTail_eq_false_of_head?_encode, decodeLossy_encode]

/-- **A text between any bytes** is read as what it is. -/
theorem decodeLossy_text (s : Bytes) {t : Text} (ht : t ≠ []) (r : Bytes) :
    decodeLossy (s ++ (encode t ++ r)) = decodeLossy s ++ (t ++ decodeLossy r) := by
  have hhead : ∀ b, (encode t ++ r).head? = some b → isTail b = false := by
    intro b hb
    rw [List.head?_append_of_ne_nil _ (encode_ne_nil ht)] at hb
    exact isTail_eq_false_of_head?_encode hb
  rw [decodeLossy_append hhead, decodeLossy_encode_append]

/-! ### ASCII characters -/

/-- The character of a longer sequence is beyond ASCII. -/
theorem ne_of_encodeChar {c d : Char} (hc : c.toNat < 0x80) {a b : UInt8} {s : Bytes}
    (h : encodeChar d = a :: b :: s) : c ≠ d := by
  rintro rfl
  rw [encodeChar_ascii hc] at h
  cases h

section Ascii

variable {c : Char} (hc : c.toNat < 0x80)
include hc

theorem mem_of_mem_parts {s : Bytes} (h : some c ∈ parts s) : UInt8.ofNat c.toNat ∈ s := by
  fun_induction parts s with
  | case1 => cases h
  | case2 a s ha ih =>
    rw [List.mem_cons, Option.some.injEq] at h
    rcases h with rfl | h
    · rw [toNat_ofNat_toNat, UInt8.ofNat_toNat]
      exact List.mem_cons_self
    · exact List.mem_cons_of_mem _ (ih h)
  | case4 a _ ha b s hb ih =>
    have hne := ne_of_encodeChar hc (encodeChar_two ha hb)
    simp only [List.mem_cons, Option.some.injEq, hne, false_or] at h
    simp [ih h]
  | case8 a _ _ ha b hb d s hd ih =>
    have hne := ne_of_encodeChar hc (encodeChar_three ha hb hd)
    simp only [List.mem_cons, Option.some.injEq, hne, false_or] at h
    simp [ih h]
  | case14 a _ _ _ ha b hb d hd e s he ih =>
    have hne := ne_of_encodeChar hc (encodeChar_four ha hb hd he)
    simp only [List.mem_cons, Option.some.injEq, hne, false_or] at h
    simp [ih h]
  | _ => simp_all

/-- **An ASCII character is read where its byte stands**, and nowhere else. -/
theorem mem_decodeLossy_iff_of_ascii {s : Bytes} :
    c ∈ decodeLossy s ↔ UInt8.ofNat c.toNat ∈ s := by
  constructor
  · intro h
    obtain ⟨p, hp, hpc⟩ := List.mem_map.1 h
    cases p with
    | none =>
      -- The replacement character is not an ASCII character.
      rw [← hpc] at hc
      exact absurd hc (by decide)
    | some d =>
      obtain rfl : d = c := hpc
      exact mem_of_mem_parts hc hp
  · intro h
    obtain ⟨s, t, rfl⟩ := List.append_of_mem h
    have hbytes : UInt8.ofNat c.toNat :: t = encode [c] ++ t := by
      rw [encode_cons, encodeChar_ascii hc]
      rfl
    rw [hbytes, decodeLossy_text s (List.cons_ne_nil c [])]
    simp

end Ascii

/-! ### Upper and lower case -/

/-- An ASCII capital letter becomes its small letter; every other byte is kept. -/
def lowerByte (b : UInt8) : UInt8 :=
  if 0x41 ≤ b ∧ b ≤ 0x5A then b + 0x20 else b

/-- Only a letter is changed. -/
theorem exists_char_of_lowerByte_ne {b : UInt8} (h : lowerByte b ≠ b) :
    ∃ c : Char, encode [c] = [b] ∧ encode [lowerChar c] = [lowerByte b] := by
  rw [lowerByte] at h ⊢
  split at h
  · rename_i hb
    rw [if_pos hb]
    simp only [UInt8.le_iff_toNat_le, UInt8.toNat_ofNat] at hb
    have hc : (Char.ofNat b.toNat).toNat = b.toNat := toNat_ofNat_of_isValidChar (.inl (by omega))
    have hlow : (Char.ofNat (b.toNat + 32)).toNat = b.toNat + 32 :=
      toNat_ofNat_of_isValidChar (.inl (by omega))
    have hcapital : 'A' ≤ Char.ofNat b.toNat ∧ Char.ofNat b.toNat ≤ 'Z' := by
      constructor
      · show 65 ≤ (Char.ofNat b.toNat).toNat
        omega
      · show (Char.ofNat b.toNat).toNat ≤ 90
        omega
    refine ⟨Char.ofNat b.toNat, ?_, ?_⟩
    · rw [encode_cons, encodeChar_ascii (by omega), hc, UInt8.ofNat_toNat]
      rfl
    · rw [lowerChar, if_pos hcapital, hc, encode_cons, encodeChar_ascii (by omega), hlow]
      simp [encode_nil]
  · exact absurd rfl h

/-- Lowering the letters of some bytes lowers those of their text. -/
theorem lower_decodeLossy_append_map (p s : Bytes) :
    Text.lower (decodeLossy (p ++ s.map lowerByte)) = Text.lower (decodeLossy (p ++ s)) := by
  induction s generalizing p with
  | nil => rfl
  | cons b s ih =>
    by_cases hb : lowerByte b = b
    · have h := ih (p ++ [b])
      rw [List.append_assoc, List.append_assoc] at h
      rw [List.map_cons, hb]
      exact h
    · obtain ⟨c, hc, hlow⟩ := exists_char_of_lowerByte_ne hb
      have hs : p ++ b :: s = p ++ (encode [c] ++ s) := by rw [hc]; rfl
      have hmap : p ++ (b :: s).map lowerByte = p ++ (encode [lowerChar c] ++ s.map lowerByte) := by
        rw [hlow]
        rfl
      have hrest := ih []
      rw [hs, hmap, decodeLossy_text p (List.cons_ne_nil _ _),
        decodeLossy_text p (List.cons_ne_nil _ _)]
      simp only [Text.lower_append, List.nil_append] at hrest ⊢
      rw [hrest]
      simp [Text.lower, lowerChar_lowerChar]

/-- Bytes that are the same but for the case of ASCII letters are the same text but for that. -/
theorem lower_decodeLossy_congr {s t : Bytes} (h : s.map lowerByte = t.map lowerByte) :
    Text.lower (decodeLossy s) = Text.lower (decodeLossy t) := by
  have hs := lower_decodeLossy_append_map [] s
  have ht := lower_decodeLossy_append_map [] t
  rw [List.nil_append] at hs ht
  rw [← List.nil_append s, ← List.nil_append t, ← hs, ← ht, h]

/-- A byte in front of the letters is in both of them or in neither. -/
theorem mem_of_map_lowerByte {s t : Bytes} (h : s.map lowerByte = t.map lowerByte) {b : UInt8}
    (hb : b < 0x41) (hs : b ∈ s) : b ∈ t := by
  have hkeep : ∀ a, lowerByte a = b → a = b := by
    intro a ha
    rw [lowerByte] at ha
    split at ha
    · rename_i h
      simp only [UInt8.le_iff_toNat_le, UInt8.lt_iff_toNat_lt, UInt8.toNat_ofNat] at h hb
      rw [← ha, UInt8.toNat_add] at hb
      simp at hb
      omega
    · exact ha
  have hlow : lowerByte b = b := by
    rw [lowerByte, if_neg]
    simp only [UInt8.le_iff_toNat_le, UInt8.lt_iff_toNat_lt, UInt8.toNat_ofNat] at hb ⊢
    omega
  have hm : b ∈ t.map lowerByte := by
    rw [← h, ← hlow]
    exact List.mem_map_of_mem hs
  obtain ⟨a, ha, hab⟩ := List.mem_map.1 hm
  rwa [← hkeep a hab]

end Utf8

end HttpServer
