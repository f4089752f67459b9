import HttpServer.Proofs.Text.Utf8
import Mathlib.Data.List.Basic

/-!
# Valid UTF-8

Strict reading accepts a byte string exactly if it consists of the bytes of some text. That the
bytes of a text are accepted is `Utf8.decode?_encode`. For the converse each well-formed sequence is
put together again: the number that its bytes spell is that of a character, and in the range of
numbers that are written with just as many bytes.

## Main results

* `Utf8.encode_of_parts`: a byte string without an ill-formed part.
* `Utf8.decode?_eq_some_iff`: what strict reading accepts, and as what.
-/

namespace HttpServer

namespace Utf8

/-! ### Sequences of one to four bytes -/

section Sequences

variable {a b c d : UInt8}

theorem encodeChar_one (ha : a < 0x80) : encodeChar (Char.ofNat a.toNat) = [a] := by
  have hlt : a.toNat < 0x80 := UInt8.lt_iff_toNat_lt.1 ha
  rw [encodeChar_ascii (by rwa [toNat_ofNat_toNat]), toNat_ofNat_toNat, UInt8.ofNat_toNat]

theorem encodeChar_two (ha : (0xC2 ≤ a && a ≤ 0xDF) = true) (hb : isTail b = true) :
    encodeChar (Char.ofNat ((a.toNat - 0xC0) * 64 + tailBits b)) = [a, b] := by
  simp only [Bool.and_eq_true, decide_eq_true_eq, UInt8.le_iff_toNat_le, UInt8.toNat_ofNat] at ha
  rw [isTail_iff] at hb
  have hbits : tailBits b = b.toNat - 0x80 := rfl
  generalize hn : (a.toNat - 0xC0) * 64 + tailBits b = n
  have hrange : 0x80 ≤ n ∧ n < 0x800 := by omega
  have hchar : (Char.ofNat n).toNat = n := toNat_ofNat_of_isValidChar (.inl (by omega))
  have hfirst : a.toNat = 0xC0 + n / 64 := by omega
  have hsecond : b.toNat = 0x80 + n % 64 := by omega
  rw [encodeChar, hchar, if_neg (by omega), if_pos hrange.2, ofNat_eq_of_toNat hfirst,
    ofNat_eq_of_toNat hsecond]

theorem encodeChar_three (ha : (0xE0 ≤ a && a ≤ 0xEF) = true) (hb : isSecond a b = true)
    (hc : isTail c = true) :
    encodeChar (Char.ofNat ((a.toNat - 0xE0) * 4096 + tailBits b * 64 + tailBits c)) =
      [a, b, c] := by
  have htail := isTail_of_isSecond hb
  simp only [Bool.and_eq_true, decide_eq_true_eq, UInt8.le_iff_toNat_le, UInt8.toNat_ofNat] at ha
  rw [isSecond_iff] at hb
  rw [isTail_iff] at hc htail
  have hbits : tailBits b = b.toNat - 0x80 := rfl
  have hbits' : tailBits c = c.toNat - 0x80 := rfl
  generalize hn : (a.toNat - 0xE0) * 4096 + tailBits b * 64 + tailBits c = n
  -- The bounds of the second byte keep out shorter characters and surrogates.
  have hrange : 0x800 ≤ n ∧ n < 0x10000 ∧ (n < 0xD800 ∨ 0xDFFF < n) := by
    split_ifs at hb <;> omega
  have hchar : (Char.ofNat n).toNat = n := toNat_ofNat_of_isValidChar
    (hrange.2.2.imp_right fun h => ⟨h, by omega⟩)
  have hfirst : a.toNat = 0xE0 + n / 4096 := by omega
  have hsecond : b.toNat = 0x80 + n / 64 % 64 := by omega
  have hthird : c.toNat = 0x80 + n % 64 := by omega
  rw [encodeChar, hchar, if_neg (by omega), if_neg (by omega), if_pos hrange.2.1,
    ofNat_eq_of_toNat hfirst, ofNat_eq_of_toNat hsecond, ofNat_eq_of_toNat hthird]

theorem encodeChar_four (ha : (0xF0 ≤ a && a ≤ 0xF4) = true) (hb : isSecond a b = true)
    (hc : isTail c = true) (hd : isTail d = true) :
    encodeChar (Char.ofNat ((a.toNat - 0xF0) * 262144 + tailBits b * 4096 + tailBits c * 64 +
      tailBits d)) = [a, b, c, d] := by
  have htail := isTail_of_isSecond hb
  simp only [Bool.and_eq_true, decide_eq_true_eq, UInt8.le_iff_toNat_le, UInt8.toNat_ofNat] at ha
  rw [isSecond_iff] at hb
  rw [isTail_iff] at hc hd htail
  have hbits : tailBits b = b.toNat - 0x80 := rfl
  have hbits' : tailBits c = c.toNat - 0x80 := rfl
  have hbits'' : tailBits d = d.toNat - 0x80 := rfl
  generalize hn : (a.toNat - 0xF0) * 262144 + tailBits b * 4096 + tailBits c * 64 + tailBits d = n
  have hrange : 0x10000 ≤ n ∧ n < 0x110000 := by
    split_ifs at hb <;> omega
  have hchar : (Char.ofNat n).toNat = n := toNat_ofNat_of_isValidChar
    (.inr ⟨by omega, hrange.2⟩)
  have hfirst : a.toNat = 0xF0 + n / 262144 := by omega
  have hsecond : b.toNat = 0x80 + n / 4096 % 64 := by omega
  have hthird : c.toNat = 0x80 + n / 64 % 64 := by omega
  have hfourth : d.toNat = 0x80 + n % 64 := by omega
  rw [encodeChar, hchar, if_neg (by omega), if_neg (by omega), if_neg (by omega),
    ofNat_eq_of_toNat hfirst, ofNat_eq_of_toNat hsecond, ofNat_eq_of_toNat hthird,
    ofNat_eq_of_toNat hfourth]

end Sequences

/-! ### Byte strings -/

/-- A byte string without an ill-formed part consists of the bytes of its characters. -/
theorem encode_of_parts {s : Bytes} {t : Text} (h : parts s = t.map some) : encode t = s := by
  fun_induction parts s generalizing t with
  | case1 =>
    obtain rfl := List.map_eq_nil_iff.1 h.symm
    rfl
  | case2 a s ha ih =>
    obtain ⟨c, t, rfl, hc, hs⟩ := List.map_eq_cons_iff.1 h.symm
    rw [encode_cons, Option.some.inj hc, encodeChar_one ha, ih hs.symm, List.singleton_append]
  | case4 a _ ha b s hb ih =>
    obtain ⟨c, t, rfl, hc, hs⟩ := List.map_eq_cons_iff.1 h.symm
    rw [encode_cons, Option.some.inj hc, encodeChar_two ha hb, ih hs.symm]
    rfl
  | case8 a _ _ ha b hb d s hd ih =>
    obtain ⟨c, t, rfl, hc, hs⟩ := List.map_eq_cons_iff.1 h.symm
    rw [encode_cons, Option.some.inj hc, encodeChar_three ha hb hd, ih hs.symm]
    rfl
  | case14 a _ _ _ ha b hb d hd e s he ih =>
    obtain ⟨c, t, rfl, hc, hs⟩ := List.map_eq_cons_iff.1 h.symm
    rw [encode_cons, Option.some.inj hc, encodeChar_four ha hb hd he, ih hs.symm]
    rfl
  | _ =>
    -- In all other cases the first part is ill formed.
    obtain ⟨c, t, -, hc, -⟩ := List.map_eq_cons_iff.1 h.symm
    cases hc

/-- **Strict reading** accepts the bytes of a text, and nothing else. -/
theorem decode?_eq_some_iff {s : Bytes} {t : Text} : decode? s = some t ↔ encode t = s := by
  constructor
  · intro h
    rw [decode?] at h
    obtain ⟨hall, hmap⟩ := Option.ite_none_right_eq_some.1 h
    refine encode_of_parts ?_
    rw [← Option.some.inj hmap, List.map_filterMap_some_eq_filter_map_isSome, List.map_id,
      List.filter_eq_self.2 (List.all_eq_true.1 hall)]
  · rintro rfl
    exact decode?_encode t

end Utf8

end HttpServer
