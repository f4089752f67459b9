import HttpServer.Proofs.Text.Blank
import HttpServer.Proofs.Text.Utf8
import HttpServer.Uri.Percent
import Mathlib.Tactic.IntervalCases

/-!
# Percent-encoding is read back

Encoded text consists of ASCII letters and digits and of `*-._/+%` (`Percent.isEncoded`), so none of
the characters that separate the parts of a request occurs in it. Decoding takes the encoding of one
byte at a time (`Percent.decodeBytes_encodeByte_append`), and from the bytes of a text it gives the
text back.

## Main results

* `Percent.decode_encode`: decoding inverts encoding.
* `Percent.isEncoded_of_mem_encode`: the characters of encoded text.
-/

namespace HttpServer

namespace Percent

/-! ### The alphabet -/

/-- The character occurs in encoded text. -/
def isEncoded (c : Char) : Bool :=
  c.toNat < 0x80 && (isUnreserved (UInt8.ofNat c.toNat) || c == '/' || c == '+' || c == '%')

theorem isUnreserved_iff {b : UInt8} : isUnreserved b = true ↔
    0x30 ≤ b.toNat ∧ b.toNat ≤ 0x39 ∨ 0x41 ≤ b.toNat ∧ b.toNat ≤ 0x5A ∨
      0x61 ≤ b.toNat ∧ b.toNat ≤ 0x7A ∨ b.toNat = 0x2A ∨ b.toNat = 0x2D ∨ b.toNat = 0x2E ∨
      b.toNat = 0x5F := by
  simp only [isUnreserved, Bool.or_eq_true, Bool.and_eq_true, decide_eq_true_eq, beq_iff_eq,
    UInt8.le_iff_toNat_le, ← UInt8.toNat_inj, UInt8.toNat_ofNat]
  omega

theorem toNat_lt_of_kept {b : UInt8} (h : (isUnreserved b || b == 0x2F) = true) :
    b.toNat < 0x80 ∧ b ≠ 0x25 ∧ b ≠ 0x2B := by
  simp only [Bool.or_eq_true, isUnreserved_iff, beq_iff_eq, ← UInt8.toNat_inj, ne_eq,
    UInt8.toNat_ofNat] at h ⊢
  omega

/-- The digits of an escape are hexadecimal, in upper case, and are read back. -/
theorem upperDigit_spec {n : Nat} (h : n < 16) :
    isEncoded (upperDigit n) = true ∧ hexValue? (UInt8.ofNat (upperDigit n).toNat) = some n := by
  interval_cases n <;> decide

theorem isEncoded_of_mem_encodeByte {b : UInt8} {c : Char} (h : c ∈ encodeByte b) :
    isEncoded c = true := by
  rw [encodeByte] at h
  split at h
  · rename_i hk
    obtain ⟨hlt, -⟩ := toNat_lt_of_kept hk
    rw [List.mem_singleton.1 h, isEncoded, Utf8.toNat_ofNat_toNat, UInt8.ofNat_toNat]
    rcases Bool.or_eq_true_iff.1 hk with hu | hs
    · simp [hlt, hu]
    · rw [beq_iff_eq.1 hs]
      decide
  · split at h
    · rw [List.mem_singleton.1 h]
      decide
    · have hb := b.toNat_lt
      simp only [List.mem_cons, List.not_mem_nil, or_false] at h
      rcases h with rfl | rfl | rfl
      · decide
      · exact (upperDigit_spec (by omega)).1
      · exact (upperDigit_spec (by omega)).1

/-- **The alphabet of encoded text.** -/
theorem isEncoded_of_mem_encode {c : Char} {t : Text} (h : c ∈ encode t) : isEncoded c = true := by
  obtain ⟨b, -, hb⟩ := List.mem_flatMap.1 h
  exact isEncoded_of_mem_encodeByte hb

theorem isBlank_eq_false_of_isEncoded {c : Char} (h : isEncoded c = true) :
    isBlank c = false := by
  simp only [isEncoded, Bool.and_eq_true, Bool.or_eq_true, decide_eq_true_eq, isUnreserved_iff,
    beq_iff_eq] at h
  obtain ⟨hlt, hc⟩ := h
  rw [Utf8.toNat_ofNat_of_lt (by omega)] at hc
  refine isBlank_eq_false_of_graphic ?_
  rcases hc with ((hc | rfl) | rfl) | rfl
  · omega
  all_goals decide

theorem ne_of_isEncoded {c d : Char} (h : isEncoded c = true) (hd : isEncoded d = false) :
    c ≠ d := by
  rintro rfl
  rw [h] at hd
  cases hd

/-! ### Decoding -/

theorem decodeBytes_of_ne {b : UInt8} (h : b ≠ 0x25) (offset : Nat) (s : Bytes) :
    decodeBytes offset (b :: s) =
      ((if b = 0x2B then 0x20 else b) :: ·) <$> decodeBytes (offset + 1) s := by
  rw [decodeBytes.eq_def]
  simp only [h, if_false]

theorem decodeBytes_escape {h l : UInt8} {x y : Nat} (hx : hexValue? h = some x)
    (hy : hexValue? l = some y) (offset : Nat) (s : Bytes) :
    decodeBytes offset (0x25 :: h :: l :: s) =
      (UInt8.ofNat (16 * x + y) :: ·) <$> decodeBytes (offset + 3) s := by
  rw [decodeBytes.eq_def]
  simp only [hx, hy, if_true]

/-- The encoding of a byte is decoded to the byte, whatever follows it. -/
theorem decodeBytes_encodeByte_append (b : UInt8) (offset : Nat) (s : Bytes) :
    decodeBytes offset (Utf8.encode (encodeByte b) ++ s) =
      (b :: ·) <$> decodeBytes (offset + (encodeByte b).length) s := by
  have hbytes : Utf8.encode (encodeByte b) = (encodeByte b).map fun c => UInt8.ofNat c.toNat :=
    Utf8.encode_of_ascii fun c hc => by
      have h := isEncoded_of_mem_encodeByte hc
      simp only [isEncoded, Bool.and_eq_true, decide_eq_true_eq] at h
      exact h.1
  rw [hbytes, encodeByte]
  split
  · rename_i hk
    obtain ⟨-, hpercent, hplus⟩ := toNat_lt_of_kept hk
    rw [List.map_singleton, Utf8.toNat_ofNat_toNat, UInt8.ofNat_toNat, List.singleton_append,
      decodeBytes_of_ne hpercent, if_neg hplus]
    rfl
  · split
    · rename_i hs
      rw [hs]
      exact decodeBytes_of_ne (by decide) offset s
    · have hb := b.toNat_lt
      have hhi := (upperDigit_spec (show b.toNat / 16 < 16 by omega)).2
      have hlo := (upperDigit_spec (show b.toNat % 16 < 16 by omega)).2
      have hsum : UInt8.ofNat (16 * (b.toNat / 16) + b.toNat % 16) = b := by
        rw [Nat.div_add_mod, UInt8.ofNat_toNat]
      have h := decodeBytes_escape hhi hlo offset s
      rw [hsum] at h
      exact h

theorem decodeBytes_flatMap_encodeByte (s : Bytes) (offset : Nat) :
    decodeBytes offset (Utf8.encode (s.flatMap encodeByte)) = .ok s := by
  induction s generalizing offset with
  | nil => rfl
  | cons b s ih =>
    rw [List.flatMap_cons, Utf8.encode_append, decodeBytes_encodeByte_append, ih]
    rfl

/-- **Decoding inverts encoding.** -/
theorem decode_encode (t : Text) : decode (encode t) = .ok t := by
  rw [decode, encode, decodeBytes_flatMap_encodeByte]
  show Except.ok (toText t.bytes) = _
  rw [toText, Utf8.decode?_encode]
  rfl

theorem encode_eq_nil_iff {t : Text} : encode t = [] ↔ t = [] := by
  constructor
  · intro h
    have hdecode := decode_encode t
    rw [h] at hdecode
    exact (Except.ok.inj hdecode).symm
  · rintro rfl
    rfl

end Percent

end HttpServer
