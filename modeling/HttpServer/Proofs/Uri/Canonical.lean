import HttpServer.Proofs.Text.Split
import HttpServer.Proofs.Uri.Piece

/-!
# Canonical percent-encoding

Many texts are decoded to the same one: a letter may be escaped, an escape may have small digits,
and a space may be a `+` or `%20`. Encoding gives one of them, the *canonical* one. In terms of
pieces each byte has one canonical piece, and the canonical texts are the rows of such pieces whose
bytes are those of some text. A row that spells ill-formed UTF-8 is decoded as well, byte by byte,
but the text that comes out is encoded differently.

## Main definitions

* `Percent.IsKept`: the character stands for itself in encoded text.
* `Percent.Piece.IsCanonical`, `Percent.IsCanonical`: canonical pieces and texts.

## Main results

* `Percent.exists_piece`, `Percent.Piece.IsCanonical.exists_byte`: bytes and canonical pieces.
* `Percent.encode_eq_join`: encoding goes segment by segment.
* `Percent.encode_inverse`: encoding and decoding are inverse on the canonical texts.
-/

namespace HttpServer

namespace Percent

/-! ### Segments -/

/-- One byte of a form. A letter, a digit and `*-._` stand for themselves, and a space is a `+`. -/
def formByte (b : UInt8) : Text :=
  if isUnreserved b then [Char.ofNat b.toNat]
  else if b = 0x20 then ['+']
  else ['%', upperDigit (b.toNat / 16), upperDigit (b.toNat % 16)]

/-- A text as it is written in a form. -/
def serialize (t : Text) : Text :=
  t.bytes.flatMap formByte

theorem formByte_of_ne {b : UInt8} (h : b ≠ 0x2F) : formByte b = encodeByte b := by
  rw [formByte, encodeByte, beq_eq_false_iff_ne.2 h, Bool.or_false]

theorem encode_cons_of_ne {c : Char} (hc : c ≠ '/') (t : Text) :
    encode (c :: t) = serialize [c] ++ encode t := by
  have hbytes : ∀ b ∈ Text.bytes [c], formByte b = encodeByte b := by
    intro b hb
    refine formByte_of_ne ?_
    rintro rfl
    exact hc (List.mem_singleton.1 ((Utf8.mem_encode_iff_of_ascii (by decide)).1 hb)).symm
  have hserialize : serialize [c] = encode [c] := List.flatMap_congr hbytes
  rw [hserialize, ← encode_append, List.singleton_append]

/-- **Encoding goes segment by segment**, and each segment is written as in a form. -/
theorem encode_eq_join (t : Text) :
    encode t = Text.join ['/'] ((splitOn '/' t).map serialize) := by
  induction t with
  | nil => rfl
  | cons c t ih =>
    rw [splitOn]
    split_ifs with hc
    · have hne : (splitOn '/' t).map serialize ≠ [] := by
        rw [Ne, List.map_eq_nil_iff]
        exact splitOn_ne_nil '/' t
      subst hc
      rw [List.map_cons, Text.join_cons_of_ne_nil _ _ hne, ← ih]
      exact encode_append ['/'] t
    · rw [encode_cons_of_ne hc, ih]
      cases splitOn '/' t with
      | nil => exact List.append_nil _
      | cons part parts =>
        have hpart : serialize (c :: part) = serialize [c] ++ serialize part := by
          rw [serialize, ← List.singleton_append, Text.bytes, Utf8.encode_append,
            List.flatMap_append]
          rfl
        rw [List.map_cons, List.map_cons, hpart, Text.join_append_cons]

/-! ### The canonical spelling -/

/-- The character stands for itself in encoded text. -/
def IsKept (c : Char) : Prop :=
  c.isAlphanum = true ∨ c ∈ "*-._/".toList

/-- The digit is a decimal digit or a capital letter. -/
def HexDigit.IsUpper (d : HexDigit) : Prop :=
  "0123456789ABCDEF".toList[d.value]? = some d.char

/-- A piece that encoding writes: a character that stands for itself, a `+` for a space, or an
escape of any other byte in upper case. -/
def Piece.IsCanonical : Piece → Prop
  | .plain c _ => IsKept c ∨ c = '+'
  | .escape high low => high.IsUpper ∧ low.IsUpper ∧
      ∀ c, IsKept c ∨ c = ' ' → 16 * high.value + low.value ≠ c.toNat

/-- The text is a row of canonical pieces that stand for valid UTF-8. -/
def IsCanonical (t : Text) : Prop :=
  ∃ ps, (∀ p ∈ ps, p.IsCanonical) ∧ spelling ps = t ∧ ∃ u : Text, u.bytes = image ps

theorem isKept_iff {c : Char} : IsKept c ↔
    0x30 ≤ c.toNat ∧ c.toNat ≤ 0x39 ∨ 0x41 ≤ c.toNat ∧ c.toNat ≤ 0x5A ∨
      0x61 ≤ c.toNat ∧ c.toNat ≤ 0x7A ∨ c.toNat = 0x2A ∨ c.toNat = 0x2D ∨ c.toNat = 0x2E ∨
      c.toNat = 0x5F ∨ c.toNat = 0x2F := by
  have hmem : c ∈ "*-._/".toList ↔ c.toNat = 0x2A ∨ c.toNat = 0x2D ∨ c.toNat = 0x2E ∨
      c.toNat = 0x5F ∨ c.toNat = 0x2F := by
    have hlist : "*-._/".toList = ['*', '-', '.', '_', '/'] := by decide
    simp only [hlist, List.mem_cons, List.not_mem_nil, or_false, ← Char.toNat_inj]
    rfl
  have hupper : c.isUpper = true ↔ 0x41 ≤ c.toNat ∧ c.toNat ≤ 0x5A := decide_eq_true_iff
  have hlower : c.isLower = true ↔ 0x61 ≤ c.toNat ∧ c.toNat ≤ 0x7A :=
    Bool.and_eq_true_iff.trans (and_congr decide_eq_true_iff decide_eq_true_iff)
  have hdigit : c.isDigit = true ↔ 0x30 ≤ c.toNat ∧ c.toNat ≤ 0x39 :=
    Bool.and_eq_true_iff.trans (and_congr decide_eq_true_iff decide_eq_true_iff)
  have hletter : c.isAlphanum = true ↔ (c.isUpper = true ∨ c.isLower = true) ∨ c.isDigit = true :=
    Bool.or_eq_true_iff.trans (or_congr_left Bool.or_eq_true_iff)
  rw [IsKept, hmem, hletter, hupper, hlower, hdigit]
  omega

/-- The bytes that are not escaped and are no space are those of the kept characters. -/
theorem kept_iff {b : UInt8} :
    (isUnreserved b || b == 0x2F) = true ↔ IsKept (Char.ofNat b.toNat) := by
  rw [isKept_iff, Utf8.toNat_ofNat_toNat, Bool.or_eq_true, isUnreserved_iff, beq_iff_eq,
    ← UInt8.toNat_inj]
  simp only [or_assoc]
  rfl

theorem upperDigit_spells {n : Nat} (h : n < 16) :
    "0123456789ABCDEF".toList[n]? = some (upperDigit n) := by
  interval_cases n <;> rfl

theorem HexDigit.IsUpper.upperDigit_eq {d : HexDigit} (h : d.IsUpper) :
    upperDigit d.value = d.char :=
  Option.some.inj ((upperDigit_spells d.value_lt).symm.trans h)

/-- The canonical digit of a number below sixteen. -/
def HexDigit.upper (n : Nat) (h : n < 16) : HexDigit :=
  ⟨upperDigit n, n, .inr (upperDigit_spells h)⟩

/-! ### Canonical pieces are the bytes as they are encoded -/

/-- The piece stands for one byte, and is that byte as it is encoded. -/
structure Piece.Spells (p : Piece) (b : UInt8) : Prop where
  text_eq : p.text = encodeByte b
  image_eq : p.image = [b]

section OfByte

variable {b : UInt8}

theorem exists_plain (hk : (isUnreserved b || b == 0x2F) = true) :
    ∃ p : Piece, p.IsCanonical ∧ p.Spells b := by
  obtain ⟨hlt, hpercent, hplus⟩ := toNat_lt_of_kept hk
  have hne (d : Char) (h : b ≠ UInt8.ofNat d.toNat) : Char.ofNat b.toNat ≠ d := by
    rintro rfl
    rw [Utf8.toNat_ofNat_toNat, UInt8.ofNat_toNat] at h
    exact h rfl
  refine ⟨.plain (Char.ofNat b.toNat) (hne '%' hpercent), .inl (kept_iff.1 hk), ?_, ?_⟩
  · rw [encodeByte, if_pos hk, Piece.text]
  · rw [Piece.image, if_neg (hne '+' hplus), Utf8.encodeChar_one (UInt8.lt_iff_toNat_lt.2 hlt)]

theorem exists_escape (hk : ¬(isUnreserved b || b == 0x2F) = true) (hspace : b ≠ 0x20) :
    ∃ p : Piece, p.IsCanonical ∧ p.Spells b := by
  have hb := b.toNat_lt
  have hhigh : b.toNat / 16 < 16 := by omega
  have hlow : b.toNat % 16 < 16 := Nat.mod_lt _ (by decide)
  have hvalue : 16 * (b.toNat / 16) + b.toNat % 16 = b.toNat := Nat.div_add_mod b.toNat 16
  refine ⟨.escape (.upper _ hhigh) (.upper _ hlow),
    ⟨upperDigit_spells hhigh, upperDigit_spells hlow, fun c hc heq => ?_⟩, ?_, ?_⟩
  · have hbyte : b.toNat = c.toNat := hvalue.symm.trans heq
    rcases hc with hc | rfl
    · exact hk (kept_iff.2 (by rwa [hbyte, Char.ofNat_toNat]))
    · exact hspace (UInt8.toNat_inj.1 hbyte)
  · rw [encodeByte, if_neg hk, if_neg hspace]
    rfl
  · exact congrArg (fun n => [n]) (Utf8.ofNat_eq_of_toNat hvalue.symm)

/-- **Each byte has a canonical piece.** -/
theorem exists_piece (b : UInt8) : ∃ p : Piece, p.IsCanonical ∧ p.Spells b := by
  by_cases hk : (isUnreserved b || b == 0x2F) = true
  · exact exists_plain hk
  · by_cases hspace : b = 0x20
    · subst hspace
      exact ⟨.plain '+' (by decide), .inr rfl, rfl, rfl⟩
    · exact exists_escape hk hspace

end OfByte

/-- **A canonical piece is one byte** as it is encoded. -/
theorem Piece.IsCanonical.exists_byte {p : Piece} (h : p.IsCanonical) : ∃ b, p.Spells b := by
  cases p with
  | plain c hc =>
    rcases h with hkept | rfl
    · have hlt : c.toNat < 0x80 := by
        have := isKept_iff.1 hkept
        omega
      have hplus : c ≠ '+' := by
        rintro rfl
        exact absurd (isKept_iff.1 hkept) (by decide)
      have hchar : Char.ofNat (UInt8.ofNat c.toNat).toNat = c := by
        rw [Utf8.toNat_ofNat_of_lt (by omega), Char.ofNat_toNat]
      refine ⟨UInt8.ofNat c.toNat, ?_, ?_⟩
      · rw [encodeByte, if_pos (kept_iff.2 (hchar.symm ▸ hkept)), hchar, Piece.text]
      · rw [Piece.image, if_neg hplus, Utf8.encodeChar_ascii hlt]
    · exact ⟨0x20, rfl, rfl⟩
  | escape high low =>
    obtain ⟨hhigh, hlow, hne⟩ := h
    have hh := high.value_lt
    have hl := low.value_lt
    generalize hb : UInt8.ofNat (16 * high.value + low.value) = b
    have hvalue : b.toNat = 16 * high.value + low.value := by
      rw [← hb, Utf8.toNat_ofNat_of_lt (by omega)]
    have hkept : ¬(isUnreserved b || b == 0x2F) = true := fun hk =>
      hne _ (.inl (kept_iff.1 hk)) (hvalue.symm.trans (Utf8.toNat_ofNat_toNat b).symm)
    have hspace : b ≠ 0x20 := by
      rintro rfl
      exact hne ' ' (.inr rfl) hvalue.symm
    refine ⟨b, ?_, by rw [Piece.image, hb]⟩
    rw [encodeByte, if_neg hkept, if_neg hspace, hvalue, Nat.mul_add_div (by decide),
      Nat.div_eq_of_lt hl, Nat.mul_add_mod, Nat.mod_eq_of_lt hl, Nat.add_zero, hhigh.upperDigit_eq,
      hlow.upperDigit_eq, Piece.text]

/-! ### Rows of pieces -/

theorem exists_spelling (s : Bytes) :
    ∃ ps, (∀ p ∈ ps, p.IsCanonical) ∧ spelling ps = s.flatMap encodeByte ∧ image ps = s := by
  induction s with
  | nil => exact ⟨[], List.forall_mem_nil _, rfl, rfl⟩
  | cons b s ih =>
    obtain ⟨p, hp, hbyte⟩ := exists_piece b
    obtain ⟨ps, hps, hspelling, hs⟩ := ih
    refine ⟨p :: ps, List.forall_mem_cons.2 ⟨hp, hps⟩, ?_, ?_⟩
    · rw [spelling_cons, hbyte.text_eq, hspelling, List.flatMap_cons]
    · rw [image_cons, hbyte.image_eq, hs, List.singleton_append]

theorem flatMap_encodeByte_image {ps : List Piece} (h : ∀ p ∈ ps, p.IsCanonical) :
    (image ps).flatMap encodeByte = spelling ps := by
  induction ps with
  | nil => rfl
  | cons p ps ih =>
    obtain ⟨hp, hps⟩ := List.forall_mem_cons.1 h
    obtain ⟨b, hbyte⟩ := hp.exists_byte
    rw [image_cons, hbyte.image_eq, List.singleton_append, List.flatMap_cons, ih hps,
      ← hbyte.text_eq, spelling_cons]

theorem isCanonical_encode (t : Text) : IsCanonical (encode t) := by
  obtain ⟨ps, hps, hspelling, himage⟩ := exists_spelling t.bytes
  exact ⟨ps, hps, hspelling, t, himage.symm⟩

theorem IsCanonical.exists_encode {t : Text} (h : IsCanonical t) : ∃ s, encode s = t := by
  obtain ⟨ps, hps, rfl, s, hs⟩ := h
  exact ⟨s, by rw [encode, hs, flatMap_encodeByte_image hps]⟩

/-- **Encoding and decoding are inverse on the canonical texts.** What is encoded is decoded again;
the canonical texts are those that encoding gives; and a text that is decoded is got back by
encoding exactly if it is canonical. -/
theorem encode_inverse :
    (∀ s, decode (encode s) = .ok s) ∧
    (∀ t, (∃ s, encode s = t) ↔ IsCanonical t) ∧
    (∀ t s, decode t = .ok s → (encode s = t ↔ IsCanonical t)) ∧
    (∀ s, encode s = Text.join ['/'] ((splitOn '/' s).map serialize)) := by
  refine ⟨decode_encode, fun t => ⟨?_, IsCanonical.exists_encode⟩, fun t s hs => ⟨?_, fun ht => ?_⟩,
    encode_eq_join⟩
  · rintro ⟨s, rfl⟩
    exact isCanonical_encode s
  · rintro rfl
    exact isCanonical_encode s
  · obtain ⟨u, rfl⟩ := ht.exists_encode
    rw [decode_encode] at hs
    rw [Except.ok.inj hs]

end Percent

end HttpServer
