import HttpServer.Proofs.Text.Strict
import HttpServer.Proofs.Uri.Percent

/-!
# Well-formed percent-encoding

A percent-encoded text is read as a row of *pieces*. A piece is a character other than `%`, or an
escape, that is a `%` and two hexadecimal digits. A text that is such a row throughout is well
formed, and decoding it gives the bytes of its pieces one after another. Any other text has a first
`%` without two digits behind a row of pieces, and that is where decoding stops.

Pieces are made of characters, while decoding goes by bytes. The two agree because `%` and the
digits are ASCII characters, whose bytes stand nowhere else in UTF-8; so an escape that is cut by
the bytes of a longer character is no escape on either side.

## Main definitions

* `Percent.Piece`, `Percent.spelling`, `Percent.image`: pieces, their text and their bytes.
* `Percent.IsWellFormed`: the text is a row of pieces.
* `Percent.StartsWithDigits`: the text that follows a `%` completes an escape.

## Main results

* `Percent.decodeBytes_spelling_append`: decoding takes pieces off the front of any bytes.
* `Percent.decodeBytes_of_not_startsWithDigits`: the error at a `%` without its digits.
* `Percent.decode_outcome`: what decoding gives on every text.
-/

namespace HttpServer

namespace Utf8

/-- An ASCII byte at the start of the bytes of a text is the first character. -/
theorem exists_cons_of_encode_eq_cons {t : Text} {b : UInt8} {s : Bytes} (hb : b.toNat < 0x80)
    (h : encode t = b :: s) : ∃ r, t = Char.ofNat b.toNat :: r ∧ encode r = s := by
  have hparts := parts_encode t
  rw [h, parts_one s hb] at hparts
  obtain ⟨c, r, rfl, hc, -⟩ := List.map_eq_cons_iff.1 hparts.symm
  obtain rfl := Option.some.inj hc
  refine ⟨r, rfl, ?_⟩
  rw [encode_cons, encodeChar_one (UInt8.lt_iff_toNat_lt.2 hb), List.singleton_append] at h
  exact (List.cons.inj h).2

end Utf8

namespace Percent

/-! ### Hexadecimal digits -/

/-- A character that spells a number below sixteen, in either case. -/
structure HexDigit where
  char : Char
  value : Nat
  spells : "0123456789abcdef".toList[value]? = some char ∨
    "0123456789ABCDEF".toList[value]? = some char

theorem hexDigit?_eq_some_iff {c : Char} {n : Nat} : hexDigit? c = some n ↔
    "0123456789abcdef".toList[n]? = some c ∨ "0123456789ABCDEF".toList[n]? = some c := by
  constructor
  · intro h
    have hc := Char.ofNat_toNat c
    have hle {d : Char} : d ≤ c ↔ d.toNat ≤ c.toNat := Iff.rfl
    have hge {d : Char} : c ≤ d ↔ c.toNat ≤ d.toNat := Iff.rfl
    simp only [hexDigit?, hle, hge] at h
    generalize c.toNat = m at h hc
    subst hc
    split_ifs at h with h1 h2 h3 <;> obtain rfl := Option.some.inj h
    · have hlow : 48 ≤ m := h1.1
      have hhigh : m ≤ 57 := h1.2
      interval_cases m <;> decide
    · have hlow : 97 ≤ m := h2.1
      have hhigh : m ≤ 102 := h2.2
      interval_cases m <;> decide
    · have hlow : 65 ≤ m := h3.1
      have hhigh : m ≤ 70 := h3.2
      interval_cases m <;> decide
  · intro h
    have hn : n < 16 := by
      rcases h with h | h <;> exact (List.getElem?_eq_some_iff.1 h).1
    interval_cases n <;> rcases h with h | h <;> cases h <;> rfl

theorem toNat_lt_of_hexDigit? {c : Char} {n : Nat} (h : hexDigit? c = some n) :
    c.toNat < 0x80 := by
  rw [hexDigit?] at h
  split_ifs at h with h1 h2 h3
  · exact Nat.lt_of_le_of_lt (show c.toNat ≤ 57 from h1.2) (by decide)
  · exact Nat.lt_of_le_of_lt (show c.toNat ≤ 102 from h2.2) (by decide)
  · exact Nat.lt_of_le_of_lt (show c.toNat ≤ 70 from h3.2) (by decide)

namespace HexDigit

theorem hexDigit?_char (d : HexDigit) : hexDigit? d.char = some d.value :=
  hexDigit?_eq_some_iff.2 d.spells

theorem value_lt (d : HexDigit) : d.value < 16 := by
  rcases d.spells with h | h <;> exact (List.getElem?_eq_some_iff.1 h).1

theorem toNat_char_lt (d : HexDigit) : d.char.toNat < 0x80 :=
  toNat_lt_of_hexDigit? d.hexDigit?_char

/-- The byte of a digit. -/
def byte (d : HexDigit) : UInt8 :=
  UInt8.ofNat d.char.toNat

theorem toNat_byte (d : HexDigit) : d.byte.toNat = d.char.toNat :=
  Utf8.toNat_ofNat_of_lt (Nat.lt_trans d.toNat_char_lt (by decide))

theorem encodeChar_char (d : HexDigit) : Utf8.encodeChar d.char = [d.byte] :=
  Utf8.encodeChar_ascii d.toNat_char_lt

theorem hexValue?_byte (d : HexDigit) : hexValue? d.byte = some d.value := by
  rw [hexValue?, d.toNat_byte, Char.ofNat_toNat, d.hexDigit?_char]

end HexDigit

/-- A byte that is read as a digit is the byte of one. -/
theorem exists_hexDigit_of_hexValue? {b : UInt8} {n : Nat} (h : hexValue? b = some n) :
    ∃ d : HexDigit, d.char = Char.ofNat b.toNat ∧ d.byte = b := by
  let d : HexDigit := ⟨Char.ofNat b.toNat, n, hexDigit?_eq_some_iff.1 h⟩
  have hchar : d.char.toNat = b.toNat := Utf8.toNat_ofNat_toNat b
  exact ⟨d, rfl, by rw [HexDigit.byte, hchar, UInt8.ofNat_toNat]⟩

/-! ### Pieces -/

/-- What a percent-encoded text is made of: a character other than `%`, or an escape. -/
inductive Piece where
  | plain (c : Char) (ne : c ≠ '%')
  | escape (high low : HexDigit)

namespace Piece

/-- The characters of a piece. -/
def text : Piece → Text
  | .plain c _ => [c]
  | .escape high low => ['%', high.char, low.char]

/-- The bytes that a piece stands for. -/
def image : Piece → Bytes
  | .plain c _ => if c = '+' then [0x20] else Utf8.encodeChar c
  | .escape high low => [UInt8.ofNat (16 * high.value + low.value)]

end Piece

/-- The text of a row of pieces. -/
def spelling (ps : List Piece) : Text :=
  ps.flatMap Piece.text

/-- The bytes that a row of pieces stands for. -/
def image (ps : List Piece) : Bytes :=
  ps.flatMap Piece.image

/-- The text is a row of characters other than `%` and of escapes. -/
def IsWellFormed (t : Text) : Prop :=
  ∃ ps, spelling ps = t

/-- The text begins with two hexadecimal digits. -/
def StartsWithDigits (t : Text) : Prop :=
  ∃ (high low : HexDigit) (r : Text), t = high.char :: low.char :: r

@[simp] theorem spelling_cons (p : Piece) (ps : List Piece) :
    spelling (p :: ps) = p.text ++ spelling ps := List.flatMap_cons ..

@[simp] theorem image_cons (p : Piece) (ps : List Piece) :
    image (p :: ps) = p.image ++ image ps := List.flatMap_cons ..

/-- **A text is read to its end, or up to a first `%`** without its two digits. -/
theorem exists_spelling_or_stop (t : Text) : IsWellFormed t ∨
    ∃ lead rest, t = lead ++ '%' :: rest ∧ IsWellFormed lead ∧ ¬StartsWithDigits rest := by
  induction hn : t.length using Nat.strong_induction_on generalizing t with
  | _ n ih =>
    -- A piece in front goes with the row that is read behind it.
    have hstep (p : Piece) (r : Text) (ht : t = p.text ++ r) (hlt : r.length < n) :
        IsWellFormed t ∨ ∃ lead rest, t = lead ++ '%' :: rest ∧ IsWellFormed lead ∧
          ¬StartsWithDigits rest := by
      rcases ih r.length hlt r rfl with ⟨ps, rfl⟩ | ⟨lead, rest, rfl, ⟨ps, rfl⟩, hrest⟩
      · exact .inl ⟨p :: ps, by rw [ht, spelling_cons]⟩
      · refine .inr ⟨spelling (p :: ps), rest, ?_, ⟨p :: ps, rfl⟩, hrest⟩
        rw [ht, spelling_cons, List.append_assoc]
    cases t with
    | nil => exact .inl ⟨[], rfl⟩
    | cons c r =>
      rw [List.length_cons] at hn
      by_cases hc : c = '%'
      · subst hc
        by_cases hr : StartsWithDigits r
        · obtain ⟨high, low, r', rfl⟩ := hr
          rw [List.length_cons, List.length_cons] at hn
          exact hstep (.escape high low) r' rfl (by omega)
        · exact .inr ⟨[], r, rfl, ⟨[], rfl⟩, hr⟩
      · exact hstep (.plain c hc) r rfl (by omega)

/-! ### Decoding pieces -/

theorem decodeBytes_unmarked_append {s : Bytes} (h : ∀ b ∈ s, b ≠ 0x25 ∧ b ≠ 0x2B) (offset : Nat)
    (t : Bytes) : decodeBytes offset (s ++ t) = (s ++ ·) <$> decodeBytes (offset + s.length) t := by
  induction s generalizing offset with
  | nil => exact (id_map _).symm
  | cons b s ih =>
    obtain ⟨hpercent, hplus⟩ := h b List.mem_cons_self
    rw [List.cons_append, decodeBytes_of_ne hpercent, if_neg hplus,
      ih fun d hd => h d (List.mem_cons_of_mem b hd), List.length_cons, ← comp_map, Nat.add_assoc,
      Nat.add_comm 1]
    rfl

/-- **A piece is decoded to its bytes**, whatever follows it. -/
theorem decodeBytes_piece_append (p : Piece) (offset : Nat) (s : Bytes) :
    decodeBytes offset (p.text.bytes ++ s) =
      (p.image ++ ·) <$> decodeBytes (offset + p.text.bytes.length) s := by
  cases p with
  | plain c hc =>
    by_cases hplus : c = '+'
    · subst hplus
      exact decodeBytes_of_ne (by decide) offset s
    · have hbytes : Text.bytes [c] = Utf8.encodeChar c := List.append_nil _
      have himage : (Piece.plain c hc).image = Utf8.encodeChar c := if_neg hplus
      rw [Piece.text, hbytes, himage]
      refine decodeBytes_unmarked_append (fun b hb => ?_) offset s
      rw [← hbytes] at hb
      constructor
      · rintro rfl
        exact hc (List.mem_singleton.1 ((Utf8.mem_encode_iff_of_ascii (by decide)).1 hb)).symm
      · rintro rfl
        exact hplus (List.mem_singleton.1 ((Utf8.mem_encode_iff_of_ascii (by decide)).1 hb)).symm
  | escape high low =>
    have hbytes : (Piece.escape high low).text.bytes = [0x25, high.byte, low.byte] := by
      rw [Piece.text, Text.bytes, Utf8.encode_cons, Utf8.encode_cons, Utf8.encode_cons,
        high.encodeChar_char, low.encodeChar_char]
      rfl
    rw [hbytes]
    exact decodeBytes_escape high.hexValue?_byte low.hexValue?_byte offset s

theorem decodeBytes_spelling_append (ps : List Piece) (offset : Nat) (s : Bytes) :
    decodeBytes offset ((spelling ps).bytes ++ s) =
      (image ps ++ ·) <$> decodeBytes (offset + (spelling ps).bytes.length) s := by
  induction ps generalizing offset with
  | nil => exact (id_map _).symm
  | cons p ps ih =>
    rw [spelling_cons, image_cons, Text.bytes, Utf8.encode_append, List.append_assoc,
      decodeBytes_piece_append, ih, ← comp_map, List.length_append, Nat.add_assoc]
    exact congrArg (· <$> _) (funext fun _ => (List.append_assoc ..).symm)

/-- At a `%` without its two digits decoding stops. -/
theorem decodeBytes_of_not_startsWithDigits {rest : Text} (h : ¬StartsWithDigits rest)
    (offset : Nat) : decodeBytes offset (0x25 :: rest.bytes) = .error
      (if rest.bytes.length < 2 then .truncated offset
        else .invalidHex offset (Utf8.decodeLossy (rest.bytes.take 2))) := by
  generalize hs : rest.bytes = s
  match s with
  | [] => rfl
  | [_] => rfl
  | a :: b :: s =>
    rw [decodeBytes.eq_def]
    dsimp only
    rw [if_pos rfl]
    split
    · rename_i ha hb
      -- Two bytes that are read as digits are the first two characters.
      obtain ⟨high, hhigh, hbyte⟩ := exists_hexDigit_of_hexValue? ha
      obtain ⟨low, hlow, hbyte'⟩ := exists_hexDigit_of_hexValue? hb
      have hlt : a.toNat < 0x80 := by rw [← hbyte, high.toNat_byte]; exact high.toNat_char_lt
      have hlt' : b.toNat < 0x80 := by rw [← hbyte', low.toNat_byte]; exact low.toNat_char_lt
      obtain ⟨r, rfl, hr⟩ := Utf8.exists_cons_of_encode_eq_cons hlt hs
      obtain ⟨r', rfl, -⟩ := Utf8.exists_cons_of_encode_eq_cons hlt' hr
      exact absurd ⟨high, low, r', by rw [hhigh, hlow]⟩ h
    · rfl

/-! ### Decoding texts -/

theorem toText_of_bytes (t : Text) : toText t.bytes = t := by
  rw [toText, Utf8.decode?_encode, Option.getD_some]

theorem toText_of_not_bytes {s : Bytes} (h : ¬∃ t : Text, t.bytes = s) :
    toText s = s.map fun b => Char.ofNat b.toNat := by
  have hnone : Utf8.decode? s = none :=
    Option.eq_none_iff_forall_ne_some.2 fun t ht => h ⟨t, Utf8.decode?_eq_some_iff.1 ht⟩
  rw [toText, hnone, Option.getD_none, Utf8.latin1]

theorem decode_spelling (ps : List Piece) : decode (spelling ps) = .ok (toText (image ps)) := by
  have h := decodeBytes_spelling_append ps 0 []
  rw [List.append_nil] at h
  rw [decode, h]
  exact congrArg (fun s => Except.ok (toText s)) (List.append_nil _)

theorem bytes_stop (lead rest : Text) :
    Text.bytes (lead ++ '%' :: rest) = lead.bytes ++ 0x25 :: rest.bytes :=
  Utf8.encode_append lead _

theorem getElem?_bytes_stop (lead rest : Text) :
    (Text.bytes (lead ++ '%' :: rest))[lead.bytes.length]? = some 0x25 := by
  rw [bytes_stop, List.getElem?_append_right (Nat.le_refl _), Nat.sub_self, List.getElem?_cons_zero]

theorem decode_stop {lead rest : Text} (hlead : IsWellFormed lead)
    (hrest : ¬StartsWithDigits rest) : decode (lead ++ '%' :: rest) = .error
      (if rest.bytes.length < 2 then .truncated lead.bytes.length
        else .invalidHex lead.bytes.length (Utf8.decodeLossy (rest.bytes.take 2))) := by
  obtain ⟨ps, rfl⟩ := hlead
  rw [decode, bytes_stop, decodeBytes_spelling_append, decodeBytes_of_not_startsWithDigits hrest,
    Nat.zero_add]
  rfl

/-- What an error says of the text. -/
theorem exists_stop_of_decode {t : Text} {e : DecodeError} (h : decode t = .error e) :
    ∃ lead rest : Text, t = lead ++ '%' :: rest ∧ e = (if rest.bytes.length < 2 then
        .truncated lead.bytes.length
      else .invalidHex lead.bytes.length (Utf8.decodeLossy (rest.bytes.take 2))) := by
  rcases exists_spelling_or_stop t with ⟨ps, rfl⟩ | ⟨lead, rest, rfl, hlead, hrest⟩
  · rw [decode_spelling] at h
    cases h
  · rw [decode_stop hlead hrest] at h
    exact ⟨lead, rest, rfl, (Except.error.inj h).symm⟩

/-- **What decoding gives.** A text is decoded exactly if it is a row of characters other than `%`
and of escapes, and then to the bytes of that row, read as UTF-8 if they are valid and otherwise
byte by byte. In any other text there is a `%` that ends such a row and is not followed by two
digits; the error names its byte, and shows the two bytes behind it unless there are fewer. -/
theorem decode_outcome (t : Text) :
    ((∃ u, decode t = .ok u) ↔ IsWellFormed t) ∧
    (∀ ps, spelling ps = t →
      (∀ u : Text, u.bytes = image ps → decode t = .ok u) ∧
      ((¬∃ u : Text, u.bytes = image ps) →
        decode t = .ok ((image ps).map fun b => Char.ofNat b.toNat))) ∧
    (¬IsWellFormed t →
      ∃ lead rest, t = lead ++ '%' :: rest ∧ IsWellFormed lead ∧ ¬StartsWithDigits rest) ∧
    (∀ lead rest : Text, t = lead ++ '%' :: rest → IsWellFormed lead → ¬StartsWithDigits rest →
      (∃ u, decode lead = .ok u) ∧
      decode t = .error (if rest.bytes.length < 2 then .truncated lead.bytes.length
        else .invalidHex lead.bytes.length (Utf8.decodeLossy (rest.bytes.take 2)))) ∧
    (∀ i, decode t = .error (.truncated i) →
      t.bytes[i]? = some 0x25 ∧ t.bytes.length < i + 3) ∧
    (∀ i shown, decode t = .error (.invalidHex i shown) →
      t.bytes[i]? = some 0x25 ∧ i + 3 ≤ t.bytes.length ∧
        shown = Utf8.decodeLossy ((t.bytes.drop (i + 1)).take 2)) := by
  refine ⟨⟨fun ⟨u, hu⟩ => ?_, fun ⟨ps, hps⟩ => ⟨_, hps ▸ decode_spelling ps⟩⟩, ?_, ?_, ?_, ?_, ?_⟩
  · rcases exists_spelling_or_stop t with hwell | ⟨lead, rest, rfl, hlead, hrest⟩
    · exact hwell
    · rw [decode_stop hlead hrest] at hu
      cases hu
  · rintro ps rfl
    rw [decode_spelling]
    exact ⟨fun u hu => by rw [← hu, toText_of_bytes],
      fun hnone => by rw [toText_of_not_bytes hnone]⟩
  · exact (exists_spelling_or_stop t).resolve_left
  · rintro lead rest rfl hlead hrest
    obtain ⟨ps, hps⟩ := hlead
    exact ⟨⟨_, hps ▸ decode_spelling ps⟩, decode_stop ⟨ps, hps⟩ hrest⟩
  · intro i h
    obtain ⟨lead, rest, rfl, he⟩ := exists_stop_of_decode h
    split_ifs at he with hlen
    obtain rfl := DecodeError.truncated.inj he
    refine ⟨getElem?_bytes_stop lead rest, ?_⟩
    rw [bytes_stop, List.length_append, List.length_cons]
    omega
  · intro i shown h
    obtain ⟨lead, rest, rfl, he⟩ := exists_stop_of_decode h
    split_ifs at he with hlen
    obtain ⟨rfl, rfl⟩ := DecodeError.invalidHex.inj he
    refine ⟨getElem?_bytes_stop lead rest, ?_, ?_⟩
    · rw [bytes_stop, List.length_append, List.length_cons]
      omega
    · rw [bytes_stop, ← List.drop_drop, List.drop_left, List.drop_one, List.tail_cons]

end Percent

end HttpServer
