import HttpServer.Text.Utf8
import Mathlib.Tactic.SplitIfs

/-!
# Reading UTF-8 back

The bytes of a text are read back as that text, strictly and leniently. Decoding cuts off one part
at a time, so both follow from one statement on the bytes of a single character
(`Utf8.parts_encodeChar_append`), which is proved for each of the four lengths from the numbers of
its bytes.

A byte below 0x80 occurs in the bytes of a text only where its own character stands, because every
byte of a longer sequence is greater. Line ends and other separators can therefore be looked for in
bytes as well as in text. Texts are in the same order, character by character, as their bytes.

## Main results

* `Utf8.decode?_encode`, `Utf8.decodeLossy_encode`: the two readings of the bytes of a text.
* `Utf8.mem_encode_iff_of_ascii`: an ASCII byte stands where its character stands.
* `Utf8.encode_lt_encode_iff`: the order of texts and that of bytes.
-/

namespace HttpServer

namespace Utf8

theorem toNat_ofNat_of_lt {n : Nat} (h : n < 256) : (UInt8.ofNat n).toNat = n := by
  simpa using h

theorem ofNat_eq_of_toNat {b : UInt8} {n : Nat} (h : b.toNat = n) : UInt8.ofNat n = b := by
  rw [← h, UInt8.ofNat_toNat]

theorem toNat_ofNat_of_isValidChar {n : Nat} (h : n.isValidChar) : (Char.ofNat n).toNat = n := by
  rw [Char.ofNat, dif_pos h]
  rfl

theorem toNat_ofNat_toNat (b : UInt8) : (Char.ofNat b.toNat).toNat = b.toNat :=
  toNat_ofNat_of_isValidChar (.inl (Nat.lt_trans b.toNat_lt (by decide)))

theorem isTail_iff {b : UInt8} : isTail b = true ↔ 0x80 ≤ b.toNat ∧ b.toNat ≤ 0xBF := by
  simp [isTail, UInt8.le_iff_toNat_le]

theorem tailBits_eq {b : UInt8} {n : Nat} (h : b.toNat = 0x80 + n) : tailBits b = n := by
  unfold tailBits
  omega

theorem isSecond_iff {a b : UInt8} : isSecond a b = true ↔
    (if a.toNat = 0xE0 then 0xA0 else if a.toNat = 0xF0 then 0x90 else 0x80) ≤ b.toNat ∧
      b.toNat ≤ (if a.toNat = 0xED then 0x9F else if a.toNat = 0xF4 then 0x8F else 0xBF) := by
  simp only [isSecond, Bool.and_eq_true, decide_eq_true_eq, UInt8.le_iff_toNat_le,
    ← UInt8.toNat_inj, apply_ite UInt8.toNat]
  rfl

theorem isTail_of_isSecond {a b : UInt8} (h : isSecond a b = true) : isTail b = true := by
  rw [isSecond_iff] at h
  rw [isTail_iff]
  split_ifs at h <;> omega

/-! ### Sequences of one to four bytes -/

theorem parts_one {a : UInt8} (s : Bytes) (h : a.toNat < 0x80) :
    parts (a :: s) = some (Char.ofNat a.toNat) :: parts s := by
  have ha : a < 0x80 := UInt8.lt_iff_toNat_lt.2 h
  rw [parts.eq_def]
  simp only [ha, if_true]

theorem parts_two {a b : UInt8} {x y : Nat} (s : Bytes) (ha : a.toNat = 0xC0 + x)
    (hb : b.toNat = 0x80 + y) (hx : 2 ≤ x ∧ x < 32) (hy : y < 64) :
    parts (a :: b :: s) = some (Char.ofNat (x * 64 + y)) :: parts s := by
  have h1 : ¬a < 0x80 := by
    simp only [UInt8.lt_iff_toNat_lt, UInt8.toNat_ofNat]
    omega
  have h2 : (0xC2 ≤ a && a ≤ 0xDF) = true := by
    simp only [Bool.and_eq_true, decide_eq_true_eq, UInt8.le_iff_toNat_le, UInt8.toNat_ofNat]
    omega
  have htail : isTail b = true := isTail_iff.2 (by omega)
  have hlead : a.toNat - 0xC0 = x := by omega
  rw [parts.eq_def]
  simp only [h1, h2, htail, if_false, if_true, hlead, tailBits_eq hb]

theorem parts_three {a b c : UInt8} {x y z : Nat} (s : Bytes) (ha : a.toNat = 0xE0 + x)
    (hb : b.toNat = 0x80 + y) (hc : c.toNat = 0x80 + z) (hx : x < 16) (hy : y < 64) (hz : z < 64)
    (hlow : 0x800 ≤ x * 4096 + y * 64 + z)
    (hsur : x * 4096 + y * 64 + z < 0xD800 ∨ 0xDFFF < x * 4096 + y * 64 + z) :
    parts (a :: b :: c :: s) = some (Char.ofNat (x * 4096 + y * 64 + z)) :: parts s := by
  have h1 : ¬a < 0x80 := by
    simp only [UInt8.lt_iff_toNat_lt, UInt8.toNat_ofNat]
    omega
  have h2 : (0xC2 ≤ a && a ≤ 0xDF) = false := by
    simp only [Bool.and_eq_false_iff, decide_eq_false_iff_not, UInt8.le_iff_toNat_le,
      UInt8.toNat_ofNat]
    omega
  have h3 : (0xE0 ≤ a && a ≤ 0xEF) = true := by
    simp only [Bool.and_eq_true, decide_eq_true_eq, UInt8.le_iff_toNat_le, UInt8.toNat_ofNat]
    omega
  have hsecond : isSecond a b = true := by
    rw [isSecond_iff, ha, hb]
    split_ifs <;> omega
  have htail : isTail c = true := isTail_iff.2 (by omega)
  have hlead : a.toNat - 0xE0 = x := by omega
  rw [parts.eq_def]
  simp only [h1, h2, h3, hsecond, htail, if_false, if_true, Bool.false_eq_true, hlead,
    tailBits_eq hb, tailBits_eq hc]

theorem parts_four {a b c d : UInt8} {x y z u : Nat} (s : Bytes) (ha : a.toNat = 0xF0 + x)
    (hb : b.toNat = 0x80 + y) (hc : c.toNat = 0x80 + z) (hd : d.toNat = 0x80 + u)
    (hy : y < 64) (hz : z < 64) (hu : u < 64)
    (hlow : 0x10000 ≤ x * 262144 + y * 4096 + z * 64 + u)
    (hhigh : x * 262144 + y * 4096 + z * 64 + u < 0x110000) :
    parts (a :: b :: c :: d :: s) =
      some (Char.ofNat (x * 262144 + y * 4096 + z * 64 + u)) :: parts s := by
  have h1 : ¬a < 0x80 := by
    simp only [UInt8.lt_iff_toNat_lt, UInt8.toNat_ofNat]
    omega
  have h2 : (0xC2 ≤ a && a ≤ 0xDF) = false := by
    simp only [Bool.and_eq_false_iff, decide_eq_false_iff_not, UInt8.le_iff_toNat_le,
      UInt8.toNat_ofNat]
    omega
  have h3 : (0xE0 ≤ a && a ≤ 0xEF) = false := by
    simp only [Bool.and_eq_false_iff, decide_eq_false_iff_not, UInt8.le_iff_toNat_le,
      UInt8.toNat_ofNat]
    omega
  have h4 : (0xF0 ≤ a && a ≤ 0xF4) = true := by
    simp only [Bool.and_eq_true, decide_eq_true_eq, UInt8.le_iff_toNat_le, UInt8.toNat_ofNat]
    omega
  have hsecond : isSecond a b = true := by
    rw [isSecond_iff, ha, hb]
    split_ifs <;> omega
  have htail : isTail c = true := isTail_iff.2 (by omega)
  have htail' : isTail d = true := isTail_iff.2 (by omega)
  have hlead : a.toNat - 0xF0 = x := by omega
  rw [parts.eq_def]
  simp only [h1, h2, h3, h4, hsecond, htail, htail', if_false, if_true, Bool.false_eq_true, hlead,
    tailBits_eq hb, tailBits_eq hc, tailBits_eq hd]

/-! ### Texts -/

/-- **A character is read back from its bytes**, whatever follows them. -/
theorem parts_encodeChar_append (c : Char) (s : Bytes) :
    parts (encodeChar c ++ s) = some c :: parts s := by
  have hv : c.toNat < 0xD800 ∨ 0xDFFF < c.toNat ∧ c.toNat < 0x110000 := c.valid
  have hc : Char.ofNat c.toNat = c := Char.ofNat_toNat c
  generalize hn : c.toNat = n at hv hc
  simp only [encodeChar, hn]
  split_ifs with h1 h2 h3
  · have ha : (UInt8.ofNat n).toNat = n := toNat_ofNat_of_lt (by omega)
    rw [List.singleton_append, parts_one s (ha.symm ▸ h1), ha, hc]
  · have ha := toNat_ofNat_of_lt (show 0xC0 + n / 64 < 256 by omega)
    have hb := toNat_ofNat_of_lt (show 0x80 + n % 64 < 256 by omega)
    have hsum : n / 64 * 64 + n % 64 = n := by omega
    have h := parts_two s ha hb (by omega) (by omega)
    rw [hsum, hc] at h
    exact h
  · have ha := toNat_ofNat_of_lt (show 0xE0 + n / 4096 < 256 by omega)
    have hb := toNat_ofNat_of_lt (show 0x80 + n / 64 % 64 < 256 by omega)
    have hd := toNat_ofNat_of_lt (show 0x80 + n % 64 < 256 by omega)
    have hsum : n / 4096 * 4096 + n / 64 % 64 * 64 + n % 64 = n := by omega
    have h := parts_three s ha hb hd (by omega) (by omega) (by omega) (by omega) (by omega)
    rw [hsum, hc] at h
    exact h
  · have ha := toNat_ofNat_of_lt (show 0xF0 + n / 262144 < 256 by omega)
    have hb := toNat_ofNat_of_lt (show 0x80 + n / 4096 % 64 < 256 by omega)
    have hd := toNat_ofNat_of_lt (show 0x80 + n / 64 % 64 < 256 by omega)
    have he := toNat_ofNat_of_lt (show 0x80 + n % 64 < 256 by omega)
    have hsum : n / 262144 * 262144 + n / 4096 % 64 * 4096 + n / 64 % 64 * 64 + n % 64 = n := by
      omega
    have h := parts_four s ha hb hd he (by omega) (by omega) (by omega) (by omega) (by omega)
    rw [hsum, hc] at h
    exact h

theorem parts_encode (t : Text) : parts (encode t) = t.map some := by
  induction t with
  | nil => rfl
  | cons c t ih => rw [encode_cons, parts_encodeChar_append, ih, List.map_cons]

/-- **Lenient reading** gives a text back from its bytes. -/
theorem decodeLossy_encode (t : Text) : decodeLossy (encode t) = t := by
  rw [decodeLossy, parts_encode, List.map_map]
  exact List.map_id' t

/-- **Strict reading** accepts the bytes of a text and gives the text back. -/
theorem decode?_encode (t : Text) : decode? (encode t) = some t := by
  simp [decode?, parts_encode]

theorem encode_injective {s t : Text} (h : encode s = encode t) : s = t := by
  rw [← decodeLossy_encode s, h, decodeLossy_encode]

theorem encodeChar_ne_nil (c : Char) : encodeChar c ≠ [] := by
  simp only [encodeChar]
  split_ifs <;> exact List.cons_ne_nil _ _

theorem encode_ne_nil {t : Text} (h : t ≠ []) : encode t ≠ [] := by
  obtain ⟨c, t, rfl⟩ := List.exists_cons_of_ne_nil h
  rw [encode_cons]
  exact List.append_ne_nil_of_left_ne_nil (encodeChar_ne_nil c) _

/-! ### ASCII bytes -/

/-- Every byte of a character beyond ASCII is at least 0x80. -/
theorem le_toNat_of_mem_encodeChar {c : Char} {b : UInt8} (hc : 0x80 ≤ c.toNat)
    (hb : b ∈ encodeChar c) : 0x80 ≤ b.toNat := by
  have hv : c.toNat < 0xD800 ∨ 0xDFFF < c.toNat ∧ c.toNat < 0x110000 := c.valid
  generalize hn : c.toNat = n at hc hv
  have hbyte : ∀ m, 0x80 ≤ m → m < 256 → 0x80 ≤ (UInt8.ofNat m).toNat := fun m h h' => by
    rwa [toNat_ofNat_of_lt h']
  simp only [encodeChar, hn] at hb
  split_ifs at hb with h1 h2 h3
  · omega
  all_goals
    simp only [List.mem_cons, List.not_mem_nil, or_false] at hb
  · rcases hb with rfl | rfl <;> exact hbyte _ (by omega) (by omega)
  · rcases hb with rfl | rfl | rfl <;> exact hbyte _ (by omega) (by omega)
  · rcases hb with rfl | rfl | rfl | rfl <;> exact hbyte _ (by omega) (by omega)

/-- **An ASCII byte stands where its character stands.** -/
theorem mem_encode_iff_of_ascii {c : Char} (hc : c.toNat < 0x80) {t : Text} :
    UInt8.ofNat c.toNat ∈ encode t ↔ c ∈ t := by
  rw [encode, List.mem_flatMap]
  constructor
  · rintro ⟨d, hd, hmem⟩
    by_cases hlt : d.toNat < 0x80
    · rw [encodeChar_ascii hlt, List.mem_singleton] at hmem
      have h := congrArg UInt8.toNat hmem
      rw [toNat_ofNat_of_lt (by omega), toNat_ofNat_of_lt (by omega)] at h
      rwa [Char.toNat_inj.1 h]
    · have h := le_toNat_of_mem_encodeChar (by omega) hmem
      rw [toNat_ofNat_of_lt (by omega)] at h
      omega
  · intro h
    refine ⟨c, h, ?_⟩
    rw [encodeChar_ascii hc]
    exact List.mem_singleton_self _

/-- The bytes of an ASCII text are its characters. -/
theorem encode_of_ascii {t : Text} (h : ∀ c ∈ t, c.toNat < 0x80) :
    encode t = t.map fun c => UInt8.ofNat c.toNat := by
  induction t with
  | nil => rfl
  | cons c t ih =>
    rw [encode_cons, encodeChar_ascii (h c List.mem_cons_self),
      ih fun d hd => h d (List.mem_cons_of_mem c hd)]
    rfl

/-! ### The order of bytes -/

/-- A byte with the smaller number comes first, and if the numbers are equal the rest decides. -/
theorem ofNat_cons_lt {x y : Nat} {s t : Bytes} (hle : x ≤ y) (hy : y < 256)
    (hst : x = y → s < t) : UInt8.ofNat x :: s < UInt8.ofNat y :: t := by
  rw [List.cons_lt_cons_iff, UInt8.lt_iff_toNat_lt, toNat_ofNat_of_lt hy,
    toNat_ofNat_of_lt (Nat.lt_of_le_of_lt hle hy)]
  rcases Nat.lt_or_eq_of_le hle with hlt | rfl
  · exact .inl hlt
  · exact .inr ⟨rfl, hst rfl⟩

/-- **A smaller character has smaller bytes**, whatever follows them. A shorter sequence has the
smaller lead byte; of two sequences of one length the first byte that differs decides. -/
theorem encodeChar_append_lt {c d : Char} (h : c < d) (s t : Bytes) :
    encodeChar c ++ s < encodeChar d ++ t := by
  have hlt : c.toNat < d.toNat := h
  have hd : d.toNat < 0xD800 ∨ 0xDFFF < d.toNat ∧ d.toNat < 0x110000 := d.valid
  generalize hm : c.toNat = m at hlt
  generalize hn : d.toNat = n at hlt hd
  simp only [encodeChar, hm, hn]
  by_cases hshort : m < 0x80 ∧ 0x80 ≤ n ∨ m < 0x800 ∧ 0x800 ≤ n ∨ m < 0x10000 ∧ 0x10000 ≤ n
  · split_ifs <;> try omega
    all_goals exact ofNat_cons_lt (by omega) (by omega) (by omega)
  · split_ifs <;> try omega
    · exact ofNat_cons_lt (by omega) (by omega) (by omega)
    · exact ofNat_cons_lt (by omega) (by omega) fun _ =>
        ofNat_cons_lt (by omega) (by omega) (by omega)
    · exact ofNat_cons_lt (by omega) (by omega) fun _ =>
        ofNat_cons_lt (by omega) (by omega) fun _ => ofNat_cons_lt (by omega) (by omega) (by omega)
    · exact ofNat_cons_lt (by omega) (by omega) fun _ =>
        ofNat_cons_lt (by omega) (by omega) fun _ =>
          ofNat_cons_lt (by omega) (by omega) fun _ =>
            ofNat_cons_lt (by omega) (by omega) (by omega)

theorem encode_lt_encode {s t : Text} (h : s < t) : encode s < encode t := by
  induction s generalizing t with
  | nil =>
    cases t with
    | nil => exact absurd h (List.lt_irrefl _)
    | cons d t =>
      obtain ⟨b, bs, hb⟩ := List.exists_cons_of_ne_nil (encode_ne_nil (List.cons_ne_nil d t))
      rw [hb]
      exact List.nil_lt_cons b bs
  | cons c s ih =>
    cases t with
    | nil => cases h
    | cons d t =>
      rw [encode_cons, encode_cons]
      rcases List.cons_lt_cons_iff.1 h with hcd | ⟨rfl, hst⟩
      · exact encodeChar_append_lt hcd _ _
      · exact List.append_left_lt (ih hst)

/-- **Texts are ordered as their bytes are.** -/
theorem encode_lt_encode_iff {s t : Text} : encode s < encode t ↔ s < t := by
  refine ⟨fun h => ?_, encode_lt_encode⟩
  by_cases hst : s < t
  · exact hst
  · rcases List.le_iff_lt_or_eq.1 (List.not_lt.1 hst) with hts | rfl
    · exact absurd (encode_lt_encode hts) (List.lt_asymm h)
    · exact absurd h (List.lt_irrefl _)

end Utf8

end HttpServer
