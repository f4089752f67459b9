import HttpServer.Proofs.Request.Params
import HttpServer.Proofs.Text.Split
import HttpServer.Proofs.Text.Words

/-!
# The order in which a request is decoded

Everything percent-encoded in a request is decoded in one order: the pairs of the query string,
each with its trimmed key before its value, then the path, then the pairs of a form. The first text
that does not decode is the error of the request. If all of them decode, each one stands for its own
text, and the pairs are inserted in turn.

## Main definitions

* `Percent.error?`, `Percent.decoded`: what a text comes to.
* `Params.pairTexts`, `Params.decodedPairs`: the texts of raw pairs, and what they stand for.
* `Target.rawPath`, `Target.rawQuery`, `Target.texts`: what is decoded of a target.

## Main results

* `Params.decodePairs_of_error`, `Params.decodePairs_of_decodes`: decoding pairs.
* `Head.parseLine_eq`: first lines.
* `Head.withForm_eq`: forms.
-/

namespace HttpServer

namespace Percent

/-- What is wrong with an encoded text, if anything is. -/
def error? (t : Text) : Option DecodeError :=
  match decode t with
  | .ok _ => none
  | .error e => some e

/-- The text that an encoded text stands for, if nothing is wrong with it. -/
def decoded (t : Text) : Text :=
  (decode t).toOption.getD []

theorem decode_of_error {t : Text} {e : DecodeError} (h : error? t = some e) :
    decode t = .error e := by
  rw [error?] at h
  split at h
  · cases h
  · rename_i hd
    rw [hd, Option.some.inj h]

theorem decode_of_error_eq_none {t : Text} (h : error? t = none) : decode t = .ok (decoded t) := by
  rw [error?] at h
  split at h
  · rename_i hd
    rw [decoded, hd]
    rfl
  · cases h

end Percent

open Percent (error? decoded)

namespace Params

/-- The texts of raw pairs in the order in which they are decoded. -/
def pairTexts (pairs : List (Text × Text)) : List Text :=
  pairs.flatMap fun kv => [kv.1.trim, kv.2]

/-- What raw pairs stand for. -/
def decodedPairs (pairs : List (Text × Text)) : List (Text × Text) :=
  pairs.map fun kv => (decoded kv.1.trim, decoded kv.2)

theorem findSome?_pairTexts_cons (k v : Text) (pairs : List (Text × Text)) :
    (pairTexts ((k, v) :: pairs)).findSome? error? =
      ((error? k.trim).or (error? v)).or ((pairTexts pairs).findSome? error?) := by
  show (k.trim :: v :: pairTexts pairs).findSome? error? = _
  rw [List.findSome?_cons, List.findSome?_cons]
  cases error? k.trim <;> cases error? v <;> rfl

/-- Decoding pairs stops at the first text that does not decode. -/
theorem decodePairs_of_error {pairs : List (Text × Text)} {e : Percent.DecodeError}
    (h : (pairTexts pairs).findSome? error? = some e) (p : Params) :
    ∃ q, p.decodePairs pairs = (.error e, q) := by
  induction pairs generalizing p with
  | nil => cases h
  | cons kv pairs ih =>
    obtain ⟨k, v⟩ := kv
    rw [findSome?_pairTexts_cons] at h
    rw [decodePairs]
    cases hk : error? k.trim with
    | some ek =>
      rw [hk] at h
      obtain rfl : ek = e := Option.some.inj h
      exact ⟨p, by rw [Percent.decode_of_error hk]⟩
    | none =>
      rw [Percent.decode_of_error_eq_none hk]
      cases hv : error? v with
      | some ev =>
        rw [hk, hv] at h
        obtain rfl : ev = e := Option.some.inj h
        exact ⟨p, by rw [Percent.decode_of_error hv]⟩
      | none =>
        rw [hk, hv] at h
        rw [Percent.decode_of_error_eq_none hv]
        exact ih h _

/-- Pairs of texts that all decode are inserted in turn. -/
theorem decodePairs_of_decodes {pairs : List (Text × Text)}
    (h : (pairTexts pairs).findSome? error? = none) (p : Params) :
    p.decodePairs pairs = (.ok (), p.insertAll (decodedPairs pairs)) := by
  induction pairs generalizing p with
  | nil => rfl
  | cons kv pairs ih =>
    obtain ⟨k, v⟩ := kv
    rw [findSome?_pairTexts_cons, Option.or_eq_none_iff, Option.or_eq_none_iff] at h
    obtain ⟨⟨hk, hv⟩, hpairs⟩ := h
    rw [decodePairs, Percent.decode_of_error_eq_none hk, Percent.decode_of_error_eq_none hv]
    exact ih hpairs _

end Params

/-! ### Targets -/

namespace Target

/-- What stands before the first question mark of a target. -/
def rawPath (raw : Text) : Text :=
  before '?' raw

/-- The raw pairs of what stands behind it. -/
def rawQuery (raw : Text) : List (Text × Text) :=
  match splitOnce? '?' raw with
  | none => []
  | some (_, query) => Params.rawPairs query

/-- The texts of a target in the order in which they are decoded. -/
def texts (raw : Text) : List Text :=
  Params.pairTexts (rawQuery raw) ++ [rawPath raw]

/-- The query string is decoded first, if there is one, and then the path. -/
theorem decode_eq (raw : Text) (p : Params) : decode raw p =
    match p.decodePairs (rawQuery raw) with
    | (.error e, q) => (.error e, q)
    | (.ok (), q) => (Percent.decode (rawPath raw), q) := by
  by_cases h : '?' ∈ raw
  · obtain ⟨path, query, rfl, hpath⟩ := List.eq_append_cons_of_mem h
    rw [decode, rawQuery, rawPath, splitOnce?_append hpath, before_append hpath]
    rfl
  · have hbefore : before '?' raw = raw :=
      List.takeWhile_eq_self_iff.2 fun c hc => decide_eq_true fun hq => h (hq ▸ hc)
    rw [decode, rawQuery, rawPath, splitOnce?_eq_none_iff.2 h, hbefore]
    rfl

theorem decode_of_error {raw : Text} {e : Percent.DecodeError}
    (h : (texts raw).findSome? error? = some e) (p : Params) :
    ∃ q, decode raw p = (.error e, q) := by
  rw [texts, List.findSome?_append] at h
  rw [decode_eq]
  cases hq : (Params.pairTexts (rawQuery raw)).findSome? error? with
  | some eq =>
    rw [hq] at h
    obtain rfl : eq = e := Option.some.inj h
    obtain ⟨q, hpairs⟩ := Params.decodePairs_of_error hq p
    exact ⟨q, by rw [hpairs]⟩
  | none =>
    rw [hq, Option.none_or, List.findSome?_singleton] at h
    rw [Params.decodePairs_of_decodes hq]
    exact ⟨_, by rw [Percent.decode_of_error h]⟩

theorem decode_of_decodes {raw : Text} (h : (texts raw).findSome? error? = none) (p : Params) :
    decode raw p =
      (.ok (decoded (rawPath raw)), p.insertAll (Params.decodedPairs (rawQuery raw))) := by
  rw [texts, List.findSome?_append, Option.or_eq_none_iff, List.findSome?_singleton] at h
  rw [decode_eq, Params.decodePairs_of_decodes h.1, Percent.decode_of_error_eq_none h.2]

end Target

/-! ### First lines and forms -/

namespace Head

/-- A first line is judged by its first two words, and then by what is decoded of the second. -/
theorem parseLine_eq (line : Text) : parseLine line =
    match line.words with
    | [] => .error .missingMethod
    | [_] => .error .missingTarget
    | method :: target :: _ =>
      match (Target.texts target).findSome? error? with
      | some e => .error (.decode e)
      | none => .ok (.ofToken method, decoded (Target.rawPath target),
          .ofList (Params.decodedPairs (Target.rawQuery target))) := by
  rw [parseLine, RequestLine.split_eq]
  match line.words with
  | [] => rfl
  | [_] => rfl
  | method :: target :: _ =>
    simp only
    cases h : (Target.texts target).findSome? error? with
    | some e =>
      obtain ⟨q, hq⟩ := Target.decode_of_error h Params.empty
      rw [hq]
    | none =>
      rw [Target.decode_of_decodes h]
      rfl

/-- The raw pairs of a form. -/
def rawForm (body : Bytes) : List (Text × Text) :=
  Params.rawPairs (Utf8.decodeLossy body).trim

/-- A form is judged by what is decoded of it. -/
theorem withForm_eq (h : Head) (body : Bytes) : h.withForm body =
    match (Params.pairTexts (rawForm body)).findSome? error? with
    | some e => .error (.decode e)
    | none => .ok ⟨h.method, h.path, h.params.insertAll (Params.decodedPairs (rawForm body)),
        h.fields, body⟩ := by
  have hinto : h.params.decodeInto (Utf8.decodeLossy body).trim =
      h.params.decodePairs (rawForm body) := rfl
  rw [withForm, hinto]
  cases hf : (Params.pairTexts (rawForm body)).findSome? error? with
  | some e =>
    obtain ⟨q, hq⟩ := Params.decodePairs_of_error hf h.params
    rw [hq]
  | none => rw [Params.decodePairs_of_decodes hf]

end Head

end HttpServer
