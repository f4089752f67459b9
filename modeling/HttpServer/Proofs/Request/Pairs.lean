import HttpServer.Proofs.Request.Params

/-!
# Decoding into a map that is not empty

The parameters of a request are decoded in two turns, from the query string and from a form, and the
second turn finds the map as the first one left it. Decoding a text takes its tokens one by one, so
that a text that is put together of two is decoded like the one and then the other, and a token that
does not decode leaves the map as the tokens before it made it.

## Main definitions

* `Params.Reads`: tokens that decode, and the pairs they stand for.
* `Params.Fault`: a token that does not decode, and its error.

## Main results

* `Params.decodeInto_append`: two texts with `&` between them.
* `Params.exists_reads`: decoding inserts the pairs before the first token that does not decode.
* `Params.decodeInto_composes`: what decoding into a map gives.
-/

namespace HttpServer

theorem splitOnce?_eq_some {α : Type} [DecidableEq α] {sep : α} {s a b : List α}
    (h : splitOnce? sep s = some (a, b)) : s = a ++ sep :: b ∧ sep ∉ a := by
  induction s generalizing a with
  | nil => cases h
  | cons c s ih =>
    rw [splitOnce?] at h
    split_ifs at h with hc
    · cases h
      exact ⟨by rw [hc, List.nil_append], List.not_mem_nil⟩
    · obtain ⟨⟨a', b'⟩, hs, hab⟩ := Option.map_eq_some_iff.1 h
      cases hab
      obtain ⟨rfl, hnot⟩ := ih hs
      exact ⟨rfl, List.not_mem_cons_of_ne_of_not_mem (Ne.symm hc) hnot⟩

namespace Params

/-- Tokens that decode, and the pairs they stand for. A token without `=` is no pair; in any other
one the key is what stands before the first `=`, without the white space around it. -/
inductive Reads : List Text → List (Text × Text) → Prop
  | nil : Reads [] []
  | skip {token : Text} {tokens : List Text} {pairs : List (Text × Text)} (hskip : '=' ∉ token)
      (hrest : Reads tokens pairs) : Reads (token :: tokens) pairs
  | pair {rawKey rawValue key value : Text} {tokens : List Text} {pairs : List (Text × Text)}
      (hcut : '=' ∉ rawKey) (hkey : Percent.decode rawKey.trim = .ok key)
      (hvalue : Percent.decode rawValue = .ok value) (hrest : Reads tokens pairs) :
      Reads ((rawKey ++ '=' :: rawValue) :: tokens) ((key, value) :: pairs)

/-- A token that does not decode, and the error of its key or else of its value. -/
inductive Fault : Text → Percent.DecodeError → Prop
  | key {rawKey rawValue : Text} {e : Percent.DecodeError} (hcut : '=' ∉ rawKey)
      (hkey : Percent.decode rawKey.trim = .error e) : Fault (rawKey ++ '=' :: rawValue) e
  | value {rawKey rawValue key : Text} {e : Percent.DecodeError} (hcut : '=' ∉ rawKey)
      (hkey : Percent.decode rawKey.trim = .ok key)
      (hvalue : Percent.decode rawValue = .error e) : Fault (rawKey ++ '=' :: rawValue) e

/-! ### Texts that are put together -/

theorem decodePairs_append (p : Params) (pairs more : List (Text × Text)) :
    p.decodePairs (pairs ++ more) =
      match p.decodePairs pairs with
      | (.ok (), q) => q.decodePairs more
      | (.error e, q) => (.error e, q) := by
  induction pairs generalizing p with
  | nil => rfl
  | cons kv pairs ih =>
    obtain ⟨k, v⟩ := kv
    rw [List.cons_append, decodePairs, decodePairs]
    cases Percent.decode k.trim with
    | error e => rfl
    | ok key =>
      cases Percent.decode v with
      | error e => rfl
      | ok value => exact ih (p.insert key value)

/-- **Two texts with `&` between them** are decoded one after the other. -/
theorem decodeInto_append (p : Params) (a b : Text) :
    p.decodeInto (a ++ '&' :: b) =
      match p.decodeInto a with
      | (.ok (), q) => q.decodeInto b
      | (.error e, q) => (.error e, q) := by
  rw [decodeInto, rawPairs_append, decodePairs_append]
  rfl

/-! ### Token by token -/

/-- Decoding inserts the pairs of the tokens before the first that does not decode. -/
theorem exists_reads (tokens : List Text) (p : Params) : ∃ done pairs, Reads done pairs ∧
    ((p.decodePairs (tokens.filterMap (splitOnce? '=')) = (.ok (), p.insertAll pairs) ∧
        tokens = done) ∨
      ∃ token later e,
        p.decodePairs (tokens.filterMap (splitOnce? '=')) = (.error e, p.insertAll pairs) ∧
          tokens = done ++ token :: later ∧ Fault token e) := by
  induction tokens generalizing p with
  | nil => exact ⟨[], [], .nil, .inl ⟨rfl, rfl⟩⟩
  | cons token tokens ih =>
    rw [List.filterMap_cons]
    cases hcut : splitOnce? '=' token with
    | none =>
      have hskip : '=' ∉ token := splitOnce?_eq_none_iff.1 hcut
      obtain ⟨done, pairs, hreads, ⟨hok, rfl⟩ | ⟨t, later, e, herror, rfl, hfault⟩⟩ := ih p
      · exact ⟨_, pairs, .skip hskip hreads, .inl ⟨hok, rfl⟩⟩
      · exact ⟨_, pairs, .skip hskip hreads, .inr ⟨t, later, e, herror, rfl, hfault⟩⟩
    | some kv =>
      obtain ⟨rawKey, rawValue⟩ := kv
      obtain ⟨rfl, hnot⟩ := splitOnce?_eq_some hcut
      dsimp only
      rw [decodePairs]
      cases hkey : Percent.decode (Text.trim rawKey) with
      | error e => exact ⟨[], [], .nil, .inr ⟨_, tokens, e, rfl, rfl, .key hnot hkey⟩⟩
      | ok key =>
        cases hvalue : Percent.decode rawValue with
        | error e => exact ⟨[], [], .nil, .inr ⟨_, tokens, e, rfl, rfl, .value hnot hkey hvalue⟩⟩
        | ok value =>
          obtain ⟨done, pairs, hreads, ⟨hok, rfl⟩ | ⟨t, later, e, herror, rfl, hfault⟩⟩ :=
            ih (p.insert key value)
          · exact ⟨_, _, .pair hnot hkey hvalue hreads, .inl ⟨hok, rfl⟩⟩
          · exact ⟨_, _, .pair hnot hkey hvalue hreads, .inr ⟨t, later, e, herror, rfl, hfault⟩⟩

/-- **Decoding into a map.** Two texts with `&` between them are decoded one after the other, the
second one into what the first one left, unless that failed. Whether decoding fails or not, the
tokens before the first that does not decode are all that changes the map: the old keys keep their
order, the new keys follow in the order in which they appear first, and each key has the value of
its last pair, or else the one it had. -/
theorem decodeInto_composes (p : Params) :
    (∀ a b, p.decodeInto (a ++ '&' :: b) =
      match p.decodeInto a with
      | (.ok (), q) => q.decodeInto b
      | (.error e, q) => (.error e, q)) ∧
    ∀ t, ∃ done pairs, Reads done pairs ∧
      (((p.decodeInto t).1 = .ok () ∧ splitOn '&' t = done) ∨
        ∃ token later e, (p.decodeInto t).1 = .error e ∧
          splitOn '&' t = done ++ token :: later ∧ Fault token e) ∧
      (p.decodeInto t).2.keys =
        p.keys ++ ((pairs.map Prod.fst).filter fun key => key ∉ p.keys).eraseDups ∧
      (p.decodeInto t).2.keys.Nodup ∧
      ∀ key, (p.decodeInto t).2.get? key = (pairs.reverse.lookup key).or (p.get? key) := by
  refine ⟨p.decodeInto_append, fun t => ?_⟩
  obtain ⟨done, pairs, hreads, houtcome⟩ := exists_reads (splitOn '&' t) p
  have hmap : (p.decodeInto t).2 = p.insertAll pairs := by
    rw [decodeInto, rawPairs]
    obtain ⟨hok, -⟩ | ⟨_, _, _, herror, -⟩ := houtcome
    · rw [hok]
    · rw [herror]
  refine ⟨done, pairs, hreads, ?_, hmap ▸ keys_insertAll p pairs, (p.decodeInto t).2.nodup,
    fun key => hmap ▸ get?_insertAll p pairs key⟩
  obtain ⟨hok, hdone⟩ | ⟨token, later, e, herror, hcut, hfault⟩ := houtcome
  · exact .inl ⟨congrArg Prod.fst hok, hdone⟩
  · exact .inr ⟨token, later, e, congrArg Prod.fst herror, hcut, hfault⟩

end Params

end HttpServer
