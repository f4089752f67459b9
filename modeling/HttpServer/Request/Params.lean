import HttpServer.Text.Blank
import HttpServer.Text.Split
import HttpServer.Uri.Percent

/-!
# Request parameters

The parameters of a request are an ordered map: each key stands where it appeared first and has
the value it was given last. They are decoded from `k1=v1&k2=v2`, in which a token without `=` is
skipped and a key is trimmed before it is decoded. Decoding stops at the first malformed escape,
and the pairs before it stay.

## Main statements

* `Params.keys_insert`: inserting a new key appends it, inserting an old one keeps the order.
* `Params.get?_insert_self`, `Params.get?_insert_of_ne`: what an insertion changes.
-/

namespace HttpServer

namespace Params

/-- Gives `key` its value in place if it occurs, and at the end otherwise. -/
def put (key value : Text) : List (Text × Text) → List (Text × Text)
  | [] => [(key, value)]
  | (k, v) :: entries =>
    if k = key then (key, value) :: entries else (k, v) :: put key value entries

theorem map_fst_put (key value : Text) (entries : List (Text × Text)) :
    (put key value entries).map Prod.fst =
      if key ∈ entries.map Prod.fst then entries.map Prod.fst
      else entries.map Prod.fst ++ [key] := by
  induction entries with
  | nil => simp [put]
  | cons entry entries ih =>
    obtain ⟨k, v⟩ := entry
    by_cases h : k = key
    · simp [put, h]
    · by_cases hk : key ∈ entries.map Prod.fst
      · simp [put, h, ih, hk, Ne.symm h]
      · simp [put, h, ih, hk, Ne.symm h]

end Params

/-- An ordered map from keys to values, in the order in which the keys appeared. -/
structure Params where
  /-- The entries in order. -/
  entries : List (Text × Text)
  /-- Each key occurs once. -/
  nodup : (entries.map Prod.fst).Nodup

namespace Params

@[ext] theorem ext {p q : Params} (h : p.entries = q.entries) : p = q := by
  cases p
  cases q
  congr

/-- No parameters. -/
def empty : Params := ⟨[], by simp⟩

instance : Inhabited Params := ⟨empty⟩

/-- The keys in order of first appearance. -/
def keys (p : Params) : List Text := p.entries.map Prod.fst

/-- Gives `key` its value; a new key comes last, an old one keeps its place. -/
def insert (p : Params) (key value : Text) : Params where
  entries := put key value p.entries
  nodup := by
    rw [map_fst_put]
    split
    · exact p.nodup
    · rename_i h
      have hp := p.nodup
      rw [List.nodup_append]
      refine ⟨hp, by simp, ?_⟩
      intro a ha b hb hab
      simp only [List.mem_singleton] at hb
      exact h (hb ▸ hab ▸ ha)

/-- The value of a key. -/
def get? (p : Params) (key : Text) : Option Text :=
  p.entries.lookup key

/-- The map that results from inserting pairs in turn. -/
def ofList (pairs : List (Text × Text)) : Params :=
  pairs.foldl (fun p kv => p.insert kv.1 kv.2) empty

theorem keys_insert (p : Params) (key value : Text) :
    (p.insert key value).keys = if key ∈ p.keys then p.keys else p.keys ++ [key] :=
  map_fst_put key value p.entries

theorem get?_insert_self (p : Params) (key value : Text) :
    (p.insert key value).get? key = some value := by
  show (put key value p.entries).lookup key = some value
  induction p.entries with
  | nil => simp [put]
  | cons entry entries ih =>
    obtain ⟨k, v⟩ := entry
    by_cases h : k = key
    · simp [put, h]
    · simpa [put, h, List.lookup_cons, beq_false_of_ne (Ne.symm h)] using ih

theorem get?_insert_of_ne (p : Params) {key other : Text} (value : Text) (h : other ≠ key) :
    (p.insert key value).get? other = p.get? other := by
  show (put key value p.entries).lookup other = p.entries.lookup other
  induction p.entries with
  | nil => simp [put, List.lookup_cons, beq_false_of_ne h]
  | cons entry entries ih =>
    obtain ⟨k, v⟩ := entry
    by_cases hk : k = key
    · simp [put, hk, List.lookup_cons, beq_false_of_ne h]
    · by_cases ho : other = k
      · simp [put, hk, ho]
      · simp [put, hk, List.lookup_cons, beq_false_of_ne ho, ih]

/-- Decodes pairs of raw keys and values into the map in turn, as far as they decode. The error,
if there is one, is that of the first pair that does not, its key before its value. -/
def decodePairs (p : Params) : List (Text × Text) → Except Percent.DecodeError Unit × Params
  | [] => (.ok (), p)
  | (key, value) :: pairs =>
    match Percent.decode key.trim with
    | .error e => (.error e, p)
    | .ok k =>
      match Percent.decode value with
      | .error e => (.error e, p)
      | .ok v => decodePairs (p.insert k v) pairs

/-- The raw pairs of `k1=v1&k2=v2`: the tokens between `&`, each cut at its first `=`. A token
without one is no pair. -/
def rawPairs (t : Text) : List (Text × Text) :=
  (splitOn '&' t).filterMap (splitOnce? '=')

/-- Decodes `k1=v1&k2=v2` into the map. -/
def decodeInto (p : Params) (t : Text) : Except Percent.DecodeError Unit × Params :=
  p.decodePairs (rawPairs t)

end Params

end HttpServer
