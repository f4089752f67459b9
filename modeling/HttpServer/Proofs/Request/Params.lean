import HttpServer.Proofs.Text.Split
import HttpServer.Proofs.Uri.Percent
import HttpServer.Request.Fields
import HttpServer.Request.Params
import Mathlib.Data.List.Induction

/-!
# Parameters and fields that were inserted in turn

A map into which pairs have been inserted one after another holds for each key the value of its last
pair; the parameters of a request also keep their keys in the order of first appearance. Pairs that
were written as a query string are inserted as they were.

## Main definitions

* `Params.insertAll`: the pairs inserted in turn.
* `Params.queryText`: pairs as a query string.

## Main results

* `Params.keys_insertAll`, `Params.get?_insertAll`, `Fields.get?_ofList`: what the maps hold.
* `Fields.eq_of_get?_eq`, `Fields.insert_comm`: the order of fields with different names.
* `Params.decodeInto_queryText`: a query string is read back.
-/

namespace HttpServer

/-- What a map holds after insertions follows from what it holds after one. -/
theorem get?_foldl_insert {M : Type} (insert : M → Text → Text → M) (get? : M → Text → Option Text)
    (hself : ∀ m k v, get? (insert m k v) k = some v)
    (hne : ∀ m k v k', k' ≠ k → get? (insert m k v) k' = get? m k') (m : M)
    (pairs : List (Text × Text)) (key : Text) :
    get? (pairs.foldl (fun m kv => insert m kv.1 kv.2) m) key =
      (pairs.reverse.lookup key).or (get? m key) := by
  induction pairs generalizing m with
  | nil => rfl
  | cons kv pairs ih =>
    obtain ⟨k, v⟩ := kv
    rw [List.foldl_cons, ih, List.reverse_cons, List.lookup_append]
    by_cases h : key = k
    · rw [h, hself, List.lookup_cons_self, Option.or_assoc, Option.some_or]
    · rw [hne _ _ _ _ h, List.lookup_cons, beq_false_of_ne h, Option.or_assoc]
      rfl

namespace Fields

/-- Each name has the value of its last field. -/
theorem get?_ofList (fields : List (Text × Text)) (name : Text) :
    (ofList fields).get? name = fields.reverse.lookup name := by
  have h := get?_foldl_insert insert get? (fun f n v => f.get?_insert_self n v)
    (fun f n v n' hn => f.get?_insert_of_ne v hn) empty fields name
  rw [ofList, h]
  exact Option.or_none

theorem lookup_eq_none_of_lt {name : Text} {entries : List (Text × Text)}
    (h : ∀ n ∈ entries.map Prod.fst, name < n) : entries.lookup name = none := by
  rw [List.lookup_eq_none_iff]
  intro f hf
  exact bne_iff_ne.2 fun heq => List.lt_irrefl _ (heq ▸ h f.1 (List.mem_map_of_mem hf))

/-- Entries in the order of their names are told by what is found among them. -/
theorem eq_of_lookup_eq {es es' : List (Text × Text)}
    (hes : (es.map Prod.fst).Pairwise (· < ·)) (hes' : (es'.map Prod.fst).Pairwise (· < ·))
    (h : ∀ name, es.lookup name = es'.lookup name) : es = es' := by
  induction es generalizing es' with
  | nil =>
    cases es' with
    | nil => rfl
    | cons f es' => cases (h f.1).trans List.lookup_cons_self
  | cons f es ih =>
    obtain ⟨n, v⟩ := f
    cases es' with
    | nil => cases (h n).symm.trans List.lookup_cons_self
    | cons f' es' =>
      obtain ⟨n', v'⟩ := f'
      obtain ⟨hn, hsorted⟩ := List.pairwise_cons.1 hes
      obtain ⟨hn', hsorted'⟩ := List.pairwise_cons.1 hes'
      -- The smaller one of two different first names would be found in one of the lists only.
      have hlt : ¬n < n' := by
        intro hlt
        have hnone : List.lookup n ((n', v') :: es') = none := lookup_eq_none_of_lt
          (List.forall_mem_cons.2 ⟨hlt, fun m hm => List.lt_trans hlt (hn' m hm)⟩)
        rw [← h n, List.lookup_cons_self] at hnone
        cases hnone
      have hgt : ¬n' < n := by
        intro hgt
        have hnone : List.lookup n' ((n, v) :: es) = none := lookup_eq_none_of_lt
          (List.forall_mem_cons.2 ⟨hgt, fun m hm => List.lt_trans hgt (hn m hm)⟩)
        rw [h n', List.lookup_cons_self] at hnone
        cases hnone
      obtain rfl : n = n' := eq_of_not_lt hlt hgt
      have hv := h n
      rw [List.lookup_cons_self, List.lookup_cons_self] at hv
      obtain rfl : v = v' := Option.some.inj hv
      refine congrArg _ (ih hsorted hsorted' fun m => ?_)
      by_cases hm : m = n
      · rw [hm, lookup_eq_none_of_lt hn, lookup_eq_none_of_lt hn']
      · have hrest := h m
        simpa [List.lookup_cons, beq_false_of_ne hm] using hrest

/-- A header is told by the values of its names. -/
theorem eq_of_get?_eq {f g : Fields} (h : ∀ name, f.get? name = g.get? name) : f = g :=
  ext (eq_of_lookup_eq f.sorted g.sorted h)

/-- Fields with different names can be inserted in any order. -/
theorem insert_comm (f : Fields) {n m : Text} (h : n ≠ m) (v w : Text) :
    (f.insert n v).insert m w = (f.insert m w).insert n v := by
  refine eq_of_get?_eq fun name => ?_
  by_cases hn : name = n
  · rw [hn, get?_insert_of_ne _ _ h, get?_insert_self, get?_insert_self]
  · by_cases hm : name = m
    · rw [hm, get?_insert_self, get?_insert_of_ne _ _ h.symm, get?_insert_self]
    · rw [get?_insert_of_ne _ _ hm, get?_insert_of_ne _ _ hn, get?_insert_of_ne _ _ hn,
        get?_insert_of_ne _ _ hm]

end Fields

namespace Params

/-- The map with pairs inserted in turn. -/
def insertAll (p : Params) (pairs : List (Text × Text)) : Params :=
  pairs.foldl (fun p kv => p.insert kv.1 kv.2) p

@[simp] theorem insertAll_nil (p : Params) : p.insertAll [] = p := rfl

@[simp] theorem insertAll_cons (p : Params) (k v : Text) (pairs : List (Text × Text)) :
    p.insertAll ((k, v) :: pairs) = (p.insert k v).insertAll pairs := rfl

theorem insertAll_append (p : Params) (a b : List (Text × Text)) :
    p.insertAll (a ++ b) = (p.insertAll a).insertAll b :=
  List.foldl_append

/-- Each key has the value of its last pair, or else the one it had. -/
theorem get?_insertAll (p : Params) (pairs : List (Text × Text)) (key : Text) :
    (p.insertAll pairs).get? key = (pairs.reverse.lookup key).or (p.get? key) :=
  get?_foldl_insert insert get? (fun p k v => p.get?_insert_self k v)
    (fun p _ v _ hk => p.get?_insert_of_ne v hk) p pairs key

/-- The old keys stay in their order, and each new one stands behind them where it appears
first. -/
theorem keys_insertAll (p : Params) (pairs : List (Text × Text)) :
    (p.insertAll pairs).keys =
      p.keys ++ ((pairs.map Prod.fst).filter fun key => key ∉ p.keys).eraseDups := by
  induction pairs using List.reverseRecOn with
  | nil => exact (List.append_nil _).symm
  | append_singleton pairs kv ih =>
    obtain ⟨k, v⟩ := kv
    rw [insertAll_append, insertAll_cons, insertAll_nil, keys_insert, ih, List.map_append,
      List.filter_append, List.eraseDups_append]
    by_cases hold : k ∈ p.keys
    · simp [hold]
    · by_cases hk : k ∈ pairs.map Prod.fst
      · have hmem : k ∈ (pairs.map Prod.fst).filter fun key => key ∉ p.keys :=
          List.mem_filter.2 ⟨hk, decide_eq_true hold⟩
        rw [if_pos (List.mem_append_right _ (List.mem_eraseDups.2 hmem))]
        simp [hold, List.cons_removeAll, hk]
      · simp [hold, List.cons_removeAll, hk, List.eraseDups_cons]

theorem keys_insertAll_empty (pairs : List (Text × Text)) :
    (empty.insertAll pairs).keys = (pairs.map Prod.fst).eraseDups := by
  have hall : ((pairs.map Prod.fst).filter fun key => key ∉ empty.keys) = pairs.map Prod.fst :=
    List.filter_eq_self.2 fun key _ => decide_eq_true (List.not_mem_nil : key ∉ empty.keys)
  rw [keys_insertAll, hall]
  exact List.nil_append _

/-! ### Query strings -/

/-- The pairs of two query strings that are put together. -/
theorem rawPairs_append (s t : Text) : rawPairs (s ++ '&' :: t) = rawPairs s ++ rawPairs t := by
  rw [rawPairs, splitOn_append, List.filterMap_append]
  rfl

/-- A key and its value as they stand in a query string. -/
def pairText (kv : Text × Text) : Text :=
  Percent.encode kv.1 ++ '=' :: Percent.encode kv.2

/-- Pairs as a query string. -/
def queryText (pairs : List (Text × Text)) : Text :=
  Text.join ['&'] (pairs.map pairText)

theorem notMem_encode {c : Char} (hc : Percent.isEncoded c = false) (t : Text) :
    c ∉ Percent.encode t := fun h =>
  Percent.ne_of_isEncoded (Percent.isEncoded_of_mem_encode h) hc rfl

theorem notMem_pairText {c : Char} (hc : Percent.isEncoded c = false) (hne : c ≠ '=')
    (kv : Text × Text) : c ∉ pairText kv := by
  intro h
  rcases List.mem_append.1 h with h | h
  · exact notMem_encode hc kv.1 h
  · rcases List.mem_cons.1 h with h | h
    · exact hne h
    · exact notMem_encode hc kv.2 h

theorem rawPairs_queryText (pairs : List (Text × Text)) :
    rawPairs (queryText pairs) =
      pairs.map fun kv => (Percent.encode kv.1, Percent.encode kv.2) := by
  have hcut : ∀ kv : Text × Text, splitOnce? '=' (pairText kv) =
      some (Percent.encode kv.1, Percent.encode kv.2) := fun kv =>
    splitOnce?_append (notMem_encode rfl kv.1) _
  cases pairs with
  | nil => rfl
  | cons kv pairs =>
    have hamp : ∀ t ∈ (kv :: pairs).map pairText, '&' ∉ t := by
      intro t ht
      obtain ⟨kv', -, rfl⟩ := List.mem_map.1 ht
      exact notMem_pairText rfl (by decide) kv'
    rw [rawPairs, queryText, splitOn_join (by simp) hamp, List.filterMap_map]
    have hfun : splitOnce? '=' ∘ pairText =
        some ∘ fun kv => (Percent.encode kv.1, Percent.encode kv.2) := funext hcut
    rw [hfun, List.filterMap_eq_map]

theorem solid_encode (t : Text) : Text.Solid (Percent.encode t) := fun _ hc =>
  Percent.isBlank_eq_false_of_isEncoded (Percent.isEncoded_of_mem_encode hc)

/-- The characters of a query string. -/
theorem mem_queryText {c : Char} {pairs : List (Text × Text)} (h : c ∈ queryText pairs) :
    Percent.isEncoded c = true ∨ c = '=' ∨ c = '&' := by
  rcases mem_of_mem_join h with h | ⟨t, ht, h⟩
  · exact .inr (.inr h)
  · obtain ⟨kv, -, rfl⟩ := List.mem_map.1 ht
    rcases List.mem_append.1 h with h | h
    · exact .inl (Percent.isEncoded_of_mem_encode h)
    · rcases List.mem_cons.1 h with h | h
      · exact .inr (.inl h)
      · exact .inl (Percent.isEncoded_of_mem_encode h)

theorem solid_queryText (pairs : List (Text × Text)) : Text.Solid (queryText pairs) := by
  intro c hc
  rcases mem_queryText hc with h | rfl | rfl
  · exact Percent.isBlank_eq_false_of_isEncoded h
  · decide
  · decide

/-- Encoded pairs are decoded in turn. -/
theorem decodePairs_map_encode (p : Params) (pairs : List (Text × Text)) :
    p.decodePairs (pairs.map fun kv => (Percent.encode kv.1, Percent.encode kv.2)) =
      (.ok (), p.insertAll pairs) := by
  induction pairs generalizing p with
  | nil => rfl
  | cons kv pairs ih =>
    obtain ⟨k, v⟩ := kv
    rw [List.map_cons, decodePairs]
    simp only [Text.trim_of_solid (solid_encode k), Percent.decode_encode]
    exact ih (p.insert k v)

/-- **A query string is read back** into the map in the order of its pairs. -/
theorem decodeInto_queryText (p : Params) (pairs : List (Text × Text)) :
    p.decodeInto (queryText pairs) = (.ok (), p.insertAll pairs) := by
  rw [decodeInto, rawPairs_queryText, decodePairs_map_encode]

end Params

end HttpServer
