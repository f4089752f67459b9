import HttpServer.Text.Blank
import HttpServer.Text.Split
import HttpServer.Text.Utf8

/-!
# Header fields

The header of a request is a finite map from names to values. It is kept as a list in the order of
its names, so that two headers with the same fields are equal, whatever the order in which the
fields arrived. Texts are compared character by character, which is also the order of their UTF-8
bytes.

Within a request the names are in lower case and are looked up without regard to case
(`HttpServer.Request.header?`); the map itself compares names as they are.

## Main statements

* `Fields.get?_insert_self`, `Fields.get?_insert_of_ne`: what an insertion changes.
-/

namespace HttpServer

namespace Fields

/-- Gives `name` its value in a list that is in order of names. -/
def put (name value : Text) : List (Text × Text) → List (Text × Text)
  | [] => [(name, value)]
  | (n, v) :: entries =>
    if name < n then (name, value) :: (n, v) :: entries
    else if n < name then (n, v) :: put name value entries
    else (name, value) :: entries

theorem mem_map_fst_put {name value other : Text} {entries : List (Text × Text)}
    (h : other ∈ (put name value entries).map Prod.fst) :
    other = name ∨ other ∈ entries.map Prod.fst := by
  induction entries with
  | nil => simpa [put] using h
  | cons entry entries ih =>
    obtain ⟨n, v⟩ := entry
    rw [put] at h
    split at h
    · simpa using h
    · split at h
      · rcases List.mem_cons.1 h with h | h
        · exact .inr (by simp [h])
        · exact (ih h).imp_right (List.mem_cons_of_mem _)
      · rcases List.mem_cons.1 h with h | h
        · exact .inl h
        · exact .inr (List.mem_cons_of_mem _ h)

theorem eq_of_not_lt {s t : Text} (h : ¬s < t) (h' : ¬t < s) : s = t :=
  List.le_antisymm (List.not_lt.1 h') (List.not_lt.1 h)

theorem pairwise_put (name value : Text) {entries : List (Text × Text)}
    (h : (entries.map Prod.fst).Pairwise (· < ·)) :
    ((put name value entries).map Prod.fst).Pairwise (· < ·) := by
  induction entries with
  | nil => simp [put]
  | cons entry entries ih =>
    obtain ⟨n, v⟩ := entry
    obtain ⟨hn, hs⟩ := List.pairwise_cons.1 h
    rw [put]
    split
    · rename_i hlt
      refine List.pairwise_cons.2 ⟨fun m hm => ?_, h⟩
      rcases List.mem_cons.1 hm with rfl | hm
      · exact hlt
      · exact List.lt_trans hlt (hn m hm)
    · split
      · rename_i hlt
        refine List.pairwise_cons.2 ⟨fun m hm => ?_, ih hs⟩
        rcases mem_map_fst_put hm with rfl | hm
        · exact hlt
        · exact hn m hm
      · rename_i h1 h2
        rw [eq_of_not_lt h1 h2]
        exact h

end Fields

/-- A finite map from header names to values. -/
structure Fields where
  /-- The fields in the order of their names. -/
  entries : List (Text × Text)
  /-- The names ascend strictly. -/
  sorted : (entries.map Prod.fst).Pairwise (· < ·)

namespace Fields

@[ext] theorem ext {f g : Fields} (h : f.entries = g.entries) : f = g := by
  cases f
  cases g
  congr

/-- No fields. -/
def empty : Fields := ⟨[], by simp⟩

instance : Inhabited Fields := ⟨empty⟩

/-- Gives `name` its value, in place of the one it had. -/
def insert (f : Fields) (name value : Text) : Fields :=
  ⟨put name value f.entries, pairwise_put name value f.sorted⟩

/-- The value of exactly this name. -/
def get? (f : Fields) (name : Text) : Option Text :=
  f.entries.lookup name

/-- The map that results from inserting fields in turn. -/
def ofList (fields : List (Text × Text)) : Fields :=
  fields.foldl (fun f nv => f.insert nv.1 nv.2) empty

theorem lookup_put_self (name value : Text) (entries : List (Text × Text)) :
    (put name value entries).lookup name = some value := by
  induction entries with
  | nil => simp [put]
  | cons entry entries ih =>
    obtain ⟨n, v⟩ := entry
    rw [put]
    split
    · simp
    · split
      · rename_i h1 h2
        have hne : (name == n) = false := beq_false_of_ne fun h => h1 (h ▸ h2)
        simp [List.lookup_cons, hne, ih]
      · simp

theorem lookup_put_of_ne {name other : Text} (value : Text) (h : other ≠ name)
    (entries : List (Text × Text)) :
    (put name value entries).lookup other = entries.lookup other := by
  induction entries with
  | nil => simp [put, List.lookup_cons, beq_false_of_ne h]
  | cons entry entries ih =>
    obtain ⟨n, v⟩ := entry
    rw [put]
    split
    · simp [List.lookup_cons, beq_false_of_ne h]
    · split
      · by_cases ho : other = n
        · simp [ho]
        · simp [List.lookup_cons, beq_false_of_ne ho, ih]
      · rename_i h1 h2
        rw [← eq_of_not_lt h1 h2]
        simp [List.lookup_cons, beq_false_of_ne h]

theorem get?_insert_self (f : Fields) (name value : Text) :
    (f.insert name value).get? name = some value :=
  lookup_put_self name value f.entries

theorem get?_insert_of_ne (f : Fields) {name other : Text} (value : Text) (h : other ≠ name) :
    (f.insert name value).get? other = f.get? other :=
  lookup_put_of_ne value h f.entries

end Fields

end HttpServer
