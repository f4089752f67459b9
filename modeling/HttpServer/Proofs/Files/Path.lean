import HttpServer.Files.Path
import HttpServer.Proofs.Text.Split
import HttpServer.Proofs.Text.Utf8

/-!
# Paths below a directory

Joining a relative path to a directory puts its names behind those of the directory, whether or not
that ends in a slash. The names of a path that is written as text are the parts of the text between
its slashes.

## Main definitions

* `Path.withSlash`: a directory with its final slash.

## Main results

* `Path.names_encode`: the names of a text.
* `Path.exists_names_join`: the names of a path below a directory.
* `Path.join_join`: a name below a path below a directory.
-/

namespace HttpServer

namespace Path

theorem slash_notMem_encodeChar {c : Char} (h : c ≠ '/') : slash ∉ Utf8.encodeChar c := by
  intro hm
  have hmem : slash ∈ Utf8.encode [c] := by simpa using hm
  have hc := (Utf8.mem_encode_iff_of_ascii (c := '/') (by decide)).1 hmem
  exact h (List.mem_singleton.1 hc).symm

/-- The names of a text stand between its slashes. -/
theorem names_encode (t : Text) : names (Utf8.encode t) = (splitOn '/' t).map Utf8.encode := by
  induction t with
  | nil => rfl
  | cons c t ih =>
    rw [names] at ih
    rw [names, Utf8.encode_cons]
    by_cases hc : c = '/'
    · have hslash : Utf8.encodeChar c = [slash] := by rw [hc]; rfl
      rw [hslash, splitOn, if_pos hc, List.singleton_append, splitOn, if_pos rfl, ih]
      rfl
    · obtain ⟨p, parts, hp⟩ := List.exists_cons_of_ne_nil (splitOn_ne_nil '/' t)
      rw [hp, List.map_cons] at ih
      rw [splitOn_append_of_notMem (slash_notMem_encodeChar hc) ih, splitOn, if_neg hc, hp]
      simp

/-- A text that does not start with a slash is no absolute path. -/
theorem isAbsolute_encode {t : Text} (h : t.head? ≠ some '/') :
    isAbsolute (Utf8.encode t) = false := by
  cases t with
  | nil => rfl
  | cons c t =>
    have hc : c ≠ '/' := fun hc => h (by rw [hc, List.head?_cons])
    obtain ⟨b, s, hb⟩ := List.exists_cons_of_ne_nil (Utf8.encodeChar_ne_nil c)
    have hne : b ≠ slash := by
      rintro rfl
      exact slash_notMem_encodeChar hc (hb ▸ List.mem_cons_self)
    rw [isAbsolute, Utf8.encode_cons, hb, List.cons_append, List.head?_cons]
    exact beq_false_of_ne fun h => hne (Option.some.inj h)

/-! ### Joining -/

/-- A directory with a slash at its end. -/
def withSlash (dir : Bytes) : Bytes :=
  if dir.getLast? = some slash then dir else dir ++ [slash]

variable {root rel name : Bytes}

theorem withSlash_of_getLast? (h : root.getLast? = some slash) : withSlash root = root :=
  if_pos h

theorem getLast?_withSlash (root : Bytes) : (withSlash root).getLast? = some slash := by
  rw [withSlash]
  split
  · assumption
  · exact List.getLast?_concat

theorem withSlash_ne_nil (root : Bytes) : withSlash root ≠ [] := by
  intro h
  have hlast := getLast?_withSlash root
  rw [h] at hlast
  cases hlast

theorem head?_withSlash (hne : root ≠ []) : (withSlash root).head? = root.head? := by
  obtain ⟨b, r, rfl⟩ := List.exists_cons_of_ne_nil hne
  rw [withSlash]
  split <;> rfl

/-- A relative path comes behind the slash of the directory. -/
theorem join_eq (hne : root ≠ []) (h : isAbsolute rel = false) :
    join root rel = withSlash root ++ rel := by
  rw [join, if_neg (by simp [h]), withSlash]
  by_cases hroot : root.getLast? = some slash
  · rw [if_pos (by simp [hroot]), if_pos hroot]
  · rw [if_neg (by simp [hne, hroot]), if_neg hroot, List.append_assoc, List.singleton_append]

/-- The names of a path below a directory follow the names of the directory, except for the empty
one behind a final slash. -/
theorem exists_names_join (hne : root ≠ []) :
    ∃ lead, (names root = lead ∨ names root = lead ++ [[]]) ∧
      ∀ rel, isAbsolute rel = false → names (join root rel) = lead ++ names rel := by
  by_cases hroot : root.getLast? = some slash
  · obtain ⟨r, rfl⟩ := List.getLast?_eq_some_iff.1 hroot
    refine ⟨names r, .inr (splitOn_append r []), fun rel h => ?_⟩
    rw [join_eq hne h, withSlash_of_getLast? hroot, List.append_assoc]
    exact splitOn_append r rel
  · refine ⟨names root, .inl rfl, fun rel h => ?_⟩
    rw [join_eq hne h, withSlash, if_neg hroot, List.append_assoc]
    exact splitOn_append root rel

/-- The names of a path below a directory that is named with its final slash, or not at all. -/
theorem exists_names_append (h : rel = [] ∨ rel.getLast? = some slash) :
    ∃ lead, ∀ t, names (rel ++ t) = lead ++ names t := by
  rcases h with rfl | h
  · exact ⟨[], fun _ => rfl⟩
  · obtain ⟨r, rfl⟩ := List.getLast?_eq_some_iff.1 h
    exact ⟨names r, fun t => by rw [List.append_assoc]; exact splitOn_append r t⟩

/-- A name that is in neither part of a path below a directory is not in the path. -/
theorem notMem_names_append (hrel : rel = [] ∨ rel.getLast? = some slash) (h : name ∉ names rel)
    {t : Bytes} (ht : name ∉ names t) : name ∉ names (rel ++ t) := by
  obtain ⟨lead, hlead⟩ := exists_names_append hrel
  have hnames : names rel = lead ++ names [] := by rw [← hlead, List.append_nil]
  rw [hnames] at h
  rw [hlead]
  exact List.not_mem_append (fun hm => h (List.mem_append_left _ hm)) ht

theorem isAbsolute_join (hne : root ≠ []) (h : isAbsolute rel = false) :
    isAbsolute (join root rel) = isAbsolute root := by
  have hhead := head?_withSlash hne
  obtain ⟨b, r, rfl⟩ := List.exists_cons_of_ne_nil hne
  rw [join_eq hne h, isAbsolute, isAbsolute, List.head?_append, hhead]
  rfl

theorem join_ne_nil (hne : root ≠ []) (h : isAbsolute rel = false) : join root rel ≠ [] := by
  rw [join_eq hne h]
  exact List.append_ne_nil_of_left_ne_nil (withSlash_ne_nil root) rel

theorem nul_mem_join_iff (hne : root ≠ []) (hroot : 0 ∉ root) (h : isAbsolute rel = false) :
    0 ∈ join root rel ↔ 0 ∈ rel := by
  have hslash : (0 : UInt8) ≠ slash := by decide
  have hlead : 0 ∉ withSlash root := by
    rw [withSlash]
    split
    · exact hroot
    · simp [hroot, hslash]
  rw [join_eq hne h, List.mem_append, or_iff_right hlead]

/-- A name below a directory that is named with its final slash, or is the upper directory itself,
is a path below the upper directory. -/
theorem join_join (hne : root ≠ []) (hrel : rel = [] ∨ rel.getLast? = some slash)
    (h : isAbsolute rel = false) (hname : isAbsolute name = false) :
    isAbsolute (rel ++ name) = false ∧ join (join root rel) name = join root (rel ++ name) := by
  have habs : isAbsolute (rel ++ name) = false := by
    cases rel with
    | nil => exact hname
    | cons b r => exact h
  have hlast : (withSlash root ++ rel).getLast? = some slash := by
    rcases hrel with rfl | hrel
    · rw [List.append_nil, getLast?_withSlash]
    · rw [List.getLast?_append, hrel, Option.some_or]
  refine ⟨habs, ?_⟩
  rw [join_eq (join_ne_nil hne h) hname, join_eq hne h, withSlash_of_getLast? hlast,
    join_eq hne habs, List.append_assoc]

end Path

end HttpServer
