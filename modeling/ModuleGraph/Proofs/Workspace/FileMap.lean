import Mathlib.Data.List.Nodup
import ModuleGraph.Proofs.Distinct
import ModuleGraph.Workspace

/-!
# Maps of files

A map of files is made by insertion, text by text. Of the texts that are inserted at one path the
last one stays, at the place of the first.

## Main statements

- `lookup_insert`, `map_fst_insert` — what an insertion does to the texts and to the paths
- `lookup_ofList_of_last` — the last text at a path stays
- `map_fst_ofList`, `nodup_ofList` — the paths of a map are those inserted, each once
-/

namespace ModuleGraph.FileMap

variable {files : FileMap} {path : String}

/-! ### One insertion -/

theorem any_path_eq_true_iff :
    (files.any fun file => file.1 == path) = true ↔ path ∈ files.map (·.1) := by
  simp

theorem isSome_lookup_iff : (files.lookup path).isSome = true ↔ path ∈ files.map (·.1) := by
  simp only [List.lookup_isSome_iff, List.mem_map, beq_iff_eq, eq_comm (a := path)]

/-- A path that is there keeps its place, and another one comes last. -/
theorem map_fst_insert (files : FileMap) (path : String) (text : Text) :
    (insert files path text).map (·.1) =
      if path ∈ files.map (·.1) then files.map (·.1) else files.map (·.1) ++ [path] := by
  rw [insert]
  by_cases h : path ∈ files.map (·.1)
  · rw [if_pos (any_path_eq_true_iff.2 h), if_pos h, List.map_map]
    apply List.map_congr_left
    intro file _
    by_cases hfile : file.1 = path
    · simp [hfile]
    · simp [hfile]
  · rw [if_neg (mt any_path_eq_true_iff.1 h), if_neg h, List.map_append, List.map_singleton]

theorem lookup_replace (files : FileMap) (path : String) (text : Text) (other : String) :
    (files.map fun file => if file.1 = path then (path, text) else file).lookup other =
      if other = path then (files.lookup other).map fun _ => text else files.lookup other := by
  induction files with
  | nil => simp
  | cons file files ih =>
    obtain ⟨first, old⟩ := file
    rw [List.map_cons, List.lookup_cons, List.lookup_cons, ih]
    by_cases hfirst : first = path
    · subst hfirst
      by_cases hother : other = first
      · simp [hother]
      · have hne : (other == first) = false := by simpa using hother
        simp [hother, hne]
    · by_cases hother : other = first
      · have hne : other ≠ path := hother ▸ hfirst
        simp [hother, hfirst]
      · have hne : (other == first) = false := by simpa using hother
        simp [hfirst, hne]

/-- An insertion changes the text at one path. -/
theorem lookup_insert (files : FileMap) (path : String) (text : Text) (other : String) :
    (insert files path text).lookup other =
      if other = path then some text else files.lookup other := by
  rw [insert]
  by_cases hpath : path ∈ files.map (·.1)
  · obtain ⟨old, hold⟩ := Option.isSome_iff_exists.1 (isSome_lookup_iff.2 hpath)
    rw [if_pos (any_path_eq_true_iff.2 hpath), lookup_replace]
    split
    · rename_i hother
      rw [hother, hold, Option.map_some]
    · rfl
  · have hnone : files.lookup path = none :=
      Option.not_isSome_iff_eq_none.1 (mt isSome_lookup_iff.1 hpath)
    rw [if_neg (mt any_path_eq_true_iff.1 hpath), List.lookup_append]
    by_cases hother : other = path
    · rw [hother, hnone, Option.none_or, List.lookup_cons_self, if_pos rfl]
    · have hne : (other == path) = false := by simpa using hother
      rw [List.lookup_cons, hne, if_neg hother]
      exact Option.or_none

/-! ### Insertions one after the other -/

theorem ofList_concat (files : List (String × Text)) (file : String × Text) :
    ofList (files ++ [file]) = insert (ofList files) file.1 file.2 := by
  rw [ofList, List.foldl_append]
  rfl

/-- The paths of a map are those inserted, each once. -/
theorem map_fst_ofList (files : List (String × Text)) :
    (ofList files).map (·.1) = (files.map (·.1)).eraseDups := by
  induction files using List.reverseRecOn with
  | nil => rfl
  | append_singleton files file ih =>
    rw [ofList_concat, map_fst_insert, ih, List.map_append, List.map_singleton, eraseDups_concat]
    simp only [List.mem_eraseDups]

theorem nodup_ofList (files : List (String × Text)) : ((ofList files).map (·.1)).Nodup := by
  rw [map_fst_ofList]
  exact nodup_eraseDups _

theorem mem_paths_ofList {files : List (String × Text)} :
    path ∈ (ofList files).map (·.1) ↔ path ∈ files.map (·.1) := by
  rw [map_fst_ofList, List.mem_eraseDups]

theorem mem_of_mem_insert {text : Text} {file : String × Text}
    (h : file ∈ insert files path text) : file ∈ files ∨ file = (path, text) := by
  rw [insert] at h
  split at h
  · obtain ⟨old, hold, rfl⟩ := List.mem_map.1 h
    split
    · exact .inr rfl
    · exact .inl hold
  · simpa using h

/-- Nothing is in a map but what was inserted. -/
theorem mem_of_mem_ofList {files : List (String × Text)} {file : String × Text}
    (h : file ∈ ofList files) : file ∈ files := by
  induction files using List.reverseRecOn with
  | nil => exact h
  | append_singleton files last ih =>
    rw [ofList_concat] at h
    rcases mem_of_mem_insert h with hbefore | rfl
    · exact List.mem_append_left _ (ih hbefore)
    · simp

theorem mem_of_lookup {text : Text} (h : files.lookup path = some text) : (path, text) ∈ files := by
  obtain ⟨before, after, rfl, -⟩ := List.lookup_eq_some_iff.1 h
  exact List.mem_append_right before (List.mem_cons_self ..)

/-- The last text at a path stays. -/
theorem lookup_ofList_of_last (before after : List (String × Text)) {text : Text}
    (h : path ∉ after.map (·.1)) :
    (ofList (before ++ (path, text) :: after)).lookup path = some text := by
  induction after using List.reverseRecOn with
  | nil => rw [ofList_concat, lookup_insert, if_pos rfl]
  | append_singleton after file ih =>
    rw [List.map_append, List.mem_append, not_or] at h
    have hne : path ≠ file.1 := by simpa using h.2
    rw [← List.cons_append, ← List.append_assoc, ofList_concat, lookup_insert, if_neg hne, ih h.1]

end ModuleGraph.FileMap
