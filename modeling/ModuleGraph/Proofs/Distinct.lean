import Mathlib.Data.List.Basic
import Mathlib.Data.List.Induction
import Mathlib.Data.List.Nodup

/-!
# Lists without repetitions

A list is rid of its repetitions by keeping the first of each. Built from the end, the result grows
by what is new, and it does not matter whether repetitions are dropped before or after other
operations.

## Main definitions

- `FirstOccurrences` — what it is to keep the first of each

## Main statements

- `eraseDups_concat`, `nodup_eraseDups` — the list without repetitions
- `firstOccurrences_eraseDups` — what is kept is the first of each
- `eraseDups_filter`, `eraseDups_map_eraseDups` — repetitions among what is selected or mapped
-/

namespace ModuleGraph

variable {α β : Type} [BEq α] [LawfulBEq α] [BEq β] [LawfulBEq β]

theorem eraseDups_concat (items : List α) (item : α) :
    (items ++ [item]).eraseDups =
      if item ∈ items then items.eraseDups else items.eraseDups ++ [item] := by
  rw [List.eraseDups_append]
  by_cases h : item ∈ items <;> simp [List.removeAll, List.eraseDups_cons, h]

theorem nodup_eraseDups (items : List α) : items.eraseDups.Nodup := by
  induction items using List.reverseRecOn with
  | nil => simp
  | append_singleton items item ih =>
    rw [eraseDups_concat]
    split
    · exact ih
    · rename_i hnew
      rw [← List.mem_eraseDups] at hnew
      exact List.concat_eq_append ▸ ih.concat hnew

theorem eraseDups_of_nodup {items : List α} (h : items.Nodup) : items.eraseDups = items := by
  induction items using List.reverseRecOn with
  | nil => rfl
  | append_singleton items item ih =>
    have hsplit := List.nodup_append.1 h
    have hnew : item ∉ items := fun hitem => hsplit.2.2 item hitem item List.mem_cons_self rfl
    rw [eraseDups_concat, if_neg hnew, ih hsplit.1]

theorem eraseDups_filter (p : α → Bool) (items : List α) :
    (items.filter p).eraseDups = items.eraseDups.filter p := by
  induction items using List.reverseRecOn with
  | nil => rfl
  | append_singleton items item ih =>
    rw [List.filter_append, eraseDups_concat]
    by_cases hp : p item = true <;> by_cases hitem : item ∈ items <;>
      simp [hp, hitem, eraseDups_concat, ih]

/-- Repetitions may be dropped before a map, if they are dropped behind it. -/
theorem eraseDups_map_eraseDups (f : α → β) (items : List α) :
    (items.eraseDups.map f).eraseDups = (items.map f).eraseDups := by
  induction items using List.reverseRecOn with
  | nil => rfl
  | append_singleton items item ih =>
    rw [List.map_append, List.map_singleton, eraseDups_concat, eraseDups_concat]
    by_cases hitem : item ∈ items
    · rw [if_pos hitem, if_pos (List.mem_map_of_mem hitem), ih]
    · have hmem : f item ∈ items.eraseDups.map f ↔ f item ∈ items.map f := by simp
      rw [if_neg hitem, List.map_append, List.map_singleton, eraseDups_concat, ih]
      simp only [hmem]

/-- A map that tells all items apart makes no repetitions. -/
theorem eraseDups_map_of_injective {f : α → β} (hf : Function.Injective f) (items : List α) :
    (items.map f).eraseDups = items.eraseDups.map f := by
  rw [← eraseDups_map_eraseDups, eraseDups_of_nodup ((nodup_eraseDups items).map hf)]

/-! ### First occurrences -/

/-- Each item of a list once, in the order in which the items occur first. -/
structure FirstOccurrences (items firsts : List α) : Prop where
  mem_iff (item : α) : item ∈ firsts ↔ item ∈ items
  ordered : firsts.Pairwise fun first second => items.idxOf first < items.idxOf second

theorem firstOccurrences_eraseDups (items : List α) :
    FirstOccurrences items items.eraseDups where
  mem_iff _ := List.mem_eraseDups
  ordered := by
    induction items using List.reverseRecOn with
    | nil => simp
    | append_singleton items item ih =>
      -- the items that were there before occur where they did
      have hkept : items.eraseDups.Pairwise fun first second =>
          (items ++ [item]).idxOf first < (items ++ [item]).idxOf second := by
        refine ih.imp_of_mem fun hfirst hsecond hlt => ?_
        rwa [List.idxOf_append_of_mem (List.mem_eraseDups.1 hfirst),
          List.idxOf_append_of_mem (List.mem_eraseDups.1 hsecond)]
      rw [eraseDups_concat]
      split
      · exact hkept
      · rename_i hnew
        refine List.pairwise_append.2 ⟨hkept, List.pairwise_singleton _ _, ?_⟩
        intro first hfirst second hsecond
        have hfirst := List.mem_eraseDups.1 hfirst
        rw [List.mem_singleton.1 hsecond, List.idxOf_append_of_mem hfirst,
          List.idxOf_append_of_notMem hnew]
        exact Nat.lt_add_right _ (List.idxOf_lt_length_of_mem hfirst)

end ModuleGraph
