import Mathlib.Data.List.Chain
import Mathlib.Logic.Relation
import ModuleGraph.Flow.Dependencies

/-!
# Reachability and rings

The dependency graph of a table, as relations: what an identifier depends on directly and in the
end, what the roots lead to, and the closed paths.

## Main definitions

- `Dependencies.Direct`, `Dependencies.Needs` — one step of dependency, and any number of steps
- `Dependencies.ReachableFrom` — what a list of roots leads to
- `Dependencies.AcyclicFrom` — nothing that the roots lead to depends on itself
- `Dependencies.IsRing` — a closed path, written without its first identifier at the end
- `ringSteps`, `closingStep?` — the steps of a closed path, and the one that closes it
-/

namespace ModuleGraph

variable {L : Type}

/-! ### Rings -/

/-- The step that closes a ring: from its last identifier back to its first. -/
def closingStep? (ring : List L) : Option (L × L) := do
  let last ← ring.getLast?
  let first ← ring.head?
  return (last, first)

/-- The steps of a ring: from each identifier to the next, and the closing one. -/
def ringSteps (ring : List L) : List (L × L) := ring.zip ring.tail ++ (closingStep? ring).toList

theorem closingStep?_eq_some_iff {ring : List L} {last first : L} :
    closingStep? ring = some (last, first) ↔
      ring.getLast? = some last ∧ ring.head? = some first := by
  cases ring with
  | nil => simp [closingStep?]
  | cons id ring =>
    simp only [closingStep?, List.getLast?_cons, List.head?_cons, Option.bind_eq_bind,
      Option.bind_some, Option.pure_def, Option.some.injEq, Prod.mk.injEq]

theorem isSome_closingStep? {ring : List L} (h : ring ≠ []) :
    (closingStep? ring).isSome = true := by
  cases ring with
  | nil => exact absurd rfl h
  | cons id ring => simp [closingStep?, List.getLast?_cons]

/-- A relation holds along a list iff it holds between neighbours. -/
theorem isChain_iff_forall_mem_zip {r : L → L → Prop} {ids : List L} :
    ids.IsChain r ↔ ∀ step ∈ ids.zip ids.tail, r step.1 step.2 := by
  induction ids with
  | nil => simp
  | cons id ids ih =>
    cases ids with
    | nil => simp
    | cons next ids =>
      rw [List.isChain_cons_cons, ih]
      simp

/-- A relation holds along all steps of a ring iff it holds along the list and back. -/
theorem forall_ringSteps_iff {r : L → L → Prop} {ring : List L} :
    (∀ step ∈ ringSteps ring, r step.1 step.2) ↔
      ring.IsChain r ∧ ∀ last ∈ ring.getLast?, ∀ first ∈ ring.head?, r last first := by
  rw [isChain_iff_forall_mem_zip]
  constructor
  · intro h
    refine ⟨fun step hstep => h step (by simp [ringSteps, hstep]), ?_⟩
    intro last hlast first hfirst
    have hclosing : closingStep? ring = some (last, first) :=
      closingStep?_eq_some_iff.2 ⟨hlast, hfirst⟩
    exact h (last, first) (by simp [ringSteps, hclosing])
  · rintro ⟨hlinked, hclosed⟩ step hstep
    rcases List.mem_append.1 hstep with hstep | hstep
    · exact hlinked step hstep
    · obtain ⟨hlast, hfirst⟩ := closingStep?_eq_some_iff.1 (Option.mem_toList.1 hstep)
      exact hclosed _ hlast _ hfirst

theorem fst_mem_of_mem_ringSteps {ring : List L} {step : L × L} (h : step ∈ ringSteps ring) :
    step.1 ∈ ring := by
  rcases List.mem_append.1 h with h | h
  · exact (List.of_mem_zip h).1
  · obtain ⟨hlast, -⟩ := closingStep?_eq_some_iff.1 (Option.mem_toList.1 h)
    exact List.mem_of_getLast? hlast

/-- A number cannot become smaller with every step of a ring. -/
theorem exists_ringSteps_le (rank : L → Nat) {ring : List L} (hring : ring ≠ []) :
    ∃ step ∈ ringSteps ring, rank step.1 ≤ rank step.2 := by
  by_contra! hdown
  obtain ⟨hlinked, hclosed⟩ :=
    (forall_ringSteps_iff (r := fun id next => rank next < rank id)).1 hdown
  obtain ⟨first, rest, rfl⟩ := List.exists_cons_of_ne_nil hring
  -- otherwise all others rank below the first, and so does the last, from which a step leads up
  have htrans : IsTrans L fun id next => rank next < rank id := ⟨fun _ _ _ h h' => h'.trans h⟩
  have hbelow := List.pairwise_cons.1 (List.isChain_iff_pairwise.1 hlinked)
  have hback := hclosed ((first :: rest).getLast (by simp)) (List.getLast?_eq_getLast_of_ne_nil _)
    first rfl
  rcases List.mem_cons.1 (List.getLast_mem (List.cons_ne_nil first rest)) with hlast | hlast
  · rw [hlast] at hback
    exact lt_irrefl _ hback
  · exact lt_asymm hback (hbelow.1 _ hlast)

namespace Dependencies

variable [BEq L] {table : Dependencies L} {roots : List L}

/-- `dependency` is listed among the dependencies of `id`. -/
def Direct (table : Dependencies L) (id dependency : L) : Prop := dependency ∈ table.of id

/-- `id` is `dependency`, or depends on it directly or through others. -/
def Needs (table : Dependencies L) : L → L → Prop := Relation.ReflTransGen table.Direct

/-- One of the roots needs `id`. -/
def ReachableFrom (table : Dependencies L) (roots : List L) (id : L) : Prop :=
  ∃ root ∈ roots, table.Needs root id

/-- Nothing that the roots lead to depends on itself, directly or through others. -/
def AcyclicFrom (table : Dependencies L) (roots : List L) : Prop :=
  ∀ id, table.ReachableFrom roots id → ¬ Relation.TransGen table.Direct id id

/-- Each identifier of the list depends directly on the next, and the last on the first. -/
structure IsRing (table : Dependencies L) (ring : List L) : Prop where
  ne_nil : ring ≠ []
  linked : ring.IsChain table.Direct
  closed : ∀ last ∈ ring.getLast?, ∀ first ∈ ring.head?, table.Direct last first

/-! ### What the roots lead to -/

theorem ReachableFrom.root {root : L} (h : root ∈ roots) : table.ReachableFrom roots root :=
  ⟨root, h, .refl⟩

theorem ReachableFrom.trans {id dependency : L} (h : table.ReachableFrom roots id)
    (hneeds : table.Needs id dependency) : table.ReachableFrom roots dependency := by
  obtain ⟨root, hroot, hid⟩ := h
  exact ⟨root, hroot, Relation.ReflTransGen.trans hid hneeds⟩

theorem ReachableFrom.step {id dependency : L} (h : table.ReachableFrom roots id)
    (hdirect : dependency ∈ table.of id) : table.ReachableFrom roots dependency :=
  h.trans (.single hdirect)

/-- A set that holds the roots, and with each identifier what it depends on, holds all that the
roots lead to. -/
theorem ReachableFrom.mem_of_closed {ids : List L} (hroots : roots ⊆ ids)
    (hclosed : ∀ id ∈ ids, ∀ dependency ∈ table.of id, dependency ∈ ids) {id : L}
    (h : table.ReachableFrom roots id) : id ∈ ids := by
  obtain ⟨root, hroot, hneeds⟩ := h
  induction hneeds with
  | refl => exact hroots hroot
  | tail _ hdirect ih => exact hclosed _ ih _ hdirect

/-! ### Rings of dependencies -/

namespace IsRing

variable {ring : List L}

/-- The steps of a ring lead from its identifiers to their dependencies. -/
theorem direct_of_mem_ringSteps (h : table.IsRing ring) :
    ∀ step ∈ ringSteps ring, table.Direct step.1 step.2 :=
  forall_ringSteps_iff.2 ⟨h.linked, h.closed⟩

/-- The first identifier of a ring needs every other. -/
theorem needs_of_first (h : table.IsRing ring) {first id : L} (hfirst : ring.head? = some first)
    (hid : id ∈ ring) : table.Needs first id := by
  refine List.IsChain.induction (table.Needs first) ring h.linked
    (fun _ _ hdirect hneeds => hneeds.tail hdirect) ?_ id hid
  intro hring
  rw [List.head_of_head?_eq_some hfirst]
  exact .refl

/-- Every identifier of a ring needs the last. -/
theorem needs_last (h : table.IsRing ring) {last id : L} (hlast : ring.getLast? = some last)
    (hid : id ∈ ring) : table.Needs id last := by
  refine List.IsChain.backwards_induction (fun id => table.Needs id last) ring h.linked
    (fun _ _ hdirect hneeds => .head hdirect hneeds) ?_ id hid
  intro hring
  rw [List.getLast_of_getLast?_eq_some hlast]
  exact .refl

/-- Any two identifiers of a ring need each other. -/
theorem needs (h : table.IsRing ring) {id other : L} (hid : id ∈ ring) (hother : other ∈ ring) :
    table.Needs id other := by
  have hlast := List.getLast?_eq_getLast_of_ne_nil h.ne_nil
  have hfirst := List.head?_eq_some_head h.ne_nil
  have hback : table.Direct _ _ := h.closed _ hlast _ hfirst
  exact (h.needs_last hlast hid).trans (.head hback (h.needs_of_first hfirst hother))

theorem reachableFrom (h : table.IsRing ring) (hreach : ∃ id ∈ ring, table.ReachableFrom roots id) :
    ∀ id ∈ ring, table.ReachableFrom roots id := by
  obtain ⟨start, hstart, hroots⟩ := hreach
  intro id hid
  exact hroots.trans (h.needs hstart hid)

end IsRing

/-- What depends on itself lies on a ring. -/
theorem exists_isRing_of_transGen {id : L} (h : Relation.TransGen table.Direct id id) :
    ∃ ring, table.IsRing ring ∧ id ∈ ring := by
  obtain ⟨next, hdirect, hneeds⟩ := Relation.TransGen.head'_iff.1 h
  obtain ⟨rest, hlinked, hlast⟩ := List.exists_isChain_cons_of_relationReflTransGen hneeds
  refine ⟨next :: rest, ⟨by simp, hlinked, ?_⟩, hlast ▸ List.getLast_mem _⟩
  intro last hlast' first hfirst
  rw [List.getLast?_eq_getLast_of_ne_nil (by simp), hlast] at hlast'
  cases hlast'
  cases hfirst
  exact hdirect

/-- What lies on a ring depends on itself. -/
theorem IsRing.transGen {ring : List L} (h : table.IsRing ring) {id : L} (hid : id ∈ ring) :
    Relation.TransGen table.Direct id id := by
  have hlast := List.getLast?_eq_getLast_of_ne_nil h.ne_nil
  have hfirst := List.head?_eq_some_head h.ne_nil
  have hback : table.Direct _ _ := h.closed _ hlast _ hfirst
  exact .trans_right (h.needs_last hlast hid)
    (.head' hback (h.needs_of_first hfirst hid))

end Dependencies

end ModuleGraph
