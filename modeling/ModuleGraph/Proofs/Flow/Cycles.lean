import Mathlib
import ModuleGraph.Proofs.Flow.ExecutionOrder

/-!
# The cycles of a walk

Every cycle that the walk closes is a ring of dependencies, and no ring among what the roots lead to
escapes: a step of it closes one of the cycles. The cycles also say where the execution order is cut
short: the dependencies that it lists too late are those that close a cycle, once for each cycle.

## Main statements

- `nodup_of_mem_cycles`, `reachableFrom_of_mem_cycles` — the identifiers of a cycle
- `exists_closing_of_isRing` — every ring has a step that closes a cycle
- `cycles_eq_nil_iff` — there are no cycles iff nothing depends on itself
- `cycles_sound_complete` — all of this together
- `reverse_sublist_executionOrder`, `idxOf_lt_of_mem_tail` — where the order lists a cycle
- `cycles_match_executionOrder` — what the order lists too late is what the cycles report
-/

namespace ModuleGraph

variable {L : Type} [BEq L] [LawfulBEq L]
variable {table : Dependencies L} {roots : List L} {ring : List L}

/-! ### What is reported -/

/-- The identifiers of a cycle are left in the opposite order. -/
theorem sublist_finished_of_mem_cycles (h : ring ∈ cycles table roots) :
    ring.Sublist (walk table roots).finished :=
  (WalkInvariant.walk table roots).ordered ring (List.mem_reverse.1 h)

theorem nodup_of_mem_cycles (h : ring ∈ cycles table roots) : ring.Nodup :=
  (sublist_finished_of_mem_cycles h).nodup (WalkInvariant.walk table roots).progress.nodup

theorem reachableFrom_of_mem_cycles (h : ring ∈ cycles table roots) {id : L} (hid : id ∈ ring) :
    table.ReachableFrom roots id :=
  mem_finished_walk_iff.1 ((sublist_finished_of_mem_cycles h).subset hid)

/-! ### Nothing is missed -/

/-- A ring that the roots lead to has a step that closes a cycle. -/
theorem exists_closing_of_isRing (h : table.IsRing ring)
    (hreach : ∃ id ∈ ring, table.ReachableFrom roots id) :
    ∃ cycle ∈ cycles table roots, ∃ step ∈ ringSteps ring, closingStep? cycle = some step := by
  -- some step of the ring does not lead to an earlier place in the order
  obtain ⟨step, hstep, hle⟩ := exists_ringSteps_le (executionOrder table roots).idxOf h.ne_nil
  have hlisted := mem_executionOrder_iff.2
    (h.reachableFrom hreach step.1 (fst_mem_of_mem_ringSteps hstep))
  rcases idxOf_lt_or_closing hlisted (h.direct_of_mem_ringSteps step hstep) with hlt | hclosing
  · exact absurd hlt (Nat.not_lt.2 hle)
  · obtain ⟨cycle, hcycle, hclosing⟩ := hclosing
    exact ⟨cycle, hcycle, step, hstep, hclosing⟩

theorem cycles_eq_nil_iff : cycles table roots = [] ↔ table.AcyclicFrom roots := by
  constructor
  · intro hnone id hid hloop
    obtain ⟨ring, hring, hmem⟩ := Dependencies.exists_isRing_of_transGen hloop
    obtain ⟨cycle, hcycle, -⟩ := exists_closing_of_isRing hring ⟨id, hmem, hid⟩
    rw [hnone] at hcycle
    exact List.not_mem_nil hcycle
  · intro hacyclic
    rw [List.eq_nil_iff_forall_not_mem]
    intro ring hring
    have hid := List.head_mem (isRing_of_mem_cycles hring).ne_nil
    exact hacyclic _ (reachableFrom_of_mem_cycles hring hid)
      ((isRing_of_mem_cycles hring).transGen hid)

/-- **The cycles are sound and complete**: each is a ring of distinct identifiers that the roots
lead to; every ring that the roots lead to has among its steps the closing step of a cycle; and so
there are none iff nothing that the roots lead to depends on itself. -/
theorem cycles_sound_complete (table : Dependencies L) (roots : List L) :
    (∀ cycle ∈ cycles table roots,
      table.IsRing cycle ∧ cycle.Nodup ∧ ∀ id ∈ cycle, table.ReachableFrom roots id) ∧
    (∀ ring, table.IsRing ring → (∃ id ∈ ring, table.ReachableFrom roots id) →
      ∃ cycle ∈ cycles table roots, ∃ step ∈ ringSteps ring, closingStep? cycle = some step) ∧
    (cycles table roots = [] ↔ table.AcyclicFrom roots) := by
  refine ⟨fun cycle hcycle => ?_, fun ring => exists_closing_of_isRing, cycles_eq_nil_iff⟩
  exact ⟨isRing_of_mem_cycles hcycle, nodup_of_mem_cycles hcycle,
    fun id => reachableFrom_of_mem_cycles hcycle⟩

open Dependencies (tangled)

/-- The ring of `b` and `a` is reported as that of `a` and `b`, in the order of the path. -/
theorem cycles_tangled :
    (∃ cycle ∈ cycles tangled ["a", "a", "d"],
      cycle = [("a" : Text), ("b" : Text)] ∧ tangled.IsRing cycle ∧ cycle.Nodup) ∧
    tangled.IsRing [("b" : Text), ("a" : Text)] ∧
    ∃ cycle ∈ cycles tangled ["a", "a", "d"],
      ∃ step ∈ ringSteps [("b" : Text), ("a" : Text)], closingStep? cycle = some step := by
  have hcycles : cycles tangled ["a", "a", "d"] =
      [[("c" : Text)], [("a" : Text), ("b" : Text)]] := by cbv
  have hba : tangled.Direct "b" "a" := List.mem_cons_of_mem _ List.mem_cons_self
  have hab : tangled.Direct "a" "b" := List.mem_cons_self
  have hring : tangled.IsRing [("b" : Text), ("a" : Text)] := by
    refine ⟨by simp, .cons_cons hba (.singleton _), ?_⟩
    rintro last hlast first hfirst
    cases hlast
    cases hfirst
    exact hab
  have hspec := cycles_sound_complete tangled ["a", "a", "d"]
  refine ⟨⟨[("a" : Text), ("b" : Text)], by simp [hcycles], rfl, ?_⟩, hring, ?_⟩
  · obtain ⟨hring', hnodup, -⟩ := hspec.1 [("a" : Text), ("b" : Text)] (by simp [hcycles])
    exact ⟨hring', hnodup⟩
  · exact hspec.2.1 _ hring ⟨"a", by simp, .root List.mem_cons_self⟩

/-! ### The cycles and the execution order -/

/-- Every cycle has a step that closes it. -/
theorem map_closingStep?_cycles (table : Dependencies L) (roots : List L) :
    (cycles table roots).map closingStep? =
      ((cycles table roots).filterMap closingStep?).map some := by
  rw [List.map_filterMap, eq_comm, List.filterMap_eq_map_iff_forall_eq_some]
  intro ring hring
  have hsome := isSome_closingStep? (isRing_of_mem_cycles hring).ne_nil
  obtain ⟨step, hstep⟩ := Option.isSome_iff_exists.1 hsome
  rw [hstep, Option.map_some]

theorem reverse_sublist_executionOrder (h : ring ∈ cycles table roots) :
    ring.reverse.Sublist (executionOrder table roots) := by
  rw [executionOrder_eq]
  exact (sublist_finished_of_mem_cycles h).reverse

/-- The identifier by which the walk came to a cycle stands behind the rest of the cycle. -/
theorem idxOf_lt_of_mem_tail {first id : L} {rest : List L}
    (h : first :: rest ∈ cycles table roots) (hid : id ∈ rest) :
    (executionOrder table roots).idxOf id < (executionOrder table roots).idxOf first := by
  have hsub := reverse_sublist_executionOrder h
  rw [List.reverse_cons] at hsub
  -- split the order where the rest of the cycle is through, and the latter part at `first`
  obtain ⟨front, back, horder, hfront, hback⟩ := List.append_sublist_iff.1 hsub
  obtain ⟨before, after, rfl⟩ := List.append_of_mem (List.singleton_sublist.1 hback)
  rw [← List.append_assoc] at horder
  have hnodup := nodup_executionOrder table roots
  rw [horder] at hnodup ⊢
  refine (idxOf_lt_idxOf_iff hnodup).2 (List.mem_append_left _ ?_)
  exact hfront.subset (List.mem_reverse.2 hid)

/-- **The cycles match the execution order**: counted with repetition, the closing steps of the
cycles are the dependencies that do not stand before what depends on them; and the identifiers of a
cycle stand in the order the other way round, so that the first of them stands behind all the
rest. -/
theorem cycles_match_executionOrder (table : Dependencies L) (roots : List L) :
    ((cycles table roots).map closingStep?).Perm
      ((lateSteps table (executionOrder table roots)).map some) ∧
    ∀ cycle ∈ cycles table roots,
      cycle.reverse.Sublist (executionOrder table roots) ∧
      ∀ first ∈ cycle.head?, ∀ id ∈ cycle.tail,
        (executionOrder table roots).idxOf id < (executionOrder table roots).idxOf first := by
  constructor
  · rw [map_closingStep?_cycles]
    exact (closings_perm table roots).map some
  · intro cycle hcycle
    refine ⟨reverse_sublist_executionOrder hcycle, ?_⟩
    intro first hfirst id hid
    obtain ⟨rest, rfl⟩ := List.head?_eq_some_iff.1 hfirst
    exact idxOf_lt_of_mem_tail hcycle hid

/-- `b` depends twice on `a`, which depends on it: two late steps, and two cycles. -/
theorem cycles_match_executionOrder_repeated :
    let table : Dependencies Text := [("a", ["b"]), ("b", ["a", "x", "a"])]
    let back : Text × Text := ("b", "a")
    lateSteps table (executionOrder table ["a"]) = [back, back] ∧
    ((cycles table ["a"]).map closingStep?).Perm [some back, some back] ∧
    ∃ cycle ∈ cycles table ["a"], cycle = [("a" : Text), ("b" : Text)] ∧
      cycle.reverse.Sublist (executionOrder table ["a"]) ∧
      (executionOrder table ["a"]).idxOf ("b" : Text) <
        (executionOrder table ["a"]).idxOf ("a" : Text) := by
  intro table back
  have horder : executionOrder table ["a"] = [("x" : Text), ("b" : Text), ("a" : Text)] := by cbv
  have hcycles : cycles table ["a"] =
      [[("a" : Text), ("b" : Text)], [("a" : Text), ("b" : Text)]] := by cbv
  have hlate : lateSteps table (executionOrder table ["a"]) = [back, back] := by
    rw [horder]
    decide
  obtain ⟨hclosings, hlisted⟩ := cycles_match_executionOrder table ["a"]
  rw [hlate] at hclosings
  obtain ⟨hreverse, hbehind⟩ := hlisted [("a" : Text), ("b" : Text)] (by simp [hcycles])
  exact ⟨hlate, hclosings, _, by simp [hcycles], rfl, hreverse,
    hbehind "a" rfl "b" List.mem_cons_self⟩

end ModuleGraph
