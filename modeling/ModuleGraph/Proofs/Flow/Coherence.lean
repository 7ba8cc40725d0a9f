import ModuleGraph.Flow.Analysis
import ModuleGraph.Proofs.Flow.Cycles
import ModuleGraph.Proofs.Flow.DependencyTable

/-!
# The parts of an analysis

The dependencies, the execution order, the cycles and the isolated nodes are found in passes of
their own. They fit together all the same: whatever the nodes and the connections are, they speak of
the same identifiers, and a node is isolated iff the table of dependencies says so.

## Main statements

- `snd_of_mem_dependencies`, `snd_subset_of_mem_dependencies` — the entries of the table of a graph
- `unlisted_iff` — the table says which identifiers no wire reaches
- `mem_isolatedIds` — which identifiers are isolated
- `analysis_coherent` — how the parts of an analysis fit together
-/

namespace ModuleGraph

variable {L : Type} [Label L] [LawfulBEq L]
variable {nodes : List (Node L)} {connections : List (Connection L)} {id : L}

/-! ### Entries -/

theorem map_fst_dependencies (nodes : List (Node L)) (connections : List (Connection L)) :
    (dependencies nodes connections).map Prod.fst = distinctIds nodes := by
  rw [dependencies_eq, List.map_map]
  exact List.map_id _

/-- An entry of the table lists the sources of the wires into its node. -/
theorem snd_of_mem_dependencies {entry : L × List L} (h : entry ∈ dependencies nodes connections) :
    entry.2 = sourcesInto (resolved nodes connections) entry.1 := by
  rw [dependencies_eq] at h
  obtain ⟨id, -, rfl⟩ := List.mem_map.1 h
  rfl

/-- Whatever the table lists, it has an entry for. -/
theorem snd_subset_of_mem_dependencies {entry : L × List L}
    (h : entry ∈ dependencies nodes connections) : entry.2 ⊆ distinctIds nodes := by
  intro id hid
  rw [snd_of_mem_dependencies h, ← of_dependencies] at hid
  exact mem_distinctIds_of_mem_of hid

/-- A cycle runs through nodes only. -/
theorem subset_distinctIds_of_mem_cycles {cycle : List L}
    (h : cycle ∈ cycles (dependencies nodes connections) (distinctIds nodes)) :
    cycle ⊆ distinctIds nodes := by
  intro id hid
  have hreach := reachableFrom_of_mem_cycles h hid
  exact mem_executionOrder_dependencies.1 (mem_executionOrder_iff.2 hreach)

/-! ### Isolation -/

omit [LawfulBEq L] in
/-- A connection that resolves reaches the nodes that it names. -/
theorem reaches_eq_touches {wire : Resolved L} {connection : Connection L}
    (h : resolve? nodes connection = some wire) (id : L) :
    wire.reaches id = connection.touches id := by
  obtain ⟨hsource, htarget, -⟩ := resolve?_eq_some_iff.1 h
  rw [Resolved.reaches, Connection.touches, BEq.congr_left (beq_of_findNode? hsource),
    BEq.congr_left (beq_of_findNode? htarget)]

/-- The table has nothing to say of an identifier iff no wire reaches it. -/
theorem unlisted_iff :
    ((dependencies nodes connections).of id = [] ∧
      ∀ entry ∈ dependencies nodes connections, id ∉ entry.2) ↔
    ∀ wire ∈ resolved nodes connections, wire.sourceNode.id ≠ id ∧ wire.targetNode.id ≠ id := by
  rw [of_dependencies, sourcesInto_eq_nil_iff]
  constructor
  · rintro ⟨hinto, hfrom⟩ wire hwire
    refine ⟨?_, hinto wire hwire⟩
    rintro rfl
    -- the wire ends at a node, whose entry lists where the wire comes from
    have hentry : (wire.targetNode.id, sourcesInto (resolved nodes connections) wire.targetNode.id)
        ∈ dependencies nodes connections := by
      rw [dependencies_eq]
      exact List.mem_map_of_mem (id_targetNode_mem hwire)
    exact hfrom _ hentry (mem_sourcesInto.2 ⟨wire, hwire, rfl, rfl⟩)
  · intro hnone
    refine ⟨fun wire hwire => (hnone wire hwire).2, fun entry hentry hid => ?_⟩
    rw [snd_of_mem_dependencies hentry, mem_sourcesInto] at hid
    obtain ⟨wire, hwire, -, hsource⟩ := hid
    exact (hnone wire hwire).1 hsource

theorem mem_isolatedIds :
    id ∈ isolatedIds nodes connections ↔
      id ∈ distinctIds nodes ∧ ∀ wire ∈ resolved nodes connections,
        wire.sourceNode.id ≠ id ∧ wire.targetNode.id ≠ id := by
  simp [isolatedIds, Resolved.reaches]

/-! ### All parts -/

/-- **An analysis is coherent.** The table of dependencies has an entry for every identifier of a
node, in the order in which they occur first. The entry lists the sources of the wires into the
node, in the order in which they occur first among these wires, and each has an entry itself. The
execution order is a permutation of the identifiers, and the cycles run through them. The isolated
ones are, in their order, those which depend on nothing and on which nothing depends: those that no
wire reaches. -/
theorem analysis_coherent (nodes : List (Node L)) (connections : List (Connection L)) :
    let analysis := analyze nodes connections
    let wires := resolved nodes connections
    let keys := analysis.dependencies.map Prod.fst
    FirstOccurrences (nodes.map (·.id)) keys ∧
    (∀ entry ∈ analysis.dependencies,
      FirstOccurrences ((wires.filter (·.targetNode.id == entry.1)).map (·.sourceNode.id))
        entry.2 ∧ entry.2 ⊆ keys) ∧
    analysis.executionOrder.Perm keys ∧
    (∀ cycle ∈ analysis.cycles, cycle ⊆ keys) ∧
    analysis.isolated.Sublist keys ∧
    (∀ id, id ∈ analysis.isolated ↔ id ∈ keys ∧ analysis.dependencies.of id = [] ∧
      ∀ entry ∈ analysis.dependencies, id ∉ entry.2) ∧
    ∀ id, id ∈ analysis.isolated ↔ id ∈ keys ∧
      ∀ wire ∈ wires, wire.sourceNode.id ≠ id ∧ wire.targetNode.id ≠ id := by
  intro analysis wires keys
  have hkeys : keys = distinctIds nodes := map_fst_dependencies nodes connections
  have hisolated : ∀ id, id ∈ analysis.isolated ↔ id ∈ distinctIds nodes ∧
      ∀ wire ∈ wires, wire.sourceNode.id ≠ id ∧ wire.targetNode.id ≠ id := fun _ => mem_isolatedIds
  rw [hkeys]
  refine ⟨firstOccurrences_eraseDups _, fun entry hentry => ?_,
    executionOrder_perm_distinctIds nodes connections,
    fun cycle => subset_distinctIds_of_mem_cycles, List.filter_sublist, fun id => ?_, hisolated⟩
  · have hsources := firstOccurrences_eraseDups
      ((wires.filter (·.targetNode.id == entry.1)).map (·.sourceNode.id))
    have hentry' : entry.2 = sourcesInto wires entry.1 := snd_of_mem_dependencies hentry
    rw [← sourcesInto, ← hentry'] at hsources
    exact ⟨hsources, snd_subset_of_mem_dependencies hentry⟩
  · exact (hisolated id).trans (and_congr_right fun _ => unlisted_iff.symm)

/-- A mint is wired into a vault twice, and the vault into itself. The mint is listed once more
without its port, a rent stands alone, and the one wire at it comes from a node that is not
there. -/
def vaultIntoItself : Graph Text where
  name := "vault"
  nodes :=
    [⟨"mint", "token", "Mint", [], [⟨"out", "Out", "any"⟩]⟩,
      ⟨"vault", "account", "Vault", [⟨"in", "In", "any"⟩], [⟨"out", "Out", "any"⟩]⟩,
      ⟨"mint", "token", "Mint", [], []⟩,
      ⟨"rent", "token", "Rent", [⟨"in", "In", "any"⟩], []⟩]
  connections :=
    [⟨⟨"vault", "out", "vault", "in"⟩, "c1"⟩, ⟨⟨"mint", "out", "vault", "in"⟩, "c2"⟩,
      ⟨⟨"mint", "out", "vault", "in"⟩, "c3"⟩, ⟨⟨"ghost", "out", "rent", "in"⟩, "c4"⟩]

/-- The vault depends on itself and on the mint, and the rent is isolated. -/
theorem analysis_coherent_vaultIntoItself :
    let analysis := vaultIntoItself.analyze
    let table : Dependencies Text := [("mint", []), ("vault", ["vault", "mint"]), ("rent", [])]
    let keys : List Text := ["mint", "vault", "rent"]
    analysis.dependencies = table ∧
    FirstOccurrences (vaultIntoItself.nodes.map (·.id)) keys ∧
    analysis.executionOrder.Perm keys ∧
    (∀ cycle ∈ analysis.cycles, cycle ⊆ keys) ∧
    Text.ofString "rent" ∈ analysis.isolated ∧ Text.ofString "mint" ∉ analysis.isolated := by
  intro analysis table keys
  have hcoherent := analysis_coherent vaultIntoItself.nodes vaultIntoItself.connections
  have htable : (analyze vaultIntoItself.nodes vaultIntoItself.connections).dependencies = table :=
    by decide
  dsimp only at hcoherent
  rw [htable] at hcoherent
  obtain ⟨hkeys, -, horder, hcycles, -, hisolated, -⟩ := hcoherent
  have hrent : Text.ofString "rent" ∈ analysis.isolated := (hisolated _).2 (by decide)
  have hmint : Text.ofString "mint" ∉ analysis.isolated := by
    intro hmint
    exact absurd ((hisolated _).1 hmint) (by decide)
  exact ⟨htable, hkeys, horder, hcycles, hrent, hmint⟩

end ModuleGraph
