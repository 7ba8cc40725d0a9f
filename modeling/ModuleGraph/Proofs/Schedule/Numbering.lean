import ModuleGraph.Proofs.Schedule.Agreement
import ModuleGraph.Proofs.Schedule.ModuleNames

/-!
# The numbers behind the names of modules

A module is called what the name of its node gives, unless an earlier module is. It then has a
number behind its name, which is the least from two on that no earlier module has there. The search
for it tries one number after the other without a bound, and always comes to an end. Later nodes
have no say in the names of earlier ones.

## Main definitions

- `baseName` — what the name of a node gives for that of its module
- `Probing` — the search for a name, number after number
- `IsLeastName` — a name with the least number that makes it new, if it needs any

## Main statements

- `probing_iff` — the search ends, and with the number of the module
- `isLeastName_moduleLabel` — the names of the modules have the least numbers
- `map_moduleName_isPrefix` — later nodes leave the names of earlier modules alone
- `moduleNames_numbered_least` — all of this together
-/

namespace ModuleGraph

open Naming (IsIdentifier suffixed)

/-- What the name of a node gives for the name of its module. -/
def baseName (name : Text) : String := Naming.orElse (Naming.moduleName name) "instruction"

/-! ### The search for a name -/

/-- From a name with a number, or without one, to the first that is not in use. -/
inductive Probing (used : List String) (base : String) : Option Nat → Option Nat → Prop
  | found {suffix : Option Nat} (h : ModuleLabel.text ⟨base, suffix⟩ ∉ used) :
      Probing used base suffix suffix
  | taken {suffix last : Option Nat} (h : ModuleLabel.text ⟨base, suffix⟩ ∈ used)
      (hnext : Probing used base (some (suffix.getD 1 + 1)) last) : Probing used base suffix last

section Search

variable {used : List String} {base : String} {suffix first second : Option Nat}

theorem Probing.unique (hfirst : Probing used base suffix first)
    (hsecond : Probing used base suffix second) : first = second := by
  induction hfirst with
  | found hnew =>
    cases hsecond with
    | found => rfl
    | taken hused => exact absurd hused hnew
  | taken hused _ ih =>
    cases hsecond with
    | found hnew => exact absurd hused hnew
    | taken _ hnext => exact ih hnext

/-- The search goes through the numbers in use to the first that is not. -/
theorem probing_numbers {start count : Nat}
    (hused : ∀ number, start ≤ number → number < start + count → suffixed base number ∈ used)
    (hnew : suffixed base (start + count) ∉ used) :
    Probing used base (some start) (some (start + count)) := by
  induction count generalizing start with
  | zero => exact .found hnew
  | succ count ih =>
    have hnext : start + (count + 1) = start + 1 + count := by omega
    rw [hnext] at hused hnew ⊢
    have hlater : ∀ number, start + 1 ≤ number → number < start + 1 + count →
        suffixed base number ∈ used := fun number hstart => hused number (by omega)
    exact .taken (hused start (Nat.le_refl start) (by omega)) (ih hlater hnew)

end Search

/-! ### One module -/

/-- The base, if that is new; else the base with the least number from two on that makes it new. -/
def IsLeastName (used : List String) (base name : String) : Prop :=
  (base ∉ used ∧ name = base) ∨
    base ∈ used ∧ ∃ number,
      IsLeast {number | 2 ≤ number ∧ suffixed base number ∉ used} number ∧
        name = suffixed base number

section Module

variable {L : Type} [Label L] {used : List String} {node : Node L}

open Label (wording)

theorem base_moduleLabel (used : List String) (node : Node L) :
    (moduleLabel used node).base = baseName (wording node.name) := by
  rw [moduleLabel]
  split <;> rfl

theorem moduleLabel_of_not_mem (h : baseName (wording node.name) ∉ used) :
    moduleLabel used node = ⟨baseName (wording node.name), none⟩ := by
  have hnew : used.contains (baseName (wording node.name)) = false := by simpa using h
  rw [moduleLabel]
  exact if_neg (Bool.eq_false_iff.1 hnew)

theorem moduleLabel_of_mem (h : baseName (wording node.name) ∈ used) :
    moduleLabel used node = ⟨baseName (wording node.name),
      some (Naming.freeSuffix used (baseName (wording node.name)))⟩ := by
  rw [moduleLabel]
  exact if_pos (List.contains_iff_mem.2 h)

theorem isLeastName_moduleLabel (used : List String) (node : Node L) :
    IsLeastName used (baseName (wording node.name)) (moduleLabel used node).text := by
  by_cases h : baseName (wording node.name) ∈ used
  · rw [moduleLabel_of_mem h]
    exact .inr ⟨h, _, Naming.isLeast_freeSuffix used _, rfl⟩
  · rw [moduleLabel_of_not_mem h]
    exact .inl ⟨h, rfl⟩

theorem probing_moduleLabel (used : List String) (node : Node L) :
    Probing used (baseName (wording node.name)) none (moduleLabel used node).suffix := by
  by_cases h : baseName (wording node.name) ∈ used
  · obtain ⟨⟨hstart, hnew⟩, hleast⟩ :=
      Naming.isLeast_freeSuffix used (baseName (wording node.name))
    obtain ⟨count, hcount⟩ := Nat.exists_eq_add_of_le hstart
    rw [moduleLabel_of_mem h]
    refine .taken h ?_
    show Probing used _ (some 2) (some (Naming.freeSuffix used _))
    rw [hcount] at hnew hleast ⊢
    refine probing_numbers (fun number htwo hsmaller => ?_) hnew
    by_contra hfree
    exact absurd (hleast ⟨htwo, hfree⟩) (Nat.not_le_of_lt hsmaller)
  · rw [moduleLabel_of_not_mem h]
    exact .found h

/-- The order of the names in use does not matter, nor whether they are repeated. -/
theorem moduleLabel_congr {others : List String} (h : ∀ name, name ∈ used ↔ name ∈ others)
    (node : Node L) : moduleLabel used node = moduleLabel others node := by
  by_cases hbase : baseName (wording node.name) ∈ used
  · have hleast := Naming.isLeast_freeSuffix used (baseName (wording node.name))
    simp only [h] at hleast
    rw [moduleLabel_of_mem hbase, moduleLabel_of_mem ((h _).1 hbase),
      hleast.unique (Naming.isLeast_freeSuffix others _)]
  · rw [moduleLabel_of_not_mem hbase, moduleLabel_of_not_mem (mt (h _).2 hbase)]

theorem probing_iff {last : Option Nat} :
    Probing used (baseName (wording node.name)) none last ↔
      last = (moduleLabel used node).suffix := by
  constructor
  · intro h
    exact h.unique (probing_moduleLabel used node)
  · rintro rfl
    exact probing_moduleLabel used node

end Module

/-! ### All modules -/

section Modules

variable {L : Type} [Label L]

/-- The names in use when a module is named are those of the modules before it. -/
theorem getElem?_assignLabels (used : List String) {nodes : List (Node L)} {place : Nat}
    {node : Node L} (h : nodes[place]? = some node) :
    (assignLabels used nodes)[place]? = some (node,
      moduleLabel ((((assignLabels used nodes).take place).map (·.2.text)).reverse ++ used)
        node) := by
  induction nodes generalizing used place with
  | nil => cases h
  | cons first nodes ih =>
    cases place with
    | zero =>
      cases h
      rfl
    | succ place =>
      rw [List.getElem?_cons_succ] at h
      rw [assignLabels, List.getElem?_cons_succ, ih _ h, List.take_succ_cons, List.map_cons,
        List.reverse_cons, List.append_assoc, List.singleton_append]

theorem assignLabels_append (used : List String) (nodes later : List (Node L)) :
    assignLabels used nodes <+: assignLabels used (nodes ++ later) := by
  induction nodes generalizing used with
  | nil => exact List.nil_prefix
  | cons node nodes ih =>
    rw [List.cons_append, assignLabels, assignLabels]
    exact List.cons_prefix_cons.2 ⟨rfl, ih _⟩

variable (programName : String) (nodes : List (Node L)) (connections : List (Connection L))

theorem map_moduleName_instructions :
    (buildSchedule programName nodes connections).instructions.map (·.moduleName) =
      (assignLabels [] (behavioral nodes)).map (·.2.text) := by
  rw [buildSchedule, scheduleInstructions, List.map_map]
  rfl

theorem map_moduleName_isPrefix (later : List (Node L)) (others : List (Connection L)) :
    (buildSchedule programName nodes connections).instructions.map (·.moduleName) <+:
      (buildSchedule programName (nodes ++ later) others).instructions.map (·.moduleName) := by
  have hnodes : behavioral (nodes ++ later) = behavioral nodes ++ behavioral later :=
    List.filter_append nodes later
  rw [map_moduleName_instructions, map_moduleName_instructions, hnodes]
  exact (assignLabels_append [] _ _).map _

/-- A module is named among those before it. -/
theorem getElem?_moduleNames {nodes : List (Node L)} {place : Nat} {node : Node L}
    (h : (behavioral nodes)[place]? = some node) :
    let names := (buildSchedule programName nodes connections).instructions.map (·.moduleName)
    names[place]? = some (moduleLabel (names.take place) node).text := by
  intro names
  have hlabels : names = (assignLabels [] (behavioral nodes)).map (·.2.text) :=
    map_moduleName_instructions programName nodes connections
  have hplace := getElem?_assignLabels [] h
  -- modules are named with the names before them in reverse
  have hused : ∀ name,
      name ∈ (((assignLabels [] (behavioral nodes)).take place).map (·.2.text)).reverse ++ [] ↔
        name ∈ names.take place := by
    intro name
    rw [List.append_nil, List.mem_reverse, List.map_take, hlabels]
  rw [moduleLabel_congr hused] at hplace
  have hname : ((assignLabels [] (behavioral nodes)).map (·.2.text))[place]? =
      some (moduleLabel (names.take place) node).text := by
    rw [List.getElem?_map, hplace]
    rfl
  rwa [← hlabels] at hname

end Modules

/-- **Module names are new, and have the least numbers.** The modules of a graph are those of its
instructions, in the order of the nodes. Their names are different identifiers. The search for the
name of a module among those of the modules before it ends, and with the number that the name has:
none if the base is new, and the least from two on that makes it new otherwise. Nodes that come
later do not change the names of the modules before them. -/
theorem moduleNames_numbered_least (programName : String) (nodes : List (Node Text))
    (connections : List (Connection Text)) :
    let instructions := (buildSchedule programName nodes connections).instructions
    let names := instructions.map (·.moduleName)
    instructions.map (·.nodeId) = (behavioral nodes).map (·.id) ∧
    names.Nodup ∧
    (∀ name ∈ names, IsIdentifier name) ∧
    (∀ place node, (behavioral nodes)[place]? = some node →
      ∃ label : ModuleLabel, names[place]? = some label.text ∧
        label.base = baseName node.name ∧
        (∀ last, Probing (names.take place) label.base none last ↔ last = label.suffix) ∧
        IsLeastName (names.take place) label.base label.text) ∧
    ∀ later others,
      names <+: (buildSchedule programName (nodes ++ later) others).instructions.map
        (·.moduleName) := by
  intro instructions names
  refine ⟨map_nodeId_scheduleInstructions _ _, nodup_moduleNames, ?_, ?_, fun later others =>
    map_moduleName_isPrefix programName nodes connections later others⟩
  · intro name hname
    obtain ⟨instruction, hinstruction, rfl⟩ := List.mem_map.1 hname
    exact isIdentifier_of_mem_instructions hinstruction
  · intro place node hnode
    have hname : names[place]? = some (moduleLabel (names.take place) node).text :=
      getElem?_moduleNames programName connections hnode
    refine ⟨moduleLabel (names.take place) node, hname, base_moduleLabel _ _, ?_, ?_⟩
    · intro last
      rw [base_moduleLabel]
      exact probing_iff
    · rw [base_moduleLabel]
      exact isLeastName_moduleLabel _ _

/-- The third instruction would have the number that the name of the second one holds already. -/
def deposits : List (Node Text) :=
  [⟨"n1", "token", "Deposit", [], []⟩, ⟨"n2", "account", "Deposit", [], []⟩,
    ⟨"n3", "token", "deposit 2", [], []⟩, ⟨"n4", "token", "Deposit!", [], []⟩]

theorem moduleNames_numbered_least_deposits :
    let names := (buildSchedule "vault" deposits []).instructions.map (·.moduleName)
    names = ["deposit", "deposit_2", "deposit_3"] ∧
    (∀ last, Probing ["deposit", "deposit_2"] "deposit" none last ↔ last = some 3) ∧
    IsLeastName ["deposit", "deposit_2"] "deposit" "deposit_3" := by
  intro names
  obtain ⟨-, -, -, hplaces, -⟩ := moduleNames_numbered_least "vault" deposits []
  have hnames : names = ["deposit", "deposit_2", "deposit_3"] := by decide
  have hthird : (behavioral deposits)[2]? = some ⟨"n4", "token", "Deposit!", [], []⟩ := by
    decide
  have hdeposit : baseName "Deposit!" = "deposit" := by decide
  have hsearch : Probing ["deposit", "deposit_2"] "deposit" none (some 3) :=
    .taken (by decide) (.taken (by decide) (.found (by decide)))
  obtain ⟨label, hlabel, hbase, hprobing, hleast⟩ := hplaces 2 _ hthird
  change names[2]? = some label.text at hlabel
  change ∀ last, Probing (names.take 2) label.base none last ↔ last = label.suffix at hprobing
  change IsLeastName (names.take 2) label.base label.text at hleast
  rw [hbase, hdeposit, hnames] at hprobing hleast
  rw [hnames] at hlabel
  have hsuffix : some 3 = label.suffix := (hprobing (some 3)).1 hsearch
  refine ⟨hnames, ?_, ?_⟩
  · rw [hsuffix]
    exact hprobing
  · rw [Option.some.inj hlabel]
    exact hleast

end ModuleGraph
