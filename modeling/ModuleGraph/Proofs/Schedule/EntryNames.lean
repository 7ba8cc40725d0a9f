import ModuleGraph.Proofs.NameDigits
import ModuleGraph.Proofs.Schedule.Numbering
import ModuleGraph.Proofs.Source.TestCalls

/-!
# The types and the test methods of instructions

The number behind the name of a module stands behind the type of its instruction too, and in the
name of its test method. Modules whose nodes give one name have different numbers, and the rest of
the type has the same digits for all of them, so that their types are different, and so are their
methods. Nothing tells apart those whose nodes give different names: types and methods have lost the
underscores that made the difference.

## Main definitions

- `numeral` — the number behind a name, as types and methods have it
- `typeBase` — what the name of a node gives for the type of its instruction

## Main statements

- `digits_typeBase` — the type and the module of a node have the same digits
- `exists_suffix_of_mem` — module and type of an instruction have one number
- `entryNames_nodup_iff` — when all instructions have different types and different methods
-/

namespace ModuleGraph

open Naming (camelCase digits digitsOf respaced)

/-- What the name of a node gives for the type of its instruction. -/
def typeBase (name : Text) : String := Naming.orElse (Naming.typeName name) "Instruction"

/-- The number behind a name, if it has one. -/
def numeral (suffix : Option Nat) : String := suffix.elim "" toString

/-! ### Numbers -/

theorem numeral_injective : Function.Injective numeral := by
  have hnumber : ∀ number : Nat, toString number ≠ "" := by
    intro number hempty
    rw [Nat.toString_eq_ofList_toDigits] at hempty
    exact Nat.toDigits_ne_nil (String.ofList_injective hempty)
  intro first second h
  cases first with
  | none =>
    cases second with
    | none => rfl
    | some number => exact absurd h.symm (hnumber number)
  | some first =>
    cases second with
    | none => exact absurd h (hnumber first)
    | some second =>
      exact congrArg some (Naming.suffixed_injective "" (congrArg ("" ++ "_" ++ ·) h))

theorem digits_numeral (suffix : Option Nat) :
    digits (numeral suffix) = (numeral suffix).toList := by
  cases suffix with
  | none => rfl
  | some number => exact List.filter_eq_self.2 fun _ => Naming.isAsciiDigit_of_mem_toString

theorem digits_baseName (name : Text) : digits (baseName name) = digitsOf name := by
  rw [baseName, Naming.digits_orElse (by decide), Naming.digits_moduleName]

theorem digits_typeBase (name : Text) : digits (typeBase name) = digits (baseName name) := by
  rw [digits_baseName, typeBase, Naming.digits_orElse (by decide), Naming.digits_typeName]

theorem respaced_text (label : ModuleLabel) :
    respaced label.text = respaced label.base ++ (numeral label.suffix).toList := by
  obtain ⟨base, suffix⟩ := label
  cases suffix with
  | none => exact (List.append_nil _).symm
  | some number => exact Naming.respaced_suffixed base number

/-! ### Instructions -/

section Instructions

variable {L : Type} [Label L] {programName : String} {nodes : List (Node L)}
  {connections : List (Connection L)} {instruction first second : Instruction L}

/-- The module and the type of an instruction have one number. -/
theorem exists_suffix_of_mem
    (h : instruction ∈ (buildSchedule programName nodes connections).instructions) :
    ∃ suffix, instruction.moduleName = ModuleLabel.text ⟨baseName instruction.nodeName, suffix⟩ ∧
      instruction.typeName = typeBase instruction.nodeName ++ numeral suffix := by
  obtain ⟨⟨node, label⟩, hentry, rfl⟩ := List.mem_map.1 h
  obtain ⟨used, -, hlabel⟩ := exists_used_of_mem_assignLabels hentry
  have hbase : label.base = baseName (Label.wording node.name) :=
    (congrArg ModuleLabel.base hlabel).trans (base_moduleLabel used node)
  refine ⟨label.suffix, ?_, ?_⟩
  · show label.text = ModuleLabel.text ⟨baseName (Label.wording node.name), label.suffix⟩
    rw [← hbase]
  · show instructionType node label = typeBase (Label.wording node.name) ++ numeral label.suffix
    rw [instructionType]
    split
    · rename_i number hsuffix
      rw [hsuffix]
      rfl
    · rename_i hsuffix
      rw [hsuffix]
      exact (String.append_empty ..).symm

/-- The number tells instructions apart whose nodes give one name. -/
theorem entryNames_ne
    (hfirst : first ∈ (buildSchedule programName nodes connections).instructions)
    (hsecond : second ∈ (buildSchedule programName nodes connections).instructions)
    (hmodules : first.moduleName ≠ second.moduleName)
    (hbase : baseName first.nodeName = baseName second.nodeName) :
    first.typeName ≠ second.typeName ∧
      camelCase first.moduleName ≠ camelCase second.moduleName := by
  have hplain : ∀ {instruction},
      instruction ∈ (buildSchedule programName nodes connections).instructions →
        Naming.IsPlain instruction.moduleName :=
    fun h => (isIdentifier_of_mem_instructions h).isPlain
  have hmethods := Naming.camelCase_eq_iff (hplain hfirst) (hplain hsecond)
  obtain ⟨suffix, hmodule, htype⟩ := exists_suffix_of_mem hfirst
  obtain ⟨suffix', hmodule', htype'⟩ := exists_suffix_of_mem hsecond
  have hsuffix : (numeral suffix).toList ≠ (numeral suffix').toList := by
    intro h
    rw [numeral_injective (String.toList_injective h), hbase, ← hmodule'] at hmodule
    exact hmodules hmodule
  constructor
  · -- what stands before the numbers has the same digits, whatever its letters are
    intro h
    rw [htype, htype'] at h
    have hdigits := congrArg digits h
    rw [Naming.digits_append, Naming.digits_append, digits_typeBase, digits_typeBase, hbase,
      digits_numeral, digits_numeral] at hdigits
    exact hsuffix (List.append_cancel_left hdigits)
  · rw [ne_eq, hmethods, hmodule, hmodule', respaced_text, respaced_text, hbase]
    exact fun h => hsuffix (List.append_cancel_left h)

end Instructions

/-! ### Types and methods -/

/-- Two nodes whose names differ in nothing but a space. -/
def spacedDeposits : List (Node Text) :=
  [⟨"n1", "token", "Deposit 2", [], []⟩, ⟨"n2", "token", "Deposit2", [], []⟩]

/-- Their modules have different names, but their types and their methods have not. -/
theorem entryNames_clash_spacedDeposits :
    ¬ ((buildSchedule (programNameOf none) spacedDeposits []).instructions.map
        (·.typeName)).Nodup ∧
      ¬ (Source.calledMethods (compile spacedDeposits [] none).tests).Nodup := by
  have htypes : (buildSchedule (programNameOf none) spacedDeposits []).instructions.map
      (·.typeName) = ["Deposit2", "Deposit2"] := by decide
  have hmethods : Source.calledMethods (compile spacedDeposits [] none).tests =
      ["deposit2", "deposit2"] := by
    rw [calledMethods_tests]
    decide
  rw [htypes, hmethods]
  decide

/-- **When the types and the test methods of all instructions are different.** The type of an
instruction has the number of its module. The tests call the methods of the instructions, one each,
and a method is the name of the module in camel case. Instructions whose nodes give one name always
have different types and different methods. So all types are different exactly if those are of
instructions whose nodes give different names; and all methods are exactly if no two modules have
names that differ in nothing but underscores that no letter follows. -/
theorem entryNames_nodup_iff (nodes : List (Node Text)) (connections : List (Connection Text))
    (requested : Option Text) :
    let instructions := (buildSchedule (programNameOf requested) nodes connections).instructions
    let types := instructions.map (·.typeName)
    let methods := Source.calledMethods (compile nodes connections requested).tests
    (∀ instruction ∈ instructions, ∃ suffix,
      instruction.moduleName = ModuleLabel.text ⟨baseName instruction.nodeName, suffix⟩ ∧
        instruction.typeName = typeBase instruction.nodeName ++ numeral suffix) ∧
    methods = instructions.map (fun instruction => camelCase instruction.moduleName) ∧
    (instructions.Pairwise fun first second =>
      baseName first.nodeName = baseName second.nodeName →
        first.typeName ≠ second.typeName ∧
          camelCase first.moduleName ≠ camelCase second.moduleName) ∧
    (types.Nodup ↔ instructions.Pairwise fun first second =>
      baseName first.nodeName ≠ baseName second.nodeName → first.typeName ≠ second.typeName) ∧
    (methods.Nodup ↔
      (instructions.map fun instruction => respaced instruction.moduleName).Nodup) := by
  intro instructions types methods
  have hmethods : methods = instructions.map fun instruction => camelCase instruction.moduleName :=
    calledMethods_tests nodes connections requested
  have hmodules : instructions.Pairwise fun first second => first.moduleName ≠ second.moduleName :=
    List.pairwise_map.1 nodup_moduleNames
  have hpairs : instructions.Pairwise fun first second =>
      baseName first.nodeName = baseName second.nodeName →
        first.typeName ≠ second.typeName ∧
          camelCase first.moduleName ≠ camelCase second.moduleName :=
    hmodules.imp_of_mem entryNames_ne
  refine ⟨fun _ => exists_suffix_of_mem, hmethods, hpairs, ?_, ?_⟩
  · rw [List.Nodup, List.pairwise_map]
    constructor
    · intro hnew
      refine hnew.imp fun hne => ?_
      exact fun _ => hne
    · intro hothers
      refine (hpairs.and hothers).imp fun {first second} ⟨hsame, hother⟩ => ?_
      by_cases hbase : baseName first.nodeName = baseName second.nodeName
      · exact (hsame hbase).1
      · exact hother hbase
  · rw [hmethods, List.Nodup, List.Nodup, List.pairwise_map, List.pairwise_map]
    refine List.Pairwise.iff_of_mem fun hfirst hsecond => not_congr (Naming.camelCase_eq_iff ?_ ?_)
    · exact (isIdentifier_of_mem_instructions hfirst).isPlain
    · exact (isIdentifier_of_mem_instructions hsecond).isPlain

/-- Nodes whose names all give one name. -/
def namesakes : List (Node Text) :=
  [⟨"n1", "token", "Deposit", [], []⟩, ⟨"n2", "token", "Deposit", [], []⟩,
    ⟨"n3", "token", "Deposit!", [], []⟩]

theorem entryNames_nodup_namesakes :
    let instructions := (buildSchedule (programNameOf none) namesakes []).instructions
    (instructions.map (·.typeName)).Nodup ∧
      Source.calledMethods (compile namesakes [] none).tests =
        ["deposit", "deposit2", "deposit3"] := by
  intro instructions
  obtain ⟨-, hmethods, hpairs, htypes, -⟩ := entryNames_nodup_iff namesakes [] none
  have hbase : ∀ instruction ∈ instructions, baseName instruction.nodeName = "deposit" := by
    decide
  refine ⟨htypes.2 ?_, hmethods.trans (by decide)⟩
  refine hpairs.imp_of_mem fun hfirst hsecond _ hother => ?_
  exact absurd ((hbase _ hfirst).trans (hbase _ hsecond).symm) hother

end ModuleGraph
