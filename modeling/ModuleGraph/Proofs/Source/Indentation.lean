import ModuleGraph.Proofs.Source.Declarations
import ModuleGraph.Source.Program

/-!
# Indentation

A step that moves the lines out does nothing at the margin, so that what a script writes depends on
where it begins. It does not if no part of the script from its beginning moves out further than it
moved in: then the lines of a script that begins further in are those of the script at the margin,
moved in. The scripts of a workspace are of this sort, and end where they began. An empty line is a
line here, and lines that are written together are as many steps.

## Main definitions

- `Script.StaysIn` — a script that never moves out beyond where it began
- `Script.Balanced` — such a script that ends where it began
- `scriptsOf` — the scripts that the files of a schedule are made of

## Main statements

- `indented_indented` — a line that is moved in twice
- `Script.StaysIn.lines_run`, `Script.StaysIn.depth_run` — a script that begins further in
- `Script.StaysIn.depth_pos` — where such a script moves out, it is not at the margin
- `Script.Balanced.append`, `Script.Balanced.within`, `Script.Balanced.block` — parts of scripts
- `indentation_compositional` — both for all scripts and for those of a workspace
-/

namespace ModuleGraph.Source

/-! ### Lines -/

theorem repeated_add (text : Text) (first second : Nat) :
    repeated text (first + second) = repeated text first ++ repeated text second := by
  rw [repeated, List.replicate_add, List.flatten_append, repeated, repeated]

/-- A line that is moved in twice is moved in by the sum of both. -/
theorem indented_indented (style : Style) (first second : Nat) (text : Text) :
    Page.indented style first (Page.indented style second text) =
      Page.indented style (first + second : Nat) text := by
  cases text with
  | nil => rfl
  | cons symbol text =>
    have hsaid : (repeated style.unit second ++ symbol :: text).isEmpty = false := by simp
    simp only [Page.indented, List.isEmpty_cons, Bool.false_eq_true, if_false, Int.toNat_natCast,
      hsaid, repeated_add, List.append_assoc]

/-! ### Pushes and pops -/

/-- Whether a step writes a line. -/
def Step.writes : Step → Bool
  | .line _ | .comment _ => true
  | .push | .pop => false

@[simp] theorem writes_line (text : Text) : (Step.line text).writes = true := rfl

@[simp] theorem writes_comment (text : Text) : (Step.comment text).writes = true := rfl

@[simp] theorem writes_blank : Step.blank.writes = true := rfl

namespace Script

variable {script first second : Script}

/-- No part of the script from its beginning has more steps out than steps in. -/
def StaysIn (script : Script) : Prop :=
  ∀ before, before <+: script → before.count .pop ≤ before.count .push

instance (script : Script) : Decidable (StaysIn script) :=
  decidable_of_iff (∀ before ∈ script.inits, before.count .pop ≤ before.count .push)
    (by simp only [List.mem_inits, StaysIn])

theorem StaysIn.of_prefix {before : Script} (h : StaysIn script) (hbefore : before <+: script) :
    StaysIn before :=
  fun part hpart => h part (hpart.trans hbefore)

/-- A script that never moves out beyond where it began, and ends there. -/
structure Balanced (script : Script) : Prop where
  staysIn : StaysIn script
  level : script.count .push = script.count .pop

instance (script : Script) : Decidable (Balanced script) :=
  decidable_of_iff (StaysIn script ∧ script.count .push = script.count .pop)
    ⟨fun h => ⟨h.1, h.2⟩, fun h => ⟨h.staysIn, h.level⟩⟩

/-! ### Pages -/

section Pages

variable {style : Style}

/-- A page further in: its lines are moved in, and so are those to come. -/
structure Inset (style : Style) (depth : Nat) (margin page : Page) : Prop where
  written : page.written = margin.written.map (Page.indented style depth)
  depth : page.depth = depth + margin.depth

theorem Inset.write {depth level : Nat} {margin page : Page} (h : Inset style depth margin page)
    (hlevel : margin.depth = level) (text : Text) :
    Inset style depth (margin.write style text) (page.write style text) where
  written := by
    have hline : Page.indented style page.depth text =
        Page.indented style depth (Page.indented style margin.depth text) := by
      rw [h.depth, hlevel, indented_indented, Int.natCast_add]
    rw [Page.write, Page.write, hline, h.written, List.map_cons]
  depth := h.depth

/-- The pages stay that far apart at every step, unless one is at the margin when it is to move
out. -/
theorem Inset.step {depth level : Nat} {margin page : Page} (h : Inset style depth margin page)
    (hlevel : margin.depth = level) {step : Step} (hstep : step = .pop → 0 < level) :
    Inset style depth (margin.step style step) (page.step style step) := by
  cases step with
  | line text => exact h.write hlevel text
  | comment text => exact h.write hlevel _
  | push => exact ⟨h.written, by rw [Page.step, Page.step, h.depth, Int.add_assoc]⟩
  | pop =>
    refine ⟨h.written, ?_⟩
    have hpos := hstep rfl
    have hdepth := h.depth
    simp only [Page.step]
    omega

/-- The depth at the end of a script that never moves out beyond where it began. -/
theorem StaysIn.depth_run (h : StaysIn script) (depth : Nat) :
    ((Page.start depth).run style script).depth =
      depth + script.count .push - script.count .pop := by
  induction script using List.reverseRecOn with
  | nil => simp [Page.run, Page.start]
  | append_singleton script step ih =>
    have hpops := h (script ++ [step]) (List.prefix_refl _)
    rw [Page.run_append]
    rw [List.count_append, List.count_append] at hpops ⊢
    have hbefore := ih (h.of_prefix (List.prefix_append script [step]))
    cases step with
    | line text | comment text => simpa [Page.run, Page.step, Page.write] using hbefore
    | push =>
      simp only [Page.run, List.foldl_cons, List.foldl_nil, Page.step] at hbefore ⊢
      simp
      omega
    | pop =>
      simp only [Page.run, List.foldl_cons, List.foldl_nil, Page.step] at hbefore ⊢
      simp at hpops ⊢
      omega

/-- A script that begins further in writes its lines further in. -/
theorem StaysIn.inset_run (h : StaysIn script) (depth : Nat) :
    Inset style depth ((Page.start 0).run style script) ((Page.start depth).run style script) := by
  induction script using List.reverseRecOn with
  | nil => exact ⟨rfl, (Int.add_zero _).symm⟩
  | append_singleton script step ih =>
    have hscript : StaysIn script := h.of_prefix (List.prefix_append script [step])
    have hpops := h (script ++ [step]) (List.prefix_refl _)
    rw [List.count_append, List.count_append] at hpops
    -- the script has moved in before it moves out
    have hlevel : ((Page.start 0).run style script).depth =
        (script.count .push - script.count .pop : Nat) := by
      have hdepth : ((Page.start 0).run style script).depth =
          0 + script.count .push - script.count .pop := hscript.depth_run 0
      have hbefore := hscript script (List.prefix_refl _)
      omega
    rw [Page.run_append, Page.run_append]
    refine (ih hscript).step hlevel ?_
    rintro rfl
    simp at hpops
    omega

theorem StaysIn.lines_run (h : StaysIn script) (depth : Nat) :
    ((Page.start depth).run style script).lines =
      ((Page.start 0).run style script).lines.map (Page.indented style depth) := by
  rw [Page.lines, (h.inset_run depth).written, Page.lines, List.map_reverse]

/-- Where such a script moves out, it is not at the margin. -/
theorem StaysIn.depth_pos {before after : Script} (h : StaysIn (before ++ Step.pop :: after))
    (depth : Nat) : 0 < ((Page.start depth).run style before).depth := by
  have hpops := h (before ++ [Step.pop]) ⟨after, by simp⟩
  rw [(h.of_prefix (List.prefix_append _ _)).depth_run]
  simp at hpops
  omega

end Pages

/-! ### Parts of scripts -/

theorem balanced_nil : Balanced [] := by decide

theorem Balanced.append (hfirst : Balanced first) (hsecond : Balanced second) :
    Balanced (first ++ second) where
  staysIn := by
    intro before hbefore
    obtain hearly | hlate :=
      List.prefix_or_prefix_of_prefix hbefore (List.prefix_append first second)
    · exact hfirst.staysIn before hearly
    · obtain ⟨part, rfl⟩ := hlate
      have hlevel := hfirst.level
      have hpart := hsecond.staysIn part ((List.prefix_append_right_inj first).1 hbefore)
      rw [List.count_append, List.count_append]
      omega
  level := by rw [List.count_append, List.count_append, hfirst.level, hsecond.level]

theorem balanced_flatMap {α : Type} {xs : List α} {part : α → Script}
    (h : ∀ x ∈ xs, Balanced (part x)) : Balanced (xs.flatMap part) := by
  induction xs with
  | nil => exact balanced_nil
  | cons x xs ih =>
    rw [List.forall_mem_cons] at h
    exact h.1.append (ih h.2)

theorem balanced_join {scripts : List Script} (h : ∀ script ∈ scripts, Balanced script) :
    Balanced (.join scripts) := by
  rw [Script.join, ← List.flatMap_id]
  exact balanced_flatMap h

/-- A script that only writes lines is balanced. -/
theorem balanced_lines (h : script.all Step.writes = true) : Balanced script := by
  have hcount : ∀ part : Script, part <+: script → part.count .push = 0 ∧ part.count .pop = 0 := by
    intro part hpart
    have hwrites : ∀ step ∈ part, step.writes = true := fun step hstep =>
      List.all_eq_true.1 h step (hpart.subset hstep)
    rw [List.count_eq_zero, List.count_eq_zero]
    exact ⟨fun hpush => absurd (hwrites _ hpush) (by decide),
      fun hpop => absurd (hwrites _ hpop) (by decide)⟩
  refine ⟨fun before hbefore => ?_, ?_⟩
  · rw [(hcount before hbefore).1, (hcount before hbefore).2]
  · obtain ⟨hpush, hpop⟩ := hcount script (List.prefix_refl _)
    rw [hpush, hpop]

theorem balanced_map_lines {α : Type} {part : α → Step} (h : ∀ x, (part x).writes = true)
    (xs : List α) : Balanced (xs.map part) := by
  refine balanced_lines ?_
  rw [List.all_map, List.all_eq_true]
  exact fun x _ => h x

/-- A balanced script that is moved in, and out again behind it. -/
theorem Balanced.within (h : Balanced script) : Balanced (Step.push :: (script ++ [Step.pop])) where
  staysIn := by
    intro before hbefore
    obtain rfl | ⟨part, rfl, hpart⟩ := List.prefix_cons_iff.1 hbefore
    · exact Nat.le_refl _
    · obtain rfl | hpart := List.prefix_concat_iff.1 hpart
      · simp [h.level]
      · have hinner := h.staysIn part hpart
        simp
        omega
  level := by simp [h.level]

/-- A block between two lines is balanced if what stands within it is. -/
theorem Balanced.block {opening closing : Text} (h : Balanced script) :
    Balanced (block opening script closing) := by
  have hopening : Balanced [.line opening] := balanced_lines rfl
  have hclosing : Balanced [.line closing] := balanced_lines rfl
  have hblock : Source.block opening script closing =
      [Step.line opening] ++ (Step.push :: (script ++ [Step.pop]) ++ [Step.line closing]) := by
    simp [Source.block, Script.join]
  rw [hblock]
  exact hopening.append (h.within.append hclosing)

end Script

/-! ### The scripts of a workspace -/

section Workspaces

open Script

variable {L : Type}

theorem balanced_logic (category : Category) (accounts : List (BoundAccount L)) :
    Balanced (category.logic accounts) := by
  cases category with
  | validator =>
    have hchecks : Balanced (accounts.map Category.accountCheck) :=
      balanced_map_lines (fun _ => rfl) accounts
    exact (balanced_lines rfl).append hchecks
  | token | nft | defi | governance | start | custom => exact balanced_lines rfl

theorem balanced_updates (accounts : List (BoundAccount L)) : Balanced (updates accounts) := by
  cases accounts with
  | nil => exact balanced_nil
  | cons account accounts =>
    have hupdates : Balanced ((account :: accounts).flatMap accountUpdate) :=
      balanced_flatMap fun account _ => balanced_lines rfl
    exact balanced_join (List.forall_mem_cons.2
      ⟨balanced_lines rfl, List.forall_mem_singleton.2 hupdates⟩)

@[simp] theorem writes_predecessorLine (predecessors : List Text) :
    (predecessorLine predecessors).writes = true := by
  cases predecessors <;> rfl

@[simp] theorem writes_importLine (accounts : List (BoundAccount L)) :
    (importLine accounts).writes = true := by
  cases accounts <;> rfl

theorem balanced_entryFunction (instruction : Instruction L) :
    Balanced (entryFunction instruction) := by
  have hannouncement : Balanced (announcement instruction) :=
    balanced_lines (by simp [announcement])
  refine Balanced.block (balanced_join ?_)
  simp only [List.forall_mem_cons]
  exact ⟨hannouncement, balanced_logic _ _, balanced_updates _, balanced_lines rfl,
    List.forall_mem_nil _⟩

theorem balanced_accountsStruct (instruction : Instruction L) :
    Balanced (accountsStruct instruction) := by
  have hattribute : Balanced [.line "#[derive(Accounts)]"] := balanced_lines rfl
  have hfields : Balanced (instruction.boundAccounts.flatMap accountField) :=
    balanced_flatMap fun account _ => balanced_lines rfl
  refine hattribute.append (Balanced.block (balanced_join ?_))
  exact List.forall_mem_cons.2 ⟨hfields, List.forall_mem_singleton.2 (balanced_lines rfl)⟩

theorem balanced_instructionScript (instruction : Instruction L) :
    Balanced (instructionScript instruction) := by
  have himports : Balanced
      [.line "use anchor_lang::prelude::*;", importLine instruction.boundAccounts, .blank] :=
    balanced_lines (by simp)
  refine balanced_join ?_
  simp only [List.forall_mem_cons]
  exact ⟨himports, balanced_entryFunction instruction, balanced_lines rfl,
    balanced_accountsStruct instruction, List.forall_mem_nil _⟩

theorem balanced_accountScript (account : Account L) : Balanced (accountScript account) := by
  have hfields : Balanced (recordFields.map (recordLine account.connectionCount)) := by
    refine balanced_map_lines (fun field => ?_) recordFields
    rw [recordLine]
    split <;> rfl
  have hsize : Balanced [.line ("pub const LEN: usize = " ++ recordSize ++ ";")] :=
    balanced_lines rfl
  refine balanced_join ?_
  simp only [List.forall_mem_cons]
  exact ⟨balanced_lines rfl, hfields.block, balanced_lines rfl, hsize.block, List.forall_mem_nil _⟩

theorem balanced_moduleDeclarations (instructions : List (Instruction L)) :
    Balanced (moduleDeclarations instructions) := by
  cases instructions with
  | nil => exact balanced_nil
  | cons instruction instructions =>
    exact balanced_join (List.forall_mem_cons.2 ⟨balanced_map_lines (fun _ => rfl) _,
      List.forall_mem_singleton.2 (balanced_lines rfl)⟩)

theorem balanced_programBlock (schedule : Schedule L) : Balanced (programBlock schedule) := by
  have hattribute : Balanced [.line "#[program]"] := balanced_lines rfl
  have hexports : Balanced (schedule.instructions.map fun instruction =>
      .line ("pub use " ++ instruction.moduleName ++ "::*;")) :=
    balanced_map_lines (fun _ => rfl) _
  refine hattribute.append (Balanced.block (balanced_join ?_))
  simp only [List.forall_mem_cons]
  exact ⟨balanced_lines rfl, hexports, balanced_lines rfl, balanced_lines rfl,
    List.forall_mem_nil _⟩

theorem balanced_crateScript (schedule : Schedule L) : Balanced (crateScript schedule) := by
  have haccounts : Balanced (schedule.accounts.flatMap fun account =>
      Script.join [accountScript account, [.blank]]) :=
    balanced_flatMap fun account _ => balanced_join (List.forall_mem_cons.2
      ⟨balanced_accountScript account, List.forall_mem_singleton.2 (balanced_lines rfl)⟩)
  refine balanced_join ?_
  simp only [List.forall_mem_cons]
  exact ⟨balanced_lines rfl, balanced_moduleDeclarations _, balanced_programBlock schedule,
    balanced_lines rfl, haccounts, balanced_lines rfl, balanced_lines rfl, List.forall_mem_nil _⟩

/-! ### Test suites -/

theorem balanced_callTail (accounts : List Text) : Balanced (callTail accounts) := by
  have haccounts : Balanced (accounts.map .line) := balanced_map_lines (fun _ => rfl) accounts
  have hsend : Balanced [.line ".rpc();"] := balanced_lines rfl
  have htail : callTail accounts =
      Step.push :: (block ".accounts(\x7b" (accounts.map Step.line) "\x7d)" ++
        [Step.line ".rpc();"] ++ [Step.pop]) := by
    simp [callTail, Script.join]
  rw [htail]
  exact (haccounts.block.append hsend).within

theorem balanced_testAttempt (name : Text) (method : String) :
    Balanced (testAttempt name method) := by
  refine balanced_join ?_
  simp only [List.forall_mem_cons]
  exact ⟨balanced_lines rfl, balanced_callTail _, balanced_lines rfl, balanced_callTail _,
    balanced_lines rfl, List.forall_mem_nil _⟩

/-- A test moves in behind the lines that begin its attempt and its failure, and out again before
those that end them. -/
theorem balanced_testCase (instruction : Instruction L) : Balanced (testCase instruction) := by
  have hattempt := (balanced_testAttempt (literal instruction.nodeName)
    (Naming.camelCase instruction.moduleName)).within
  have hfailure : Balanced (testFailure (literal instruction.nodeName)) := balanced_lines rfl
  have hbegin : ∀ comment opening : Text, Balanced [.comment comment, .line opening] :=
    fun _ _ => balanced_lines rfl
  have hline : ∀ text : Text, Balanced [.line text] := fun _ => balanced_lines rfl
  have hbody := (hbegin ("Test " ++ literal instruction.nodeName ++
    " instruction with connection validation") "try \x7b").append (hattempt.append
      ((hline "\x7d catch (error) \x7b").append (hfailure.within.append (hline "\x7d"))))
  rw [testCase]
  refine Balanced.block ?_
  simpa [Script.join] using hbody

theorem balanced_integrationTest (order : List Text) : Balanced (integrationTest order) := by
  have hloop : Balanced executionLoop := Balanced.block (balanced_lines rfl)
  have hwalk : Balanced (executionWalk order) := by
    refine balanced_join ?_
    simp only [List.forall_mem_cons]
    exact ⟨balanced_lines rfl, hloop, balanced_lines rfl, List.forall_mem_nil _⟩
  exact hwalk.block.block

theorem balanced_integrationPart (schedule : Schedule L) : Balanced (integrationPart schedule) := by
  rw [integrationPart]
  split
  · have hblank : Balanced [.blank] := balanced_lines rfl
    exact hblank.append (balanced_integrationTest _)
  · exact balanced_nil

theorem balanced_suiteSetup (program type : String) : Balanced (suiteSetup program type) := by
  have hbefore : Balanced (block "before(async () => \x7b"
      [.line ("console.log(\"Starting " ++ program ++ " tests\");"),
        .line "console.log(\"Program ID:\", program.programId.toString());"] "\x7d);") :=
    Balanced.block (balanced_lines rfl)
  refine balanced_join ?_
  simp only [List.forall_mem_cons]
  exact ⟨balanced_lines rfl, hbefore, List.forall_mem_nil _⟩

theorem balanced_suiteScript (schedule : Schedule L) : Balanced (suiteScript schedule) := by
  have htests : Balanced (schedule.instructions.flatMap fun instruction =>
      .blank :: testCase instruction) := by
    refine balanced_flatMap fun instruction _ => ?_
    have hblank : Balanced [.blank] := balanced_lines rfl
    exact hblank.append (balanced_testCase instruction)
  have hsuite : Balanced (.join
      [suiteSetup schedule.programName (Naming.pascalCase schedule.programName),
        schedule.instructions.flatMap fun instruction => .blank :: testCase instruction,
        integrationPart schedule]) := by
    refine balanced_join ?_
    simp only [List.forall_mem_cons]
    exact ⟨balanced_suiteSetup _ _, htests, balanced_integrationPart schedule,
      List.forall_mem_nil _⟩
  refine balanced_join ?_
  simp only [List.forall_mem_cons]
  exact ⟨balanced_lines rfl, balanced_lines rfl, hsuite.block, List.forall_mem_nil _⟩

/-- The scripts that the files of a schedule are made of: those of the program crate, and those of
the test suite. -/
def scriptsOf (schedule : Schedule L) : List Script :=
  schedule.instructions.map instructionScript ++ schedule.accounts.map accountScript ++
    [crateScript schedule] ++ schedule.instructions.map testCase ++
    [integrationTest schedule.flow.executionOrder, suiteScript schedule]

theorem balanced_of_mem_scriptsOf {schedule : Schedule L} {script : Script}
    (h : script ∈ scriptsOf schedule) : Balanced script := by
  simp only [scriptsOf, List.mem_append, List.mem_map, List.mem_cons, List.not_mem_nil,
    or_false] at h
  obtain (((⟨instruction, -, rfl⟩ | ⟨account, -, rfl⟩) | rfl) | ⟨instruction, -, rfl⟩) |
    rfl | rfl := h
  · exact balanced_instructionScript instruction
  · exact balanced_accountScript account
  · exact balanced_crateScript schedule
  · exact balanced_testCase instruction
  · exact balanced_integrationTest _
  · exact balanced_suiteScript schedule

end Workspaces

/-- **Indentation is compositional.** A script that never moves out beyond where it began writes the
same lines further in as at the margin, each but the empty ones with as many units before it, and
ends as far in as it has more steps in than out. Every script of a workspace is of this sort and has
as many steps in as out, so that none of its steps out is taken at the margin. -/
theorem indentation_compositional (style : Style) (depth : Nat) :
    (∀ script : Script, script.StaysIn →
      let margin := (Page.start 0).run style script
      let page := (Page.start depth).run style script
      page.lines = margin.lines.map (Page.indented style depth) ∧
      page.depth = depth + script.count .push - script.count .pop) ∧
    ∀ {L : Type} (schedule : Schedule L), ∀ script ∈ scriptsOf schedule,
      script.StaysIn ∧ script.count .push = script.count .pop ∧
      ∀ before after, script = before ++ .pop :: after →
        0 < ((Page.start depth).run style before).depth := by
  refine ⟨fun script h => ⟨h.lines_run depth, h.depth_run depth⟩, fun schedule script hscript => ?_⟩
  have hbalanced : script.Balanced := balanced_of_mem_scriptsOf hscript
  refine ⟨hbalanced.staysIn, hbalanced.level, ?_⟩
  rintro before after rfl
  exact hbalanced.staysIn.depth_pos depth

/-- A script that moves in twice, writes an empty line there, and moves out once. -/
def nestedLoops : Script :=
  [.line "for a \x7b", .push, .line "for b \x7b", .push, .blank, .comment "c", .pop, .line "\x7d"]

/-- The loops two steps further in; and the record of an account, whose first step out is taken one
step in from where the record began. -/
theorem indentation_compositional_nestedLoops :
    let record : Account Text := ⟨"v", "Vault", "Vault", 1⟩
    let fields : Script := (accountScript record).take 7
    nestedLoops.StaysIn ∧
    ((Page.start 2).run .narrow nestedLoops).lines =
      ["    for a \x7b", "      for b \x7b", "", "        // c", "      \x7d"] ∧
    ((Page.start 2).run .narrow nestedLoops).depth = 3 ∧
    accountScript record = fields ++ .pop :: (accountScript record).drop 8 ∧
    (accountScript record).count .push = (accountScript record).count .pop ∧
    0 < ((Page.start 2).run .narrow fields).depth := by
  intro record fields
  obtain ⟨hscripts, hworkspace⟩ := indentation_compositional .narrow 2
  have hloops : nestedLoops.StaysIn := by decide
  obtain ⟨hlines, hdepth⟩ := hscripts nestedLoops hloops
  have hrecord : accountScript record ∈
      scriptsOf (⟨"vault", [], [record], .empty, false⟩ : Schedule Text) := by
    simp [scriptsOf]
  have hsplit : accountScript record = fields ++ .pop :: (accountScript record).drop 8 := by rfl
  obtain ⟨-, hlevel, hpops⟩ := hworkspace _ (accountScript record) hrecord
  refine ⟨hloops, ?_, ?_, hsplit, hlevel, hpops fields _ hsplit⟩
  · exact hlines.trans (by decide)
  · exact hdepth.trans (by decide)

end ModuleGraph.Source
