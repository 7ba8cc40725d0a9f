import Mathlib.Data.Set.Operations
import ModuleGraph.Proofs.CamelCase

/-!
# The names that are made

The name of a module and the name of a type are made from any text, and making a name from a name
leaves it as it is: the names that are made are the identifiers, and the empty name where nothing is
left of a text. So a program may be compiled once more under the name that it was given.

## Main definitions

- `IsTypeIdentifier` — an identifier in which capitals are allowed
- `ProjectsOnto` — a way to make names that keeps the names of a set and makes no others

## Main statements

- `IsMadeOf.guardDigit_eq` — characters that are kept as they are
- `isMadeOf_toList_iff` — what the names that are made look like
- `moduleChars_ofChars` — lower case and white space do not matter for the names of modules
- `projectsOnto_moduleName`, `projectsOnto_typeName` — the two ways to make names
- `programNameOf_programNameOf` — the name of a program is kept
- `names_made_once` — what this says about names, and about compiling
-/

namespace ModuleGraph

namespace Naming

/-! ### What is kept -/

/-- Nothing is taken from the characters of a name, and nothing is put in front of them. -/
theorem IsMadeOf.guardDigit_eq {p : Char → Bool} {cs : List Char} (h : IsMadeOf p cs) :
    guardDigit (charsWhere p (Text.ofChars cs)) = cs := by
  rw [charsWhere_ofChars, List.filter_eq_self.2 h.allowed]
  cases cs with
  | nil => rfl
  | cons c cs => rw [guardDigit, if_neg (by simpa using h.first)]

/-! ### Identifiers -/

/-- A name that begins with a letter or an underscore, and goes on with letters, digits and
underscores. -/
def IsTypeIdentifier (name : String) : Prop :=
  ∃ c cs, name.toList = c :: cs ∧ (('a' ≤ c ∧ c ≤ 'z') ∨ ('A' ≤ c ∧ c ≤ 'Z') ∨ c = '_') ∧
    ∀ d ∈ cs, isTypeChar d = true

/-- The characters that may stand in front are those allowed, but for the digits. -/
theorem isModuleChar_not_digit_iff {c : Char} :
    isModuleChar c = true ∧ isAsciiDigit c = false ↔ ('a' ≤ c ∧ c ≤ 'z') ∨ c = '_' := by
  constructor
  · rintro ⟨hallowed, hdigit⟩
    exact (isModuleChar_iff.1 hallowed).resolve_right (by simp [hdigit])
  · intro hfirst
    have hallowed := isModuleChar_iff.2 (.inl hfirst)
    exact ⟨hallowed, forall_ascii
      (p := fun c => ('a' ≤ c ∧ c ≤ 'z') ∨ c = '_' → isAsciiDigit c = false) (by decide)
      (lt_of_isModuleChar hallowed) hfirst⟩

theorem isTypeChar_iff {c : Char} :
    isTypeChar c = true ↔ isModuleChar c = true ∨ ('A' ≤ c ∧ c ≤ 'Z') := by
  simp only [isTypeChar, Bool.or_eq_true, Bool.and_eq_true, decide_eq_true_eq]

theorem isTypeChar_not_digit_iff {c : Char} :
    isTypeChar c = true ∧ isAsciiDigit c = false ↔
      ('a' ≤ c ∧ c ≤ 'z') ∨ ('A' ≤ c ∧ c ≤ 'Z') ∨ c = '_' := by
  have hcapital : 'A' ≤ c ∧ c ≤ 'Z' → isAsciiDigit c = false := fun h =>
    forall_ascii (p := fun c => 'A' ≤ c ∧ c ≤ 'Z' → isAsciiDigit c = false) (by decide)
      (lt_of_isTypeChar (isTypeChar_iff.2 (.inr h))) h
  have hsmall := isModuleChar_not_digit_iff (c := c)
  rw [isTypeChar_iff, or_and_right, hsmall, and_iff_left_of_imp hcapital]
  tauto

/-- Names made of characters of one sort, by what may stand in front. -/
theorem isMadeOf_toList_iff {p : Char → Bool} {front : Char → Prop}
    (hfront : ∀ {c}, p c = true ∧ isAsciiDigit c = false ↔ front c) {name : String} :
    IsMadeOf p name.toList ↔
      name = "" ∨ ∃ c cs, name.toList = c :: cs ∧ front c ∧ ∀ d ∈ cs, p d = true := by
  constructor
  · rintro ⟨hallowed, hfirst⟩
    cases hname : name.toList with
    | nil => exact .inl (String.toList_eq_nil_iff.1 hname)
    | cons c cs =>
      rw [hname] at hallowed hfirst
      obtain ⟨hc, hcs⟩ := List.forall_mem_cons.1 hallowed
      exact .inr ⟨c, cs, rfl, hfront.1 ⟨hc, hfirst c rfl⟩, hcs⟩
  · rintro (rfl | ⟨c, cs, hname, hc, hcs⟩)
    · exact ⟨by simp, by simp⟩
    · obtain ⟨hallowed, hdigit⟩ := hfront.2 hc
      rw [hname]
      exact ⟨List.forall_mem_cons.2 ⟨hallowed, hcs⟩, by simpa using hdigit⟩

theorem isMadeOf_isModuleChar_iff {name : String} :
    IsMadeOf isModuleChar name.toList ↔ name = "" ∨ IsIdentifier name :=
  isMadeOf_toList_iff isModuleChar_not_digit_iff

theorem isMadeOf_isTypeChar_iff {name : String} :
    IsMadeOf isTypeChar name.toList ↔ name = "" ∨ IsTypeIdentifier name :=
  isMadeOf_toList_iff isTypeChar_not_digit_iff

/-! ### Lower case and white space -/

/-- What may stand in the name of a module is in lower case. -/
theorem lowerChar_of_isModuleChar {c : Char} (h : isModuleChar c = true) :
    c ≠ '\u03A3' ∧ Text.lowerChar c = [c] :=
  forall_ascii (p := fun c => isModuleChar c = true → c ≠ '\u03A3' ∧ Text.lowerChar c = [c])
    (by decide) (lt_of_isModuleChar h) h

theorem lowerAfter_ofChars (afterCased : Bool) {cs : List Char}
    (h : ∀ c ∈ cs, isModuleChar c = true) :
    Text.lowerAfter afterCased (Text.ofChars cs) = Text.ofChars cs := by
  induction cs generalizing afterCased with
  | nil => rfl
  | cons c cs ih =>
    obtain ⟨hc, hcs⟩ := List.forall_mem_cons.1 h
    obtain ⟨hsigma, hlower⟩ := lowerChar_of_isModuleChar hc
    have hsymbol : Symbol.char c ≠ '\u03A3' := fun hsame => hsigma (Symbol.char.inj hsame)
    have hcons : Text.ofChars (c :: cs) = .char c :: Text.ofChars cs := rfl
    rw [hcons, Text.lowerAfter, if_neg hsymbol, ih _ hcs, Text.lowerSymbol, hlower]
    rfl

theorem joinWords_ofChars (joint : Symbol) (inRun : Bool) {cs : List Char}
    (h : ∀ c ∈ cs, isModuleChar c = true) :
    Text.joinWords joint inRun (Text.ofChars cs) = Text.ofChars cs := by
  induction cs generalizing inRun with
  | nil => rfl
  | cons c cs ih =>
    obtain ⟨hc, hcs⟩ := List.forall_mem_cons.1 h
    have hsymbol : ¬ (Symbol.char c).satisfies Text.isBlank = true := by
      rw [Symbol.satisfies, isBlank_of_isModuleChar hc]
      exact Bool.false_ne_true
    have hcons : Text.ofChars (c :: cs) = .char c :: Text.ofChars cs := rfl
    rw [hcons, Text.joinWords, if_neg hsymbol, ih false hcs]

/-- What a module may be called, it is called. -/
theorem moduleChars_ofChars {cs : List Char} (h : IsMadeOf isModuleChar cs) :
    moduleChars (Text.ofChars cs) = cs := by
  rw [moduleChars, Text.lower, lowerAfter_ofChars false h.allowed,
    joinWords_ofChars _ _ h.allowed, h.guardDigit_eq]

/-! ### Projections -/

/-- Names are made from texts, and the names in `names` are kept as they are: they are the names
that are made. -/
structure ProjectsOnto (make : Text → String) (names : Set String) : Prop where
  made : ∀ text, make text ∈ names
  kept : ∀ name ∈ names, make name = name

theorem ProjectsOnto.idempotent {make : Text → String} {names : Set String}
    (h : ProjectsOnto make names) (text : Text) : make (make text) = make text :=
  h.kept _ (h.made text)

theorem ProjectsOnto.range_eq {make : Text → String} {names : Set String}
    (h : ProjectsOnto make names) : Set.range make = names := by
  ext name
  constructor
  · rintro ⟨text, rfl⟩
    exact h.made text
  · intro hname
    exact ⟨name, h.kept name hname⟩

theorem projectsOnto_moduleName :
    ProjectsOnto moduleName {name | name = "" ∨ IsIdentifier name} where
  made text := isMadeOf_isModuleChar_iff.1 (isMadeOf_moduleName text)
  kept name hname := by
    have hmade := isMadeOf_isModuleChar_iff.2 hname
    rw [moduleName, Text.ofString, moduleChars_ofChars hmade, String.ofList_toList]

theorem projectsOnto_typeName :
    ProjectsOnto typeName {name | name = "" ∨ IsTypeIdentifier name} where
  made text := isMadeOf_isTypeChar_iff.1 (isMadeOf_typeName text)
  kept name hname := by
    have hmade := isMadeOf_isTypeChar_iff.2 hname
    rw [typeName, typeChars, Text.ofString, hmade.guardDigit_eq, String.ofList_toList]

end Naming

/-! ### Programs -/

theorem programNameOf_programNameOf (requested : Option Text) :
    programNameOf (some (programNameOf requested : Text)) = programNameOf requested := by
  have hidentifier := isIdentifier_programNameOf requested
  have hkept := Naming.projectsOnto_moduleName.kept _ (.inr hidentifier)
  rw [programNameOf, Option.getD_some, hkept, Naming.orElse, if_neg hidentifier.ne_empty]

/-- The names of modules and of types are the identifiers, together with the empty name: all are
made, no others are, and each is made from itself. So making a name from a name that was made
changes nothing, and neither does compiling under the name that a program was given. -/
theorem names_made_once :
    Naming.ProjectsOnto Naming.moduleName {name | name = "" ∨ Naming.IsIdentifier name} ∧
    Naming.ProjectsOnto Naming.typeName {name | name = "" ∨ Naming.IsTypeIdentifier name} ∧
    (∀ text : Text,
      Naming.moduleName (Naming.moduleName text) = Naming.moduleName text ∧
      Naming.typeName (Naming.typeName text) = Naming.typeName text) ∧
    Set.range Naming.moduleName = {name | name = "" ∨ Naming.IsIdentifier name} ∧
    Set.range Naming.typeName = {name | name = "" ∨ Naming.IsTypeIdentifier name} ∧
    ∀ (nodes : List (Node Text)) (connections : List (Connection Text)) (requested : Option Text),
      let workspace := compile nodes connections requested
      compile nodes connections (some (workspace.programName : Text)) = workspace := by
  have hmodules := Naming.projectsOnto_moduleName
  have htypes := Naming.projectsOnto_typeName
  refine ⟨hmodules, htypes, fun text => ⟨hmodules.idempotent text, htypes.idempotent text⟩,
    hmodules.range_eq, htypes.range_eq, fun nodes connections requested => ?_⟩
  intro workspace
  have hname : workspace.programName = programNameOf requested := rfl
  rw [hname, compile, programNameOf_programNameOf]
  rfl

/-- The sign for kelvin is a capital letter, though it is not one of ASCII. -/
example :
    Naming.moduleName "2 \u212A" = "_2_k" ∧ Naming.moduleName "_2_k" = "_2_k" ∧
      Naming.typeName "2 \u212A" = "_2" := by decide

end ModuleGraph
