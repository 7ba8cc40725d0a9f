import ModuleGraph.Proofs.CaseImages
import ModuleGraph.Proofs.Schedule.Numbering

/-!
# Names without letters

A name made from a text is replaced by a fallback if nothing of the text is left. Underscores and
white space leave underscores, so that a text with these and without letters is not replaced: its
name is made of underscores, and camel case leaves nothing of it.

## Main definitions

- `HasLetter` — a name with a letter or a digit
- `isUsable`, `isSpacer` — the symbols that leave letters or digits, and those that leave
  underscores
- `IsHollow` — a text that leaves underscores and nothing else

## Main statements

- `hasLetter_moduleName_iff`, `moduleName_eq_empty_iff` — what is left of a text
- `hasLetter_orElse_iff` — names with a fallback
- `pascalCase_ne_empty_iff`, `camelCase_ne_empty_iff` — names in camel case
- `hasLetter_moduleLabel_iff` — the names of modules
- `names_usable_iff` — the names of a compiled graph
-/

namespace ModuleGraph

namespace Naming

/-! ### Symbols -/

/-- A name with a letter or a digit. -/
def HasLetter (name : String) : Prop := ∃ c ∈ name.toList, c.isAlphanum = true

instance (name : String) : Decidable (HasLetter name) := List.decidableBEx _ _

/-- Whether a letter or a digit is left of a symbol: the letters and digits of ASCII, the sign for
kelvin and the capital I with a dot, which have small letters in ASCII. -/
def isUsable (symbol : Symbol) : Bool :=
  symbol.satisfies fun c => c.isAlphanum || c == '\u212A' || c == '\u0130'

/-- Whether an underscore may be left of a symbol. -/
def isSpacer (symbol : Symbol) : Bool := symbol.satisfies fun c => c == '_' || Text.isBlank c

/-- A text of which underscores are left and nothing else. -/
def IsHollow (text : Text) : Prop :=
  (∀ symbol ∈ text, isUsable symbol = false) ∧ ∃ symbol ∈ text, isSpacer symbol = true

instance (text : Text) : Decidable (IsHollow text) := instDecidableAnd

/-- The letters and digits of module names. -/
def isSmall (c : Char) : Bool := isModuleChar c && c != '_'

theorem isTypeChar_of_isAlphanum {c : Char} (h : c.isAlphanum = true) : isTypeChar c = true := by
  have hupper : c.isUpper = ('A' ≤ c && c ≤ 'Z') := Bool.decide_and _ _
  have hsplit : ((c.isUpper || c.isLower) || isAsciiDigit c) = true := h
  show ((c.isLower || isAsciiDigit c || decide (c = '_')) || ('A' ≤ c && c ≤ 'Z')) = true
  rw [← hupper]
  simp only [Bool.or_eq_true] at hsplit ⊢
  tauto

/-- In a plain name the letters and digits are those characters that are no underscores. -/
theorem isAlphanum_iff_of_isModuleChar {c : Char} (h : isModuleChar c = true) :
    c.isAlphanum = true ↔ c ≠ '_' :=
  forall_ascii (p := fun c => isModuleChar c = true → (c.isAlphanum = true ↔ c ≠ '_')) (by decide)
    (lt_of_isModuleChar h) h

theorem hasLetter_iff {name : String} (h : IsPlain name) :
    HasLetter name ↔ ∃ c ∈ name.toList, c ≠ '_' :=
  exists_congr fun c => and_congr_right fun hc => isAlphanum_iff_of_isModuleChar (h c hc)

theorem isSmall_iff {c : Char} : isSmall c = true ↔ isModuleChar c = true ∧ c ≠ '_' := by
  rw [isSmall, Bool.and_eq_true, bne_iff_ne]

/-! ### Lower case -/

/-- The code points of underscore and white space. -/
def spacerCodes : Text.Ranges :=
  [(0x09, 0x0D), (0x1C, 0x20), (0x5F, 0x5F), (0x85, 0x85), (0xA0, 0xA0), (0x1680, 0x1680),
    (0x2000, 0x200A), (0x2028, 0x2029), (0x202F, 0x202F), (0x205F, 0x205F), (0x3000, 0x3000)]

theorem isSpacer_char (c : Char) : isSpacer (.char c) = Text.inRanges spacerCodes c := by
  have hline : c = '_' ↔ c.toNat = 0x5F := Char.toNat_inj.symm
  rw [Bool.eq_iff_iff]
  simp only [isSpacer, Symbol.satisfies, Text.isBlank, Text.inRanges, spacerCodes, List.any_cons,
    List.any_nil, Bool.or_eq_true, Bool.and_eq_true, beq_iff_eq, decide_eq_true_eq, hline]
  simp
  omega

/-- Lower case neither makes spacers nor loses them. -/
theorem any_isSpacer_lowerSymbol (symbol : Symbol) :
    (Text.lowerSymbol symbol).any isSpacer = isSpacer symbol := by
  cases symbol with
  | half index => rfl
  | char c =>
    have hlower := congrArg (List.any · (Text.inRanges spacerCodes))
      (Text.filter_lowerChar spacerCodes (by decide) c)
    have hspacer : isSpacer ∘ Symbol.char = Text.inRanges spacerCodes := funext isSpacer_char
    rw [Text.lowerSymbol, Text.ofChars, List.any_map, hspacer, isSpacer_char]
    simpa using hlower

theorem toNat_of_isSmall {c : Char} (h : isSmall c = true) : 0 < c.toNat ∧ c.toNat ≤ 122 :=
  forall_ascii (p := fun c => isSmall c = true → 0 < c.toNat ∧ c.toNat ≤ 122) (by decide)
    (lt_of_isModuleChar (isSmall_iff.1 h).1) h

/-- Two characters beyond ASCII have a small letter in ASCII. -/
theorem any_isSmall_caseImage {c : Char} (h : ¬ c.toNat < 128) :
    (Text.caseImage Text.lowerExpansions Text.lowerRuns c).any isSmall = true ↔
      c = '\u212A' ∨ c = '\u0130' := by
  constructor
  · intro hany
    obtain ⟨d, hd, hsmall⟩ := List.any_eq_true.1 hany
    obtain ⟨hpos, hlast⟩ := toNat_of_isSmall hsmall
    rcases Text.mem_caseImage hd with rfl | ⟨entry, hentry, hcode, -⟩ |
      ⟨run, hrun, hstart, hend, rfl⟩
    · omega
    · have hkeys : ∀ entry ∈ Text.lowerExpansions, entry.1 = 0x130 := by decide
      rw [hkeys entry hentry] at hcode
      exact .inr (Char.toNat_inj.1 hcode.symm)
    · have hruns : Text.lowerRuns.all (fun run => decide (122 < run.first + run.shift ∨
          run.first = 0x212A ∧ run.last = 0x212A)) = true := by decide
      have hplace := of_decide_eq_true (List.all_eq_true.1 hruns run hrun)
      have hvalue := Text.toNat_ofNat_eq_or (c.toNat + run.shift).toNat
      have hcode : c.toNat = 0x212A := by omega
      exact .inl (Char.toNat_inj.1 hcode)
  · rintro (rfl | rfl) <;> decide

theorem any_isSmall_lowerSymbol (symbol : Symbol) :
    (Text.lowerSymbol symbol).any (·.satisfies isSmall) = isUsable symbol := by
  cases symbol with
  | half index => rfl
  | char c =>
    rw [Text.lowerSymbol, Text.ofChars, List.any_map]
    show (Text.lowerChar c).any isSmall = _
    rw [Text.lowerChar]
    split
    · rename_i hascii
      exact forall_ascii (p := fun c => [c.toLower].any isSmall = isUsable (.char c)) (by decide)
        hascii
    · rename_i hbeyond
      have hother : c.isAlphanum = false := by
        rw [Bool.eq_false_iff]
        exact fun h => hbeyond (lt_of_isTypeChar (isTypeChar_of_isAlphanum h))
      rw [Bool.eq_iff_iff, any_isSmall_caseImage hbeyond]
      simp [isUsable, Symbol.satisfies, hother]

/-- What is looked for in the lower-case form of a text is found symbol by symbol, if it is no
sigma. -/
theorem any_lowerAfter {p q : Symbol → Bool}
    (h : ∀ symbol, (Text.lowerSymbol symbol).any q = p symbol)
    (hsigma : ∀ final, q (Text.lowerSigma final) = p '\u03A3') (afterCased : Bool) (text : Text) :
    (Text.lowerAfter afterCased text).any q = text.any p := by
  induction text generalizing afterCased with
  | nil => rfl
  | cons symbol text ih =>
    rw [Text.lowerAfter, List.any_append, ih, List.any_cons]
    congr 1
    split
    · rename_i hsymbol
      rw [hsymbol, ← hsigma, List.any_cons, List.any_nil, Bool.or_false]
    · exact h symbol

theorem any_isSmall_lower (text : Text) :
    text.lower.any (·.satisfies isSmall) = text.any isUsable :=
  any_lowerAfter any_isSmall_lowerSymbol (by decide) false text

theorem any_isSpacer_lower (text : Text) : text.lower.any isSpacer = text.any isSpacer :=
  any_lowerAfter any_isSpacer_lowerSymbol (by decide) false text

/-! ### Words -/

/-- Letters and digits are not joined. -/
theorem mem_joinWords {c : Char} (h : isSmall c = true) (inRun : Bool) (text : Text) :
    Symbol.char c ∈ Text.joinWords '_' inRun text ↔ Symbol.char c ∈ text := by
  have hline : Symbol.char c ≠ Symbol.char '_' := fun heq =>
    (isSmall_iff.1 h).2 (Symbol.char.inj heq)
  induction text generalizing inRun with
  | nil => rfl
  | cons symbol text ih =>
    rw [Text.joinWords, List.mem_cons]
    split
    · rename_i hblank
      have hother : Symbol.char c ≠ symbol := by
        rintro rfl
        have hword := isBlank_of_isModuleChar (isSmall_iff.1 h).1
        exact absurd hblank (by simp [Symbol.satisfies, hword])
      split <;> simp [ih, hother, hline]
    · rw [List.mem_cons]
      exact or_congr_right (ih false)

theorem isSpacer_iff {symbol : Symbol} : isSpacer symbol = true ↔
    symbol = Symbol.char '_' ∨ symbol.satisfies Text.isBlank = true := by
  cases symbol with
  | half index => simp [isSpacer, Symbol.satisfies]
  | char c => simp [isSpacer, Symbol.satisfies]

theorem isSpacer_of_line_mem_joinWords {inRun : Bool} {text : Text}
    (h : Symbol.char '_' ∈ Text.joinWords '_' inRun text) :
    ∃ symbol ∈ text, isSpacer symbol = true := by
  induction text generalizing inRun with
  | nil => cases h
  | cons symbol text ih =>
    rw [Text.joinWords] at h
    split at h
    · rename_i hblank
      exact ⟨symbol, List.mem_cons_self, isSpacer_iff.2 (.inr hblank)⟩
    · rcases List.mem_cons.1 h with rfl | h
      · exact ⟨_, List.mem_cons_self, rfl⟩
      · obtain ⟨spacer, hspacer, hline⟩ := ih h
        exact ⟨spacer, List.mem_cons_of_mem _ hspacer, hline⟩

/-- The first spacer leaves an underscore. -/
theorem line_mem_joinWords {text : Text} (h : ∃ symbol ∈ text, isSpacer symbol = true) :
    Symbol.char '_' ∈ Text.joinWords '_' false text := by
  induction text with
  | nil =>
    obtain ⟨symbol, hsymbol, -⟩ := h
    cases hsymbol
  | cons symbol text ih =>
    rw [Text.joinWords]
    split
    · exact List.mem_cons_self
    · rename_i hword
      rw [List.exists_mem_cons_iff] at h
      rcases h with hspacer | h
      · rw [(isSpacer_iff.1 hspacer).resolve_right hword]
        exact List.mem_cons_self
      · exact List.mem_cons_of_mem _ (ih h)

/-! ### Names made from texts -/

theorem mem_charsWhere {p : Char → Bool} {text : Text} {c : Char} :
    c ∈ charsWhere p text ↔ Symbol.char c ∈ text ∧ p c = true := by
  have hchar : ∀ symbol : Symbol, symbol.char? = some c ↔ symbol = .char c := by
    intro symbol
    cases symbol <;> simp [Symbol.char?]
  rw [charsWhere, List.mem_filter, List.mem_filterMap]
  simp [hchar]

theorem mem_guardDigit_of_mem {c : Char} {cs : List Char} (h : c ∈ cs) : c ∈ guardDigit cs := by
  cases cs with
  | nil => cases h
  | cons first rest =>
    rw [guardDigit]
    split
    · exact List.mem_cons_of_mem _ h
    · exact h

/-- What is left of a text for the name of a module, before one that begins with a digit is
guarded. -/
def remains (text : Text) : List Char :=
  charsWhere isModuleChar (Text.joinWords '_' false text.lower)

theorem toList_moduleName (text : Text) : (moduleName text).toList = guardDigit (remains text) := by
  rw [moduleName, String.toList_ofList]
  rfl

/-- A letter or a digit is left of each usable symbol. -/
theorem exists_mem_remains_iff {text : Text} :
    (∃ c ∈ remains text, c ≠ '_') ↔ ∃ symbol ∈ text, isUsable symbol = true := by
  have hlower : (∃ symbol ∈ text.lower, symbol.satisfies isSmall = true) ↔
      ∃ symbol ∈ text, isUsable symbol = true := by
    rw [← List.any_eq_true, ← List.any_eq_true, any_isSmall_lower]
  rw [← hlower]
  constructor
  · rintro ⟨c, hc, hline⟩
    obtain ⟨hword, hplain⟩ := mem_charsWhere.1 hc
    have hsmall := isSmall_iff.2 ⟨hplain, hline⟩
    exact ⟨.char c, (mem_joinWords hsmall false _).1 hword, hsmall⟩
  · rintro ⟨symbol, hsymbol, hsmall⟩
    cases symbol with
    | half index => cases hsmall
    | char c =>
      obtain ⟨hplain, hline⟩ := isSmall_iff.1 hsmall
      exact ⟨c, mem_charsWhere.2 ⟨(mem_joinWords hsmall false _).2 hsymbol, hplain⟩, hline⟩

/-- An underscore is left of the first spacer. -/
theorem line_mem_remains_iff {text : Text} :
    '_' ∈ remains text ↔ ∃ symbol ∈ text, isSpacer symbol = true := by
  have hlower : (∃ symbol ∈ text.lower, isSpacer symbol = true) ↔
      ∃ symbol ∈ text, isSpacer symbol = true := by
    rw [← List.any_eq_true, ← List.any_eq_true, any_isSpacer_lower]
  rw [← hlower, remains, mem_charsWhere]
  constructor
  · rintro ⟨hline, -⟩
    exact isSpacer_of_line_mem_joinWords hline
  · intro hspacer
    exact ⟨line_mem_joinWords hspacer, by decide⟩

theorem hasLetter_moduleName_iff {text : Text} :
    HasLetter (moduleName text) ↔ ∃ symbol ∈ text, isUsable symbol = true := by
  rw [hasLetter_iff (isPlain_moduleName text), toList_moduleName, ← exists_mem_remains_iff]
  refine exists_congr fun c => and_congr_left fun hline => ?_
  exact ⟨fun hc => (mem_guardDigit hc).resolve_left hline, mem_guardDigit_of_mem⟩

theorem moduleName_eq_empty_iff {text : Text} : moduleName text = "" ↔ remains text = [] := by
  rw [← String.toList_eq_nil_iff, toList_moduleName]
  cases remains text with
  | nil => exact Iff.rfl
  | cons c cs =>
    rw [guardDigit]
    split <;> simp

/-- Something is left of a text exactly if there are usable symbols or spacers. -/
theorem moduleName_ne_empty_iff {text : Text} : moduleName text ≠ "" ↔
    (∃ symbol ∈ text, isUsable symbol = true) ∨ ∃ symbol ∈ text, isSpacer symbol = true := by
  rw [← exists_mem_remains_iff, ← line_mem_remains_iff, Ne, moduleName_eq_empty_iff]
  constructor
  · intro h
    obtain ⟨c, hc⟩ := List.exists_mem_of_ne_nil _ h
    by_cases hline : c = '_'
    · exact .inr (hline ▸ hc)
    · exact .inl ⟨c, hc, hline⟩
  · rintro (⟨c, hc, -⟩ | hc)
    · exact List.ne_nil_of_mem hc
    · exact List.ne_nil_of_mem hc

/-- A name with a fallback has a letter or a digit unless the text is hollow. -/
theorem hasLetter_orElse_iff {fallback : String} (h : HasLetter fallback) {text : Text} :
    HasLetter (orElse (moduleName text) fallback) ↔ ¬ IsHollow text := by
  rw [orElse]
  split
  · rename_i hempty
    exact iff_of_true h fun hhollow => moduleName_ne_empty_iff.2 (.inr hhollow.2) hempty
  · rename_i hleft
    rw [hasLetter_moduleName_iff]
    constructor
    · rintro ⟨symbol, hsymbol, husable⟩ ⟨hnone, -⟩
      exact Bool.false_ne_true ((hnone symbol hsymbol).symm.trans husable)
    · intro hfull
      by_contra hnone
      have hspacer := (moduleName_ne_empty_iff.1 hleft).resolve_left hnone
      exact hfull ⟨by simpa using hnone, hspacer⟩

/-! ### Camel case -/

theorem upperChar_ne_nil {c : Char} (h : isModuleChar c = true) : Text.upperChar c ≠ [] :=
  forall_ascii (p := fun c => Text.upperChar c ≠ []) (by decide) (lt_of_isModuleChar h)

theorem pascalChars_eq_nil_iff {cs : List Char} (h : ∀ c ∈ cs, isModuleChar c = true)
    (atStart : Bool) : pascalChars atStart cs = [] ↔ ∀ c ∈ cs, c = '_' := by
  induction cs generalizing atStart with
  | nil => simp [pascalChars]
  | cons c cs ih =>
    obtain ⟨hc, hcs⟩ := List.forall_mem_cons.1 h
    rw [pascalChars, List.forall_mem_cons]
    split
    · rename_i hline
      rw [ih hcs]
      exact (and_iff_right hline).symm
    · rename_i hline
      have hfirst : (if atStart = true then Text.upperChar c else [c]) ≠ [] := by
        split
        · exact upperChar_ne_nil hc
        · exact List.cons_ne_nil _ _
      exact iff_of_false (List.append_ne_nil_of_left_ne_nil hfirst _) fun hall => hline hall.1

theorem pascalCase_ne_empty_iff {name : String} (h : IsPlain name) :
    pascalCase name ≠ "" ↔ HasLetter name := by
  have hempty : pascalCase name = "" ↔ pascalChars true name.toList = [] := by
    rw [← String.toList_eq_nil_iff, pascalCase, String.toList_ofList]
  rw [hasLetter_iff h, Ne, hempty, pascalChars_eq_nil_iff h]
  simp

theorem camelCase_ne_empty_iff {name : String} (h : IsPlain name) :
    camelCase name ≠ "" ↔ HasLetter name := by
  rw [← pascalCase_ne_empty_iff h, Ne, Ne, ← String.toList_eq_nil_iff, ← String.toList_eq_nil_iff,
    pascalCase, String.toList_ofList]
  rcases camelCase_eq_empty_or h with ⟨hnil, hempty⟩ | ⟨c, rest, hc, -, hpascal, hcamel⟩
  · rw [hempty, hnil]
    rfl
  · have hfirst : (if isAsciiDigit c = true then ['_', c] else [c]) ≠ [] := by
      split <;> exact List.cons_ne_nil _ _
    rw [hcamel, hpascal]
    exact iff_of_true (List.append_ne_nil_of_left_ne_nil hfirst _)
      (List.append_ne_nil_of_left_ne_nil (upperChar_ne_nil hc) _)

/-! ### Numbers -/

/-- A number behind a name is a digit at least. -/
theorem hasLetter_suffixed (base : String) (number : Nat) : HasLetter (suffixed base number) := by
  have hdigits : (toString number).toList ≠ [] := by
    rw [Nat.toString_eq_ofList_toDigits, String.toList_ofList]
    exact Nat.toDigits_ne_nil
  obtain ⟨c, hc⟩ := List.exists_mem_of_ne_nil _ hdigits
  have hdigit : c.isDigit = true := isAsciiDigit_of_mem_toString hc
  refine ⟨c, ?_, by rw [Char.isAlphanum, hdigit, Bool.or_true]⟩
  rw [suffixed, String.toList_append]
  exact List.mem_append_right _ hc

end Naming

/-! ### The names of modules -/

open Naming (HasLetter IsHollow IsIdentifier)

theorem hasLetter_baseName_iff {name : Text} : HasLetter (baseName name) ↔ ¬ IsHollow name :=
  Naming.hasLetter_orElse_iff (by decide)

/-- The name of a module has a letter or a digit if that of its node leaves one, or else if it has a
number. -/
theorem hasLetter_moduleLabel_iff (used : List String) (node : Node Text) :
    HasLetter (moduleLabel used node).text ↔
      ¬ IsHollow node.name ∨ baseName node.name ∈ used := by
  have hleast : IsLeastName used (baseName node.name) (moduleLabel used node).text :=
    isLeastName_moduleLabel used node
  rcases hleast with ⟨hnew, hname⟩ | ⟨hused, number, -, hname⟩
  · rw [hname, hasLetter_baseName_iff]
    exact (or_iff_left hnew).symm
  · rw [hname]
    exact iff_of_true (Naming.hasLetter_suffixed _ number) (.inr hused)

/-! ### The names of a compiled graph -/

/-- A node with a blank name. -/
def blankNamed : List (Node Text) := [⟨"n1", "token", " ", [], []⟩]

/-- Blank names are not replaced, and camel case leaves nothing of them. -/
theorem names_unusable_blankNamed :
    let workspace := compile blankNamed [] (some " ")
    (workspace.programName = "_" ∧ workspace.modules.map (·.moduleName) = ["_"]) ∧
      ¬ HasLetter "_" ∧ Naming.pascalCase "_" = "" ∧ Naming.camelCase "_" = "" := by
  decide

/-- **When the names of a compiled graph are usable.** The names of the program and of the modules
are identifiers, so that none is empty. One of them has a letter or a digit exactly if camel case
leaves anything of it. That of the program has one exactly if the text asked for is not hollow; that
of a module, exactly if the name of its node is not hollow or an earlier module has the name that it
gives, so that a number is put behind it. -/
theorem names_usable_iff (nodes : List (Node Text)) (connections : List (Connection Text))
    (requested : Option Text) :
    let workspace := compile nodes connections requested
    let names := workspace.modules.map (·.moduleName)
    (∀ name ∈ workspace.programName :: names, IsIdentifier name ∧
      (Naming.pascalCase name ≠ "" ↔ HasLetter name) ∧
      (Naming.camelCase name ≠ "" ↔ HasLetter name)) ∧
    (HasLetter workspace.programName ↔ ¬ IsHollow (requested.getD [])) ∧
    names.length = (behavioral nodes).length ∧
    ∀ place node, (behavioral nodes)[place]? = some node → ∃ name, names[place]? = some name ∧
      (HasLetter name ↔ ¬ IsHollow node.name ∨ baseName node.name ∈ names.take place) := by
  intro workspace names
  have hnames : names = (buildSchedule (programNameOf requested) nodes connections).instructions.map
      (·.moduleName) := List.map_map
  refine ⟨?_, Naming.hasLetter_orElse_iff (by decide), ?_, ?_⟩
  · intro name hname
    have hidentifier : IsIdentifier name := by
      rcases List.mem_cons.1 hname with rfl | hname
      · exact isIdentifier_programNameOf requested
      · obtain ⟨module, hmodule, rfl⟩ := List.mem_map.1 hname
        exact isIdentifier_of_mem_modules hmodule
    exact ⟨hidentifier, Naming.pascalCase_ne_empty_iff hidentifier.isPlain,
      Naming.camelCase_ne_empty_iff hidentifier.isPlain⟩
  · have hids := congrArg List.length
      (map_nodeId_scheduleInstructions nodes (resolved nodes connections))
    rw [List.length_map, List.length_map] at hids
    rw [hnames, List.length_map]
    exact hids
  · intro place node hnode
    rw [hnames]
    exact ⟨_, getElem?_moduleNames (programNameOf requested) connections hnode,
      hasLetter_moduleLabel_iff _ node⟩

/-- Two nodes whose names leave one underscore. -/
def hollowNamed : List (Node Text) :=
  [⟨"n1", "token", " ", [], []⟩, ⟨"n2", "token", "_", [], []⟩]

/-- The second name has a number. -/
theorem names_usable_iff_hollowNamed :
    let workspace := compile hollowNamed [] none
    let names := workspace.modules.map (·.moduleName)
    HasLetter workspace.programName ∧ (∃ name, names[0]? = some name ∧ ¬ HasLetter name) ∧
      ∃ name, names[1]? = some name ∧ HasLetter name := by
  intro workspace names
  obtain ⟨-, hprogram, -, hplaces⟩ := names_usable_iff hollowNamed [] none
  have hfirst : (behavioral hollowNamed)[0]? = some ⟨"n1", "token", " ", [], []⟩ := by decide
  have hsecond : (behavioral hollowNamed)[1]? = some ⟨"n2", "token", "_", [], []⟩ := by decide
  obtain ⟨name, hname, hletter⟩ := hplaces 0 _ hfirst
  obtain ⟨other, hother, hnumber⟩ := hplaces 1 _ hsecond
  have htaken : baseName "_" ∈ names.take 1 := by decide
  exact ⟨hprogram.2 (by decide), ⟨name, hname, fun h => absurd (hletter.1 h) (by decide)⟩,
    other, hother, hnumber.2 (.inr htaken)⟩

end ModuleGraph
