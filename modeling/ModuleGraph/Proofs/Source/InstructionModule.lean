import ModuleGraph.Proofs.Source.CrateRoot
import ModuleGraph.Proofs.Source.Reading

/-!
# The names in the module of an instruction

The module of an instruction imports types, declares its entry function and the structure of the
accounts that the function takes, and this structure has fields. All of these names are read off the
lines of the module. What else stands there, the free text of messages included, names nothing.

## Main definitions

- `words` — the words of a text
- `Item`, `items` — the names that a module imports or declares
- `importedTypes` — the types that a module imports
- `Instruction.HasWords` — an instruction all of whose names are words

## Main statements

- `words_join` — the words of a list of words
- `items_instructionScript` — the names in the module of an instruction
-/

namespace ModuleGraph.Source

/-! ### Words of a text -/

/-- The words of a text: its runs of letters, digits and underscores. -/
def words (text : Text) : List String :=
  ((text.splitOnP fun symbol => !symbol.satisfies Naming.isTypeChar).filter (!·.isEmpty)).map
    fun word => String.ofList (word.filterMap Symbol.char?)

theorem words_append_break {symbol : Symbol} (h : symbol.satisfies Naming.isTypeChar = false)
    (first second : Text) : words (first ++ symbol :: second) = words first ++ words second := by
  have hbreak : (!symbol.satisfies Naming.isTypeChar) = true := by rw [h, Bool.not_false]
  rw [words, List.splitOnP_append_cons first second hbreak, List.filter_append, List.map_append,
    words, words]

theorem words_cons_break {symbol : Symbol} (h : symbol.satisfies Naming.isTypeChar = false)
    (text : Text) : words (symbol :: text) = words text :=
  words_append_break h [] text

theorem words_ofString {name : String} (h : IsWord name) (hname : name ≠ "") :
    words name = [name] := by
  have hletters : ∀ symbol ∈ (name : Text), (!symbol.satisfies Naming.isTypeChar) = false := by
    intro symbol hsymbol
    obtain ⟨c, hc, rfl⟩ := List.mem_map.1 hsymbol
    rw [Symbol.satisfies, h c hc, Bool.not_true]
  have hword : (name : Text).filterMap Symbol.char? = name.toList := Text.filterMap_ofChars _
  have hempty : (name : Text).isEmpty = false := by
    rw [List.isEmpty_eq_false_iff]
    intro hnil
    exact hname (String.toList_eq_nil_iff.1 (List.map_eq_nil_iff.1 hnil))
  rw [words, List.splitOnP_eq_singleton hletters, List.filter_cons_of_pos (by simpa using hempty),
    List.filter_nil, List.map_singleton, hword, String.ofList_toList]

/-- A list of words, put together with commas. -/
theorem words_join {names : List String} (h : ∀ name ∈ names, IsWord name ∧ name ≠ "") :
    words (Text.join ", " (names.map Text.ofString)) = names := by
  induction names with
  | nil => rfl
  | cons name names ih =>
    obtain ⟨⟨hword, hname⟩, hnames⟩ := List.forall_mem_cons.1 h
    cases names with
    | nil =>
      rw [List.map_singleton, join_singleton]
      exact words_ofString hword hname
    | cons next names =>
      have hjoin : Text.join ", " ((name :: next :: names).map Text.ofString) =
          name ++ Symbol.char ',' :: Symbol.char ' ' ::
            Text.join ", " ((next :: names).map Text.ofString) := by
        rw [List.map_cons, List.map_cons, join_cons_cons, List.append_assoc]
        rfl
      rw [hjoin, words_append_break (by decide), words_cons_break (by decide), ih hnames,
        words_ofString hword hname, List.singleton_append]

theorem ofString_intercalate (joint : String) (names : List String) :
    Text.ofString (joint.intercalate names) = Text.join joint (names.map Text.ofString) := by
  induction names with
  | nil => rfl
  | cons name names ih =>
    cases names with
    | nil => rw [String.intercalate_singleton, List.map_singleton, join_singleton]
    | cons next names =>
      rw [String.intercalate_cons_cons, ofString_append, ofString_append, ih]
      exact (join_cons_cons ..).symm

/-! ### Items -/

/-- What a line of a module says about names. -/
inductive Item where
  | imported (types : List String)
  | function (name : String)
  | type (name : String)
  | field (name : String)
  deriving DecidableEq, Repr

/-- What is declared behind the word that makes it public: without a keyword it is a field. -/
def declaredItem (rest : Text) : Item :=
  match ("fn " : Text).isPrefixOf? rest, ("struct " : Text).isPrefixOf? rest with
  | some name, _ => .function (leadingName name)
  | none, some name => .type (leadingName name)
  | none, none => .field (leadingName rest)

/-- What a line says about names, if anything. -/
def item? (line : Text) : Option Item :=
  match ("use crate::" : Text).isPrefixOf? line with
  | some names => some (.imported (words names))
  | none => (("pub " : Text).isPrefixOf? line).map declaredItem

/-- The names that a module imports or declares. -/
def items (text : Text) : List Item := findings item? text

/-- A script of a module that says the given things about names. -/
abbrev Says (script : Script) (items : List Item) : Prop := script.Tells .standard item? items

open Script (tells_silent tells_line tells_flatMap tells_blank tells_quiet isSilent_line)

variable {L : Type}

/-- The names in an instruction are words, and so are those of the accounts that it binds. -/
structure HasWords (instruction : Instruction L) : Prop where
  module : IsWord instruction.moduleName
  type : IsWord instruction.typeName
  fields : ∀ account ∈ instruction.boundAccounts, IsWord account.fieldName
  types : ∀ account ∈ instruction.boundAccounts, IsWord account.typeName ∧ account.typeName ≠ ""

/-! ### Imports -/

theorem lineEnd_not_mem_intercalate {names : List String} (h : ∀ name ∈ names, IsWord name) :
    lineEnd ∉ (", ".intercalate names : Text) := by
  rw [ofString_intercalate]
  refine lineEnd_not_mem_join (by decide) fun text htext => ?_
  obtain ⟨name, hname, rfl⟩ := List.mem_map.1 htext
  exact (h name hname).lineEnd_not_mem

theorem words_braced {names : List String} (h : ∀ name ∈ names, IsWord name ∧ name ≠ "") :
    words ("\x7b" ++ (", ".intercalate names : Text) ++ "\x7d;") = names := by
  rw [ofString_intercalate]
  show words (Symbol.char '\x7b' :: Text.join ", " (names.map Text.ofString) ++
    Symbol.char '\x7d' :: [Symbol.char ';']) = names
  rw [words_append_break (by decide), words_cons_break (by decide), words_join h]
  exact List.append_nil names

theorem says_importLine {accounts : List (BoundAccount L)}
    (h : ∀ account ∈ accounts, IsWord account.typeName ∧ account.typeName ≠ "") :
    Says [importLine accounts] [.imported ("ErrorCode" :: accounts.map (·.typeName))] := by
  cases accounts with
  | nil => exact tells_line (by decide) rfl
  | cons account accounts =>
    have hnames : ∀ name ∈ "ErrorCode" :: (account :: accounts).map (·.typeName),
        IsWord name ∧ name ≠ "" := by
      rw [List.forall_mem_cons, List.forall_mem_map]
      exact ⟨by decide, h⟩
    have hwords : ∀ name ∈ "ErrorCode" :: (account :: accounts).map (·.typeName), IsWord name :=
      fun name hname => (hnames name hname).1
    refine tells_line (lineEnd_not_mem_between (by decide) (lineEnd_not_mem_intercalate hwords)
      (by decide)) ?_
    exact congrArg (fun names => some (Item.imported names)) (words_braced hnames)

/-! ### The entry function -/

theorem entryLine_eq (instruction : Instruction L) :
    (entryLine instruction : Text) =
      "pub fn " ++ instruction.moduleName ++
        ("(ctx: Context<" ++ instruction.typeName ++ ">) -> Result<()> \x7b" : Text) := by
  rw [entryLine]
  simp only [ofString_append, List.append_assoc]

theorem says_entryLine {instruction : Instruction L} (h : HasWords instruction) :
    Says [.line (entryLine instruction)] [.function instruction.moduleName] := by
  rw [entryLine_eq]
  refine tells_line (h.module.lineEnd_not_mem_line (by decide)
    (h.type.lineEnd_not_mem_line (by decide) (by decide))) ?_
  exact congrArg (fun name => some (Item.function name)) (leadingName_append h.module rfl)

theorem says_announcement (instruction : Instruction L) : Says (announcement instruction) [] := by
  have hpredecessors :
      (predecessorLine instruction.predecessors).isSilent .standard item? = true := by
    cases instruction.predecessors with
    | nil => decide
    | cons name names =>
      exact isSilent_line (lineEnd_not_mem_between (by decide)
        (lineEnd_not_mem_formatLiteral _) (by decide)) rfl
  refine tells_silent ?_
  rw [announcement]
  simp only [List.forall_mem_cons]
  refine ⟨isSilent_line ?_ rfl, by decide, by decide, hpredecessors, by decide,
    List.forall_mem_nil _⟩
  exact lineEnd_not_mem_between (by decide) (lineEnd_not_mem_formatLiteral _) (by decide)

theorem isSilent_logic (category : Category) :
    ∀ step ∈ [.comment category.comment, Category.authorityCheck, category.messageLine],
      Step.isSilent .standard item? step = true := by
  cases category <;>
  · simp (disch := exact rfl) only [Category.comment, Category.authorityCheck,
      Category.messageLine, Category.message, ofString_of_chars]
    decide

theorem says_logic (category : Category) {accounts : List (BoundAccount L)}
    (h : ∀ account ∈ accounts, IsWord account.fieldName) : Says (category.logic accounts) [] := by
  cases category with
  -- this logic alone has a line for every account
  | validator =>
    refine Script.Tells.append (tells_silent (isSilent_logic .validator)) (tells_silent ?_)
    refine List.forall_mem_map.2 fun account haccount => isSilent_line ?_ rfl
    exact (h account haccount).lineEnd_not_mem_line (by decide) (by decide)
  -- this logic alone does not check the authority
  | start =>
    have hsome : [Step.comment Category.start.comment, Category.start.messageLine].Sublist
        [.comment Category.start.comment, Category.authorityCheck, Category.start.messageLine] :=
      .cons_cons _ (.cons _ (.refl _))
    exact tells_silent fun step hstep => isSilent_logic .start step (hsome.subset hstep)
  | token | nft | defi | governance | custom => exact tells_silent (isSilent_logic _)

theorem says_updates {accounts : List (BoundAccount L)}
    (h : ∀ account ∈ accounts, IsWord account.fieldName) : Says (updates accounts) [] := by
  have hupdate : ∀ account ∈ accounts, Says (accountUpdate account) [] := by
    intro account haccount
    refine Script.Tells.append (tells_quiet ?_ rfl) (tells_quiet ?_ rfl)
    · exact (h account haccount).lineEnd_not_mem_line (by decide) (by decide)
    · exact lineEnd_not_mem_between (by decide) (lineEnd_not_mem_formatLiteral _) (by decide)
  have hupdates := tells_flatMap hupdate
  rw [List.flatMap_eq_nil_iff.2 fun _ _ => rfl] at hupdates
  cases accounts with
  | nil => exact Script.tells_nil
  | cons account accounts =>
    have hcomment : Says [.blank, .comment "Update connected accounts"] [] :=
      tells_silent (by decide)
    exact .join (.cons hcomment (.cons hupdates .nil))

theorem says_entryFunction {instruction : Instruction L} (h : HasWords instruction) :
    Says (entryFunction instruction) [.function instruction.moduleName] := by
  have hend : Says [.blank, .line "Ok(())"] [] := tells_silent (by decide)
  have hbody := Script.Tells.join (.cons (says_announcement instruction)
    (.cons (says_logic (Category.ofName instruction.category) h.fields)
      (.cons (says_updates h.fields) (.cons hend .nil))))
  exact (says_entryLine h).block hbody (by decide)

/-! ### The structure of the accounts -/

/-- A field is no keyword that a word follows, whatever it is called. -/
theorem isPrefixOf?_keyword {keyword field : String} (hkeyword : IsWord keyword)
    (hfield : IsWord field) (rest : Text) :
    ((keyword : Text) ++ " ").isPrefixOf? (field ++ (Symbol.char ':' :: rest)) = none := by
  have hletters : ∀ name : String, IsWord name → ∀ symbol ∈ (name : Text),
      symbol.satisfies Naming.isTypeChar = true := by
    intro name hname symbol hsymbol
    obtain ⟨c, hc, rfl⟩ := List.mem_map.1 hsymbol
    exact hname c hc
  rw [Option.eq_none_iff_forall_not_mem]
  intro others hothers
  have hsame := List.isPrefixOf?_eq_some_iff_append_eq.1 hothers
  have hbehind := congrArg (List.dropWhile (·.satisfies Naming.isTypeChar)) hsame
  rw [List.append_assoc, List.dropWhile_append_of_pos (hletters keyword hkeyword),
    List.dropWhile_append_of_pos (hletters field hfield)] at hbehind
  -- one is a space and the other a colon
  exact absurd (List.cons.inj hbehind).1 (by decide)

theorem declaredItem_field {field : String} (h : IsWord field) (rest : Text) :
    declaredItem (field ++ (Symbol.char ':' :: rest)) = .field field := by
  have hfunction : ("fn " : Text).isPrefixOf? (field ++ (Symbol.char ':' :: rest)) = none :=
    isPrefixOf?_keyword (by decide : IsWord "fn") h rest
  have hstruct : ("struct " : Text).isPrefixOf? (field ++ (Symbol.char ':' :: rest)) = none :=
    isPrefixOf?_keyword (by decide : IsWord "struct") h rest
  rw [declaredItem, hfunction, hstruct]
  exact congrArg Item.field (leadingName_append h rfl)

theorem says_accountField {account : BoundAccount L} (hfield : IsWord account.fieldName)
    (htype : IsWord account.typeName) : Says (accountField account) [.field account.fieldName] := by
  have hconstraint : Says [.line ("#[account(mut, constraint = " ++ account.fieldName ++
      ".authority == authority.key())]")] [] :=
    tells_quiet (hfield.lineEnd_not_mem_line (by decide) (by decide)) rfl
  have hend : lineEnd ∉ ("pub " ++ account.fieldName ++ ": Account<'info, " ++
      account.typeName ++ ">," : Text) :=
    htype.lineEnd_not_mem_line (hfield.lineEnd_not_mem_line (by decide) (by decide)) (by decide)
  refine hconstraint.append (tells_line hend ?_)
  rw [List.append_assoc, List.append_assoc, List.append_assoc]
  exact congrArg some (declaredItem_field hfield _)

theorem says_accountsStruct {instruction : Instruction L} (h : HasWords instruction) :
    Says (accountsStruct instruction)
      (.type instruction.typeName ::
        (instruction.boundAccounts.map (·.fieldName) ++ ["authority", "system_program"]).map
          .field) := by
  have hattribute : Says [.line "#[derive(Accounts)]"] [] := tells_silent (by decide)
  have hopening : Says [.line ("pub struct " ++ instruction.typeName ++ "<'info> \x7b")]
      [.type instruction.typeName] := by
    refine tells_line (h.type.lineEnd_not_mem_line (by decide) (by decide)) ?_
    exact congrArg (fun name => some (Item.type name)) (leadingName_append h.type rfl)
  have hbound : Says (instruction.boundAccounts.flatMap accountField)
      (instruction.boundAccounts.flatMap fun account => [Item.field account.fieldName]) :=
    tells_flatMap fun account haccount =>
      says_accountField (h.fields account haccount) (h.types account haccount).1
  have hmut : Says [.line "#[account(mut)]"] [] := tells_silent (by decide)
  have hauthority : Says [.line "pub authority: Signer<'info>,"] [.field "authority"] :=
    tells_line (by decide) (by decide)
  have hsystem : Says [.line "pub system_program: Program<'info, System>,"]
      [.field "system_program"] := by
    simp (disch := exact rfl) only [ofString_of_chars]
    exact tells_line (by decide) (by decide)
  have hfields := Script.Tells.join (.cons hbound
    (.cons (hmut.append (hauthority.append hsystem)) .nil))
  have hclosing : (Step.line "\x7d").isSilent .standard item? = true := by decide
  have hstruct := hattribute.append (hopening.block hfields hclosing)
  rw [← List.map_eq_flatMap] at hstruct
  rw [List.map_append, List.map_map]
  exact hstruct

/-! ### The module -/

theorem says_instructionScript {instruction : Instruction L} (h : HasWords instruction) :
    Says (instructionScript instruction)
      (.imported ("ErrorCode" :: instruction.boundAccounts.map (·.typeName)) ::
        .function instruction.moduleName :: .type instruction.typeName ::
          (instruction.boundAccounts.map (·.fieldName) ++ ["authority", "system_program"]).map
            .field) := by
  have hprelude : Says [.line "use anchor_lang::prelude::*;"] [] := tells_silent (by decide)
  have himports := hprelude.append ((says_importLine h.types).append (tells_blank rfl))
  have hmodule := Script.Tells.join (.cons himports (.cons (says_entryFunction h)
    (.cons (tells_blank rfl) (.cons (says_accountsStruct h) .nil))))
  simp only [List.flatten_cons, List.flatten_nil, List.append_nil, List.nil_append] at hmodule
  exact hmodule

/-- The names that the module of an instruction imports and declares. -/
theorem items_instructionScript {instruction : Instruction L} (h : HasWords instruction) :
    items (Script.text .standard (instructionScript instruction)) =
      .imported ("ErrorCode" :: instruction.boundAccounts.map (·.typeName)) ::
        .function instruction.moduleName :: .type instruction.typeName ::
          (instruction.boundAccounts.map (·.fieldName) ++ ["authority", "system_program"]).map
            .field :=
  (says_instructionScript h).text (by decide) rfl

/-! ### The imports of a module -/

/-- The types that an item imports. -/
def Item.importedTypes : Item → List String
  | .imported types => types
  | _ => []

/-- The types that a module imports. -/
def importedTypes (text : Text) : List String := (items text).flatMap Item.importedTypes

theorem importedTypes_instructionScript {instruction : Instruction L} (h : HasWords instruction) :
    importedTypes (Script.text .standard (instructionScript instruction)) =
      "ErrorCode" :: instruction.boundAccounts.map (·.typeName) := by
  have hfields : ∀ fields : List String,
      (fields.map Item.field).flatMap Item.importedTypes = [] := by
    intro fields
    rw [List.flatMap_map, List.flatMap_eq_nil_iff]
    exact fun _ _ => rfl
  rw [importedTypes, items_instructionScript h]
  simp only [List.flatMap_cons, Item.importedTypes, hfields, List.append_nil]

end ModuleGraph.Source
