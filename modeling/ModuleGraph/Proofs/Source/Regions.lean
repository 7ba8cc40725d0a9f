import ModuleGraph.Proofs.CamelCase
import ModuleGraph.Proofs.Source.Escapes

/-!
# Brackets in source texts

A scanner goes through a source text and tells literals and comments from code. A literal stands
between double quotes, and a backslash in it takes the next symbol along; a comment begins with two
slashes and ends with the line. What counts are the brackets that the scanner meets in code: a text
is well bracketed if it ends outside every literal, and these brackets are nested. Since every line
of a file ends outside every literal, the lines can be scanned one by one.

## Main definitions

- `Region`, `Region.next` — where a scanner is, and where it is behind a symbol
- `Region.brackets` — the brackets that are met in code
- `Nested` — brackets that are balanced and properly nested
- `WellBracketed` — a text that ends outside literals and whose brackets are nested
- `Scans` — a part of a text, with what a scanner meets in it

## Main statements

- `nested_iff_closes` — a stack decides whether brackets are nested
- `Scans.append`, `scans_word`, `scans_formatLiteral`, `scans_comment` — parts of a line
- `Script.Bracketed.append`, `Script.bracketed_flatMap`, `Script.Bracketed.block` — parts of scripts
- `Script.Bracketed.text` — the text of a file
-/

namespace ModuleGraph.Source

/-! ### Regions -/

/-- Where in a source text a scanner is. -/
inductive Region where
  | code
  /-- In code, behind a slash that begins a comment if another follows. -/
  | slash
  | comment
  | literal
  /-- In a literal, behind a backslash. -/
  | escape
  deriving DecidableEq, Repr

def leftBrace : Symbol := '\x7b'

def rightBrace : Symbol := '\x7d'

/-- The brackets, each with the one that closes it. -/
def bracketPairs : List (Symbol × Symbol) :=
  [('(', ')'), ('[', ']'), (leftBrace, rightBrace)]

def isBracket (symbol : Symbol) : Bool :=
  bracketPairs.any fun pair => pair.1 == symbol || pair.2 == symbol

namespace Region

/-- Where a scanner is behind a symbol of code. -/
def ofCode (symbol : Symbol) : Region :=
  if symbol = quoteMark then literal else if symbol = '/' then slash else code

/-- Where a scanner is behind a symbol. -/
def next : Region → Symbol → Region
  | code, symbol => ofCode symbol
  | slash, symbol => if symbol = '/' then comment else ofCode symbol
  | comment, symbol => if symbol = lineEnd then code else comment
  | literal, symbol =>
    if symbol = quoteMark then code else if symbol = backslash then escape else literal
  | escape, _ => literal

/-- Where a scanner is behind a text. -/
def after (region : Region) (text : Text) : Region := text.foldl next region

def isCode : Region → Bool
  | code | slash => true
  | comment | literal | escape => false

def isLiteral : Region → Bool
  | literal | escape => true
  | code | slash | comment => false

/-- The brackets that a scanner meets in code. -/
def brackets : Region → Text → Text
  | _, [] => []
  | region, symbol :: rest =>
    (if region.isCode && isBracket symbol then [symbol] else []) ++
      brackets (region.next symbol) rest

variable {region : Region}

theorem after_append (first second : Text) :
    region.after (first ++ second) = (region.after first).after second :=
  List.foldl_append

theorem brackets_append (first second : Text) :
    region.brackets (first ++ second) =
      region.brackets first ++ (region.after first).brackets second := by
  induction first generalizing region with
  | nil => rfl
  | cons symbol first ih =>
    rw [List.cons_append, brackets, ih, brackets, List.append_assoc]
    rfl

end Region

/-! ### Nesting -/

/-- Brackets that are balanced and properly nested. -/
inductive Nested : Text → Prop
  | nil : Nested []
  | enclosed {opening closing : Symbol} {inner : Text} (hpair : (opening, closing) ∈ bracketPairs)
      (hinner : Nested inner) : Nested (opening :: (inner ++ [closing]))
  | append {first second : Text} (hfirst : Nested first) (hsecond : Nested second) :
      Nested (first ++ second)

/-- Whether brackets are nested and close those that are open before, of which `pending` are the
counterparts, innermost first. -/
def closes : (pending : Text) → Text → Bool
  | pending, [] => pending.isEmpty
  | pending, symbol :: rest =>
    match bracketPairs.lookup symbol with
    | some closing => closes (closing :: pending) rest
    | none => pending.head? == some symbol && closes pending.tail rest

theorem closes_opening {opening closing : Symbol} (h : (opening, closing) ∈ bracketPairs)
    (pending rest : Text) :
    closes pending (opening :: rest) = closes (closing :: pending) rest := by
  fin_cases h <;> rfl

theorem closes_closing {opening closing : Symbol} (h : (opening, closing) ∈ bracketPairs)
    (pending rest : Text) :
    closes (closing :: pending) (closing :: rest) = closes pending rest := by
  fin_cases h <;> rfl

theorem Nested.closes_append {inner : Text} (h : Nested inner) (pending rest : Text) :
    closes pending (inner ++ rest) = closes pending rest := by
  induction h generalizing pending rest with
  | nil => rfl
  | enclosed hpair _ ih =>
    rw [List.cons_append, closes_opening hpair, List.append_assoc, ih, List.singleton_append,
      closes_closing hpair]
  | append _ _ ihfirst ihsecond => rw [List.append_assoc, ihfirst, ihsecond]

/-- Up to the innermost bracket that is open before, brackets are nested. -/
theorem exists_of_closes {text pending : Text} (h : closes pending text = true) :
    match pending with
    | [] => Nested text
    | closing :: pending =>
      ∃ inner rest,
        text = inner ++ closing :: rest ∧ Nested inner ∧ closes pending rest = true := by
  induction hlength : text.length using Nat.strongRecOn generalizing text pending with
  | _ length ih =>
    cases text with
    | nil =>
      cases pending with
      | nil => exact .nil
      | cons closing pending => cases h
    | cons symbol text =>
      rw [List.length_cons] at hlength
      rw [closes] at h
      split at h
      · -- a bracket opens: what closes it splits the text, and the rest is shorter too
        rename_i closing hlookup
        obtain ⟨_, _, hpairs, -⟩ := List.lookup_eq_some_iff.1 hlookup
        have hpair : (symbol, closing) ∈ bracketPairs := by simp [hpairs]
        obtain ⟨inner, rest, rfl, hinner, hrest⟩ := ih text.length (by omega) h rfl
        have hfirst : Nested (symbol :: (inner ++ [closing])) := .enclosed hpair hinner
        have hshorter : rest.length < length := by
          rw [List.length_append, List.length_cons] at hlength
          omega
        have hsplit := ih rest.length hshorter hrest rfl
        cases pending with
        | nil => simpa using hfirst.append hsplit
        | cons expected pending =>
          obtain ⟨others, behind, rfl, hothers, hbehind⟩ := hsplit
          exact ⟨_, behind, by simp, hfirst.append hothers, hbehind⟩
      · cases pending with
        | nil => cases h
        | cons expected pending =>
          obtain ⟨hsymbol, hrest⟩ := Bool.and_eq_true_iff.1 h
          obtain rfl : expected = symbol := Option.some.inj (beq_iff_eq.1 hsymbol)
          exact ⟨[], text, rfl, .nil, hrest⟩

theorem nested_iff_closes {text : Text} : Nested text ↔ closes [] text = true := by
  constructor
  · intro h
    have hend := h.closes_append [] []
    rwa [List.append_nil] at hend
  · exact exists_of_closes

instance (text : Text) : Decidable (Nested text) := decidable_of_iff' _ nested_iff_closes

/-- A text that ends outside every literal, with brackets that are nested in its code. -/
structure WellBracketed (text : Text) : Prop where
  outside : (Region.code.after text).isLiteral = false
  nested : Nested (Region.code.brackets text)

/-! ### Parts of a text -/

/-- A scanner that begins in one region ends in another, with the given brackets met in code. -/
def Scans (start : Region) (text : Text) (last : Region) (met : Text) : Prop :=
  start.after text = last ∧ start.brackets text = met

instance (start : Region) (text : Text) (last : Region) (met : Text) :
    Decidable (Scans start text last met) := instDecidableAnd

section Scans

variable {start middle last : Region} {first second text met others : Text}

theorem Scans.append (hfirst : Scans start first middle met)
    (hsecond : Scans middle second last others) :
    Scans start (first ++ second) last (met ++ others) := by
  obtain ⟨rfl, rfl⟩ := hfirst
  obtain ⟨rfl, rfl⟩ := hsecond
  exact ⟨Region.after_append first second, Region.brackets_append first second⟩

/-- A scanner stays where it is, and meets nothing, if each symbol or what is written for it leaves
it there. -/
theorem scans_flatMap {escape : Symbol → Text}
    (h : ∀ symbol ∈ text, Scans start (escape symbol) start []) :
    Scans start (text.flatMap escape) start [] := by
  induction text with
  | nil => exact ⟨rfl, rfl⟩
  | cons symbol text ih =>
    obtain ⟨hsymbol, htext⟩ := List.forall_mem_cons.1 h
    exact hsymbol.append (ih htext)

theorem scans_symbols (h : ∀ symbol ∈ text, Scans start [symbol] start []) :
    Scans start text start [] := by
  have hsymbols := scans_flatMap h
  rwa [List.flatMap_singleton'] at hsymbols

/-- Names are code without brackets. -/
theorem scans_word {name : String} (h : IsWord name) : Scans .code name .code [] := by
  refine scans_symbols fun symbol hsymbol => ?_
  obtain ⟨c, hc, rfl⟩ := List.mem_map.1 hsymbol
  exact Naming.forall_ascii
    (p := fun c => Naming.isTypeChar c = true → Scans .code [.char c] .code []) (by decide)
    (Naming.lt_of_isTypeChar (h c hc)) (h c hc)

/-- A comment goes on to the end of its line. -/
theorem scans_comment (h : lineEnd ∉ text) : Scans .comment text .comment [] := by
  refine scans_symbols fun symbol hsymbol => ⟨?_, rfl⟩
  have hother : symbol ≠ lineEnd := ne_of_mem_of_not_mem hsymbol h
  exact if_neg hother

theorem scans_literalSymbol (symbol : Symbol) :
    Scans .literal (literalSymbol symbol) .literal [] := by
  rcases literalSymbol_escaped_or_plain symbol with ⟨mark, -, hsymbol⟩ | ⟨hplain, hsymbol⟩
  · rw [hsymbol]
    exact ⟨rfl, rfl⟩
  · rw [hsymbol]
    refine ⟨?_, rfl⟩
    have hquote : symbol ≠ quoteMark := by
      rintro rfl
      exact absurd hplain.2 (by decide)
    exact (if_neg hquote).trans (if_neg hplain.1)

/-- What was escaped does not end its literal. -/
theorem scans_formatLiteral (text : Text) : Scans .literal (formatLiteral text) .literal [] := by
  rw [formatLiteral_eq_literal_doubled]
  exact scans_flatMap fun symbol _ => scans_literalSymbol symbol

end Scans

/-! ### Lines -/

/-- A scanner in code does not notice indentation. -/
theorem scan_unindented (line : Text) :
    Region.code.after (unindented line) = Region.code.after line ∧
      Region.code.brackets (unindented line) = Region.code.brackets line := by
  induction line with
  | nil => exact ⟨rfl, rfl⟩
  | cons symbol line ih =>
    by_cases hspace : symbol = ' '
    · rw [hspace]
      exact ih
    · rw [unindented, List.dropWhile_cons_of_neg (by simpa using hspace)]
      exact ⟨rfl, rfl⟩

/-- Behind a line end a scanner is in code, unless it was in a literal. -/
theorem scans_lineEnd {region : Region} (h : region.isLiteral = false) :
    Scans region [lineEnd] .code [] := by
  cases region with
  | code | slash | comment => decide
  | literal | escape => cases h

/-- A line that ends outside every literal. -/
def EndsOutside (line : Text) : Prop := (Region.code.after line).isLiteral = false

theorem scans_lines {lines : List Text} (h : ∀ line ∈ lines, EndsOutside line) :
    Scans .code (lines.flatMap (· ++ [lineEnd])) .code (lines.flatMap Region.code.brackets) := by
  induction lines with
  | nil => exact ⟨rfl, rfl⟩
  | cons line lines ih =>
    obtain ⟨hline, hlines⟩ := List.forall_mem_cons.1 h
    have hfirst : Scans .code line (Region.code.after line) (Region.code.brackets line) :=
      ⟨rfl, rfl⟩
    have hwhole := (hfirst.append (scans_lineEnd hline)).append (ih hlines)
    rwa [List.append_nil] at hwhole

/-- A page is well bracketed if its lines end outside literals and have nested brackets. -/
theorem Page.wellBracketed_text {page : Page} (h : ∀ line ∈ page.lines, EndsOutside line)
    (hnested : Nested (page.lines.flatMap Region.code.brackets)) : WellBracketed page.text := by
  have hscans : Scans .code page.text .code (page.lines.flatMap Region.code.brackets) := by
    by_cases hlines : page.lines = []
    · rw [Page.text, hlines]
      decide
    · have hjoin : page.text = page.lines.flatMap (· ++ [lineEnd]) := join_append_lineEnd hlines
      rw [hjoin]
      exact scans_lines h
  refine ⟨?_, ?_⟩
  · rw [hscans.1]
    rfl
  · rwa [hscans.2]

/-! ### Scripts -/

namespace Script

/-- A script whose lines end outside literals, and whose brackets are nested. -/
structure Bracketed (style : Style) (script : Script) : Prop where
  outside : ∀ line ∈ contents style script, EndsOutside line
  nested : Nested ((contents style script).flatMap Region.code.brackets)

variable {style : Style} {first second script : Script} {line met others : Text}

instance (line : Text) : Decidable (EndsOutside line) := inferInstanceAs (Decidable (_ = false))

instance (style : Style) (script : Script) : Decidable (Bracketed style script) :=
  decidable_of_iff ((∀ line ∈ contents style script, EndsOutside line) ∧
      Nested ((contents style script).flatMap Region.code.brackets))
    ⟨fun h => ⟨h.1, h.2⟩, fun h => ⟨h.outside, h.nested⟩⟩

theorem bracketed_nil : Bracketed style [] := ⟨List.forall_mem_nil _, .nil⟩

theorem Bracketed.append (hfirst : Bracketed style first) (hsecond : Bracketed style second) :
    Bracketed style (first ++ second) where
  outside := by
    rw [contents_append, List.forall_mem_append]
    exact ⟨hfirst.outside, hsecond.outside⟩
  nested := by
    rw [contents_append, List.flatMap_append]
    exact hfirst.nested.append hsecond.nested

theorem bracketed_flatMap {α : Type} {xs : List α} {part : α → Script}
    (h : ∀ x ∈ xs, Bracketed style (part x)) : Bracketed style (xs.flatMap part) := by
  induction xs with
  | nil => exact bracketed_nil
  | cons x xs ih =>
    rw [List.forall_mem_cons] at h
    exact h.1.append (ih h.2)

theorem bracketed_join {scripts : List Script} (h : ∀ script ∈ scripts, Bracketed style script) :
    Bracketed style (.join scripts) := by
  rw [Script.join, ← List.flatMap_id]
  exact bracketed_flatMap h

theorem bracketed_steps (h : ∀ step ∈ script, Bracketed style [step]) : Bracketed style script := by
  have hsteps := bracketed_flatMap h
  rwa [List.flatMap_singleton'] at hsteps

theorem bracketed_line {last : Region} (h : Scans .code line last met)
    (hlast : last.isLiteral = false) (hnested : Nested met) : Bracketed style [.line line] where
  outside := by
    refine List.forall_mem_singleton.2 ?_
    rw [EndsOutside, h.1]
    exact hlast
  nested := by
    show Nested (Region.code.brackets line ++ [])
    rwa [List.append_nil, h.2]

/-- A block whose first line ends with the bracket that its last line begins with. -/
theorem Bracketed.block {opening closing : Text} {bracket counterpart : Symbol}
    (hopening : Scans .code opening .code (met ++ [bracket])) (hmet : Nested met)
    (hbody : Bracketed style script)
    (hclosing : Scans .code closing .code (counterpart :: others)) (hothers : Nested others)
    (hpair : (bracket, counterpart) ∈ bracketPairs) :
    Bracketed style (block opening script closing) where
  outside := by
    rw [contents_block, List.forall_mem_cons, List.forall_mem_append, List.forall_mem_singleton]
    refine ⟨?_, hbody.outside, ?_⟩
    · rw [EndsOutside, hopening.1]
      rfl
    · rw [EndsOutside, hclosing.1]
      rfl
  nested := by
    have hwhole : (contents style (Source.block opening script closing)).flatMap
        Region.code.brackets = met ++ (bracket ::
          ((contents style script).flatMap Region.code.brackets ++ [counterpart])) ++ others := by
      rw [contents_block, List.flatMap_cons, List.flatMap_append, List.flatMap_singleton,
        hopening.2, hclosing.2]
      simp
    rw [hwhole]
    exact (hmet.append (.enclosed hpair hbody.nested)).append hothers

/-- The text of a script is well bracketed if the script is. -/
theorem Bracketed.text (hstyle : style.IsSpaced) (h : Bracketed style script) :
    WellBracketed (Script.text style script) := by
  have hafter := map_lines_run hstyle (fun line => (scan_unindented line).1) script
  have hbrackets := map_lines_run hstyle (fun line => (scan_unindented line).2) script
  refine Page.wellBracketed_text ?_ ?_
  · have hregions : ∀ region ∈ (contents style script).map Region.code.after,
        region.isLiteral = false := List.forall_mem_map.2 h.outside
    rw [← hafter] at hregions
    exact fun line hline => hregions _ (List.mem_map_of_mem hline)
  · rw [List.flatMap_def, hbrackets, ← List.flatMap_def]
    exact h.nested

end Script

end ModuleGraph.Source
