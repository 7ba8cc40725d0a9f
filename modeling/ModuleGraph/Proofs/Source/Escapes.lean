import Mathlib.Algebra.Group.Nat.Even
import ModuleGraph.Proofs.Source.Reading

/-!
# Escaped texts

Free text enters a literal of the generated code escaped, symbol by symbol. A literal denotes a
text, and in Rust this text is a format string, which denotes another one. Reading what was escaped
gives back what it was made from, in one stage or in two. Nothing in an escaped text ends the line
or the literal, since every quote has a backslash of its own before it; and no brace of a format
string stands alone, since every run of equal braces has even length.

## Main definitions

- `readLiteral?`, `readFormat?` — the text that the content of a literal or a format string denotes
- `replaceEach` — a text after replacements that are made one after the other
- `endRun` — how often a symbol is repeated at the end of a text

## Main statements

- `replaceEach_literal`, `replaceEach_format` — the escapes as replacements in the whole text
- `formatLiteral_eq_literal_doubled` — the two stages of a format string
- `readLiteral?_literal`, `readFormat?_doubled` — each stage is read back
- `odd_endRun_of_literal_eq`, `even_of_doubled_eq` — what stands before quotes, and runs of braces
- `escapes_lossless_confining` — all of this together
-/

namespace ModuleGraph.Source

/-! ### Reading -/

def backslash : Symbol := '\\'

def quoteMark : Symbol := '\x22'

def lineReturn : Symbol := '\r'

/-- The symbol that an escape in a literal denotes, by what follows the backslash. -/
def escaped? (mark : Symbol) : Option Symbol :=
  if mark = backslash ∨ mark = quoteMark then some mark
  else if mark = 'n' then some lineEnd
  else if mark = 'r' then some lineReturn
  else none

/-- Whether a symbol cannot stand in a literal as it is. -/
def needsEscape (symbol : Symbol) : Bool := symbol ∈ [quoteMark, lineEnd, lineReturn]

/-- The text that the content of a literal denotes, unless it holds an escape that is none or a
symbol that cannot stand there. -/
def readLiteral? : Text → Option Text
  | [] => some []
  | symbol :: rest =>
    if symbol = backslash then
      match rest with
      | [] => none
      | mark :: rest =>
        (escaped? mark).bind fun denoted => (readLiteral? rest).map (denoted :: ·)
    else if needsEscape symbol then none
    else (readLiteral? rest).map (symbol :: ·)

def isBrace (symbol : Symbol) : Bool := symbol ∈ [Symbol.char '\x7b', '\x7d']

/-- The text that a format string without arguments denotes: every brace is written twice. -/
def readFormat? : Text → Option Text
  | [] => some []
  | symbol :: rest =>
    if isBrace symbol then
      match rest with
      | [] => none
      | second :: rest => if second = symbol then (readFormat? rest).map (symbol :: ·) else none
    else (readFormat? rest).map (symbol :: ·)

/-! ### Replacements -/

/-- A text with another in the place of every symbol of one kind. -/
def replaced (text : Text) (old : Symbol) (new : Text) : Text :=
  text.flatMap fun symbol => if symbol = old then new else [symbol]

/-- A text after replacements that are made one after the other. -/
def replaceEach (replacements : List (Symbol × Text)) (text : Text) : Text :=
  replacements.foldl (fun text replacement => replaced text replacement.1 replacement.2) text

/-- The replacements that make the content of a literal. -/
def literalReplacements : List (Symbol × Text) :=
  [(backslash, "\\\\"), (quoteMark, "\\\x22"), (lineEnd, "\\n"), (lineReturn, "\\r")]

/-- The replacements that make the content of a literal that is a format string. -/
def formatReplacements : List (Symbol × Text) :=
  [(backslash, "\\\\"), (quoteMark, "\\\x22"), ('\x7b', "\x7b\x7b"), ('\x7d', "\x7d\x7d"),
    (lineEnd, "\\n"), (lineReturn, "\\r")]

theorem replaceEach_flatMap (replacements : List (Symbol × Text)) (escape : Symbol → Text)
    (text : Text) :
    replaceEach replacements (text.flatMap escape) =
      text.flatMap fun symbol => replaceEach replacements (escape symbol) := by
  induction replacements generalizing escape with
  | nil => rfl
  | cons replacement replacements ih =>
    show replaceEach replacements (replaced (text.flatMap escape) _ _) = _
    rw [replaced, List.flatMap_assoc, ih]
    rfl

/-- Replacements are made symbol by symbol, since each is. -/
theorem replaceEach_eq_flatMap (replacements : List (Symbol × Text)) (text : Text) :
    replaceEach replacements text =
      text.flatMap fun symbol => replaceEach replacements [symbol] := by
  have h := replaceEach_flatMap replacements (fun symbol => [symbol]) text
  rwa [List.flatMap_singleton'] at h

theorem replaceEach_literalSymbol (symbol : Symbol) :
    replaceEach literalReplacements [symbol] = literalSymbol symbol := by
  rw [literalSymbol]
  split_ifs with hslash hquote hline hreturn
  · rw [hslash]
    decide
  · rw [hquote]
    decide
  · rw [hline]
    decide
  · rw [hreturn]
    decide
  · simp [replaceEach, literalReplacements, replaced, backslash, quoteMark, lineEnd, lineReturn,
      hslash, hquote, hline, hreturn]

theorem replaceEach_literal (text : Text) :
    replaceEach literalReplacements text = literal text := by
  rw [replaceEach_eq_flatMap, literal]
  simp only [replaceEach_literalSymbol]

theorem replaceEach_formatSymbol (symbol : Symbol) :
    replaceEach formatReplacements [symbol] = formatSymbol symbol := by
  rw [formatSymbol, literalSymbol]
  split_ifs with hbrace hslash hquote hline hreturn
  · rcases hbrace with rfl | rfl <;> decide
  · rw [hslash]
    decide
  · rw [hquote]
    decide
  · rw [hline]
    decide
  · rw [hreturn]
    decide
  · rw [not_or] at hbrace
    simp [replaceEach, formatReplacements, replaced, backslash, quoteMark, lineEnd, lineReturn,
      hbrace, hslash, hquote, hline, hreturn]

theorem replaceEach_format (text : Text) :
    replaceEach formatReplacements text = formatLiteral text := by
  rw [replaceEach_eq_flatMap, formatLiteral]
  simp only [replaceEach_formatSymbol]

/-! ### Two stages -/

/-- A symbol of a format string. -/
def doubledSymbol (symbol : Symbol) : Text := if isBrace symbol then [symbol, symbol] else [symbol]

/-- The format string that denotes a text. -/
def doubled (text : Text) : Text := text.flatMap doubledSymbol

theorem isBrace_iff {symbol : Symbol} :
    isBrace symbol = true ↔ symbol = '\x7b' ∨ symbol = '\x7d' := by
  simp [isBrace]

/-- Braces are no symbols that a literal escapes. -/
theorem literalSymbol_of_isBrace {symbol : Symbol} (h : isBrace symbol = true) :
    literalSymbol symbol = [symbol] := by
  rcases isBrace_iff.1 h with rfl | rfl <;> decide

theorem formatSymbol_of_isBrace {symbol : Symbol} (h : isBrace symbol = true) :
    formatSymbol symbol = [symbol, symbol] :=
  if_pos (isBrace_iff.1 h)

theorem formatSymbol_of_not_isBrace {symbol : Symbol} (h : ¬ isBrace symbol = true) :
    formatSymbol symbol = literalSymbol symbol :=
  if_neg (mt isBrace_iff.2 h)

theorem literal_doubledSymbol (symbol : Symbol) :
    (doubledSymbol symbol).flatMap literalSymbol = formatSymbol symbol := by
  rw [doubledSymbol]
  split
  · rename_i hbrace
    rw [formatSymbol_of_isBrace hbrace, List.flatMap_cons, List.flatMap_singleton,
      literalSymbol_of_isBrace hbrace, List.singleton_append]
  · rename_i hbrace
    rw [formatSymbol_of_not_isBrace hbrace, List.flatMap_singleton]

/-- A literal for a format string escapes the format string. -/
theorem formatLiteral_eq_literal_doubled (text : Text) :
    formatLiteral text = literal (doubled text) := by
  rw [literal, doubled, List.flatMap_assoc, formatLiteral]
  simp only [literal_doubledSymbol]

/-- No escape has a brace in it. -/
theorem doubled_literalSymbol (symbol : Symbol) :
    (literalSymbol symbol).flatMap doubledSymbol = formatSymbol symbol := by
  by_cases hbrace : isBrace symbol = true
  · rw [literalSymbol_of_isBrace hbrace, formatSymbol_of_isBrace hbrace, List.flatMap_singleton,
      doubledSymbol, if_pos hbrace]
  · rw [formatSymbol_of_not_isBrace hbrace, literalSymbol]
    split_ifs
    · decide
    · decide
    · decide
    · decide
    · rw [List.flatMap_singleton, doubledSymbol, if_neg hbrace]

/-- The two stages can be exchanged. -/
theorem formatLiteral_eq_doubled_literal (text : Text) :
    formatLiteral text = doubled (literal text) := by
  rw [doubled, literal, List.flatMap_assoc, formatLiteral]
  simp only [doubled_literalSymbol]

/-! ### Reading back -/

theorem readLiteral?_cons {symbol : Symbol} (hslash : symbol ≠ backslash)
    (hplain : needsEscape symbol = false) (rest : Text) :
    readLiteral? (symbol :: rest) = (readLiteral? rest).map (symbol :: ·) := by
  rw [readLiteral?.eq_def]
  simp only [if_neg hslash, hplain, Bool.false_eq_true, if_false]

/-- A symbol is written behind a backslash, by a mark that denotes it, or as it is. -/
theorem literalSymbol_escaped_or_plain (symbol : Symbol) :
    (∃ mark, escaped? mark = some symbol ∧ literalSymbol symbol = [backslash, mark]) ∨
      (symbol ≠ backslash ∧ needsEscape symbol = false) ∧ literalSymbol symbol = [symbol] := by
  rw [literalSymbol]
  split_ifs with hslash hquote hline hreturn
  · exact .inl ⟨backslash, congrArg some hslash.symm, rfl⟩
  · exact .inl ⟨quoteMark, congrArg some hquote.symm, rfl⟩
  · exact .inl ⟨'n', congrArg some hline.symm, rfl⟩
  · exact .inl ⟨'r', congrArg some hreturn.symm, rfl⟩
  · refine .inr ⟨⟨hslash, ?_⟩, rfl⟩
    simp [needsEscape, quoteMark, lineEnd, lineReturn, hquote, hline, hreturn]

theorem readLiteral?_literalSymbol (symbol : Symbol) (rest : Text) :
    readLiteral? (literalSymbol symbol ++ rest) = (readLiteral? rest).map (symbol :: ·) := by
  rcases literalSymbol_escaped_or_plain symbol with ⟨mark, hmark, hsymbol⟩ | ⟨hplain, hsymbol⟩
  · have hread : readLiteral? (backslash :: mark :: rest) =
        (escaped? mark).bind fun denoted => (readLiteral? rest).map (denoted :: ·) := rfl
    rw [hsymbol, List.cons_append, List.singleton_append, hread, hmark, Option.bind_some]
  · rw [hsymbol]
    exact readLiteral?_cons hplain.1 hplain.2 rest

/-- What a literal denotes is the text that was escaped. -/
theorem readLiteral?_literal (text : Text) : readLiteral? (literal text) = some text := by
  induction text with
  | nil => rfl
  | cons symbol text ih =>
    rw [literal, List.flatMap_cons, readLiteral?_literalSymbol]
    exact congrArg (Option.map (symbol :: ·)) ih

theorem readFormat?_doubledSymbol (symbol : Symbol) (rest : Text) :
    readFormat? (doubledSymbol symbol ++ rest) = (readFormat? rest).map (symbol :: ·) := by
  rw [doubledSymbol]
  split
  · rename_i hbrace
    rw [List.cons_append, List.singleton_append, readFormat?.eq_def]
    simp only [if_pos hbrace, if_true]
  · rename_i hbrace
    rw [List.singleton_append, readFormat?.eq_def]
    simp only [if_neg hbrace]

/-- What a format string denotes is the text whose braces were doubled. -/
theorem readFormat?_doubled (text : Text) : readFormat? (doubled text) = some text := by
  induction text with
  | nil => rfl
  | cons symbol text ih =>
    rw [doubled, List.flatMap_cons, readFormat?_doubledSymbol]
    exact congrArg (Option.map (symbol :: ·)) ih

/-! ### Runs -/

/-- How often a symbol is repeated at the end of a text. -/
def endRun (symbol : Symbol) (text : Text) : Nat := (text.reverse.takeWhile (· == symbol)).length

section Runs

variable {symbol other : Symbol} {text : Text}

theorem endRun_append_self (symbol : Symbol) (text : Text) :
    endRun symbol (text ++ [symbol]) = endRun symbol text + 1 := by
  rw [endRun, List.reverse_append, List.reverse_singleton, List.singleton_append,
    List.takeWhile_cons_of_pos (by simp), List.length_cons, endRun]

theorem endRun_append_other (h : other ≠ symbol) : endRun symbol (text ++ [other]) = 0 := by
  rw [endRun, List.reverse_append, List.reverse_singleton, List.singleton_append,
    List.takeWhile_cons_of_neg (by simpa using h), List.length_nil]

theorem endRun_append_replicate (count : Nat) :
    endRun symbol (text ++ List.replicate count symbol) = endRun symbol text + count := by
  induction count with
  | zero => rw [List.replicate_zero, List.append_nil, Nat.add_zero]
  | succ count ih =>
    rw [List.replicate_succ', ← List.append_assoc, endRun_append_self, ih, Nat.add_assoc]

theorem endRun_eq_zero (h : text.getLast? ≠ some symbol) : endRun symbol text = 0 := by
  cases text using List.reverseRecOn with
  | nil => rfl
  | append_singleton text last =>
    refine endRun_append_other ?_
    rintro rfl
    exact h List.getLast?_concat

end Runs

/-! ### Quotes -/

/-- Behind what was escaped, backslashes stand in pairs. -/
theorem even_endRun_literal (text : Text) : Even (endRun backslash (literal text)) := by
  induction text using List.reverseRecOn with
  | nil => exact Even.zero
  | append_singleton text symbol ih =>
    rw [literal, List.flatMap_append, List.flatMap_singleton]
    rcases literalSymbol_escaped_or_plain symbol with ⟨mark, -, hsymbol⟩ | ⟨hplain, hsymbol⟩
    · rw [hsymbol, List.append_cons]
      by_cases hmark : mark = backslash
      · rw [hmark, endRun_append_self, endRun_append_self, Nat.add_assoc]
        exact ih.add even_two
      · rw [endRun_append_other hmark]
        exact Even.zero
    · rw [hsymbol, endRun_append_other hplain.1]
      exact Even.zero

theorem eq_of_singleton_eq_append {symbol other : Symbol} {before after : Text}
    (h : [symbol] = before ++ other :: after) : symbol = other ∧ before = [] := by
  cases before with
  | nil => exact ⟨(List.cons.inj h).1, rfl⟩
  | cons first before => exact absurd (List.cons.inj h).2 (by simp)

theorem literalSymbol_eq_append_quote {symbol : Symbol} {before after : Text}
    (h : literalSymbol symbol = before ++ quoteMark :: after) :
    symbol = quoteMark ∧ before = [backslash] := by
  rcases literalSymbol_escaped_or_plain symbol with ⟨mark, hmark, hsymbol⟩ | ⟨hplain, hsymbol⟩
  · rw [hsymbol] at h
    cases before with
    | nil => exact absurd (List.cons.inj h).1 (by decide)
    | cons first before =>
      obtain ⟨rfl, hrest⟩ := List.cons.inj h
      obtain ⟨rfl, rfl⟩ := eq_of_singleton_eq_append hrest
      exact ⟨(Option.some.inj hmark).symm, rfl⟩
  · rw [hsymbol] at h
    rw [(eq_of_singleton_eq_append h).1] at hplain
    exact absurd hplain.2 (by decide)

/-- A quote in what was escaped is one that was escaped. -/
theorem exists_of_literal_eq {text before after : Text}
    (h : literal text = before ++ quoteMark :: after) :
    ∃ first second, text = first ++ quoteMark :: second ∧
      before = literal first ++ [backslash] := by
  induction text generalizing before with
  | nil => exact absurd h (by simp [literal])
  | cons symbol text ih =>
    rw [literal, List.flatMap_cons] at h
    rcases List.append_eq_append_iff.1 h with ⟨rest, rfl, hrest⟩ | ⟨rest, hsymbol, hrest⟩
    · obtain ⟨first, second, rfl, rfl⟩ := ih hrest
      refine ⟨symbol :: first, second, rfl, ?_⟩
      rw [literal, literal, List.flatMap_cons, List.append_assoc]
    · cases rest with
      | nil =>
        -- the quote would be the first symbol behind the escape
        have htext : literal text = [] ++ quoteMark :: after := hrest.symm
        obtain ⟨first, second, -, hnil⟩ := ih htext
        exact absurd hnil.symm (by simp)
      | cons quote rest =>
        rw [List.cons_append] at hrest
        rw [← (List.cons.inj hrest).1] at hsymbol
        obtain ⟨rfl, rfl⟩ := literalSymbol_eq_append_quote hsymbol
        exact ⟨[], text, rfl, rfl⟩

/-- Every quote has a backslash before it that is no escape itself. -/
theorem odd_endRun_of_literal_eq {text before after : Text}
    (h : literal text = before ++ quoteMark :: after) : Odd (endRun backslash before) := by
  obtain ⟨first, -, -, rfl⟩ := exists_of_literal_eq h
  rw [endRun_append_self]
  exact (even_endRun_literal first).add_one

theorem lineReturn_not_mem_literal (text : Text) : lineReturn ∉ literal text := by
  intro hreturn
  obtain ⟨symbol, -, hmem⟩ := List.mem_flatMap.1 hreturn
  rcases literalSymbol_escaped_or_plain symbol with ⟨mark, hmark, hsymbol⟩ | ⟨hplain, hsymbol⟩
  · rw [hsymbol, List.mem_cons, List.mem_singleton] at hmem
    obtain rfl : lineReturn = mark := hmem.resolve_left (by decide)
    cases hmark
  · rw [hsymbol, List.mem_singleton] at hmem
    rw [← hmem] at hplain
    exact absurd hplain.2 (by decide)

/-! ### Braces -/

theorem mem_doubledSymbol {symbol other : Symbol} :
    other ∈ doubledSymbol symbol ↔ other = symbol := by
  rw [doubledSymbol]
  split <;> simp

/-- Up to where a run of braces ends, the braces stand in pairs. -/
theorem even_endRun_of_doubled_eq {brace : Symbol} (hbrace : isBrace brace = true)
    {text before after : Text} (h : doubled text = before ++ after)
    (hafter : after.head? ≠ some brace) : Even (endRun brace before) := by
  induction text using List.reverseRecOn generalizing before after with
  | nil =>
    rw [(List.append_eq_nil_iff.1 h.symm).1]
    exact Even.zero
  | append_singleton text symbol ih =>
    have hwhole : Even (endRun brace (doubled text)) := ih (List.append_nil _).symm (by simp)
    rw [doubled, List.flatMap_append, List.flatMap_singleton] at h
    rcases List.append_eq_append_iff.1 h with ⟨rest, rfl, hrest⟩ | ⟨rest, hbefore, rfl⟩
    · -- the run ends within what was made of the last symbol, or right before
      by_cases hsymbol : symbol = brace
      · cases after with
        | nil =>
          rw [List.append_nil, hsymbol, doubledSymbol, if_pos hbrace] at hrest
          rw [← hrest, List.append_cons, endRun_append_self, endRun_append_self, Nat.add_assoc]
          exact hwhole.add even_two
        | cons first after =>
          have hfirst : first ∈ doubledSymbol symbol := by simp [hrest]
          rw [mem_doubledSymbol, hsymbol] at hfirst
          exact absurd (congrArg some hfirst) hafter
      · cases rest using List.reverseRecOn with
        | nil => rwa [List.append_nil]
        | append_singleton rest last =>
          have hlast : last ∈ doubledSymbol symbol := by simp [hrest]
          rw [mem_doubledSymbol] at hlast
          rw [hlast, ← List.append_assoc, endRun_append_other hsymbol]
          exact Even.zero
    · refine ih hbefore ?_
      cases rest with
      | nil => simp
      | cons first rest => exact hafter

/-- Runs of equal braces in a format string have even length. -/
theorem even_of_doubled_eq {brace : Symbol} (hbrace : isBrace brace = true)
    {text before after : Text} {count : Nat}
    (h : doubled text = before ++ List.replicate count brace ++ after)
    (hbefore : before.getLast? ≠ some brace) (hafter : after.head? ≠ some brace) : Even count := by
  have heven := even_endRun_of_doubled_eq hbrace h hafter
  rwa [endRun_append_replicate, endRun_eq_zero hbefore, Nat.zero_add] at heven

/-! ### Escaped texts -/

theorem literal_append (first second : Text) :
    literal (first ++ second) = literal first ++ literal second :=
  List.flatMap_append

theorem formatLiteral_append (first second : Text) :
    formatLiteral (first ++ second) = formatLiteral first ++ formatLiteral second :=
  List.flatMap_append

theorem readFormat?_readLiteral?_formatLiteral (text : Text) :
    (readLiteral? (formatLiteral text)).bind readFormat? = some text := by
  rw [formatLiteral_eq_literal_doubled, readLiteral?_literal, Option.bind_some,
    readFormat?_doubled]

theorem literal_injective : Function.Injective literal := by
  intro first second h
  have hread := congrArg readLiteral? h
  rwa [readLiteral?_literal, readLiteral?_literal, Option.some_inj] at hread

theorem formatLiteral_injective : Function.Injective formatLiteral := by
  intro first second h
  have hread := congrArg (fun content => (readLiteral? content).bind readFormat?) h
  rwa [readFormat?_readLiteral?_formatLiteral, readFormat?_readLiteral?_formatLiteral,
    Option.some_inj] at hread

/-- A content of a literal that ends neither the line nor the literal: every quote in it has a
backslash before it that is no escape itself. -/
structure IsConfined (content : Text) : Prop where
  lineEnd_not_mem : lineEnd ∉ content
  lineReturn_not_mem : lineReturn ∉ content
  odd_endRun : ∀ before after, content = before ++ quoteMark :: after →
    Odd (endRun backslash before)

theorem isConfined_literal (text : Text) : IsConfined (literal text) where
  lineEnd_not_mem := lineEnd_not_mem_literal text
  lineReturn_not_mem := lineReturn_not_mem_literal text
  odd_endRun _ _ := odd_endRun_of_literal_eq

theorem isConfined_formatLiteral (text : Text) : IsConfined (formatLiteral text) := by
  rw [formatLiteral_eq_literal_doubled]
  exact isConfined_literal (doubled text)

/-- **Escaping loses nothing and stays within its literal.** The escapes are those of replacements
that are made in the whole text, one after the other. What was escaped for a format string denotes,
as the content of a literal, a format string that denotes the text; what was escaped for a plain
literal denotes the text at once. Neither has a line end, a carriage return, or a quote that ends
the literal, and the braces of a format string stand in runs of even length. Both ways to escape
keep different texts different, and go through a text part by part. -/
theorem escapes_lossless_confining :
    (∀ text, formatLiteral text = replaceEach formatReplacements text ∧
      literal text = replaceEach literalReplacements text) ∧
    (∀ text, (readLiteral? (formatLiteral text)).bind readFormat? = some text) ∧
    (∀ text, readLiteral? (literal text) = some text) ∧
    (∀ text, IsConfined (formatLiteral text) ∧ IsConfined (literal text)) ∧
    (∀ text before count brace after,
      formatLiteral text = before ++ List.replicate count brace ++ after → isBrace brace = true →
        before.getLast? ≠ some brace → after.head? ≠ some brace → Even count) ∧
    (Function.Injective formatLiteral ∧ Function.Injective literal) ∧
    ∀ first second, formatLiteral (first ++ second) = formatLiteral first ++ formatLiteral second ∧
      literal (first ++ second) = literal first ++ literal second := by
  refine ⟨fun text => ⟨(replaceEach_format text).symm, (replaceEach_literal text).symm⟩,
    readFormat?_readLiteral?_formatLiteral, readLiteral?_literal,
    fun text => ⟨isConfined_formatLiteral text, isConfined_literal text⟩, ?_,
    ⟨formatLiteral_injective, literal_injective⟩,
    fun first second => ⟨formatLiteral_append first second, literal_append first second⟩⟩
  intro text before count brace after h hbrace hbefore hafter
  rw [formatLiteral_eq_doubled_literal] at h
  exact even_of_doubled_eq hbrace h hbefore hafter

/-- A backslash, a quote, a line end and braces. -/
def quotedBraces : Text := "\\\x22\x7b\n\x7d\x7d"

theorem escapes_lossless_confining_quotedBraces :
    let before : Text := "\\\\\\\x22\x7b\x7b\\n"
    formatLiteral quotedBraces = before ++ List.replicate 4 (.char '\x7d') ++ [] ∧
      (readLiteral? (formatLiteral quotedBraces)).bind readFormat? = some quotedBraces ∧
      Odd (endRun backslash "\\\\\\") ∧ Even 4 := by
  intro before
  obtain ⟨-, hread, -, hconfined, hruns, -⟩ := escapes_lossless_confining
  have hcontent : formatLiteral quotedBraces =
      before ++ List.replicate 4 (.char '\x7d') ++ [] := by decide
  refine ⟨hcontent, hread quotedBraces, ?_, ?_⟩
  · exact (hconfined quotedBraces).1.odd_endRun _ "\x7b\x7b\\n\x7d\x7d\x7d\x7d" hcontent
  · exact hruns quotedBraces before 4 '\x7d' [] hcontent (by decide) (by decide) (by decide)

end ModuleGraph.Source
