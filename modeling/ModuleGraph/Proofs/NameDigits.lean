import Mathlib
import ModuleGraph.Proofs.CaseImages

/-!
# The digits of names

A text and the names made from it have the same ASCII digits in the same order: lower case makes
none and loses none, and neither does what is put for white space or before a name.

## Main definitions

- `digitsOf`, `digits` — the digits of a text and of a name

## Main statements

- `digitsOf_lowerAfter` — the digits of a text in lower case
- `digits_moduleName`, `digits_typeName` — the digits of the names made from a text
-/

namespace ModuleGraph.Naming

/-! ### Digits -/

/-- The ASCII digits of a text. -/
def digitsOf (text : Text) : List Char := charsWhere isAsciiDigit text

/-- The ASCII digits of a name. -/
def digits (name : String) : List Char := name.toList.filter isAsciiDigit

theorem digitsOf_append (first second : Text) :
    digitsOf (first ++ second) = digitsOf first ++ digitsOf second := by
  rw [digitsOf, charsWhere, List.filterMap_append, List.filter_append]
  rfl

theorem digitsOf_cons (symbol : Symbol) (text : Text) :
    digitsOf (symbol :: text) = digitsOf [symbol] ++ digitsOf text :=
  digitsOf_append [symbol] text

theorem digitsOf_ofChars (cs : List Char) :
    digitsOf (Text.ofChars cs) = cs.filter isAsciiDigit :=
  charsWhere_ofChars isAsciiDigit cs

theorem digits_append (first second : String) :
    digits (first ++ second) = digits first ++ digits second := by
  rw [digits, String.toList_append, List.filter_append, digits, digits]

/-! ### Lower case -/

theorem isAsciiDigit_eq_inRanges : isAsciiDigit = Text.inRanges [(0x30, 0x39)] := by
  funext c
  rw [isAsciiDigit, Text.inRanges, List.any_cons, List.any_nil, Bool.or_false]
  rfl

theorem filter_lowerChar (c : Char) :
    (Text.lowerChar c).filter isAsciiDigit = [c].filter isAsciiDigit := by
  rw [isAsciiDigit_eq_inRanges]
  exact Text.filter_lowerChar _ (by decide) c

/-- Lower case neither makes digits nor loses them. -/
theorem digitsOf_lowerAfter (afterCased : Bool) (text : Text) :
    digitsOf (Text.lowerAfter afterCased text) = digitsOf text := by
  induction text generalizing afterCased with
  | nil => rfl
  | cons symbol text ih =>
    rw [Text.lowerAfter, digitsOf_append, ih, digitsOf_cons symbol]
    congr 1
    split
    · rename_i hsigma
      rw [hsigma, Text.lowerSigma]
      split <;> decide
    · cases symbol with
      | half index => rfl
      | char c => exact (digitsOf_ofChars _).trans (filter_lowerChar c)

/-! ### Names made from texts -/

theorem isAsciiDigit_of_isBlank {c : Char} (h : Text.isBlank c = true) :
    isAsciiDigit c = false := by
  rw [← Bool.not_eq_true]
  intro hdigit
  have hblank := isBlank_of_isModuleChar (isModuleChar_of_isDigit hdigit)
  exact Bool.false_ne_true (hblank.symm.trans h)

theorem digitsOf_joinWords (inRun : Bool) (text : Text) :
    digitsOf (Text.joinWords '_' inRun text) = digitsOf text := by
  have hline : digitsOf [Symbol.char '_'] = [] := by decide
  induction text generalizing inRun with
  | nil => rfl
  | cons symbol text ih =>
    rw [Text.joinWords, digitsOf_cons symbol]
    split
    · rename_i hblank
      have hnone : digitsOf [symbol] = [] := by
        cases symbol with
        | half index => rfl
        | char c => exact List.filter_cons_of_neg (by simp [isAsciiDigit_of_isBlank hblank])
      rw [hnone]
      split
      · exact ih true
      · rw [digitsOf_cons, hline, ih]
    · rw [digitsOf_cons, ih]

theorem digits_guardDigit (cs : List Char) :
    (guardDigit cs).filter isAsciiDigit = cs.filter isAsciiDigit := by
  cases cs with
  | nil => rfl
  | cons c cs =>
    rw [guardDigit]
    split
    · exact List.filter_cons_of_neg (by decide)
    · rfl

theorem filter_charsWhere {p : Char → Bool} (h : ∀ c, isAsciiDigit c = true → p c = true)
    (text : Text) : (charsWhere p text).filter isAsciiDigit = digitsOf text := by
  rw [charsWhere, List.filter_filter, digitsOf, charsWhere]
  apply List.filter_congr
  intro c _
  cases hdigit : isAsciiDigit c with
  | false => rfl
  | true => rw [h c hdigit]; rfl

theorem digits_moduleName (text : Text) : digits (moduleName text) = digitsOf text := by
  rw [digits, moduleName, String.toList_ofList, moduleChars, digits_guardDigit,
    filter_charsWhere fun c hc => isModuleChar_of_isDigit hc, digitsOf_joinWords]
  exact digitsOf_lowerAfter false text

theorem digits_typeName (text : Text) : digits (typeName text) = digitsOf text := by
  rw [digits, typeName, String.toList_ofList, typeChars, digits_guardDigit]
  refine filter_charsWhere (fun c hc => ?_) text
  rw [isTypeChar, isModuleChar_of_isDigit hc, Bool.true_or]

theorem digits_orElse {fallback : String} (h : digits fallback = []) (name : String) :
    digits (orElse name fallback) = digits name := by
  rw [orElse]
  split
  · rename_i hempty
    rw [h, hempty]
    rfl
  · rfl

end ModuleGraph.Naming
