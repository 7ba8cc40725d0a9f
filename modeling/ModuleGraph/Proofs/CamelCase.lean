import Mathlib.Data.List.Basic
import ModuleGraph.Proofs.Naming

/-!
# Names in camel case

Camel case drops the underscores of a name. One before a letter leaves a trace, since the letter
becomes a capital; one before a digit or at the end leaves none, and several leave the trace of
one. Two names are the same in camel case exactly if they differ in nothing but underscores without
a trace.

## Main definitions

- `spaced`, `respaced` — a name with the underscores that leave a trace, and no others

## Main statements

- `pascalChars_spaced`, `flatMap_opened_pascalChars` — what underscores are lost, and which are not
- `camelCase_eq_iff` — names that are the same in camel case
- `respaced_suffixed` — a number behind a name keeps its digits and loses its underscore
-/

namespace ModuleGraph.Naming

/-- The characters with one underscore before each letter that begins a part, and no other. The flag
tells whether the next character begins one. -/
def spaced : Bool → List Char → List Char
  | _, [] => []
  | atStart, c :: cs =>
    if c = '_' then spaced true cs
    else (if atStart && c.isLower then ['_', c] else [c]) ++ spaced false cs

/-- A name with the underscores that show in camel case. -/
def respaced (name : String) : List Char := spaced true name.toList

/-- A capital letter as it stood before: a small one behind an underscore. -/
def opened (c : Char) : List Char := if c.isUpper then ['_', c.toLower] else [c]

/-- The characters of a name in camel case with the first part begun by a capital as well. -/
def capitalised : List Char → List Char
  | [] => []
  | c :: cs => if c = '_' then cs else Text.upperChar c ++ cs

/-! ### Characters -/

theorem lt_of_isModuleChar {c : Char} (h : isModuleChar c = true) : c.toNat < 128 := by
  rw [isModuleChar_iff, isAsciiDigit, Bool.and_eq_true, decide_eq_true_eq, decide_eq_true_eq] at h
  obtain (⟨-, hz⟩ | rfl) | ⟨-, hnine⟩ := h
  · exact Nat.lt_of_le_of_lt (Char.le_def.1 hz) (by decide)
  · decide
  · exact Nat.lt_of_le_of_lt (Char.le_def.1 hnine) (by decide)

theorem lt_of_isTypeChar {c : Char} (h : isTypeChar c = true) : c.toNat < 128 := by
  rw [isTypeChar, Bool.or_eq_true, Bool.and_eq_true, decide_eq_true_eq, decide_eq_true_eq] at h
  rcases h with hplain | ⟨-, hz⟩
  · exact lt_of_isModuleChar hplain
  · exact Nat.lt_of_le_of_lt (Char.le_def.1 hz) (by decide)

/-- What can be checked for all ASCII characters holds of them. -/
theorem forall_ascii {p : Char → Prop} [DecidablePred p]
    (h : ((List.range 128).all fun code => decide (p (Char.ofNat code))) = true) {c : Char}
    (hc : c.toNat < 128) : p c := by
  have hcode := List.all_eq_true.1 h c.toNat (List.mem_range.2 hc)
  rw [Char.ofNat_toNat] at hcode
  exact of_decide_eq_true hcode

theorem isLower_or_isAsciiDigit {c : Char} (h : isModuleChar c = true) (hc : c ≠ '_') :
    c.isLower = true ∨ isAsciiDigit c = true := by
  have hsplit : (c.isLower || isAsciiDigit c || decide (c = '_')) = true := h
  simpa [hc] using hsplit

/-- A small letter can be told from its capital. -/
theorem upperChar_of_isLower {c : Char} (h : isModuleChar c = true) (hlower : c.isLower = true) :
    Text.upperChar c = [c.toUpper] ∧ opened c.toUpper = ['_', c] ∧ isTypeChar c.toUpper = true ∧
      Text.isDigit c.toUpper = false ∧ Text.lowerChar c.toUpper = [c] ∧ isAsciiDigit c = false :=
  forall_ascii (p := fun c => c.isLower = true →
    Text.upperChar c = [c.toUpper] ∧ opened c.toUpper = ['_', c] ∧ isTypeChar c.toUpper = true ∧
      Text.isDigit c.toUpper = false ∧ Text.lowerChar c.toUpper = [c] ∧ isAsciiDigit c = false)
    (by decide) (lt_of_isModuleChar h) hlower

/-- A digit is its own capital. -/
theorem upperChar_of_isAsciiDigit {c : Char} (hdigit : isAsciiDigit c = true) :
    c.isLower = false ∧ Text.upperChar c = [c] ∧ Text.isDigit c = true :=
  forall_ascii (p := fun c => isAsciiDigit c = true →
    c.isLower = false ∧ Text.upperChar c = [c] ∧ Text.isDigit c = true) (by decide)
    (lt_of_isModuleChar (isModuleChar_of_isDigit hdigit)) hdigit

theorem isBlank_of_isModuleChar {c : Char} (h : isModuleChar c = true) : Text.isBlank c = false :=
  forall_ascii (p := fun c => isModuleChar c = true → Text.isBlank c = false) (by decide)
    (lt_of_isModuleChar h) h

theorem opened_of_isModuleChar {c : Char} (h : isModuleChar c = true) : opened c = [c] :=
  forall_ascii (p := fun c => isModuleChar c = true → opened c = [c]) (by decide)
    (lt_of_isModuleChar h) h

/-! ### Underscores -/

/-- Underscores before letters are all that camel case looks at. -/
theorem pascalChars_spaced {first atStart : Bool} (hfirst : first = true → atStart = true)
    {cs : List Char} (h : ∀ c ∈ cs, isModuleChar c = true) :
    pascalChars first (spaced atStart cs) = pascalChars atStart cs := by
  induction cs generalizing first atStart with
  | nil => rfl
  | cons c cs ih =>
    obtain ⟨hc, hcs⟩ := List.forall_mem_cons.1 h
    have hrest : pascalChars false (spaced false cs) = pascalChars false cs :=
      ih Bool.noConfusion hcs
    by_cases hline : c = '_'
    · rw [spaced, if_pos hline, pascalChars, if_pos hline, ih (fun _ => rfl) hcs]
    · rw [spaced, if_neg hline, pascalChars, if_neg hline]
      rcases isLower_or_isAsciiDigit hc hline with hlower | hdigit
      · cases atStart with
        -- the letter keeps an underscore, and so begins a part again
        | true => simp [hlower, pascalChars, hline, hrest]
        | false =>
          have hinner : first = false := by simpa using hfirst
          simp [hinner, pascalChars, hline, hrest]
      · obtain ⟨hlower, hupper, -⟩ := upperChar_of_isAsciiDigit hdigit
        simp [hlower, hupper, pascalChars, hline, hrest]

/-- The capitals tell where these underscores were. -/
theorem flatMap_opened_pascalChars (atStart : Bool) {cs : List Char}
    (h : ∀ c ∈ cs, isModuleChar c = true) :
    (pascalChars atStart cs).flatMap opened = spaced atStart cs := by
  induction cs generalizing atStart with
  | nil => rfl
  | cons c cs ih =>
    obtain ⟨hc, hcs⟩ := List.forall_mem_cons.1 h
    by_cases hline : c = '_'
    · rw [spaced, if_pos hline, pascalChars, if_pos hline, ih true hcs]
    · rw [spaced, if_neg hline, pascalChars, if_neg hline, List.flatMap_append, ih false hcs]
      congr 1
      -- only the capital of a letter that begins a part is opened
      rcases isLower_or_isAsciiDigit hc hline with hlower | hdigit
      · obtain ⟨hupper, hopened, -⟩ := upperChar_of_isLower hc hlower
        cases atStart with
        | true => simp [hlower, hupper, hopened]
        | false => simp [opened_of_isModuleChar hc]
      · obtain ⟨hlower, hupper, -⟩ := upperChar_of_isAsciiDigit hdigit
        simp [hlower, hupper, opened_of_isModuleChar hc]

/-! ### Camel case -/

/-- The first character is the capital of one of the name, if there is any. -/
theorem pascalChars_eq_nil_or_append {cs : List Char} (h : ∀ c ∈ cs, isModuleChar c = true) :
    pascalChars true cs = [] ∨ ∃ c rest, isModuleChar c = true ∧ c ≠ '_' ∧
      pascalChars true cs = Text.upperChar c ++ rest := by
  induction cs with
  | nil => exact .inl rfl
  | cons c cs ih =>
    obtain ⟨hc, hcs⟩ := List.forall_mem_cons.1 h
    rw [pascalChars]
    split
    · exact ih hcs
    · rename_i hline
      exact .inr ⟨c, pascalChars false cs, hc, hline, rfl⟩

/-- In camel case a digit at the beginning has an underscore before it. -/
theorem camelCase_eq_empty_or {name : String} (h : IsPlain name) :
    (pascalChars true name.toList = [] ∧ camelCase name = "") ∨
      ∃ c rest, isModuleChar c = true ∧ c ≠ '_' ∧
        pascalChars true name.toList = Text.upperChar c ++ rest ∧
        (camelCase name).toList = (if isAsciiDigit c then ['_', c] else [c]) ++ rest := by
  rcases pascalChars_eq_nil_or_append h with hnil | ⟨c, rest, hc, hline, hcons⟩
  · exact .inl ⟨hnil, by rw [camelCase, hnil]⟩
  · refine .inr ⟨c, rest, hc, hline, hcons, ?_⟩
    rw [camelCase, hcons]
    rcases isLower_or_isAsciiDigit hc hline with hlower | hdigit
    · obtain ⟨hcapital, -, -, hnoDigit, hsmall, hnoNumber⟩ := upperChar_of_isLower hc hlower
      simp [hcapital, hnoDigit, hsmall, hnoNumber]
    · obtain ⟨-, hcapital, hnumber⟩ := upperChar_of_isAsciiDigit hdigit
      simp [hcapital, hnumber, hdigit]

theorem capitalised_camelCase {name : String} (h : IsPlain name) :
    capitalised (camelCase name).toList = pascalChars true name.toList := by
  rcases camelCase_eq_empty_or h with ⟨hnil, hempty⟩ | ⟨c, rest, hc, hline, hpascal, hcamel⟩
  · rw [hempty, hnil]
    rfl
  · rw [hcamel, hpascal]
    by_cases hdigit : isAsciiDigit c = true
    · rw [if_pos hdigit, (upperChar_of_isAsciiDigit hdigit).2.1]
      rfl
    · rw [if_neg hdigit, List.singleton_append, capitalised, if_neg hline]

/-- **Names that are the same in camel case** are those that differ in nothing but underscores that
no letter follows. -/
theorem camelCase_eq_iff {first second : String} (hfirst : IsPlain first)
    (hsecond : IsPlain second) :
    camelCase first = camelCase second ↔ respaced first = respaced second := by
  constructor
  · intro h
    have hpascal : pascalChars true first.toList = pascalChars true second.toList := by
      rw [← capitalised_camelCase hfirst, h, capitalised_camelCase hsecond]
    rw [respaced, respaced, ← flatMap_opened_pascalChars true hfirst,
      ← flatMap_opened_pascalChars true hsecond, hpascal]
  · intro h
    have hpascal : pascalChars true first.toList = pascalChars true second.toList := by
      rw [← pascalChars_spaced (fun _ => rfl) hfirst, ← pascalChars_spaced (fun _ => rfl) hsecond]
      exact congrArg (pascalChars true) h
    rw [camelCase, camelCase, hpascal]

/-! ### Words and numbers -/

theorem isTypeChar_of_mem_pascalChars {atStart : Bool} {cs : List Char}
    (h : ∀ c ∈ cs, isModuleChar c = true) {c : Char} (hc : c ∈ pascalChars atStart cs) :
    isTypeChar c = true := by
  induction cs generalizing atStart with
  | nil => cases hc
  | cons first cs ih =>
    obtain ⟨hfirst, hcs⟩ := List.forall_mem_cons.1 h
    rw [pascalChars] at hc
    split at hc
    · exact ih hcs hc
    · rename_i hline
      rcases List.mem_append.1 hc with hc | hc
      · have hplain : isTypeChar first = true := by rw [isTypeChar, hfirst, Bool.true_or]
        cases atStart with
        | false => exact List.mem_singleton.1 hc ▸ hplain
        | true =>
          rw [if_pos rfl] at hc
          rcases isLower_or_isAsciiDigit hfirst hline with hlower | hdigit
          · obtain ⟨hupper, -, hcapital, -⟩ := upperChar_of_isLower hfirst hlower
            rw [hupper] at hc
            exact List.mem_singleton.1 hc ▸ hcapital
          · rw [(upperChar_of_isAsciiDigit hdigit).2.1] at hc
            exact List.mem_singleton.1 hc ▸ hplain
      · exact ih hcs hc

theorem isTypeChar_of_mem_camelCase {name : String} (h : IsPlain name) {c : Char}
    (hc : c ∈ (camelCase name).toList) : isTypeChar c = true := by
  rcases camelCase_eq_empty_or h with ⟨-, hempty⟩ | ⟨first, rest, hfirst, -, hpascal, hcamel⟩
  · rw [hempty] at hc
    cases hc
  · rw [hcamel, List.mem_append] at hc
    have hplain : isTypeChar first = true := by rw [isTypeChar, hfirst, Bool.true_or]
    rcases hc with hc | hc
    · split at hc
      · rcases List.mem_cons.1 hc with rfl | hc
        · decide
        · exact List.mem_singleton.1 hc ▸ hplain
      · exact List.mem_singleton.1 hc ▸ hplain
    · have hmem : c ∈ pascalChars true name.toList := by
        rw [hpascal]
        exact List.mem_append_right _ hc
      exact isTypeChar_of_mem_pascalChars h hmem

theorem spaced_append (atStart : Bool) (cs rest : List Char) :
    spaced atStart (cs ++ '_' :: rest) = spaced atStart cs ++ spaced true rest := by
  induction cs generalizing atStart with
  | nil => rfl
  | cons c cs ih =>
    rw [List.cons_append, spaced, spaced, ih, ih]
    split
    · rfl
    · rw [List.append_assoc]

theorem spaced_of_digits (atStart : Bool) {cs : List Char} (h : ∀ c ∈ cs, isAsciiDigit c = true) :
    spaced atStart cs = cs := by
  induction cs generalizing atStart with
  | nil => rfl
  | cons c cs ih =>
    obtain ⟨hc, hcs⟩ := List.forall_mem_cons.1 h
    have hplain : isModuleChar c = true := isModuleChar_of_isDigit hc
    have hline : c ≠ '_' := by
      rintro rfl
      exact absurd hc (by decide)
    rw [spaced, if_neg hline, ih false hcs, (upperChar_of_isAsciiDigit hc).1, Bool.and_false]
    rfl

/-- The underscore before a number is one that shows nowhere. -/
theorem respaced_suffixed (base : String) (number : Nat) :
    respaced (suffixed base number) = respaced base ++ (toString number).toList := by
  have hdigits : ∀ c ∈ (toString number).toList, isAsciiDigit c = true :=
    fun _ => isAsciiDigit_of_mem_toString
  rw [respaced, suffixed, String.toList_append, String.toList_append, List.append_assoc]
  exact (spaced_append true base.toList _).trans
    (congrArg (respaced base ++ ·) (spaced_of_digits true hdigits))

end ModuleGraph.Naming
