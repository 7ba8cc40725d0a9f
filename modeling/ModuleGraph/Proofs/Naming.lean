import Mathlib.Data.List.Nodup
import Mathlib.Order.Bounds.Defs
import ModuleGraph.Workspace

/-!
# Identifiers and numbers behind them

The names of programs and of modules are identifiers, whatever the texts they are made from: they
begin with a lower-case letter or an underscore, and go on with lower-case letters, digits and
underscores. A fallback and a number behind a name keep to that. The number that tells a name apart
from those in use makes it new.

## Main definitions

- `IsMadeOf` — characters of one sort, of which the first is no digit
- `IsPlain` — a name made of such characters, whatever it begins with
- `IsIdentifier` — an identifier

## Main statements

- `isMadeOf_guardDigit` — what is kept of a text
- `isIdentifier_moduleName`, `isIdentifier_programNameOf` — names made from texts
- `suffixed_freeSuffix_not_mem`, `isLeast_freeSuffix` — the number that tells a name apart
-/

namespace ModuleGraph

theorem Text.filterMap_ofChars (cs : List Char) :
    (Text.ofChars cs).filterMap Symbol.char? = cs := by
  rw [Text.ofChars, List.filterMap_map]
  exact List.filterMap_some

namespace Naming

/-! ### Characters -/

/-- A name made of lower-case letters, digits and underscores. -/
def IsPlain (name : String) : Prop := ∀ c ∈ name.toList, isModuleChar c = true

instance (name : String) : Decidable (IsPlain name) :=
  decidable_of_iff (name.toList.all isModuleChar = true) List.all_eq_true

theorem mem_guardDigit {c : Char} {cs : List Char} (h : c ∈ guardDigit cs) : c = '_' ∨ c ∈ cs := by
  cases cs with
  | nil => cases h
  | cons first rest =>
    rw [guardDigit] at h
    split at h
    · exact List.mem_cons.1 h
    · exact .inr h

/-- An underscore in front, or a character that is no digit. -/
theorem first_guardDigit (cs : List Char) :
    ∀ c ∈ (guardDigit cs).head?, isAsciiDigit c = false := by
  cases cs with
  | nil => simp [guardDigit]
  | cons first rest =>
    rw [guardDigit]
    split
    · intro c hc
      cases hc
      decide
    · rename_i hfirst
      simpa using hfirst

theorem charsWhere_ofChars (p : Char → Bool) (cs : List Char) :
    charsWhere p (Text.ofChars cs) = cs.filter p := by
  rw [charsWhere, Text.filterMap_ofChars]

/-! ### Names made from texts -/

/-- Characters with the property `p`, of which the first is no digit. -/
structure IsMadeOf (p : Char → Bool) (cs : List Char) : Prop where
  allowed : ∀ c ∈ cs, p c = true
  first : ∀ c ∈ cs.head?, isAsciiDigit c = false

/-- What is kept of a text, once a digit in front is guarded. -/
theorem isMadeOf_guardDigit {p : Char → Bool} (hline : p '_' = true) (text : Text) :
    IsMadeOf p (guardDigit (charsWhere p text)) where
  allowed := by
    intro c hc
    rcases mem_guardDigit hc with rfl | hkept
    · exact hline
    · exact (List.mem_filter.1 hkept).2
  first := first_guardDigit _

theorem isMadeOf_moduleName (text : Text) : IsMadeOf isModuleChar (moduleName text).toList := by
  rw [moduleName, String.toList_ofList]
  exact isMadeOf_guardDigit (by decide) _

theorem isMadeOf_typeName (text : Text) : IsMadeOf isTypeChar (typeName text).toList := by
  rw [typeName, String.toList_ofList]
  exact isMadeOf_guardDigit (by decide) _

theorem isPlain_moduleName (text : Text) : IsPlain (moduleName text) :=
  (isMadeOf_moduleName text).allowed

/-! ### Numbers -/

theorem isModuleChar_of_isDigit {c : Char} (h : c.isDigit = true) : isModuleChar c = true := by
  have hascii : isAsciiDigit c = true := h
  rw [isModuleChar, hascii, Bool.or_true, Bool.true_or]

theorem isAsciiDigit_of_mem_toString {number : Nat} {c : Char}
    (h : c ∈ (toString number).toList) : isAsciiDigit c = true := by
  rw [Nat.toString_eq_ofList_toDigits, String.toList_ofList] at h
  exact Nat.isDigit_of_mem_toDigits (by omega) (by omega) h

theorem isPlain_natural (number : Nat) : IsPlain (toString number) := fun _ hc =>
  isModuleChar_of_isDigit (isAsciiDigit_of_mem_toString hc)

theorem IsPlain.suffixed {base : String} (h : IsPlain base) (number : Nat) :
    IsPlain (suffixed base number) := by
  intro c hc
  rw [Naming.suffixed] at hc
  simp only [String.toList_append, List.mem_append] at hc
  obtain (hbase | hline) | hdigit := hc
  · exact h c hbase
  · cases List.mem_singleton.1 hline
    decide
  · exact isPlain_natural number c hdigit

/-! ### Identifiers -/

/-- A name that begins with a lower-case letter or an underscore, and goes on with lower-case
letters, digits and underscores. -/
def IsIdentifier (name : String) : Prop :=
  ∃ c cs, name.toList = c :: cs ∧ (('a' ≤ c ∧ c ≤ 'z') ∨ c = '_') ∧
    ∀ d ∈ cs, isModuleChar d = true

theorem isModuleChar_iff {c : Char} :
    isModuleChar c = true ↔ (('a' ≤ c ∧ c ≤ 'z') ∨ c = '_') ∨ isAsciiDigit c = true := by
  simp only [isModuleChar, Bool.or_eq_true, Bool.and_eq_true, decide_eq_true_eq]
  exact or_right_comm

/-- A plain name is an identifier if it has a first character and that is no digit. -/
theorem IsPlain.isIdentifier {name : String} (h : IsPlain name) {c : Char} {cs : List Char}
    (hname : name.toList = c :: cs) (hfirst : isAsciiDigit c = false) : IsIdentifier name := by
  rw [IsPlain, hname, List.forall_mem_cons] at h
  refine ⟨c, cs, hname, (isModuleChar_iff.1 h.1).resolve_right ?_, h.2⟩
  rw [hfirst]
  exact Bool.false_ne_true

theorem IsIdentifier.isPlain {name : String} (h : IsIdentifier name) : IsPlain name := by
  obtain ⟨c, cs, hname, hfirst, hrest⟩ := h
  rw [IsPlain, hname]
  exact List.forall_mem_cons.2 ⟨isModuleChar_iff.2 (.inl hfirst), hrest⟩

theorem IsIdentifier.ne_empty {name : String} (h : IsIdentifier name) : name ≠ "" := by
  rintro rfl
  obtain ⟨c, cs, hname, -⟩ := h
  cases hname

/-- The name of a module is an identifier, unless the text has no usable letter. -/
theorem isIdentifier_moduleName {text : Text} (h : moduleName text ≠ "") :
    IsIdentifier (moduleName text) := by
  have hfirst := (isMadeOf_moduleName text).first
  cases hname : (moduleName text).toList with
  | nil => exact absurd (String.toList_eq_nil_iff.1 hname) h
  | cons c cs =>
    rw [hname] at hfirst
    exact (isPlain_moduleName text).isIdentifier hname (hfirst c rfl)

theorem isIdentifier_orElse {text : Text} {fallback : String} (h : IsIdentifier fallback) :
    IsIdentifier (orElse (moduleName text) fallback) := by
  rw [orElse]
  split
  · exact h
  · exact isIdentifier_moduleName ‹_›

theorem IsIdentifier.suffixed {base : String} (h : IsIdentifier base) (number : Nat) :
    IsIdentifier (suffixed base number) := by
  have hplain := h.isPlain.suffixed number
  obtain ⟨c, cs, hname, hfirst, -⟩ := h
  have hsuffixed : (Naming.suffixed base number).toList =
      c :: (cs ++ "_".toList ++ (toString number).toList) := by
    simp [Naming.suffixed, hname]
  rw [IsPlain, hsuffixed, List.forall_mem_cons] at hplain
  exact ⟨c, _, hsuffixed, hfirst, hplain.2⟩

/-! ### Numbers that make a name new -/

theorem suffixed_injective (base : String) : Function.Injective (suffixed base) := by
  intro first second h
  have hlists := congrArg String.toList h
  have hdigits : Nat.toDigits 10 first = Nat.toDigits 10 second := by
    simpa [suffixed, Nat.toString_eq_ofList_toDigits] using hlists
  have hvalues := congrArg (fun digits => Nat.ofDigitChars 10 digits 0) hdigits
  simpa using hvalues

/-- The numbers that were passed over are those of names in use. -/
theorem suffixed_mem_of_lt {used : List String} {base : String} {tries start number : Nat}
    (hstart : start ≤ number) (h : number < freeSuffixFrom used base tries start) :
    suffixed base number ∈ used := by
  induction tries generalizing start with
  | zero =>
    rw [freeSuffixFrom] at h
    omega
  | succ tries ih =>
    rw [freeSuffixFrom] at h
    split at h
    · rename_i hused
      rcases Nat.eq_or_lt_of_le hstart with rfl | hlater
      · simpa using hused
      · exact ih hlater h
    · omega

/-- The search ends with a new name, or behind its last try. -/
theorem freeSuffixFrom_new_or (used : List String) (base : String) (tries start : Nat) :
    suffixed base (freeSuffixFrom used base tries start) ∉ used ∨
      freeSuffixFrom used base tries start = start + tries := by
  induction tries generalizing start with
  | zero => exact .inr rfl
  | succ tries ih =>
    rw [freeSuffixFrom]
    split
    · rcases ih (start + 1) with hnew | hend
      · exact .inl hnew
      · exact .inr (by omega)
    · rename_i hused
      exact .inl (by simpa using hused)

/-- No more numbers are taken than there are names in use. -/
theorem count_le_length_of_suffixed_mem {used : List String} {base : String} {start count : Nat}
    (h : ∀ number, start ≤ number → number < start + count → suffixed base number ∈ used) :
    count ≤ used.length := by
  have hnumbers : (List.range' start count).Nodup := List.nodup_range'
  have hsubset : (List.range' start count).map (suffixed base) ⊆ used := by
    intro name hname
    obtain ⟨number, hnumber, rfl⟩ := List.mem_map.1 hname
    obtain ⟨hstart, hbound⟩ := List.mem_range'_1.1 hnumber
    exact h number hstart hbound
  have hlength := (hnumbers.map (suffixed_injective base)).length_le_of_subset hsubset
  rwa [List.length_map, List.length_range'] at hlength

/-- As many tries as there are names in use are enough. -/
theorem suffixed_freeSuffix_not_mem (used : List String) (base : String) :
    suffixed base (freeSuffix used base) ∉ used := by
  rcases freeSuffixFrom_new_or used base used.length 2 with hnew | hend
  · exact hnew
  · -- else one number more than there are names in use is taken
    intro hlast
    rw [freeSuffix, hend] at hlast
    have htaken : ∀ number, 2 ≤ number → number < 2 + (used.length + 1) →
        suffixed base number ∈ used := by
      intro number hstart hbound
      by_cases hnumber : number = 2 + used.length
      · rwa [hnumber]
      · have hpassed : number < freeSuffixFrom used base used.length 2 := by omega
        exact suffixed_mem_of_lt hstart hpassed
    have hcount := count_le_length_of_suffixed_mem htaken
    omega

theorem le_freeSuffixFrom (used : List String) (base : String) (tries start : Nat) :
    start ≤ freeSuffixFrom used base tries start := by
  induction tries generalizing start with
  | zero => exact Nat.le_refl start
  | succ tries ih =>
    rw [freeSuffixFrom]
    split
    · exact Nat.le_of_succ_le (ih (start + 1))
    · exact Nat.le_refl start

theorem isLeast_freeSuffix (used : List String) (base : String) :
    IsLeast {number | 2 ≤ number ∧ suffixed base number ∉ used} (freeSuffix used base) := by
  constructor
  · exact ⟨le_freeSuffixFrom used base used.length 2, suffixed_freeSuffix_not_mem used base⟩
  · rintro number ⟨hstart, hnew⟩
    by_contra hsmaller
    exact hnew (suffixed_mem_of_lt hstart (Nat.lt_of_not_le hsmaller))

end Naming

theorem isIdentifier_programNameOf (requested : Option Text) :
    Naming.IsIdentifier (programNameOf requested) := by
  have hplain : Naming.IsPlain defaultProgramName := by decide
  have hname : defaultProgramName.toList = 'm' :: "y_program".toList := by decide
  exact Naming.isIdentifier_orElse (hplain.isIdentifier hname (by decide))

end ModuleGraph
