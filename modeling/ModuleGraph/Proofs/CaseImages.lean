import Mathlib
import ModuleGraph.Proofs.CamelCase
import ModuleGraph.Text.Range

/-!
# Characters that keep their case

The case mappings are given by tables. Most ranges of code points are left alone by them: no mapping
begins there, and none ends there. The characters in such a range are the same in a text before and
after a change of case, and in the same order.

## Main definitions

- `avoids` — case mappings that leave a range of code points alone

## Main statements

- `mem_caseImage` — what the tables can make of a character
- `filter_caseImage`, `filter_lowerChar`, `filter_upperChar` — the characters in such ranges
-/

namespace ModuleGraph.Text

/-! ### Images -/

section Images

variable {expansions : List (Nat × List Nat)} {runs : List CaseRun} {c d : Char}

/-- A character is left alone, has an expansion of its own, or is moved with the run that it is
in. -/
theorem mem_caseImage (h : d ∈ caseImage expansions runs c) :
    d = c ∨
      (∃ entry ∈ expansions, entry.1 = c.toNat ∧ ∃ code ∈ entry.2, d = Char.ofNat code) ∨
      ∃ run ∈ runs, run.first ≤ c.toNat ∧ c.toNat ≤ run.last ∧
        d = Char.ofNat (c.toNat + run.shift).toNat := by
  rw [caseImage] at h
  split at h
  · rename_i image himage
    obtain ⟨before, after, hentry, -⟩ := List.lookup_eq_some_iff.1 himage
    obtain ⟨code, hcode, rfl⟩ := List.mem_map.1 h
    have hmem : (c.toNat, image) ∈ expansions := by simp [hentry]
    exact .inr (.inl ⟨_, hmem, rfl, code, hcode, rfl⟩)
  · split at h
    · rename_i code himage
      obtain ⟨run, hrun, hcode⟩ := List.exists_of_findSome?_eq_some himage
      rw [CaseRun.image?] at hcode
      split at hcode
      · rename_i hplace
        cases hcode
        exact .inr (.inr ⟨run, hrun, hplace.1, hplace.2.1, List.mem_singleton.1 h⟩)
      · cases hcode
    · exact .inl (List.mem_singleton.1 h)

theorem caseImage_eq_self (hexpansions : ∀ entry ∈ expansions, entry.1 ≠ c.toNat)
    (hruns : ∀ run ∈ runs, c.toNat < run.first ∨ run.last < c.toNat) :
    caseImage expansions runs c = [c] := by
  have hlookup : expansions.lookup c.toNat = none :=
    List.lookup_eq_none_iff.2 fun entry hentry => by
      simpa using (hexpansions entry hentry).symm
  have hmoved : (runs.findSome? fun run => run.image? c.toNat) = none := by
    rw [List.findSome?_eq_none_iff]
    intro run hrun
    rw [CaseRun.image?, if_neg]
    have hplace := hruns run hrun
    omega
  rw [caseImage, hlookup, hmoved]

end Images

/-! ### Ranges -/

/-- Whether a run takes no code point out of a range and none into it. -/
def CaseRun.avoids (run : CaseRun) (range : Nat × Nat) : Bool :=
  (run.last < range.1 || range.2 < run.first) &&
    (run.last + run.shift < range.1 || range.2 < run.first + run.shift)

/-- Whether case mappings take no code point out of a range and none into it. The range is without
zero, which stands for what is no character. -/
def avoids (expansions : List (Nat × List Nat)) (runs : List CaseRun) (range : Nat × Nat) : Bool :=
  0 < range.1 &&
    (expansions.all fun entry =>
      (entry.1 :: entry.2).all fun code => code < range.1 || range.2 < code) &&
    runs.all (·.avoids range)

section Ranges

variable {expansions : List (Nat × List Nat)} {runs : List CaseRun} {table : Ranges} {c : Char}

theorem avoids_iff {range : Nat × Nat} : avoids expansions runs range = true ↔
    (0 < range.1 ∧ ∀ entry ∈ expansions, (entry.1 < range.1 ∨ range.2 < entry.1) ∧
      ∀ code ∈ entry.2, code < range.1 ∨ range.2 < code) ∧
    ∀ run ∈ runs, (run.last < range.1 ∨ range.2 < run.first) ∧
      (run.last + run.shift < range.1 ∨ (range.2 : Int) < run.first + run.shift) := by
  simp only [avoids, CaseRun.avoids, Bool.and_eq_true, Bool.or_eq_true, List.all_eq_true,
    decide_eq_true_eq, List.forall_mem_cons]

/-- The code point of a character that is given by a number. -/
theorem toNat_ofNat_eq_or (code : Nat) :
    (Char.ofNat code).toNat = code ∨ (Char.ofNat code).toNat = 0 := by
  rw [Char.toNat_ofNat]
  exact ite_eq_or_eq _ _ _

/-- A character in a range that the mappings leave alone is its own image, and not that of another
one. -/
theorem filter_caseImage (h : ∀ range ∈ table, avoids expansions runs range = true) (c : Char) :
    (caseImage expansions runs c).filter (inRanges table) = [c].filter (inRanges table) := by
  simp only [avoids_iff] at h
  by_cases hc : inRanges table c = true
  · obtain ⟨range, hrange, hfirst, hlast⟩ := inRanges_iff.1 hc
    obtain ⟨⟨-, hexpansions⟩, hruns⟩ := h range hrange
    rw [caseImage_eq_self]
    · intro entry hentry
      have hcode := (hexpansions entry hentry).1
      omega
    · intro run hrun
      have hplace := (hruns run hrun).1
      omega
  · rw [List.filter_cons_of_neg hc, List.filter_nil, List.filter_eq_nil_iff]
    intro d hd hmem
    obtain ⟨range, hrange, hfirst, hlast⟩ := inRanges_iff.1 hmem
    obtain ⟨⟨hpos, hexpansions⟩, hruns⟩ := h range hrange
    rcases mem_caseImage hd with rfl | ⟨entry, hentry, -, code, hcode, rfl⟩ |
      ⟨run, hrun, hstart, hend, rfl⟩
    · exact hc hmem
    · have hplace := (hexpansions entry hentry).2 code hcode
      have hvalue := toNat_ofNat_eq_or code
      omega
    · have hplace := (hruns run hrun).2
      have hvalue := toNat_ofNat_eq_or (c.toNat + run.shift).toNat
      omega

end Ranges

/-! ### Lower and upper case -/

/-- The capitals of ASCII. -/
def asciiCapitals : CaseRun := ⟨0x41, 0x5A, 1, 32⟩

/-- The small letters of ASCII. -/
def asciiSmalls : CaseRun := ⟨0x61, 0x7A, 1, -32⟩

/-- The characters in ranges that lower case leaves alone. -/
theorem filter_lowerChar (table : Ranges)
    (h : ∀ range ∈ table, avoids [] [asciiCapitals] range = true ∧
      avoids lowerExpansions lowerRuns range = true) (c : Char) :
    (lowerChar c).filter (inRanges table) = [c].filter (inRanges table) := by
  rw [lowerChar]
  split
  · rename_i hascii
    have himage : [c.toLower] = caseImage [] [asciiCapitals] c :=
      Naming.forall_ascii (p := fun c => [c.toLower] = caseImage [] [asciiCapitals] c) (by decide)
        hascii
    rw [himage]
    exact filter_caseImage (fun range hrange => (h range hrange).1) c
  · exact filter_caseImage (fun range hrange => (h range hrange).2) c

/-- The characters in ranges that upper case leaves alone. -/
theorem filter_upperChar (table : Ranges)
    (h : ∀ range ∈ table, avoids [] [asciiSmalls] range = true ∧
      avoids upperExpansions upperRuns range = true) (c : Char) :
    (upperChar c).filter (inRanges table) = [c].filter (inRanges table) := by
  rw [upperChar]
  split
  · rename_i hascii
    have himage : [c.toUpper] = caseImage [] [asciiSmalls] c :=
      Naming.forall_ascii (p := fun c => [c.toUpper] = caseImage [] [asciiSmalls] c) (by decide)
        hascii
    rw [himage]
    exact filter_caseImage (fun range hrange => (h range hrange).1) c
  · exact filter_caseImage (fun range hrange => (h range hrange).2) c

end ModuleGraph.Text
