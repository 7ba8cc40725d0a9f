import Mathlib.Data.String.Basic
import ModuleGraph.CommandLine.Plan

/-!
# Paths that lead downwards

A text that consists of names with slashes between them denotes the path of these names. Followed
from a directory, names other than that of the directory above lead to a place below it, so that
nothing keeps files from being delivered there.

## Main definitions

- `LeadsDown` — a name that leads from a directory to what is in it
- `Spells` — a text that names a path downwards
- `FilePath.below` — the place of a file below a directory

## Main statements

- `splitOn_slash` — the pieces of a text between slashes, by its characters
- `Spells.ofString_eq` — the path that such a text denotes
- `location_append_eq_below` — where such a path leads to
- `eq_of_below_eq` — different paths downwards lead to different places
- `checkTargets_eq` — paths that lead downwards are not refused
-/

namespace ModuleGraph.CommandLine

/-! ### Pieces between slashes -/

section Pieces

open String (utf8Len)
open String.Pos.Raw (get next atEnd extract)

/-- At the end, what has been begun is the last piece. -/
theorem splitOnAux_end (before piece : List Char) (found : List String) :
    (String.ofList (before ++ piece)).splitOnAux "/" ⟨utf8Len before⟩
        ⟨utf8Len before + utf8Len piece⟩ 0 found = found.reverse ++ [String.ofList piece] := by
  have hend : atEnd (String.ofList (before ++ piece)) ⟨utf8Len before + utf8Len piece⟩ = true := by
    rw [String.atEnd_iff, String.rawEndPos_ofList]
    simp
  have hpiece : extract (String.ofList (before ++ piece)) ⟨utf8Len before⟩
      ⟨utf8Len before + utf8Len piece⟩ = String.ofList piece := by
    simpa using String.extract_of_valid before piece []
  rw [String.splitOnAux, if_pos hend, hpiece]
  simp

/-- A slash ends the piece that has been begun, and any other character belongs to it. -/
theorem splitOnAux_cons (before piece rest : List Char) (c : Char) (found : List String) :
    let text := String.ofList (before ++ piece ++ c :: rest)
    let later : String.Pos.Raw := ⟨utf8Len before + utf8Len piece + c.utf8Size⟩
    text.splitOnAux "/" ⟨utf8Len before⟩ ⟨utf8Len before + utf8Len piece⟩ 0 found =
      if c = '/' then text.splitOnAux "/" later later 0 (String.ofList piece :: found)
      else text.splitOnAux "/" ⟨utf8Len before⟩ later 0 found := by
  intro text later
  have hend : ¬ atEnd text ⟨utf8Len before + utf8Len piece⟩ = true := by
    have hsize := c.utf8Size_pos
    rw [String.atEnd_iff, String.rawEndPos_ofList]
    simp [String.Pos.Raw.le_iff]
    omega
  have hget : get text ⟨utf8Len before + utf8Len piece⟩ = c := by
    simpa [text, -String.ofList_append] using String.get_of_valid (before ++ piece) (c :: rest)
  have hnext : next text ⟨utf8Len before + utf8Len piece⟩ = later := by
    simpa [text, later, -String.ofList_append] using String.next_of_valid (before ++ piece) c rest
  have hsep : get "/" 0 = '/' := by decide
  rw [String.splitOnAux, if_neg hend, hget, hsep, hnext]
  by_cases hslash : c = '/'
  · have hstop : atEnd "/" (next "/" 0) = true := by decide
    have hback : later.unoffsetBy (next "/" 0) = ⟨utf8Len before + utf8Len piece⟩ := by
      have hone : next "/" 0 = ⟨'/'.utf8Size⟩ := by decide
      rw [hone]
      simp [later, hslash, String.Pos.Raw.ext_iff]
    have hpiece : extract text ⟨utf8Len before⟩ ⟨utf8Len before + utf8Len piece⟩ =
        String.ofList piece :=
      String.extract_of_valid before piece (c :: rest)
    simp only [beq_iff_eq, if_pos hslash, hstop, if_true, hback, hpiece]
  · have hzero : (⟨utf8Len before + utf8Len piece⟩ : String.Pos.Raw).unoffsetBy 0 =
        ⟨utf8Len before + utf8Len piece⟩ := by
      simp
    simp only [beq_iff_eq, if_neg hslash, hzero, hnext]

/-- The pieces of a text from a position on, with the piece that has been begun and those found
before it. -/
theorem splitOnAux_slash (before piece rest : List Char) (found : List String) :
    (String.ofList (before ++ piece ++ rest)).splitOnAux "/" ⟨utf8Len before⟩
        ⟨utf8Len before + utf8Len piece⟩ 0 found =
      found.reverse ++ (List.splitOnPPrepend (· == '/') rest piece.reverse).map String.ofList := by
  induction rest generalizing before piece found with
  | nil =>
    rw [List.append_nil, splitOnAux_end]
    simp
  | cons c rest ih =>
    rw [splitOnAux_cons, List.splitOnPPrepend_cons_eq_if]
    by_cases hslash : c = '/'
    · -- the next piece begins behind the slash
      have hrest := ih (before ++ piece ++ [c]) [] (String.ofList piece :: found)
      have hstring : before ++ piece ++ [c] ++ [] ++ rest = before ++ piece ++ c :: rest := by simp
      have hstart : utf8Len (before ++ piece ++ [c]) =
          utf8Len before + utf8Len piece + c.utf8Size := by
        simp [Nat.add_assoc]
      rw [hstring, hstart, String.utf8Len_nil, Nat.add_zero] at hrest
      rw [if_pos hslash, hrest, if_pos (beq_iff_eq.2 hslash)]
      simp
    · have hrest := ih before (piece ++ [c]) found
      have hstring : before ++ (piece ++ [c]) ++ rest = before ++ piece ++ c :: rest := by simp
      have hstop : utf8Len before + utf8Len (piece ++ [c]) =
          utf8Len before + utf8Len piece + c.utf8Size := by
        simp [Nat.add_assoc]
      rw [hstring, hstop, List.reverse_concat] at hrest
      rw [if_neg hslash, hrest, if_neg (by simpa using hslash)]

theorem splitOn_slash (text : String) :
    text.splitOn "/" = (text.toList.splitOn '/').map String.ofList := by
  have hpieces := splitOnAux_slash [] [] text.toList []
  have hsep : ("/" == "") = false := by decide
  rw [String.splitOn, hsep, List.splitOn]
  simpa using hpieces

/-- Names with slashes between them are the pieces of the text that they make. -/
theorem splitOn_intercalate {text : String} {names : List String} (hnames : names ≠ [])
    (hplain : ∀ name ∈ names, '/' ∉ name.toList)
    (htext : text.toList = ['/'].intercalate (names.map String.toList)) :
    text.splitOn "/" = names := by
  have hpieces : ∀ piece ∈ names.map String.toList, '/' ∉ piece := List.forall_mem_map.2 hplain
  rw [splitOn_slash, htext, List.splitOn_intercalate '/' hpieces (by simpa using hnames),
    List.map_map]
  simp

end Pieces

/-! ### Paths -/

/-- A name that leads from a directory to what is in it: it may stand in a path, says something, and
is not the name for the directory above. -/
structure LeadsDown (name : String) : Prop where
  notEmpty : name ≠ ""
  notHere : name ≠ "."
  notUp : name ≠ upName
  noSlash : '/' ∉ name.toList
  noNul : '\x00' ∉ name.toList

/-- A text that names a path downwards, by names with slashes between them. -/
structure Spells (text : String) (names : List String) : Prop where
  nonempty : names ≠ []
  down : ∀ name ∈ names, LeadsDown name
  text : text.toList = ['/'].intercalate (names.map String.toList)

namespace Spells

variable {text other : String} {names : List String}

theorem rootOf_eq (h : Spells text names) : FilePath.rootOf text = "" := by
  obtain ⟨first, later, rfl⟩ := List.exists_cons_of_ne_nil h.nonempty
  have hfirst := h.down first (List.mem_cons_self ..)
  obtain ⟨c, cs, hchars⟩ : ∃ c cs, first.toList = c :: cs :=
    List.exists_cons_of_ne_nil (by simpa using hfirst.notEmpty)
  have hslash : c ≠ '/' := by
    rintro rfl
    exact hfirst.noSlash (hchars ▸ List.mem_cons_self ..)
  have hbegin : ∃ rest, text.toList = c :: rest := by
    rw [h.text, List.map_cons, hchars]
    cases later with
    | nil => exact ⟨cs, by simp⟩
    | cons name later => exact ⟨_, by simp [List.intercalate]; rfl⟩
  obtain ⟨rest, hrest⟩ := hbegin
  rw [FilePath.rootOf, hrest, List.takeWhile_cons_of_neg (by simpa using hslash)]
  rfl

theorem splitOn_eq (h : Spells text names) : text.splitOn "/" = names :=
  splitOn_intercalate h.nonempty (fun name hname => (h.down name hname).noSlash) h.text

/-- Such a text denotes the path of its names. -/
theorem ofString_eq (h : Spells text names) : FilePath.ofString text = ⟨"", names⟩ := by
  have hsay : names.filter (fun name => name != "" && name != ".") = names := by
    rw [List.filter_eq_self]
    intro name hname
    simp [(h.down name hname).notEmpty, (h.down name hname).notHere]
  rw [FilePath.ofString, h.rootOf_eq, h.splitOn_eq, hsay]

theorem eq (h : Spells text names) (hother : Spells other names) : text = other := by
  rw [String.ext_iff, h.text, hother.text]

end Spells

/-! ### Places -/

namespace Location

/-- Names that lead downwards are those of the place that they lead to, below that where they
begin. -/
theorem foldl_step {names : List String} (h : ∀ name ∈ names, LeadsDown name)
    (location : Location) :
    names.foldl step location = { location with names := location.names ++ names } := by
  induction names generalizing location with
  | nil => simp
  | cons name names ih =>
    obtain ⟨hname, hnames⟩ := List.forall_mem_cons.1 h
    rw [List.foldl_cons, step, if_neg hname.notUp, ih hnames, down]
    simp

theorem within_append (location : Location) (names : List String) :
    ({ location with names := location.names ++ names } : Location).within location = true := by
  obtain ⟨base, above⟩ := location
  have hbelow : above.isPrefixOf (above ++ names) = true := by simp
  cases base with
  | none => exact hbelow
  | some steps =>
    show (if above.isEmpty then decide (steps ≤ steps)
      else steps == steps && above.isPrefixOf (above ++ names)) = true
    split <;> simp

end Location

/-- The place that a path leads to below a directory, name by name. -/
def FilePath.below (out : FilePath) (path : String) : Location :=
  { out.location with names := out.location.names ++ path.splitOn "/" }

/-! ### Targets -/

section Targets

variable {out : FilePath} {path other : String} {names otherNames : List String}

theorem append_ofString (h : Spells path names) :
    out.append (.ofString path) = { out with names := out.names ++ names } := by
  rw [h.ofString_eq]
  rfl

theorem location_append (h : Spells path names) :
    (out.append (.ofString path)).location =
      { out.location with names := out.location.names ++ names } := by
  rw [append_ofString h]
  show (out.names ++ names).foldl Location.step out.origin = _
  rw [List.foldl_append, Location.foldl_step h.down]
  rfl

theorem location_append_eq_below (h : Spells path names) :
    (out.append (.ofString path)).location = out.below path := by
  rw [location_append h, FilePath.below, h.splitOn_eq]

/-- Below one directory, different paths lead to different places. -/
theorem eq_of_below_eq (h : Spells path names) (hother : Spells other otherNames)
    (hplace : out.below path = out.below other) : path = other := by
  have hnames : out.location.names ++ path.splitOn "/" = out.location.names ++ other.splitOn "/" :=
    congrArg Location.names hplace
  rw [h.splitOn_eq, hother.splitOn_eq] at hnames
  obtain rfl := List.append_cancel_left hnames
  exact h.eq hother

theorem holdsNul_append (h : Spells path names) :
    (out.append (.ofString path)).holdsNul = out.holdsNul := by
  have hnames : names.any (fun name => name.toList.contains '\x00') = false := by
    rw [List.any_eq_false]
    intro name hname
    simpa using (h.down name hname).noNul
  rw [append_ofString h, FilePath.holdsNul, FilePath.holdsNul, List.any_append, hnames,
    Bool.or_false]

variable {paths : List String}

/-- The only thing that can be wrong with paths that lead downwards is where they begin. -/
theorem checkTargets_eq (h : ∀ path ∈ paths, ∃ names, Spells path names) :
    checkTargets out paths =
      if out.holdsNul && !paths.isEmpty then .error .nulCharacter else .ok () := by
  induction paths with
  | nil => simp [checkTargets]
  | cons path paths ih =>
    obtain ⟨⟨names, hnames⟩, hpaths⟩ := List.forall_mem_cons.1 h
    have hwithin : (out.append (.ofString path)).location.within out.location = true := by
      rw [location_append hnames]
      exact out.location.within_append names
    rw [checkTargets]
    simp only [holdsNul_append hnames, hwithin, if_true, ih hpaths]
    cases out.holdsNul <;> simp

end Targets

end ModuleGraph.CommandLine
