import ModuleGraph.Proofs.CommandLine.FilePath
import ModuleGraph.Proofs.CommandLine.Printing
import ModuleGraph.Proofs.Document.Inspection

/-!
# Files written one after the other

Files are written in order, up to the first that cannot be. Those before it hold their texts
afterwards, provided that no two files have the same place, and no other file is touched.

## Main definitions

- `FileTree.contents?` — what the file at a place holds
- `Stops` — why the writing of files stops
- `Wrote` — what the writing of files comes to
- `Outcome.Delivers` — what a run leaves that delivers files

## Main statements

- `contents_writeFile` — writing a file changes what its place holds, and nothing else
- `wrote_writeFiles` — what the writing of files at different places comes to
- `delivers_carryOut` — what a plan to deliver files at different places leaves
-/

namespace ModuleGraph

namespace Text

theorem mapM_char?_ofChars (cs : List Char) : (ofChars cs).mapM Symbol.char? = some cs := by
  induction cs with
  | nil => rfl
  | cons c cs ih =>
    rw [ofChars] at ih
    simp [ofChars, Symbol.char?, ih]

theorem bytes?_ofString (string : String) : (ofString string).bytes? = some string.toUTF8 := by
  rw [bytes?, toString?, ofString, mapM_char?_ofChars]
  simp

/-- A text without halves is that of its characters. -/
theorem eq_ofChars {text : Text} (h : text.hasHalf = false) : ∃ cs, text = ofChars cs := by
  induction text with
  | nil => exact ⟨[], rfl⟩
  | cons symbol text ih =>
    rw [hasHalf, List.any_cons, Bool.or_eq_false_iff] at h
    obtain ⟨cs, rfl⟩ := ih h.2
    cases symbol with
    | char c => exact ⟨c :: cs, rfl⟩
    | half index => simp [Symbol.char?] at h

/-- A text without halves has a form in UTF-8. -/
theorem exists_bytes {text : Text} (h : text.hasHalf = false) :
    ∃ bytes, text.bytes? = some bytes := by
  obtain ⟨cs, rfl⟩ := eq_ofChars h
  exact ⟨_, by rw [bytes?, toString?, mapM_char?_ofChars]; rfl⟩

end Text

namespace CommandLine

open Document (bind_eq_ok_iff)

/-! ### Trees -/

namespace FileTree

/-- What the file at a place holds, if there is one. -/
def contents? (tree : FileTree) (location : Location) : Option ByteArray :=
  tree.files.lookup location

variable {tree next : FileTree} {path : FilePath}

theorem follow_eq {names : List String} {location place : Location}
    (h : tree.follow location names = .ok place) : place = names.foldl .step location := by
  induction names generalizing location with
  | nil => exact (Except.ok.inj h).symm
  | cons name names ih =>
    rw [follow] at h
    split at h
    · cases h
    · cases h
    · split at h
      · cases h
      · exact ih h

/-- No name is a link, so that a path that can be followed leads where its names say. -/
theorem locate_eq {place : Location} (h : tree.locate path = .ok place) :
    place = path.location := by
  rw [locate] at h
  split at h
  · cases h
  · split at h
    · cases h
    · exact follow_eq h

theorem files_makeDir (h : tree.makeDir path = .ok next) : next.files = tree.files := by
  obtain ⟨place, -, hmade⟩ := bind_eq_ok_iff.1 h
  cases hentry : tree.entry place with
  | file contents =>
    rw [hentry] at hmade
    cases hmade
  | directory =>
    rw [hentry] at hmade
    cases hmade
    rfl
  | nothing =>
    rw [hentry] at hmade
    cases hmade
    rfl

theorem files_makeDirsAt {root : String} {names : List String}
    (h : tree.makeDirsAt root names = .ok next) : next.files = tree.files := by
  induction names generalizing tree next with
  | nil => exact files_makeDir h
  | cons name above ih =>
    simp only [makeDirsAt] at h
    split at h
    · obtain ⟨middle, hmiddle, hmade⟩ := bind_eq_ok_iff.1 h
      rw [files_makeDir hmade, ih hmiddle]
    · exact files_makeDir h

theorem lookup_filter_ne {files : List (Location × ByteArray)} {location place : Location}
    (h : location ≠ place) :
    (files.filter (·.1 != place)).lookup location = files.lookup location := by
  induction files with
  | nil => rfl
  | cons file files ih =>
    obtain ⟨other, contents⟩ := file
    by_cases hother : other = place
    · have hbeq : (location == other) = false := by simpa [hother] using h
      rw [List.filter_cons_of_neg (by simp [hother]), ih, List.lookup_cons, hbeq]
    · rw [List.filter_cons_of_pos (by simpa using hother), List.lookup_cons, List.lookup_cons, ih]

/-- A path that a file was written to leads to its place, and the file was put there. -/
theorem locate_of_write {contents : ByteArray} (h : tree.write path contents = .ok next) :
    tree.locate path = .ok path.location ∧ next = tree.addFile path.location contents := by
  obtain ⟨place, hplace, hwritten⟩ := bind_eq_ok_iff.1 h
  obtain rfl := locate_eq hplace
  split at hwritten
  · cases hwritten
  · exact ⟨hplace, (Except.ok.inj hwritten).symm⟩

/-- Writing a file changes what its place holds, and nothing else. -/
theorem contents_write {contents : ByteArray} (h : tree.write path contents = .ok next)
    (location : Location) :
    next.contents? location =
      if location = path.location then some contents else tree.contents? location := by
  obtain ⟨-, rfl⟩ := locate_of_write h
  show List.lookup location ((path.location, contents) :: _) = _
  by_cases hlocation : location = path.location
  · rw [if_pos hlocation, hlocation, List.lookup_cons_self]
  · have hbeq : (location == path.location) = false := by simpa using hlocation
    rw [if_neg hlocation, List.lookup_cons, hbeq, lookup_filter_ne hlocation]
    rfl

end FileTree

variable {tree next : FileTree}

theorem contents_writeFile {path : FilePath} {contents : ByteArray}
    (h : writeFile tree path contents = .ok next) (location : Location) :
    next.contents? location =
      if location = path.location then some contents else tree.contents? location := by
  obtain ⟨made, hmade, hwritten⟩ := bind_eq_ok_iff.1 h
  -- directories are made first, and no file changes by that
  have hfiles : made.files = tree.files := FileTree.files_makeDirsAt hmade
  rw [FileTree.contents_write hwritten, FileTree.contents?, FileTree.contents?, hfiles]

/-! ### Files in order -/

/-- Why the writing of files below a directory stops: none is left; or the first that is left cannot
be written, or has no form in UTF-8. -/
inductive Stops (tree : FileTree) (out : FilePath) : FileMap → Option FileError → Prop
  | finished : Stops tree out [] none
  | refused {path : String} {text : Text} {error : FileError} (later : FileMap)
    (h : writeFile tree (out.append (.ofString path)) (text.bytes?.getD .empty) = .error error) :
    Stops tree out ((path, text) :: later) (some error)
  | unencodable (path : String) {text : Text} (later : FileMap) (h : text.hasHalf = true) :
    Stops tree out ((path, text) :: later) (some .unencodable)

/-- What the writing of files below a directory comes to: those that are written hold their texts,
each at the place that its path leads to, only the place of the first that is left may have been
touched besides, and there is a reason to stop at it. -/
structure Wrote (before after : FileTree) (out : FilePath) (written left : FileMap)
    (error : Option FileError) : Prop where
  found : ∀ path text, (path, text) ∈ written →
    ∃ bytes, text.bytes? = some bytes ∧ after.contents? (out.below path) = some bytes
  kept : ∀ place, (∀ path ∈ (written ++ left.take 1).map (·.1), place ≠ out.below path) →
    after.contents? place = before.contents? place
  stops : Stops after out left error

variable {out : FilePath}

/-- A file whose place no later file has holds its text after the later ones, too. -/
theorem Wrote.cons {after : FileTree} {path : String} {text : Text} {bytes : ByteArray}
    {written left : FileMap} {error : Option FileError}
    (h : Wrote next after out written left error) (hbytes : text.bytes? = some bytes)
    (hwritten : ∀ place, next.contents? place =
      if place = out.below path then some bytes else tree.contents? place)
    (hfresh : out.below path ∉ (written ++ left).map (out.below ·.1)) :
    Wrote tree after out ((path, text) :: written) left error where
  found := by
    intro other otherText hmem
    rcases List.mem_cons.1 hmem with hsame | hother
    · cases hsame
      have hapart : ∀ later ∈ (written ++ left.take 1).map (·.1),
          out.below path ≠ out.below later := by
        intro later hlater hsame
        obtain ⟨file, hfile, rfl⟩ := List.mem_map.1 hlater
        have hfiles : file ∈ written ++ left :=
          ((List.take_sublist 1 left).append_left written).subset hfile
        exact hfresh (List.mem_map.2 ⟨file, hfiles, hsame.symm⟩)
      exact ⟨bytes, hbytes, by rw [h.kept _ hapart, hwritten, if_pos rfl]⟩
    · exact h.found other otherText hother
  kept := by
    intro place hplace
    obtain ⟨hne, hothers⟩ := List.forall_mem_cons.1 hplace
    rw [h.kept place hothers, hwritten, if_neg hne]
  stops := h.stops

/-- Files at different places are written in order, up to the first that cannot be. -/
theorem wrote_writeFiles (tree : FileTree) {files : FileMap}
    (hspells : ∀ path ∈ files.map (·.1), ∃ names, Spells path names)
    (hplaces : (files.map (out.below ·.1)).Nodup) :
    let writing := writeFiles tree (Delivery.targets ⟨out, files⟩)
    ∃ written left, files = written ++ left ∧
      Wrote tree writing.tree out written left writing.error := by
  induction files generalizing tree with
  | nil => exact ⟨[], [], rfl, by simp, fun _ _ => rfl, .finished⟩
  | cons file files ih =>
    obtain ⟨path, text⟩ := file
    obtain ⟨hfresh, hlater⟩ := List.nodup_cons.1 hplaces
    obtain ⟨⟨names, hnames⟩, hothers⟩ := List.forall_mem_cons.1 hspells
    have htargets : Delivery.targets ⟨out, (path, text) :: files⟩ =
        (out.append (.ofString path), text) :: Delivery.targets ⟨out, files⟩ := rfl
    have hlocation : (out.append (.ofString path)).location = out.below path :=
      location_append_eq_below hnames
    rw [htargets, writeFiles]
    cases hwritten : writeFile tree (out.append (.ofString path)) (text.bytes?.getD .empty) with
    | error error =>
      exact ⟨[], (path, text) :: files, rfl, by simp, fun _ _ => rfl, .refused files hwritten⟩
    | ok next =>
      have hcontents := contents_writeFile hwritten
      rw [hlocation] at hcontents
      cases hhalf : text.hasHalf with
      | true =>
        refine ⟨[], (path, text) :: files, rfl, by simp, fun place hplace => ?_,
          .unencodable path files hhalf⟩
        -- the file is there, without its text
        exact (hcontents place).trans (if_neg (hplace path (by simp)))
      | false =>
        obtain ⟨bytes, hbytes⟩ := Text.exists_bytes hhalf
        obtain ⟨written, left, rfl, hwrote⟩ := ih next hothers hlater
        rw [hbytes, Option.getD_some] at hcontents
        exact ⟨(path, text) :: written, left, rfl, hwrote.cons hbytes hcontents hfresh⟩

/-! ### Deliveries -/

/-- What a run leaves that delivers files below a directory: they are written, as far as they can
be, and the run ends by the error that stops it, or well if there is none. -/
def Outcome.Delivers (outcome : Outcome) (before : FileTree) (out : FilePath) (files : FileMap) :
    Prop :=
  ∃ written left error, files = written ++ left ∧
    Wrote before outcome.tree out written left error ∧ outcome.report.ending = endingAfter error

/-- A run that ends well has delivered all of the files. -/
theorem Outcome.Delivers.found {outcome : Outcome} {files : FileMap}
    (h : outcome.Delivers tree out files) (hending : outcome.report.ending = .exit 0) :
    ∀ path text, (path, text) ∈ files → ∃ bytes, text.bytes? = some bytes ∧
      outcome.tree.contents? (out.below path) = some bytes := by
  obtain ⟨written, left, error, rfl, hwrote, hended⟩ := h
  rw [hending] at hended
  have hstops := hwrote.stops
  cases hstops with
  | finished => simpa using hwrote.found
  | refused | unencodable => cases hended

theorem delivers_carryOut {plan : Plan} {files : FileMap} (hending : plan.report.ending = .exit 0)
    (hdelivery : plan.delivery = some ⟨out, files⟩)
    (hspells : ∀ path ∈ files.map (·.1), ∃ names, Spells path names)
    (hplaces : (files.map (out.below ·.1)).Nodup) (stdout : Stdout) (tree : FileTree) :
    (plan.carryOut stdout tree).Delivers tree out files := by
  obtain ⟨written, left, hsplit, hwrote⟩ := wrote_writeFiles tree hspells hplaces
  rw [Plan.carryOut, hdelivery]
  refine ⟨written, left, _, hsplit, hwrote, ?_⟩
  apply ending_conclude
  exact hending

end CommandLine

end ModuleGraph
