import ModuleGraph.Proofs.CommandLine.Following

/-!
# Entries of the tree of files

A file is written after the directories on the way to it have been made where nothing was. Then it
is at its place, and the places that lead there are directories. Nothing else changes: no file gives
way to a directory, and no directory to a file.

## Main definitions

- `FileTree.Opened` — the directories on the way along a path are made
- `FileTree.Gained` — a file is written, with the directories on the way to it
- `FileTree.Takes` — a tree in which nothing is in the way of a file
- `Written` — files are written, with the directories on the way to them

## Main statements

- `entry_addDirectory`, `entry_addFile` — what one more directory or file changes
- `opened_makeDirs`, `gained_writeFile` — what making directories and writing a file come to
- `exists_writeFile_iff` — which files can be written
- `written_writeFiles`, `error_writeFiles_eq_none_iff` — files written one after the other
-/

namespace ModuleGraph.CommandLine

open Document (bind_eq_ok_iff)

namespace FileTree

variable {tree next : FileTree} {path : FilePath} {root name : String} {names : List String}
  {location place : Location}

/-! ### Directories and files -/

theorem entry_congr {other : FileTree} (hfile : next.contents? place = other.contents? place)
    (hdirectory : next.isDirectory place = other.isDirectory place) :
    next.entry place = other.entry place := by
  rw [contents?, contents?] at hfile
  rw [entry, entry, hfile, hdirectory]

theorem isDirectory_of_entry (h : tree.entry place = .directory) :
    tree.isDirectory place = true := by
  rw [entry] at h
  split at h
  · cases h
  · split at h
    · assumption
    · cases h

theorem entry_addDirectory (h : tree.entry location = .nothing) (place : Location) :
    (tree.addDirectory location).entry place =
      if place = location then .directory else tree.entry place := by
  by_cases hplace : place = location
  · subst hplace
    have hfile : tree.files.lookup place = none := by
      rw [entry] at h
      split at h
      · cases h
      · assumption
    have hdirectory : (tree.addDirectory place).isDirectory place = true := by
      simp [isDirectory, addDirectory]
    have hsame : (tree.addDirectory place).files.lookup place = none := hfile
    rw [if_pos rfl, entry, hsame]
    exact if_pos hdirectory
  · rw [if_neg hplace]
    refine entry_congr rfl ?_
    have hne : (place == location) = false := by simpa using hplace
    simp only [isDirectory, addDirectory, List.contains_cons, hne, Bool.false_or]

theorem entry_addFile (contents : ByteArray)
    (h : ∀ above, above.IsAbove location → tree.entry above = .directory) (place : Location) :
    (tree.addFile location contents).entry place =
      if place = location then .file contents else tree.entry place := by
  by_cases hplace : place = location
  · subst hplace
    rw [if_pos rfl, entry, addFile, List.lookup_cons_self]
  · rw [if_neg hplace]
    refine entry_congr ?_ ?_
    · have hne : (place == location) = false := by simpa using hplace
      show List.lookup place ((location, contents) :: _) = _
      rw [List.lookup_cons, hne, lookup_filter_ne hplace]
      rfl
    · -- the directories above the file are there already
      by_cases habove : place ∈ ancestors location.up
      · have hthere : tree.isDirectory place = true := by
          rcases Location.isAbove_of_mem_ancestors habove with hnames | habove
          · simp [isDirectory, hnames]
          · exact isDirectory_of_entry (h place habove)
        rw [hthere]
        simp [isDirectory, addFile, habove]
      · simp [isDirectory, addFile, habove]

theorem entry_write {contents : ByteArray} (h : tree.write path contents = .ok next)
    (place : Location) :
    next.entry place = if place = path.location then .file contents else tree.entry place := by
  obtain ⟨hlocation, rfl⟩ := locate_of_write h
  rw [entry_addFile contents (entry_of_locate hlocation)]

/-- A directory is made where nothing is, and kept where it is already. -/
theorem entry_makeDir (h : tree.makeDir path = .ok next) (place : Location) :
    next.entry place = if place = path.location then .directory else tree.entry place := by
  obtain ⟨location, hlocation, hmade⟩ := bind_eq_ok_iff.1 h
  obtain rfl := locate_eq hlocation
  cases hentry : tree.entry path.location with
  | file contents =>
    rw [hentry] at hmade
    cases hmade
  | directory =>
    rw [hentry] at hmade
    obtain rfl : tree = next := Except.ok.inj hmade
    split <;> simp_all
  | nothing =>
    rw [hentry] at hmade
    obtain rfl : tree.addDirectory path.location = next := Except.ok.inj hmade
    exact entry_addDirectory hentry place

/-! ### Making directories -/

/-- What making the directories on the way along a path comes to: they are there, nothing else has
changed, and none of them was a file. -/
structure Opened (before after : FileTree) (path : FilePath) : Prop where
  made : ∀ place, path.LeadsThrough place → after.entry place = .directory
  kept : ∀ place, ¬ path.LeadsThrough place → after.entry place = before.entry place
  spared : ∀ place contents, path.LeadsThrough place → before.entry place ≠ .file contents

theorem Opened.trans {middle : FileTree} {longer : FilePath} (h : Opened tree middle path)
    (hlonger : Opened middle next longer)
    (hway : ∀ place, path.LeadsThrough place → longer.LeadsThrough place) :
    Opened tree next longer where
  made := hlonger.made
  kept place hplace := by
    rw [hlonger.kept place hplace, h.kept place fun hshorter => hplace (hway place hshorter)]
  spared place contents hplace hfile := by
    by_cases hshorter : path.LeadsThrough place
    · exact h.spared place contents hshorter hfile
    · exact hlonger.spared place contents hplace ((h.kept place hshorter).trans hfile)

theorem makeDir_ne_file (h : tree.makeDir path = .ok next) (contents : ByteArray) :
    tree.entry path.location ≠ .file contents := by
  intro hfile
  obtain ⟨location, hlocation, hmade⟩ := bind_eq_ok_iff.1 h
  obtain rfl := locate_eq hlocation
  rw [hfile] at hmade
  cases hmade

theorem opened_makeDir_concat (h : tree.makeDir ⟨root, names ++ [name]⟩ = .ok next) :
    Opened tree next ⟨root, names ++ [name]⟩ := by
  obtain ⟨location, hlocation, -⟩ := bind_eq_ok_iff.1 h
  obtain ⟨hbefore, -⟩ := locate_concat_eq_ok_iff.1 hlocation
  constructor
  · intro place hplace
    rw [entry_makeDir h]
    split
    · rfl
    · exact hbefore place ((FilePath.leadsThrough_concat.1 hplace).resolve_right ‹_›)
  · intro place hplace
    rw [entry_makeDir h, if_neg]
    rintro rfl
    exact hplace (FilePath.leadsThrough_location _)
  · intro place contents hplace
    rcases FilePath.leadsThrough_concat.1 hplace with hplace | rfl
    · simp [hbefore place hplace]
    · exact makeDir_ne_file h contents

theorem opened_makeDir_nil (h : tree.makeDir ⟨root, []⟩ = .ok next) :
    Opened tree next ⟨root, []⟩ where
  made place hplace := by
    rw [entry_makeDir h, if_pos (FilePath.leadsThrough_nil.1 hplace)]
  kept place hplace := by
    rw [entry_makeDir h, if_neg fun hsame => hplace (FilePath.leadsThrough_nil.2 hsame)]
  spared place contents hplace := by
    rw [FilePath.leadsThrough_nil.1 hplace]
    exact makeDir_ne_file h contents

theorem opened_makeDirsAt {above : List String} (h : tree.makeDirsAt root above = .ok next) :
    Opened tree next ⟨root, above.reverse⟩ := by
  induction above generalizing tree next with
  | nil => exact opened_makeDir_nil h
  | cons name above ih =>
    simp only [makeDirsAt, List.reverse_cons] at h
    rw [List.reverse_cons]
    split at h
    · obtain ⟨middle, hmiddle, hmade⟩ := bind_eq_ok_iff.1 h
      exact (ih hmiddle).trans (opened_makeDir_concat hmade) fun place hplace =>
        FilePath.leadsThrough_concat.2 (.inl hplace)
    · exact opened_makeDir_concat h

theorem opened_makeDirs (h : tree.makeDirs path = .ok next) : Opened tree next path := by
  have hopened := opened_makeDirsAt h
  rwa [List.reverse_reverse] at hopened

theorem exists_makeDir (hlocate : tree.locate path = .ok path.location)
    (hopen : ∀ contents, tree.entry path.location ≠ .file contents) :
    ∃ next, tree.makeDir path = .ok next := by
  cases hentry : tree.entry path.location with
  | file contents => exact absurd hentry (hopen contents)
  | directory => exact ⟨tree, bind_eq_ok_iff.2 ⟨_, hlocate, by rw [hentry]; rfl⟩⟩
  | nothing => exact ⟨_, bind_eq_ok_iff.2 ⟨_, hlocate, by rw [hentry]; rfl⟩⟩

/-- The directories on the way along a path can be made if none of them is a file. -/
theorem exists_makeDirsAt {above : List String}
    (hnul : (FilePath.mk root above.reverse).holdsNul = false)
    (hfits : (FilePath.mk root above.reverse).Fits)
    (hopen : ∀ place, (FilePath.mk root above.reverse).LeadsThrough place →
      ∀ contents, tree.entry place ≠ .file contents) :
    ∃ next, tree.makeDirsAt root above = .ok next := by
  induction above with
  | nil => exact exists_makeDir (locate_nil hfits) (hopen _ (FilePath.leadsThrough_location _))
  | cons name above ih =>
    rw [List.reverse_cons] at hnul hfits hopen
    have hbefore : ∀ place, (FilePath.mk root above.reverse).LeadsThrough place →
        ∀ contents, tree.entry place ≠ .file contents := fun place hplace =>
      hopen place (FilePath.leadsThrough_concat.2 (.inl hplace))
    simp only [makeDirsAt, List.reverse_cons]
    rcases locate_concat_of_open hnul hfits hbefore with hlocate | hlocate
    · obtain ⟨next, hnext⟩ := exists_makeDir hlocate
        (hopen _ (FilePath.leadsThrough_location _))
      exact ⟨next, by rw [hnext]⟩
    · -- the directories above are made, and then the path can be followed
      have hmake : tree.makeDir ⟨root, above.reverse ++ [name]⟩ = .error .notFound := by
        rw [makeDir, hlocate]
        rfl
      obtain ⟨middle, hmiddle⟩ := ih (FilePath.holdsNul_of_concat hnul) hfits.of_concat hbefore
      have hopened := opened_makeDirsAt hmiddle
      have hend : ∀ contents,
          middle.entry (FilePath.mk root (above.reverse ++ [name])).location ≠ .file contents := by
        intro contents hfile
        by_cases hplace : (FilePath.mk root above.reverse).LeadsThrough
            (FilePath.mk root (above.reverse ++ [name])).location
        · simp [hopened.made _ hplace] at hfile
        · rw [hopened.kept _ hplace] at hfile
          exact hopen _ (FilePath.leadsThrough_location _) contents hfile
      obtain ⟨next, hnext⟩ := exists_makeDir
        (locate_concat_eq_ok_iff.2 ⟨hopened.made, hnul, hfits, rfl⟩) hend
      rw [hmake]
      exact ⟨next, bind_eq_ok_iff.2 ⟨middle, hmiddle, hnext⟩⟩

end FileTree

/-! ### Writing a file -/

namespace FileTree

variable {tree next : FileTree} {path : FilePath} {contents : ByteArray}
  {location place : Location}

theorem exists_write_iff :
    (∃ next, tree.write path contents = .ok next) ↔
      tree.locate path = .ok path.location ∧ tree.entry path.location ≠ .directory := by
  constructor
  · rintro ⟨next, hnext⟩
    obtain ⟨location, hlocation, hwritten⟩ := bind_eq_ok_iff.1 hnext
    obtain rfl := locate_eq hlocation
    refine ⟨hlocation, fun hdirectory => ?_⟩
    rw [hdirectory] at hwritten
    cases hwritten
  · rintro ⟨hlocation, hentry⟩
    refine ⟨tree.addFile path.location contents, bind_eq_ok_iff.2 ⟨_, hlocation, ?_⟩⟩
    split
    · exact absurd ‹_› hentry
    · rfl

/-- What writing a file at a place comes to: it is there, the places on the way are directories, and
nothing else has changed. No directory has given way to the file, and no file to a directory. -/
structure Gained (before after : FileTree) (location : Location) (way : Location → Prop)
    (contents : ByteArray) : Prop where
  file : after.entry location = .file contents
  above : ∀ place, way place → after.entry place = .directory
  kept : ∀ place, place ≠ location → ¬ way place → after.entry place = before.entry place
  free : before.entry location ≠ .directory
  spared : ∀ place contents, way place → before.entry place ≠ .file contents

theorem gained_writeFile (h : writeFile tree path contents = .ok next) :
    Gained tree next path.location path.parent.LeadsThrough contents := by
  obtain ⟨made, hmade, hwritten⟩ := bind_eq_ok_iff.1 h
  have hopened := opened_makeDirs hmade
  have hentry := entry_write hwritten
  obtain ⟨-, hfree⟩ := exists_write_iff.1 ⟨next, hwritten⟩
  have hapart : ¬ path.parent.LeadsThrough path.location := fun hplace =>
    hfree (hopened.made _ hplace)
  constructor
  · rw [hentry, if_pos rfl]
  · intro place hplace
    rw [hentry, if_neg, hopened.made place hplace]
    rintro rfl
    exact hapart hplace
  · intro place hne hplace
    rw [hentry, if_neg hne, hopened.kept place hplace]
  · rwa [hopened.kept _ hapart] at hfree
  · exact hopened.spared

namespace Gained

variable {way : Location → Prop} (h : Gained tree next location way contents)

include h

theorem apart : ¬ way location := by
  intro hplace
  have hdirectory := h.above _ hplace
  rw [h.file] at hdirectory
  cases hdirectory

theorem directory (hplace : tree.entry place = .directory) : next.entry place = .directory := by
  by_cases hsame : place = location
  · exact absurd (hsame ▸ hplace) h.free
  · by_cases hthrough : way place
    · exact h.above place hthrough
    · rw [h.kept place hsame hthrough, hplace]

theorem entry_of_file {bytes : ByteArray} (hplace : tree.entry place = .file bytes)
    (hne : place ≠ location) : next.entry place = .file bytes := by
  rw [h.kept place hne fun hthrough => h.spared place bytes hthrough hplace, hplace]

end Gained

/-- A tree in which nothing is in the way of a file: the places that lead to its place are not
files, and its place is not a directory and would not become one. -/
structure Takes (tree : FileTree) (path : FilePath) : Prop where
  noNul : path.holdsNul = false
  above : ∀ place, path.parent.LeadsThrough place → ∀ contents, tree.entry place ≠ .file contents
  apart : ¬ path.parent.LeadsThrough path.location
  free : tree.entry path.location ≠ .directory

theorem takes_of_writeFile (h : writeFile tree path contents = .ok next) :
    tree.Takes path ∧ path.Fits := by
  have hgained := gained_writeFile h
  obtain ⟨made, -, hwritten⟩ := bind_eq_ok_iff.1 h
  obtain ⟨hlocate, -⟩ := exists_write_iff.1 ⟨next, hwritten⟩
  obtain ⟨root, names⟩ := path
  rcases List.eq_nil_or_concat names with rfl | ⟨before, name, rfl⟩
  · exact absurd (FilePath.leadsThrough_location _) hgained.apart
  · rw [List.concat_eq_append] at *
    obtain ⟨-, hnul, hfits, -⟩ := locate_concat_eq_ok_iff.1 hlocate
    refine ⟨⟨hnul, fun place hplace contents => ?_, hgained.apart, hgained.free⟩, hfits⟩
    exact hgained.spared place contents hplace

theorem exists_writeFile (htakes : tree.Takes path) (hfits : path.Fits) (contents : ByteArray) :
    ∃ next, writeFile tree path contents = .ok next := by
  obtain ⟨root, names⟩ := path
  rcases List.eq_nil_or_concat names with rfl | ⟨before, name, rfl⟩
  · exact absurd (FilePath.leadsThrough_location _) htakes.apart
  · rw [List.concat_eq_append] at *
    have habove := htakes.above
    have hapart := htakes.apart
    rw [FilePath.parent_concat] at habove hapart
    obtain ⟨made, hmade⟩ : ∃ made, tree.makeDirs ⟨root, before⟩ = .ok made := by
      refine exists_makeDirsAt ?_ ?_ ?_ <;> rw [List.reverse_reverse]
      · exact FilePath.holdsNul_of_concat htakes.noNul
      · exact hfits.of_concat
      · exact habove
    have hopened := opened_makeDirs hmade
    have hlocate : made.locate ⟨root, before ++ [name]⟩ = .ok _ :=
      locate_concat_eq_ok_iff.2 ⟨hopened.made, htakes.noNul, hfits, rfl⟩
    have hfree : made.entry (FilePath.mk root (before ++ [name])).location ≠ .directory := by
      rw [hopened.kept _ hapart]
      exact htakes.free
    obtain ⟨next, hnext⟩ : ∃ next, made.write ⟨root, before ++ [name]⟩ contents = .ok next :=
      exists_write_iff.2 ⟨hlocate, hfree⟩
    exact ⟨next, bind_eq_ok_iff.2 ⟨made, by rw [FilePath.parent_concat]; exact hmade, hnext⟩⟩

/-- A file can be written if nothing is in its way, and its path is not too long. -/
theorem exists_writeFile_iff (contents : ByteArray) :
    (∃ next, writeFile tree path contents = .ok next) ↔ tree.Takes path ∧ path.Fits :=
  ⟨fun ⟨_, hnext⟩ => takes_of_writeFile hnext, fun h => exists_writeFile h.1 h.2 contents⟩

/-- A file that is written is not in the way of another, if neither leads through the other. -/
theorem Takes.gained {other : FilePath} (h : tree.Takes other)
    (hgained : Gained tree next path.location path.parent.LeadsThrough contents)
    (hpath : ¬ path.parent.LeadsThrough other.location)
    (hother : ¬ other.parent.LeadsThrough path.location) : next.Takes other where
  noNul := h.noNul
  above place hplace bytes hfile := by
    have hne : place ≠ path.location := by
      rintro rfl
      exact hother hplace
    by_cases hthrough : path.parent.LeadsThrough place
    · simp [hgained.above place hthrough] at hfile
    · rw [hgained.kept place hne hthrough] at hfile
      exact h.above place hplace bytes hfile
  apart := h.apart
  free hdirectory := by
    by_cases hsame : other.location = path.location
    · simp [hsame, hgained.file] at hdirectory
    · rw [hgained.kept _ hsame hpath] at hdirectory
      exact h.free hdirectory

end FileTree

/-! ### Files in order -/

variable {tree next after : FileTree} {out : FilePath}

/-- What writing files below a directory comes to, if nothing stops it: each holds its text at the
place that its path leads to, the places on the way there are directories, and nothing else has
changed. No directory has given way to a file, and no file to a directory. -/
structure Written (before after : FileTree) (out : FilePath) (files : FileMap) : Prop where
  file : ∀ path text, (path, text) ∈ files →
    ∃ bytes, text.bytes? = some bytes ∧ after.entry (out.below path) = .file bytes
  above : ∀ path ∈ files.map (·.1), ∀ place, out.OnWay path place →
    after.entry place = .directory
  kept : ∀ place, (∀ path ∈ files.map (·.1), place ≠ out.below path ∧ ¬ out.OnWay path place) →
    after.entry place = before.entry place
  free : ∀ path ∈ files.map (·.1), before.entry (out.below path) ≠ .directory
  spared : ∀ path ∈ files.map (·.1), ∀ place contents, out.OnWay path place →
    before.entry place ≠ .file contents

namespace Written

theorem nil (tree : FileTree) (out : FilePath) : Written tree tree out [] := by
  constructor <;> simp

variable {files : FileMap} {place : Location}

theorem directory (h : Written tree after out files) (hplace : tree.entry place = .directory) :
    after.entry place = .directory := by
  by_cases hthrough : ∃ path ∈ files.map (·.1), out.OnWay path place
  · obtain ⟨path, hpath, hthrough⟩ := hthrough
    exact h.above path hpath place hthrough
  · rw [h.kept place, hplace]
    intro path hpath
    refine ⟨?_, fun hplace => hthrough ⟨path, hpath, hplace⟩⟩
    rintro rfl
    exact h.free path hpath hplace

theorem entry_of_file (h : Written tree after out files) {bytes : ByteArray}
    (hplace : tree.entry place = .file bytes) (hfresh : place ∉ files.map (out.below ·.1)) :
    after.entry place = .file bytes := by
  rw [h.kept place, hplace]
  intro path hpath
  refine ⟨?_, fun hthrough => h.spared path hpath place bytes hthrough hplace⟩
  rintro rfl
  obtain ⟨file, hfile, rfl⟩ := List.mem_map.1 hpath
  exact hfresh (List.mem_map_of_mem hfile)

/-- A file is written before others with other places. -/
theorem cons {path : String} {text : Text} {bytes : ByteArray} (h : Written next after out files)
    (hgained : FileTree.Gained tree next (out.below path) (out.OnWay path) bytes)
    (htext : text.bytes? = some bytes) (hfresh : out.below path ∉ files.map (out.below ·.1)) :
    Written tree after out ((path, text) :: files) where
  file other otherText hother := by
    rcases List.mem_cons.1 hother with hsame | hother
    · cases hsame
      exact ⟨bytes, htext, h.entry_of_file hgained.file hfresh⟩
    · exact h.file other otherText hother
  above := by
    refine List.forall_mem_cons.2 ⟨fun place hplace => ?_, h.above⟩
    exact h.directory (hgained.above place hplace)
  kept place hplace := by
    obtain ⟨⟨hne, hthrough⟩, hlater⟩ := List.forall_mem_cons.1 hplace
    rw [h.kept place hlater, hgained.kept place hne hthrough]
  free := by
    refine List.forall_mem_cons.2 ⟨hgained.free, fun other hother hdirectory => ?_⟩
    exact h.free other hother (hgained.directory hdirectory)
  spared := by
    refine List.forall_mem_cons.2 ⟨hgained.spared, ?_⟩
    intro other hother place contents hplace hfile
    by_cases hsame : place = out.below path
    · exact h.spared other hother place bytes hplace (hsame ▸ hgained.file)
    · exact h.spared other hother place contents hplace (hgained.entry_of_file hfile hsame)

end Written

/-- Files at different places are written, unless something stops it. -/
theorem written_writeFiles {files : FileMap}
    (hspells : ∀ path ∈ files.map (·.1), ∃ names, Spells path names)
    (hplaces : (files.map (out.below ·.1)).Nodup) :
    let writing := writeFiles tree (Delivery.targets ⟨out, files⟩)
    writing.error = none → Written tree writing.tree out files := by
  induction files generalizing tree with
  | nil => exact fun _ => .nil tree out
  | cons file files ih =>
    obtain ⟨path, text⟩ := file
    obtain ⟨hfresh, hlater⟩ := List.nodup_cons.1 hplaces
    obtain ⟨⟨names, hnames⟩, hothers⟩ := List.forall_mem_cons.1 hspells
    have htargets : Delivery.targets ⟨out, (path, text) :: files⟩ =
        (out.append (.ofString path), text) :: Delivery.targets ⟨out, files⟩ := rfl
    rw [htargets, writeFiles]
    cases hwritten : writeFile tree (out.append (.ofString path)) (text.bytes?.getD .empty) with
    | error error => simp
    | ok next =>
      have hgained := FileTree.gained_writeFile hwritten
      rw [location_append_eq_below hnames, FilePath.leadsThrough_parent_append hnames] at hgained
      cases hhalf : text.hasHalf with
      | true => simp
      | false =>
        intro writing hdone
        obtain ⟨bytes, hbytes⟩ := Text.exists_bytes hhalf
        rw [hbytes, Option.getD_some] at hgained
        exact (ih hothers hlater hdone).cons hgained hbytes hfresh

variable {files : List (FilePath × Text)}

/-- Where nothing is in the way of files, and none of them leads through another, nothing stops the
writing but a path that is too long or a text without a form in UTF-8. -/
theorem error_writeFiles_eq_none_iff (htakes : ∀ path ∈ files.map (·.1), tree.Takes path)
    (hapart : ∀ path ∈ files.map (·.1), ∀ other ∈ files.map (·.1),
      ¬ path.parent.LeadsThrough other.location) :
    (writeFiles tree files).error = none ↔
      ∀ file ∈ files, file.1.Fits ∧ file.2.hasHalf = false := by
  induction files generalizing tree with
  | nil => simp [writeFiles]
  | cons file files ih =>
    obtain ⟨path, text⟩ := file
    obtain ⟨htaken, htakes⟩ := List.forall_mem_cons.1 htakes
    obtain ⟨hpath, hothers⟩ := List.forall_mem_cons.1 hapart
    have hlater : ∀ other ∈ files.map (·.1), ∀ another ∈ files.map (·.1),
        ¬ other.parent.LeadsThrough another.location := fun other hother another hanother =>
      hothers other hother another (List.mem_cons_of_mem _ hanother)
    have hwritable : (∃ next, writeFile tree path (text.bytes?.getD .empty) = .ok next) ↔
        tree.Takes path ∧ path.Fits := FileTree.exists_writeFile_iff _
    rw [writeFiles, List.forall_mem_cons]
    cases hwritten : writeFile tree path (text.bytes?.getD .empty) with
    | error error =>
      have hlong : ¬ path.Fits := by
        intro hfits
        obtain ⟨next, hnext⟩ := hwritable.2 ⟨htaken, hfits⟩
        rw [hwritten] at hnext
        cases hnext
      simp [hlong]
    | ok next =>
      have hfits : path.Fits := (hwritable.1 ⟨next, hwritten⟩).2
      have hgained := FileTree.gained_writeFile hwritten
      have hnext : ∀ other ∈ files.map (·.1), next.Takes other := fun other hother =>
        (htakes other hother).gained hgained (hpath other (List.mem_cons_of_mem _ hother))
          (hothers other hother path (List.mem_cons_self ..))
      cases hhalf : text.hasHalf with
      | true => simp
      | false => simp [hfits, ih hnext hlater]

end ModuleGraph.CommandLine
