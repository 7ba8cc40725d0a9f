import Mathlib.Data.List.Induction
import ModuleGraph.Proofs.CommandLine.Writing

/-!
# Following a path

A path leads through the places that its names lead to, one after the other. It can be followed to
its end if it leads through directories before, and it is not too long.

## Main definitions

- `FilePath.LeadsThrough` — a place on the way along a path
- `FilePath.OnWay` — a place on the way to a file below a directory
- `FilePath.Fits` — a path that is not too long
- `Location.IsAbove` — a place above another

## Main statements

- `leadsThrough_parent_append` — the way to a file below a directory
- `follow_concat_eq_ok_iff`, `locate_concat_eq_ok_iff` — which paths can be followed to their end
- `locate_concat_of_open` — a path that leads through no file
- `entry_of_locate` — what is above the place that a path leads to
-/

namespace ModuleGraph.CommandLine

open Document (bind_eq_ok_iff)

/-! ### The way along a path -/

namespace FilePath

/-- A place on the way along a path: one that some of its names lead to, from the first on. -/
def LeadsThrough (path : FilePath) (place : Location) : Prop :=
  ∃ names, names <+: path.names ∧ place = (⟨path.root, names⟩ : FilePath).location

variable {path : FilePath} {root name : String} {names : List String} {place : Location}

theorem leadsThrough_location (path : FilePath) : path.LeadsThrough path.location :=
  ⟨path.names, List.prefix_rfl, rfl⟩

theorem leadsThrough_nil :
    (FilePath.mk root []).LeadsThrough place ↔ place = (FilePath.mk root []).location := by
  simp [LeadsThrough]

theorem leadsThrough_concat :
    (FilePath.mk root (names ++ [name])).LeadsThrough place ↔
      (FilePath.mk root names).LeadsThrough place ∨
        place = (FilePath.mk root (names ++ [name])).location := by
  simp only [LeadsThrough, List.prefix_concat_iff]
  constructor
  · rintro ⟨_, rfl | hprefix, rfl⟩
    · exact .inr rfl
    · exact .inl ⟨_, hprefix, rfl⟩
  · rintro (⟨before, hprefix, rfl⟩ | rfl)
    · exact ⟨before, .inr hprefix, rfl⟩
    · exact ⟨_, .inl rfl, rfl⟩

theorem parent_concat : (FilePath.mk root (names ++ [name])).parent = ⟨root, names⟩ := by
  simp [parent]

/-- A place on the way to a file below a directory: one on the way to the directory, or one between
it and the file. -/
def OnWay (out : FilePath) (path : String) (place : Location) : Prop :=
  out.LeadsThrough place ∨ ∃ names, names ≠ [] ∧ names <+: (path.splitOn "/").dropLast ∧
    place = { out.location with names := out.location.names ++ names }

/-- The way to a file below a directory is the way to the directory, and then down from it. -/
theorem leadsThrough_parent_append {out : FilePath} {path : String} (h : Spells path names) :
    (out.append (.ofString path)).parent.LeadsThrough = out.OnWay path := by
  have hparent : (out.append (.ofString path)).parent =
      ⟨out.root, out.names ++ names.dropLast⟩ := by
    rw [append_ofString h, parent, List.dropLast_append_of_ne_nil h.nonempty]
  have hdown : ∀ later, later <+: names.dropLast →
      (FilePath.mk out.root (out.names ++ later)).location =
        { out.location with names := out.location.names ++ later } := by
    intro later hlater
    show (out.names ++ later).foldl Location.step out.origin = _
    rw [List.foldl_append, Location.foldl_step]
    · rfl
    · exact fun name hname => h.down name (List.dropLast_subset _ (hlater.subset hname))
  funext place
  rw [hparent, OnWay, h.splitOn_eq]
  refine propext ⟨?_, ?_⟩
  · rintro ⟨before, hbefore, rfl⟩
    have hnames : out.names <+: out.names ++ names.dropLast := List.prefix_append ..
    rcases List.prefix_or_prefix_of_prefix hbefore hnames with hout | ⟨later, rfl⟩
    · exact .inl ⟨before, hout, rfl⟩
    · rcases eq_or_ne later [] with rfl | hlater
      · exact .inl ⟨out.names, List.prefix_rfl, by rw [List.append_nil]⟩
      · have hprefix : later <+: names.dropLast := (List.prefix_append_right_inj _).1 hbefore
        exact .inr ⟨later, hlater, hprefix, hdown later hprefix⟩
  · rintro (⟨before, hbefore, rfl⟩ | ⟨later, -, hlater, rfl⟩)
    · exact ⟨before, hbefore.trans (List.prefix_append ..), rfl⟩
    · exact ⟨_, (List.prefix_append_right_inj _).2 hlater, (hdown later hlater).symm⟩

theorem holdsNul_of_concat (h : (FilePath.mk root (names ++ [name])).holdsNul = false) :
    (FilePath.mk root names).holdsNul = false := by
  rw [holdsNul, List.any_append, Bool.or_eq_false_iff] at h
  exact h.1

/-- A path that is not too long, as a whole and in its names. -/
@[mk_iff]
structure Fits (path : FilePath) : Prop where
  size : path.toString.utf8ByteSize ≤ maxPathBytes
  names : ∀ name ∈ path.names, name.utf8ByteSize ≤ maxNameBytes

theorem Fits.of_concat (h : (FilePath.mk root (names ++ [name])).Fits) :
    (FilePath.mk root names).Fits := by
  have hsize : root.utf8ByteSize + ("/".intercalate (names ++ [name])).utf8ByteSize ≤
      maxPathBytes := by
    simpa [toString, String.utf8ByteSize_append] using h.size
  refine ⟨?_, fun other hother => h.names other (List.mem_append_left _ hother)⟩
  rw [toString]
  split
  · -- a path without names is a dot
    decide
  · rw [String.utf8ByteSize_append]
    refine Nat.le_trans (Nat.add_le_add_left ?_ _) hsize
    rcases eq_or_ne names [] with rfl | hnames
    · exact Nat.zero_le _
    · rw [String.intercalate_append_of_ne_nil hnames (by simp), String.append_assoc,
        String.utf8ByteSize_append]
      exact Nat.le_add_right ..

end FilePath

namespace Location

/-- A place above another, from which names lead down to it. -/
def IsAbove (above location : Location) : Prop :=
  above.base = location.base ∧ ∃ name, above.names ++ [name] <+: location.names

theorem up_eq {base : Option Nat} {names : List String} (h : names ≠ []) :
    (⟨base, names⟩ : Location).up = ⟨base, names.dropLast⟩ := by
  cases names with
  | nil => exact absurd rfl h
  | cons name names => cases base <;> rfl

theorem names_up (location : Location) : location.up.names = location.names.dropLast := by
  obtain ⟨base, names⟩ := location
  rcases eq_or_ne names [] with rfl | hnames
  · cases base <;> rfl
  · rw [up_eq hnames]

/-- What is above the place that a name leads to is the place where it begins, or above that. -/
theorem eq_or_isAbove_of_step {above location : Location} {name : String}
    (h : above.IsAbove (location.step name)) : above = location ∨ above.IsAbove location := by
  obtain ⟨base, names⟩ := location
  obtain ⟨hbase, last, hlast⟩ := h
  by_cases hname : name = upName
  · rw [step, if_pos hname] at hbase hlast
    rw [names_up] at hlast
    have hsome : names ≠ [] := by
      rintro rfl
      simp at hlast
    rw [up_eq hsome] at hbase
    exact .inr ⟨hbase, last, hlast.trans (List.dropLast_prefix _)⟩
  · rw [step, if_neg hname] at hbase hlast
    rcases List.prefix_concat_iff.1 hlast with hall | hprefix
    · obtain ⟨hnames, -⟩ := List.append_inj' hall rfl
      obtain ⟨aboveBase, aboveNames⟩ := above
      obtain rfl : aboveBase = base := hbase
      obtain rfl : aboveNames = names := hnames
      exact .inl rfl
    · exact .inr ⟨hbase, last, hprefix⟩

/-- The directories above the directory of a place are above the place, unless they have no
names. -/
theorem isAbove_of_mem_ancestors {above location : Location}
    (h : above ∈ FileTree.ancestors location.up) : above.names = [] ∨ above.IsAbove location := by
  obtain ⟨count, -, rfl⟩ := List.mem_map.1 h
  obtain ⟨base, names⟩ := location
  rcases List.eq_nil_or_concat names with rfl | ⟨before, last, rfl⟩
  · exact .inl (by simp [names_up])
  · right
    rw [List.concat_eq_append, up_eq (by simp), List.dropLast_concat]
    refine ⟨rfl, ?_⟩
    obtain ⟨first, later, hlater⟩ : ∃ first later, before.drop count ++ [last] = first :: later :=
      List.exists_cons_of_ne_nil (by simp)
    refine ⟨first, later, ?_⟩
    calc before.take count ++ [first] ++ later
        = before.take count ++ (before.drop count ++ [last]) := by rw [hlater]; simp
      _ = before ++ [last] := by rw [← List.append_assoc, List.take_append_drop]

end Location

namespace FileTree

variable {tree : FileTree} {path : FilePath} {root name : String} {names : List String}
  {location place : Location}

/-! ### Following a path -/

theorem follow_concat :
    tree.follow location (names ++ [name]) =
      tree.follow location names >>= fun above => tree.follow above [name] := by
  induction names generalizing location with
  | nil => rfl
  | cons first names ih =>
    rw [List.cons_append, follow, follow]
    cases tree.entry location with
    | file contents => rfl
    | nothing => rfl
    | directory =>
      dsimp only
      split
      · rfl
      · exact ih

theorem follow_singleton_eq_ok_iff :
    tree.follow location [name] = .ok place ↔
      tree.entry location = .directory ∧ name.utf8ByteSize ≤ maxNameBytes ∧
        place = location.step name := by
  rw [follow]
  cases tree.entry location with
  | file contents => simp
  | nothing => simp
  | directory =>
    by_cases hname : name.utf8ByteSize ≤ maxNameBytes
    · simp [Nat.not_lt.2 hname, hname, follow, eq_comm]
    · simp [Nat.lt_of_not_le hname, hname]

theorem location_concat (root : String) (names : List String) (name : String) :
    (FilePath.mk root (names ++ [name])).location =
      (FilePath.mk root names).location.step name := by
  show (names ++ [name]).foldl Location.step _ = _
  rw [List.foldl_append]
  rfl

/-- Names can be followed if what they lead through before their end are directories, and none of
them is too long. -/
theorem follow_concat_eq_ok_iff :
    tree.follow (FilePath.mk root (names ++ [name])).origin (names ++ [name]) = .ok place ↔
      (∀ above, (FilePath.mk root names).LeadsThrough above → tree.entry above = .directory) ∧
      (∀ other ∈ names ++ [name], other.utf8ByteSize ≤ maxNameBytes) ∧
      place = (FilePath.mk root (names ++ [name])).location := by
  induction names using List.reverseRecOn generalizing name place with
  | nil =>
    show tree.follow _ [name] = _ ↔ _
    rw [follow_singleton_eq_ok_iff]
    simp only [FilePath.leadsThrough_nil, forall_eq, List.nil_append, List.forall_mem_singleton]
    exact Iff.rfl
  | append_singleton names last ih =>
    have hlast : ∀ above,
        tree.follow (FilePath.mk root (names ++ [last] ++ [name])).origin (names ++ [last]) =
          .ok above ↔ _ := fun above => ih
    rw [follow_concat, bind_eq_ok_iff, location_concat]
    simp only [hlast, follow_singleton_eq_ok_iff]
    constructor
    · rintro ⟨_, ⟨habove, hnames, rfl⟩, hentry, hname, rfl⟩
      refine ⟨fun above hthrough => ?_, List.forall_mem_append.2 ⟨hnames, by simpa⟩, rfl⟩
      rcases FilePath.leadsThrough_concat.1 hthrough with hbefore | rfl
      · exact habove above hbefore
      · exact hentry
    · rintro ⟨habove, hshort, rfl⟩
      obtain ⟨hnames, hname⟩ := List.forall_mem_append.1 hshort
      refine ⟨_, ⟨fun above hbefore => ?_, hnames, rfl⟩, ?_, by simpa using hname, rfl⟩
      · exact habove above (FilePath.leadsThrough_concat.2 (.inl hbefore))
      · exact habove _ (FilePath.leadsThrough_location _)

/-- A path can be followed if what it leads through before its end are directories, and it is not
too long. -/
theorem locate_concat_eq_ok_iff :
    tree.locate ⟨root, names ++ [name]⟩ = .ok place ↔
      (∀ above, (FilePath.mk root names).LeadsThrough above → tree.entry above = .directory) ∧
      (FilePath.mk root (names ++ [name])).holdsNul = false ∧
      (FilePath.mk root (names ++ [name])).Fits ∧
      place = (FilePath.mk root (names ++ [name])).location := by
  rw [locate]
  cases (FilePath.mk root (names ++ [name])).holdsNul with
  | true => simp
  | false =>
    by_cases hsize :
        (FilePath.mk root (names ++ [name])).toString.utf8ByteSize ≤ maxPathBytes
    · simp only [Bool.false_eq_true, if_false, Nat.not_lt.2 hsize, follow_concat_eq_ok_iff,
        FilePath.fits_iff, hsize, true_and]
    · simp only [Bool.false_eq_true, if_false, Nat.lt_of_not_le hsize, if_true, FilePath.fits_iff,
        hsize, false_and, and_false, reduceCtorEq]

theorem locate_nil (h : (FilePath.mk root []).Fits) :
    tree.locate ⟨root, []⟩ = .ok (FilePath.mk root []).location := by
  rw [locate, if_neg (by simp [FilePath.holdsNul]), if_neg (Nat.not_lt.2 h.size)]
  rfl

theorem follow_singleton_of_open (hname : name.utf8ByteSize ≤ maxNameBytes)
    (hopen : ∀ contents, tree.entry location ≠ .file contents) :
    tree.follow location [name] = .ok (location.step name) ∨
      tree.follow location [name] = .error .notFound := by
  rw [follow]
  cases hentry : tree.entry location with
  | file contents => exact absurd hentry (hopen contents)
  | nothing => exact .inr rfl
  | directory => exact .inl (if_neg (Nat.not_lt.2 hname))

/-- A path that is not too long and leads through no file before its end can be followed, or leads
through a place where nothing is. -/
theorem follow_concat_of_open
    (hshort : ∀ other ∈ names ++ [name], other.utf8ByteSize ≤ maxNameBytes)
    (hopen : ∀ above, (FilePath.mk root names).LeadsThrough above →
      ∀ contents, tree.entry above ≠ .file contents) :
    tree.follow (FilePath.mk root (names ++ [name])).origin (names ++ [name]) =
        .ok (FilePath.mk root (names ++ [name])).location ∨
      tree.follow (FilePath.mk root (names ++ [name])).origin (names ++ [name]) =
        .error .notFound := by
  have hend := follow_singleton_of_open (hshort name (by simp))
    (hopen _ (FilePath.leadsThrough_location _))
  induction names using List.reverseRecOn generalizing name with
  | nil => exact hend
  | append_singleton names last ih =>
    rw [List.forall_mem_append] at hshort
    have hbefore : ∀ above, (FilePath.mk root names).LeadsThrough above →
        ∀ contents, tree.entry above ≠ .file contents := fun above habove =>
      hopen above (FilePath.leadsThrough_concat.2 (.inl habove))
    have hlast := ih hshort.1 hbefore (follow_singleton_of_open (hshort.1 last (by simp))
      (hbefore _ (FilePath.leadsThrough_location _)))
    rw [follow_concat, location_concat]
    rcases hlast with hok | herror
    · have hok : tree.follow (FilePath.mk root (names ++ [last] ++ [name])).origin
          (names ++ [last]) = _ := hok
      rw [hok]
      exact hend
    · have herror : tree.follow (FilePath.mk root (names ++ [last] ++ [name])).origin
          (names ++ [last]) = _ := herror
      rw [herror]
      exact .inr rfl

theorem locate_concat_of_open (hnul : (FilePath.mk root (names ++ [name])).holdsNul = false)
    (hfits : (FilePath.mk root (names ++ [name])).Fits)
    (hopen : ∀ above, (FilePath.mk root names).LeadsThrough above →
      ∀ contents, tree.entry above ≠ .file contents) :
    tree.locate ⟨root, names ++ [name]⟩ = .ok (FilePath.mk root (names ++ [name])).location ∨
      tree.locate ⟨root, names ++ [name]⟩ = .error .notFound := by
  rw [locate, if_neg (by simp [hnul]), if_neg (Nat.not_lt.2 hfits.size)]
  exact follow_concat_of_open hfits.names hopen

/-- What is above the end of the way along names are directories if the way begins below
directories. -/
theorem entry_of_follow (h : tree.follow location names = .ok place)
    (hrooted : ∀ above, above.IsAbove location → tree.entry above = .directory) :
    ∀ above, above.IsAbove place → tree.entry above = .directory := by
  induction names generalizing location with
  | nil =>
    obtain rfl : location = place := Except.ok.inj h
    exact hrooted
  | cons name names ih =>
    rw [follow] at h
    cases hentry : tree.entry location with
    | file contents => simp [hentry] at h
    | nothing => simp [hentry] at h
    | directory =>
      simp only [hentry] at h
      split at h
      · cases h
      · refine ih h fun above habove => ?_
        rcases Location.eq_or_isAbove_of_step habove with rfl | habove
        · exact hentry
        · exact hrooted above habove

theorem entry_of_locate (h : tree.locate path = .ok place) :
    ∀ above, above.IsAbove place → tree.entry above = .directory := by
  rw [locate] at h
  split at h
  · cases h
  · split at h
    · cases h
    · refine entry_of_follow h ?_
      -- a path begins where nothing is above
      rintro above ⟨-, name, hname⟩
      have horigin : path.origin.names = [] := by
        rw [FilePath.origin]
        split <;> rfl
      simp [horigin] at hname

end FileTree

end ModuleGraph.CommandLine
