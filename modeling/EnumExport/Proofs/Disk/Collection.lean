import EnumExport.Proofs.Disk.Reach
import EnumExport.Proofs.Disk.Searching
import Mathlib.Data.Char
import Mathlib.Data.List.Lex
import Mathlib.Data.List.Sort

namespace EnumExport

theorem textLe_iff {text other : List Char} : textLe text other = true ↔ text ≤ other := by
  rw [← not_lt]
  induction text generalizing other with
  | nil => simp [textLe]
  | cons c text ih =>
    cases other with
    | nil => simp [textLe]
    | cons d other =>
      have hlt : (decide (c.toNat < d.toNat)) = decide (c < d) := rfl
      rw [List.cons_lt_cons_iff, textLe, Bool.or_eq_true, Bool.and_eq_true, ih, hlt,
        decide_eq_true_eq, beq_iff_eq]
      rcases lt_trichotomy c d with h | rfl | h
      · simp [h, h.not_gt, h.ne']
      · simp
      · simp [h, h.not_gt, h.ne']

theorem namesLe_iff {names others : Place} : namesLe names others = true ↔ names ≤ others := by
  rw [← not_lt]
  induction names generalizing others with
  | nil => simp [namesLe]
  | cons name names ih =>
    cases others with
    | nil => simp [namesLe]
    | cons other others =>
      rw [List.cons_lt_cons_iff, namesLe]
      split
      · rename_i hname
        simp [hname, ih]
      · rename_i hname
        rw [textLe_iff, ← not_lt]
        simp [Ne.symm hname]

namespace Disk

variable {disk : Disk} {path file : Path} {paths files : List Path} {ending : List Char}
  {place names : Place}

theorem hasEnding_iff :
    hasEnding ending names = true ↔ ∃ front name, names = front ++ [name] ∧ ending <:+ name := by
  unfold hasEnding
  cases hlast : names.getLast? with
  | none => simp [List.getLast?_eq_none_iff.mp hlast]
  | some last =>
    obtain ⟨front, rfl⟩ := List.getLast?_eq_some_iff.mp hlast
    simp only [List.isSuffixOf_iff_suffix]
    constructor
    · intro h
      exact ⟨front, last, rfl, h⟩
    · rintro ⟨other, name, heq, h⟩
      obtain rfl := List.singleton_inj.mp (List.append_inj_right' heq rfl)
      exact h

theorem mem_searchBelow_iff :
    names ∈ disk.searchBelow ending place ↔
      hasEnding ending names = true ∧ ∃ entry, disk.entryAt (place ++ names) = some entry := by
  constructor
  · intro h
    obtain ⟨⟨entry, hmem⟩, hending⟩ := exists_of_mem_searchBelow h
    exact ⟨hending, exists_entryAt_of_mem hmem⟩
  · rintro ⟨hending, entry, hentry⟩
    have hnames : names ≠ [] := by
      rintro rfl
      simp [hasEnding] at hending
    have hmem := mem_entries_of_entryAt hentry (List.append_ne_nil_of_right_ne_nil place hnames)
    rw [searchBelow, List.mem_mergeSort]
    exact List.mem_filter.mpr ⟨mem_namesBelow_iff.mpr ⟨entry, hmem⟩, hending⟩

theorem nodup_searchBelow (h : Keyed.OneEach disk.entries) (ending : List Char) (place : Place) :
    (disk.searchBelow ending place).Nodup := by
  rw [searchBelow_eq, (List.mergeSort_perm _ _).nodup_iff]
  apply List.Nodup.filter
  apply List.Nodup.filterMap _ h
  intro other another names hother hanother
  rw [eq_append_of_relative? hother, eq_append_of_relative? hanother]

theorem pairwise_searchBelow (h : Keyed.OneEach disk.entries) (ending : List Char)
    (place : Place) : (disk.searchBelow ending place).Pairwise (· < ·) := by
  have hsorted : (disk.searchBelow ending place).Pairwise fun a b => namesLe a b = true := by
    apply List.pairwise_mergeSort
    · intro a b c hab hbc
      rw [namesLe_iff] at hab hbc ⊢
      exact hab.trans hbc
    · intro a b
      rw [Bool.or_eq_true, namesLe_iff, namesLe_iff]
      exact le_total a b
  apply (hsorted.and (nodup_searchBelow h ending place)).imp
  rintro a b ⟨hle, hne⟩
  exact lt_of_le_of_ne (namesLe_iff.mp hle) hne

theorem below_injective (path : Path) : Function.Injective path.below := by
  intro names others h
  exact List.append_cancel_left (congrArg Path.names h)

def IsSource (disk : Disk) (wanted : Entry → Prop) (path file : Path) : Prop :=
  ∃ names name entry, file = path.below (names ++ [name]) ∧ sourceEnding <:+ name ∧
    disk.entryAt (disk.destination path ++ (names ++ [name])) = some entry ∧ wanted entry

theorem IsSource.mono {wanted wider : Entry → Prop} (hwider : ∀ entry, wanted entry → wider entry)
    (h : disk.IsSource wanted path file) : disk.IsSource wider path file := by
  obtain ⟨names, name, entry, heq, hname, hentry, hwanted⟩ := h
  exact ⟨names, name, entry, heq, hname, hentry, hwider entry hwanted⟩

theorem mem_map_searchBelow_iff :
    file ∈ (disk.searchBelow sourceEnding (disk.destination path)).map path.below ↔
      disk.IsSource (fun _ => True) path file := by
  rw [List.mem_map]
  constructor
  · rintro ⟨names, hnames, rfl⟩
    obtain ⟨hending, entry, hentry⟩ := mem_searchBelow_iff.mp hnames
    obtain ⟨front, name, rfl, hname⟩ := hasEnding_iff.mp hending
    exact ⟨front, name, entry, rfl, hname, hentry, trivial⟩
  · rintro ⟨front, name, entry, rfl, hname, hentry, -⟩
    have hending := hasEnding_iff.mpr ⟨front, name, rfl, hname⟩
    exact ⟨_, mem_searchBelow_iff.mpr ⟨hending, entry, hentry⟩, rfl⟩

theorem pairwise_map_searchBelow (h : Keyed.OneEach disk.entries) (place : Place) (path : Path) :
    ((disk.searchBelow sourceEnding place).map path.below).Pairwise
      (fun a b => a.names < b.names) := by
  rw [List.pairwise_map]
  apply (pairwise_searchBelow h sourceEnding place).imp
  intro names others hlt
  exact List.Lex.append_left _ hlt path.names

/-- What is collected for a path: for a directory the entries of the wanted kind below it that are
named like source files, in ascending order, and otherwise the path itself. -/
inductive Collects (disk : Disk) (wanted : Entry → Prop) (path : Path) : List Path → Prop
  | below {files : List Path} (directory : disk.isDirectory path = .ok true)
      (ascending : files.Pairwise fun a b => a.names < b.names)
      (exact : ∀ file, file ∈ files ↔ disk.IsSource wanted path file) :
      Collects disk wanted path files
  | itself (other : disk.isDirectory path ≠ .ok true) : Collects disk wanted path [path]

theorem collects_filesOf (hone : Keyed.OneEach disk.entries) (h : disk.filesOf path = .ok files) :
    disk.Collects (fun _ => True) path files := by
  rcases filesOf_cases h with ⟨hother, rfl⟩ | ⟨hthere, place, hplace, rfl⟩
  · exact .itself (by simp [hother])
  · obtain rfl := eq_destination_of_locate hplace
    exact .below hthere (pairwise_map_searchBelow hone _ path) fun _ => mem_map_searchBelow_iff

theorem Collects.sublist {wanted wider : Entry → Prop} {found : List Path}
    (hwider : ∀ entry, wanted entry → wider entry) (h : disk.Collects wanted path files)
    (hfound : disk.Collects wider path found) : files.Sublist found := by
  cases h with
  | itself hother =>
    cases hfound with
    | itself _ => exact .refl _
    | below hthere _ _ => exact absurd hthere hother
  | below hthere hascending hfiles =>
    cases hfound with
    | itself hother => exact absurd hthere hother
    | below _ hsorted hall =>
      have : Std.Irrefl fun a b : Path => a.names < b.names := ⟨fun a => lt_irrefl a.names⟩
      have : Std.Antisymm fun a b : Path => a.names < b.names :=
        ⟨fun _ _ hlt hgt => absurd hgt hlt.not_gt⟩
      apply List.sublist_of_subperm_of_pairwise _ hascending hsorted
      apply List.subperm_of_subset hascending.nodup
      intro file hfile
      exact (hall file).mpr (((hfiles file).mp hfile).mono hwider)

theorem collects_ne_directory_iff (h : disk.Collects (fun _ => True) path files) :
    disk.Collects (· ≠ .directory) path files ↔
      (disk.isDirectory path = .ok true → ∀ file, ¬ disk.IsSource (· = .directory) path file) := by
  cases h with
  | itself hother => exact ⟨fun _ hthere => absurd hthere hother, fun _ => .itself hother⟩
  | below hthere hascending hall =>
    constructor
    · rintro hfiles - file ⟨names, name, entry, heq, hname, hentry, hdirectory⟩
      have hmem := (hall file).mpr ⟨names, name, entry, heq, hname, hentry, trivial⟩
      -- the file is collected as one, so that its place would hold a file as well
      cases hfiles with
      | itself hother => exact hother hthere
      | below _ _ hplain =>
        obtain ⟨front, last, other, hfront, -, hother, hfile⟩ := (hplain file).mp hmem
        rw [← below_injective path (heq.symm.trans hfront), hentry] at hother
        exact hfile ((Option.some.inj hother).symm.trans hdirectory)
    · intro hnone
      refine .below hthere hascending fun file => (hall file).trans ⟨?_, ?_⟩
      · rintro ⟨names, name, entry, heq, hname, hentry, -⟩
        refine ⟨names, name, entry, heq, hname, hentry, fun hdirectory => ?_⟩
        exact hnone hthere file ⟨names, name, entry, heq, hname, hentry, hdirectory⟩
      · exact IsSource.mono fun _ _ => trivial

inductive IsCollection (disk : Disk) (wanted : Entry → Prop) : List Path → List Path → Prop
  | nil : IsCollection disk wanted [] []
  | cons {path : Path} {paths found files : List Path} (first : disk.Collects wanted path found)
      (rest : IsCollection disk wanted paths files) :
      IsCollection disk wanted (path :: paths) (found ++ files)

theorem IsCollection.sublist {wanted wider : Entry → Prop} {found : List Path}
    (hwider : ∀ entry, wanted entry → wider entry) (h : disk.IsCollection wanted paths files)
    (hfound : disk.IsCollection wider paths found) : files.Sublist found := by
  induction h generalizing found with
  | nil =>
    cases hfound
    exact .slnil
  | cons hfirst _ ih =>
    cases hfound with
    | cons hfirst' hrest' => exact (hfirst.sublist hwider hfirst').append (ih hrest')

theorem isCollection_append_iff {wanted wider : Entry → Prop} {found : List Path}
    (hwider : ∀ entry, wanted entry → wider entry) (hfirst : disk.Collects wider path found)
    (hrest : disk.IsCollection wider paths files) :
    disk.IsCollection wanted (path :: paths) (found ++ files) ↔
      disk.Collects wanted path found ∧ disk.IsCollection wanted paths files := by
  constructor
  · intro h
    generalize hall : found ++ files = all at h
    cases h with
    | cons hfirst' hrest' =>
      -- neither part is longer than before and together they are as long, so neither is shorter
      have hfound := hfirst'.sublist hwider hfirst
      have hfiles := (hrest'.sublist hwider hrest).length_le
      have hlength := congrArg List.length hall
      rw [List.length_append, List.length_append] at hlength
      obtain rfl := hfound.eq_of_length_le (by omega)
      obtain rfl := List.append_cancel_left hall
      exact ⟨hfirst', hrest'⟩
  · rintro ⟨hfirst', hrest'⟩
    exact .cons hfirst' hrest'

theorem isCollection_flatten (hone : Keyed.OneEach disk.entries) {lists : List (List Path)}
    (h : List.Forall₂ (fun path found => disk.filesOf path = .ok found) paths lists) :
    disk.IsCollection (fun _ => True) paths lists.flatten := by
  induction h with
  | nil => exact .nil
  | cons hfirst _ ih => exact .cons (collects_filesOf hone hfirst) ih

theorem isCollection_sourceFiles (hone : Keyed.OneEach disk.entries)
    (h : disk.sourceFiles paths = .ok files) :
    disk.IsCollection (fun _ => True) paths files := by
  unfold sourceFiles at h
  cases hlists : paths.mapM disk.filesOf with
  | error error => simp [hlists, Except.map] at h
  | ok lists =>
    obtain rfl : lists.flatten = files := by simpa [hlists, Except.map] using h
    exact isCollection_flatten hone (mapM_eq_ok_iff.mp hlists)

theorem isCollection_ne_directory_iff (h : disk.IsCollection (fun _ => True) paths files) :
    disk.IsCollection (· ≠ .directory) paths files ↔
      ∀ path ∈ paths, disk.isDirectory path = .ok true →
        ∀ file, ¬ disk.IsSource (· = .directory) path file := by
  induction h with
  | nil => exact ⟨fun _ => by simp, fun _ => .nil⟩
  | cons hfirst hrest ih =>
    rw [isCollection_append_iff (fun _ _ => trivial) hfirst hrest, ih,
      collects_ne_directory_iff hfirst, List.forall_mem_cons]

/-- A directory stands for everything below it that is named like a source file, in ascending order
and each once, and any other path for itself. All of this is files exactly if no directory below is
named like a source file. -/
theorem sourceFiles_collects (hone : Keyed.OneEach disk.entries) (paths : List Path) :
    ((∀ path ∈ paths, disk.IsInReach path) → ∃ files, disk.sourceFiles paths = .ok files) ∧
      ∀ files, disk.sourceFiles paths = .ok files →
        disk.IsCollection (fun _ => True) paths files ∧
          (disk.IsCollection (· ≠ .directory) paths files ↔
            ∀ path ∈ paths, disk.isDirectory path = .ok true →
              ∀ file, ¬ disk.IsSource (· = .directory) path file) := by
  refine ⟨exists_sourceFiles_iff.mpr, fun files hfiles => ?_⟩
  have hall := isCollection_sourceFiles hone hfiles
  exact ⟨hall, isCollection_ne_directory_iff hall⟩

theorem sourceFiles_collects_nested :
    let disk : Disk := { entries := [(["S".toList], .directory),
      (["S".toList, "b".toList], .directory),
      (["S".toList, "b".toList, "a.swift".toList], .file []),
      (["S".toList, "b.swift".toList], .file [])] }
    let paths := [Path.ofText "S".toList, Path.ofText "c".toList]
    let files := ["S/b/a.swift", "S/b.swift", "c"].map (Path.ofText ·.toList)
    Keyed.OneEach disk.entries ∧ (∀ path ∈ paths, disk.IsInReach path) ∧
      disk.sourceFiles paths = .ok files ∧ disk.IsCollection (· ≠ .directory) paths files := by
  intro disk paths files
  have hone : Keyed.OneEach disk.entries := by decide
  have hreach : ∀ path ∈ paths, disk.IsInReach path := by
    refine List.forall_mem_cons.mpr ⟨?_, List.forall_mem_singleton.mpr ?_⟩
    · exact isInReach_of_entries (by decide +kernel) (by decide +kernel)
    · exact isInReach_of_entries (by decide +kernel) (by decide +kernel)
  have hfound : disk.searchBelow sourceEnding ["S".toList] =
      [["b".toList, "a.swift".toList], ["b.swift".toList]] :=
    List.mergeSort_of_pairwise (by decide)
  have hdirectory : disk.filesOf (Path.ofText "S".toList) =
      .ok (["S/b/a.swift", "S/b.swift"].map (Path.ofText ·.toList)) := by
    have hplace : disk.locate (Path.ofText "S".toList) = .ok ["S".toList] := by decide +kernel
    rw [filesOf_of_lookBelow (by decide +kernel) hplace (by decide +kernel), hfound]
    rfl
  have hother : disk.filesOf (Path.ofText "c".toList) = .ok [Path.ofText "c".toList] :=
    filesOf_of_other (by decide +kernel)
  have hfiles : disk.sourceFiles paths = .ok files := by
    rw [sourceFiles, mapM_eq_ok_iff.mpr (.cons hdirectory (.cons hother .nil))]
    rfl
  obtain ⟨-, hcollects⟩ := sourceFiles_collects hone paths
  have hplain : ∀ placed ∈ disk.entries, placed.2 = .directory →
      hasEnding sourceEnding placed.1 = false := by decide
  refine ⟨hone, hreach, hfiles, ((hcollects files hfiles).2).mpr ?_⟩
  rintro path hpath hthere file ⟨names, name, entry, rfl, hname, hentry, rfl⟩
  rw [← List.append_assoc] at hentry
  have hfree := hplain _ (mem_entries_of_entryAt hentry (by simp)) rfl
  rw [hasEnding_iff.mpr ⟨_, _, rfl, hname⟩] at hfree
  exact Bool.noConfusion hfree

theorem directory_collected :
    let disk : Disk := { entries := [(["S".toList], .directory),
      (["S".toList, "a.swift".toList], .file []), (["S".toList, "x.swift".toList], .directory)] }
    let paths := [Path.ofText "S".toList]
    disk.IsTree ∧ Keyed.OneEach disk.entries ∧ (∀ path ∈ paths, disk.IsInReach path) ∧
      disk.sourceFiles paths =
        .ok [Path.ofText "S/a.swift".toList, Path.ofText "S/x.swift".toList] ∧
      ¬ ∃ files, disk.sourceFiles paths = .ok files ∧
        disk.IsCollection (· ≠ .directory) paths files := by
  intro disk paths
  have hone : Keyed.OneEach disk.entries := by decide
  have hreach : ∀ path ∈ paths, disk.IsInReach path := by
    refine List.forall_mem_singleton.mpr ?_
    exact isInReach_of_entries (by decide +kernel) (by decide +kernel)
  have hthere : disk.isDirectory (Path.ofText "S".toList) = .ok true := by decide +kernel
  have hfound : disk.searchBelow sourceEnding ["S".toList] =
      [["a.swift".toList], ["x.swift".toList]] :=
    List.mergeSort_of_pairwise (by decide)
  have hfiles : disk.filesOf (Path.ofText "S".toList) =
      .ok [Path.ofText "S/a.swift".toList, Path.ofText "S/x.swift".toList] := by
    have hplace : disk.locate (Path.ofText "S".toList) = .ok ["S".toList] := by decide +kernel
    rw [filesOf_of_lookBelow hthere hplace (by decide +kernel), hfound]
    rfl
  refine ⟨⟨by decide, by decide⟩, hone, hreach, ?_, ?_⟩
  · rw [sourceFiles, mapM_eq_ok_iff.mpr (.cons hfiles .nil)]
    rfl
  · rintro ⟨files, hfiles, hplain⟩
    have hnone := (isCollection_ne_directory_iff (isCollection_sourceFiles hone hfiles)).mp hplain
    apply hnone _ (List.mem_cons_self ..) hthere (Path.ofText "S/x.swift".toList)
    exact ⟨[], "x.swift".toList, .directory, by decide +kernel, by decide +kernel,
      by decide +kernel, rfl⟩

end Disk

end EnumExport
