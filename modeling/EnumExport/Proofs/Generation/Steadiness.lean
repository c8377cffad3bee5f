import EnumExport.Proofs.Generation.Confinement

namespace EnumExport

namespace Disk

structure IsSteady (disk : Disk) (directory path : Path) : Prop where
  ownNames : parentName ∉ path.names
  isThere : ∃ entry, disk.entryAt (disk.placeOf path) = some entry
  isPlain : ¬ disk.IsScriptPlace directory (disk.placeOf path)

theorem IsSteady.readDeclarations_eq {before after : Disk} {directory path : Path}
    (hsteady : before.IsSteady directory path) (htree : before.IsTree)
    (hgrows : Grows (before.IsScriptPlace directory) before after) (marker : List Char) :
    after.readDeclarations marker path = before.readDeclarations marker path := by
  obtain ⟨entry, hentry⟩ := hsteady.isThere
  exact readDeclarations_of_grows htree hgrows hsteady.ownNames hentry hsteady.isPlain marker

/-- Paths that are there, and no file among them below the directory that scripts are put in. Such a
directory may be below one of the paths, and may be named like a source file. -/
structure IsSeparate (disk : Disk) (place : ScriptPlace) (paths : List Path) : Prop where
  isApart : place.IsApart
  isThere : ∀ path ∈ paths, disk.pathExists path = .ok true
  ownNames : ∀ path ∈ paths, parentName ∉ path.names
  outside : ∀ path ∈ paths, ∀ bytes, disk.find path = .ok (.file bytes) →
    ∀ names ≠ [], disk.placeOf path ≠ disk.placeOf place.directory ++ names

variable {disk : Disk} {path : Path}

theorem isSeparate_of_not_prefix {place : ScriptPlace} {paths : List Path} (hapart : place.IsApart)
    (hthere : ∀ path ∈ paths, disk.pathExists path = .ok true)
    (hnames : ∀ path ∈ paths, parentName ∉ path.names)
    (houtside : ∀ path ∈ paths, ¬ disk.placeOf place.directory <+: disk.placeOf path) :
    disk.IsSeparate place paths := by
  refine ⟨hapart, hthere, hnames, fun path hpath _ _ names _ hplace => houtside path hpath ?_⟩
  exact ⟨names, hplace.symm⟩

theorem exists_probe_of_pathExists (h : disk.pathExists path = .ok true) :
    ∃ entry, disk.probe path = .ok (some entry) := by
  unfold pathExists at h
  cases hprobe : disk.probe path with
  | error error => simp [hprobe, Except.map] at h
  | ok found =>
    cases found with
    | none => simp [hprobe, Except.map] at h
    | some entry => exact ⟨entry, rfl⟩

theorem entryAt_of_find {entry : Entry} (hnames : parentName ∉ path.names)
    (h : disk.find path = .ok entry) : disk.entryAt (disk.placeOf path) = some entry := by
  unfold find at h
  cases hlocate : disk.locate path with
  | error fault => simp [hlocate, Except.bind] at h
  | ok place =>
    rw [hlocate, eq_placeOf_of_locate hnames hlocate] at h
    simp only [Except.bind] at h
    split at h
    · simp at h
    · rename_i hentry
      rw [hentry, Except.ok.inj h]

theorem isSteady_of_file {place : ScriptPlace} {paths : List Path}
    (hseparate : disk.IsSeparate place paths) (hpath : path ∈ paths)
    (hfile : disk.isDirectory path = .ok false) : disk.IsSteady place.directory path := by
  have hnames := hseparate.ownNames path hpath
  obtain ⟨entry, hprobe⟩ := exists_probe_of_pathExists (hseparate.isThere path hpath)
  have hfind := find_of_probe hprobe
  constructor
  · exact hnames
  · exact ⟨entry, entryAt_of_find hnames hfind⟩
  · rintro ⟨name, hplace, -⟩
    cases entry with
    | directory => simp [isDirectory, hprobe, Except.map] at hfile
    | file bytes =>
      exact hseparate.outside path hpath bytes hfind [name] (List.cons_ne_nil name []) hplace

theorem isSteady_of_mem_searchBelow (htree : disk.IsTree) (hnames : parentName ∉ path.names)
    {names : Place} (hfound : names ∈ disk.searchBelow sourceEnding (disk.placeOf path))
    (directory : Path) : disk.IsSteady directory (path.below names) := by
  obtain ⟨⟨entry, hmem⟩, hending⟩ := exists_of_mem_searchBelow hfound
  constructor
  · intro hparent
    rcases List.mem_append.mp hparent with hparent | hparent
    · exact hnames hparent
    · exact htree.ownName _ hmem (List.mem_append_right _ hparent)
  · rw [placeOf_below]
    exact exists_entryAt_of_mem hmem
  · rintro ⟨name, hplace, hscript⟩
    rw [placeOf_below] at hplace
    -- What is found has the ending of a source file, and what is at a place for a script has not.
    unfold hasEnding at hending
    split at hending
    · exact absurd hending Bool.false_ne_true
    · rename_i last hlast
      have hsame : last = name := by
        have hends := congrArg List.getLast? hplace
        rw [List.getLast?_append, hlast, List.getLast?_concat] at hends
        exact Option.some.inj hends
      rw [hsame] at hending
      exact hscript (List.isSuffixOf_iff_suffix.mp hending)

theorem isSteady_of_mem_sourceFiles {place : ScriptPlace} {paths files : List Path}
    (htree : disk.IsTree) (hseparate : disk.IsSeparate place paths)
    (h : disk.sourceFiles paths = .ok files) :
    ∀ file ∈ files, disk.IsSteady place.directory file := by
  intro file hfile
  obtain ⟨path, hpath, found, hfound, hmem⟩ := exists_filesOf_of_mem_sourceFiles h hfile
  rcases mem_filesOf hfound hmem with ⟨hdirectory, rfl⟩ | ⟨start, names, hlocate, hnames, rfl⟩
  · exact isSteady_of_file hseparate hpath hdirectory
  · have hown := hseparate.ownNames path hpath
    rw [eq_placeOf_of_locate hown hlocate] at hnames
    exact isSteady_of_mem_searchBelow htree hown hnames place.directory

end Disk

end EnumExport
