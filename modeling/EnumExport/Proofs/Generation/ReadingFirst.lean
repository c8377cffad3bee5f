import EnumExport.Proofs.Generation.Containment

/-!
Reading first: a run reads each file when it comes to it, with the scripts for the files before it
already written. As long as scripts are kept apart from what is read, it might as well have read
all files before it wrote anything.
-/

namespace EnumExport

namespace Step

variable {α β : Type}

def enter (settings : Settings) (path : Path) :
    Except FileReadError (List Declaration) → Step Nat
  | .ok declarations => do
    expandAll settings declarations
    return declarations.length
  | .error error => do
    report (skipped path error)
    return 0

def enterAll (settings : Settings) :
    List (Path × Except FileReadError (List Declaration)) → Step Nat
  | [] => return 0
  | (path, read) :: reads => do
    let count ← enter settings path read
    return count + (← enterAll settings reads)

def readFirst (settings : Settings) (paths : List Path) : Step Nat := do
  let disk := (← get).disk
  match disk.sourceFiles paths with
  | .error error => throw (.access error)
  | .ok files =>
    enterAll settings (files.map fun file => (file, disk.readDeclarations settings.marker file))

theorem treat_eq_enter {settings : Settings} {path : Path}
    {read : Except FileReadError (List Declaration)} {session : Session} {count : Nat}
    (h : (treat settings path read).outcome session = .ok count) :
    treat settings path read = enter settings path read := by
  cases read with
  | ok declarations => rfl
  | error error =>
    cases error with
    | source error => rfl
    | encoding error => rfl
    | numeral error => cases h
    | access error =>
      cases error with
      | file error => rfl
      | nullInPath => cases h

theorem generateFile_eq_enter {settings : Settings} {path : Path} {session : Session}
    {read : Except FileReadError (List Declaration)}
    (hread : session.disk.readDeclarations settings.marker path = read) {count : Nat}
    (h : (generateFile settings path).outcome session = .ok count) :
    (enter settings path read).outcome session = .ok count ∧
      (enter settings path read).after session = (generateFile settings path).after session := by
  have hrun := generateFile_run settings path session
  rw [hread] at hrun
  have htreat : (treat settings path read).outcome session = .ok count := by
    rw [outcome, ← hrun]
    exact h
  rw [← treat_eq_enter htreat]
  exact ⟨htreat, (congrArg Prod.snd hrun).symm⟩

theorem generateFiles_eq_enterAll {settings : Settings} {initial : Disk} {files : List Path}
    (hplace : settings.place.IsApart) (htree : initial.IsTree)
    (hsteady : ∀ file ∈ files, initial.IsSteady settings.place.directory file) {session : Session}
    (hgrows : Disk.Grows (initial.IsScriptPlace settings.place.directory) initial session.disk)
    {count : Nat} (h : (generateFiles settings files).outcome session = .ok count) :
    let reads := files.map fun file => (file, initial.readDeclarations settings.marker file)
    (enterAll settings reads).outcome session = .ok count ∧
      (enterAll settings reads).after session = (generateFiles settings files).after session := by
  -- On the files still to be read, with the scripts for those before written on the disk.
  induction files generalizing session count with
  | nil => exact ⟨h, rfl⟩
  | cons file files ih =>
    obtain ⟨hfile, hfiles⟩ := List.forall_mem_cons.mp hsteady
    rw [generateFiles] at h
    obtain ⟨one, hone, h⟩ := exists_of_outcome_bind h
    obtain ⟨more, hmore, h⟩ := exists_of_outcome_bind h
    obtain rfl : one + more = count := Except.ok.inj h
    obtain ⟨henter, hafter⟩ :=
      generateFile_eq_enter (hfile.readDeclarations_eq htree hgrows settings.marker) hone
    have hstep := grows_generateFile hplace file session
    rw [Disk.isScriptPlace_congr hgrows.home] at hstep
    obtain ⟨hrest, hend⟩ := ih hfiles (hgrows.trans hstep) hmore
    rw [← hafter] at hrest hend hmore
    constructor
    · rw [List.map_cons, enterAll, outcome_bind henter, outcome_bind hrest]
      rfl
    · rw [List.map_cons, enterAll, after_bind henter, after_bind hrest, generateFiles,
        after_bind hone, ← hafter, after_bind hmore, hend]

theorem readFirst_eq_enterAll {settings : Settings} {paths files : List Path} {session : Session}
    (hfiles : session.disk.sourceFiles paths = .ok files) :
    (readFirst settings paths).run.run session = (enterAll settings (files.map fun file =>
      (file, session.disk.readDeclarations settings.marker file))).run.run session := by
  have hget : (readFirst settings paths).run.run session = ((do
      match session.disk.sourceFiles paths with
      | .error error => throw (.access error)
      | .ok files => enterAll settings (files.map fun file =>
          (file, session.disk.readDeclarations settings.marker file)) : Step Nat)).run.run
        session := rfl
  rw [hget, hfiles]

/-- A run that comes to its end, and whose scripts are kept apart from what it reads, ends as if all
files had been read before anything was written. -/
theorem generatePaths_eq_readFirst {settings : Settings} {paths : List Path} {session : Session}
    (htree : session.disk.IsTree) (hseparate : session.disk.IsSeparate settings.place paths)
    {count : Nat} (h : (generatePaths settings paths).outcome session = .ok count) :
    (readFirst settings paths).outcome session = .ok count ∧
      (readFirst settings paths).after session = (generatePaths settings paths).after session := by
  cases hfiles : session.disk.sourceFiles paths with
  | error error =>
    rw [outcome, generatePaths_run, hfiles] at h
    simp at h
  | ok files =>
    obtain ⟨houtcome, hafter⟩ := @generatePaths_eq_generateFiles settings _ _ _ hfiles
    rw [houtcome] at h
    have hsteady := Disk.isSteady_of_mem_sourceFiles htree hseparate hfiles
    have hall := generateFiles_eq_enterAll hseparate.isApart htree hsteady (.refl session.disk) h
    rw [outcome, after, readFirst_eq_enterAll hfiles, hafter]
    exact hall

theorem generatePaths_eq_readFirst_within :
    let settings : Settings := { place := { directory := Path.ofText "in/out".toList } }
    let disk : Disk := { entries := [(["in".toList], .directory),
      (["in".toList, "a.swift".toList],
        .file (Utf8.encode "@GodotEnum enum A: Int \x7b case a \x7d".toList)),
      (["in".toList, "out".toList], .directory),
      (["in".toList, "out".toList, "b.swift".toList],
        .file (Utf8.encode "@GodotEnum enum B: Int \x7b case b".toList)),
      (["c.swift".toList], .file [0xFF])] }
    let session : Session := { disk := disk }
    let paths := [Path.ofText "in".toList, Path.ofText "c.swift".toList]
    (readFirst settings paths).outcome session = .ok 1 ∧
      (readFirst settings paths).after session = (generatePaths settings paths).after session := by
  intro settings disk session paths
  have htree : session.disk.IsTree := ⟨by decide, by decide⟩
  have hapart : settings.place.IsApart := ⟨by decide, by decide, by decide⟩
  have hshort : ∀ path ∈ paths, (session.disk.placeOf path).length <
      (session.disk.placeOf settings.place.directory).length := by decide
  have houtside : ∀ path ∈ paths, ∀ names ≠ [],
      session.disk.placeOf path ≠ session.disk.placeOf settings.place.directory ++ names := by
    intro path hpath names _ hplace
    have hlength := hshort path hpath
    rw [hplace, List.length_append] at hlength
    omega
  have hseparate : session.disk.IsSeparate settings.place paths :=
    ⟨hapart, by decide +kernel, by decide, fun path hpath _ _ => houtside path hpath⟩
  have hfound : session.disk.searchBelow sourceEnding ["in".toList] =
      [["a.swift".toList], ["out".toList, "b.swift".toList]] :=
    List.mergeSort_of_pairwise (by decide)
  have hdirectory : session.disk.filesOf (Path.ofText "in".toList) =
      .ok (["in/a.swift", "in/out/b.swift"].map (Path.ofText ·.toList)) := by
    have hplace : session.disk.locate (Path.ofText "in".toList) = .ok ["in".toList] := by
      decide +kernel
    rw [Disk.filesOf_of_lookBelow (by decide +kernel) hplace (by decide +kernel), hfound]
    rfl
  have hfile : session.disk.filesOf (Path.ofText "c.swift".toList) =
      .ok [Path.ofText "c.swift".toList] := by decide +kernel
  have hfiles : session.disk.sourceFiles paths =
      .ok (["in/a.swift", "in/out/b.swift", "c.swift"].map (Path.ofText ·.toList)) := by
    rw [Disk.sourceFiles, mapM_eq_ok_iff.mpr (.cons hdirectory (.cons hfile .nil))]
    rfl
  have houtcome : (generatePaths settings paths).outcome session = .ok 1 := by
    rw [(generatePaths_eq_generateFiles hfiles).1]
    decide +kernel
  exact generatePaths_eq_readFirst htree hseparate houtcome

end Step

end EnumExport
