import EnumExport.Proofs.Generation.Plans
import EnumExport.Proofs.Generation.Turns

namespace EnumExport

def DeclaresEnum (declarations : List Declaration) (name : List Char) : Prop :=
  ∃ declaration ∈ declarations, declaration.kind = .enum ∧ declaration.name = name

theorem declaresEnum_of_asEnum? {declarations : List Declaration} {declaration : Declaration}
    (hmem : declaration ∈ declarations) {enum : EnumDeclaration}
    (h : declaration.asEnum? = some enum) : DeclaresEnum declarations enum.name := by
  refine ⟨declaration, hmem, ?_⟩
  unfold Declaration.asEnum? at h
  split at h
  · rename_i hkind
    obtain rfl := Option.some.inj h
    exact ⟨hkind, rfl⟩
  · simp at h

def ScriptPlace.IsOutput (place : ScriptPlace) (declared : List Char → Prop) (disk : Disk)
    (output : Place) : Prop :=
  ∃ name, declared name ∧ IsSpelled isDotted name ∧
    output = disk.destination place.directory ++ [name ++ place.dottedExtension]

theorem ScriptPlace.isOutput_congr {disk other : Disk} (hhome : other.home = disk.home)
    (place : ScriptPlace) (declared : List Char → Prop) :
    place.IsOutput declared other = place.IsOutput declared disk := by
  unfold IsOutput
  simp only [Disk.destination_congr hhome]

namespace Step

variable {settings : Settings} {declared : List Char → Prop} {before middle after : Session}

def IsContained (settings : Settings) (declared : List Char → Prop) (before after : Session) :
    Prop :=
  Disk.Alters (before.disk.IsOnWay settings.place.directory)
    (settings.place.IsOutput declared before.disk) before.disk after.disk

theorem isContained_of_disk_eq (h : after.disk = before.disk) :
    IsContained settings declared before after := by
  rw [IsContained, h]
  exact .refl before.disk

theorem IsContained.trans (hfirst : IsContained settings declared before middle)
    (hlast : IsContained settings declared middle after) :
    IsContained settings declared before after := by
  unfold IsContained at hlast
  rw [Disk.isOnWay_congr hfirst.home, ScriptPlace.isOutput_congr hfirst.home] at hlast
  exact Disk.Alters.trans hfirst hlast

theorem isContained_bind {α β : Type} {step : Step α} {next : α → Step β} {session : Session}
    (hstep : IsContained settings declared session (step.after session))
    (hnext : ∀ value, step.outcome session = .ok value →
      IsContained settings declared (step.after session)
        ((next value).after (step.after session))) :
    IsContained settings declared session ((step >>= next).after session) := by
  cases houtcome : step.outcome session with
  | error error => rwa [after_bind_error houtcome]
  | ok value =>
    rw [after_bind houtcome]
    exact hstep.trans (hnext value houtcome)

section

variable (hextension : '/' ∉ settings.place.extension)

include hextension

theorem isContained_follow {plan : Plan}
    (hown : ∀ effect, .ok effect ∈ plan → effect.IsOwn settings.place)
    (hdeclared : ∀ name file, .ok (.script name file) ∈ plan → declared name)
    (session : Session) :
    IsContained settings declared session ((follow settings plan).after session) := by
  apply alters_follow _ _ (.refl session.disk)
  · intro name file hmem place hplace
    obtain ⟨hname, hpath⟩ := hown _ hmem
    rwa [hpath, ScriptPlace.pathOf_eq hextension hname, Disk.parent_below] at hplace
  · intro name file hmem
    obtain ⟨hname, hpath⟩ := hown _ hmem
    rw [hpath, ScriptPlace.pathOf_eq hextension hname,
      Disk.destination_below (ScriptPlace.append_ne_parentName hname _)]
    exact ⟨name, hdeclared name file hmem, hname, rfl⟩

theorem isContained_expandAll {declarations : List Declaration}
    (hspelled : ∀ d ∈ declarations, IsSpelled isDotted d.name)
    (hdeclared : ∀ name, DeclaresEnum declarations name → declared name) (session : Session) :
    IsContained settings declared session ((expandAll settings declarations).after session) := by
  rw [expandAll_eq_follow]
  apply isContained_follow hextension
  · intro effect hmem
    obtain ⟨declaration, hdeclaration, hplanned⟩ := List.mem_map.mp hmem
    exact isOwn_planned (isSpelled_asEnum? (hspelled declaration hdeclaration)) hplanned
  · intro name file hmem
    obtain ⟨declaration, hdeclaration, hplanned⟩ := List.mem_map.mp hmem
    apply hdeclared
    obtain ⟨enum, henum, hplanned⟩ := exists_enum_of_planned hplanned
    rw [name_of_planned hplanned]
    exact declaresEnum_of_asEnum? hdeclaration henum

theorem isContained_generateSource {file : Option (List Char)} {source : List Char}
    (hdeclared : ∀ declarations, readSource settings.marker file source = .ok declarations →
      ∀ name, DeclaresEnum declarations name → declared name) (session : Session) :
    IsContained settings declared session
      ((generateSource settings file source).after session) := by
  rw [generateSource]
  split
  · exact isContained_of_disk_eq rfl
  · exact isContained_of_disk_eq rfl
  · rename_i declarations hread
    apply isContained_bind
    · exact isContained_expandAll hextension (isSpelled_of_readSource hread)
        (hdeclared declarations hread) session
    · exact fun _ _ => isContained_of_disk_eq rfl

theorem isContained_generateFile {path : Path} {session : Session}
    (hdeclared : ∀ declarations,
      session.disk.readDeclarations settings.marker path = .ok declarations →
        ∀ name, DeclaresEnum declarations name → declared name) :
    IsContained settings declared session ((generateFile settings path).after session) := by
  rw [after, generateFile_eq_follow rfl]
  apply isContained_follow hextension
  · intro effect hmem
    exact isOwn_readPlan (fun _ hread => Disk.isSpelled_of_readDeclarations hread) hmem
  · intro name file hmem
    obtain ⟨declarations, hread, declaration, hdeclaration, enum, henum, hplanned⟩ :=
      exists_enum_of_readPlan hmem
    rw [name_of_planned hplanned]
    exact hdeclared declarations hread _ (declaresEnum_of_asEnum? hdeclaration henum)

theorem isContained_generateFiles {files : List Path} {session : Session}
    (hdeclared : ∀ path declarations,
      ReadInTurn settings files session path (.ok declarations) →
        ∀ name, DeclaresEnum declarations name → declared name) :
    IsContained settings declared session ((generateFiles settings files).after session) := by
  induction files generalizing session with
  | nil => exact isContained_of_disk_eq rfl
  | cons path files ih =>
    rw [generateFiles]
    apply isContained_bind
    · apply isContained_generateFile hextension
      intro declarations hread
      apply hdeclared path
      rw [← hread]
      exact readInTurn_head settings files session path
    · intro count houtcome
      apply isContained_bind
      · apply ih
        intro other declarations hread
        exact hdeclared other declarations (hread.cons houtcome)
      · exact fun _ _ => isContained_of_disk_eq rfl

theorem isContained_generatePaths {paths : List Path} {session : Session}
    (hdeclared : ∀ files path declarations, session.disk.sourceFiles paths = .ok files →
      ReadInTurn settings files session path (.ok declarations) →
        ∀ name, DeclaresEnum declarations name → declared name) :
    IsContained settings declared session ((generatePaths settings paths).after session) := by
  rw [after, generatePaths_run]
  cases hfiles : session.disk.sourceFiles paths with
  | error error => exact isContained_of_disk_eq rfl
  | ok files =>
    apply isContained_generateFiles hextension
    exact fun path declarations => hdeclared files path declarations hfiles

end

theorem grows_generateFile (hplace : settings.place.IsApart) (path : Path) (session : Session) :
    Disk.Grows (session.disk.IsScriptPlace settings.place.directory) session.disk
      ((generateFile settings path).after session).disk := by
  have hcontained : IsContained settings (fun _ => True) session
      ((generateFile settings path).after session) :=
    isContained_generateFile hplace.extension fun _ _ _ _ => trivial
  apply (hcontained.mono (fun _ => id) _).grows
  rintro output ⟨name, -, -, rfl⟩
  rw [Disk.destination_eq_placeOf hplace.directory]
  exact ⟨_, rfl, hplace.not_isSuffix name⟩

/-- Whatever is read, from a text or from files, and wherever that is interrupted: places that are
no longer as they were are directories on the way to the scripts, where there was nothing, and
scripts of the enums declared in what was read. -/
theorem generation_contained (hextension : '/' ∉ settings.place.extension) (session : Session) :
    (∀ file source,
      IsContained settings
        (fun name => ∃ declarations, readSource settings.marker file source = .ok declarations ∧
          DeclaresEnum declarations name)
        session ((generateSource settings file source).after session)) ∧
    ∀ paths,
      IsContained settings
        (fun name => ∃ files path declarations, session.disk.sourceFiles paths = .ok files ∧
          ReadInTurn settings files session path (.ok declarations) ∧
          DeclaresEnum declarations name)
        session ((generatePaths settings paths).after session) := by
  constructor
  · intro file source
    apply isContained_generateSource hextension
    exact fun declarations hread name hname => ⟨declarations, hread, hname⟩
  · intro paths
    apply isContained_generatePaths hextension
    exact fun files path declarations hfiles hread name hname =>
      ⟨files, path, declarations, hfiles, hread, hname⟩

theorem generation_contained_parent :
    let settings : Settings := { place := { directory := Path.ofText "a/../b/c".toList } }
    let session : Session := { disk := { entries := [(["d".toList], .file [])] } }
    let source := "@GodotEnum struct D \x7b\x7d @GodotEnum enum E.F: Int \x7b case a \x7d".toList
    let after := (generateSource settings none source).after session
    '/' ∉ settings.place.extension ∧
      IsContained settings
        (fun name => ∃ declarations, readSource settings.marker none source = .ok declarations ∧
          DeclaresEnum declarations name) session after ∧
      after.disk.entries.map Prod.fst = [["d".toList], ["a".toList], ["b".toList],
        ["b".toList, "c".toList], ["b".toList, "c".toList, "E.F.gd".toList]] := by
  intro settings session source after
  have hextension : '/' ∉ settings.place.extension := by decide
  exact ⟨hextension, (generation_contained hextension session).1 none source, by decide +kernel⟩

end Step

end EnumExport
