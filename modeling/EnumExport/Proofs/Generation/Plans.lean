import EnumExport.Proofs.Generation.Steadiness

/-!
Plans: what a run does is settled by what it reads. A plan lists what there is to do, up to what
interrupts it, and what doing it leaves behind in a session can be read off the list.
-/

namespace EnumExport

/-- What there is to do: a script is kept under a name, or a problem is reported. -/
inductive Effect where
  | script (name : List Char) (file : ScriptFile)
  | problem (problem : Problem)

namespace Effect

def script? : Effect → Option (List Char × ScriptFile)
  | script name file => some (name, file)
  | problem _ => none

def diagnostic? : Effect → Option Diagnostic
  | script _ _ => none
  | problem reported => some ⟨.error, reported⟩

def scripts (effects : List Effect) : Keyed (List Char) ScriptFile := effects.filterMap script?

def problems (effects : List Effect) : List Diagnostic := effects.filterMap diagnostic?

def files (settings : Settings) (effects : List Effect) : List ScriptFile :=
  if settings.dryRun then [] else (scripts effects).map Prod.snd

theorem files_of_dry {settings : Settings} (hdry : settings.dryRun = true)
    (effects : List Effect) : files settings effects = [] := if_pos hdry

theorem files_of_wet {settings : Settings} (hwet : settings.dryRun = false)
    (effects : List Effect) : files settings effects = (scripts effects).map Prod.snd := by
  rw [files, hwet, if_neg Bool.false_ne_true]

theorem files_nil (settings : Settings) : files settings [] = [] := by
  unfold files
  split <;> rfl

theorem files_problem (settings : Settings) (reported : Problem) :
    files settings [.problem reported] = [] := by
  unfold files
  split <;> rfl

theorem files_append (settings : Settings) (front back : List Effect) :
    files settings (front ++ back) = files settings front ++ files settings back := by
  unfold files scripts
  split <;> simp

theorem files_subset (settings : Settings) (effects : List Effect) :
    ∀ file ∈ files settings effects, ∃ name, (name, file) ∈ scripts effects := by
  intro file hfile
  unfold files at hfile
  split at hfile
  · simp at hfile
  · obtain ⟨⟨name, _⟩, hmem, rfl⟩ := List.mem_map.mp hfile
    exact ⟨name, hmem⟩

theorem mem_scripts_iff {effects : List Effect} {name : List Char} {file : ScriptFile} :
    (name, file) ∈ scripts effects ↔ script name file ∈ effects := by
  unfold scripts
  rw [List.mem_filterMap]
  constructor
  · rintro ⟨effect, hmem, heffect⟩
    cases effect with
    | problem problem => simp [script?] at heffect
    | script other held =>
      obtain ⟨rfl, rfl⟩ := Prod.mk.inj (Option.some.inj heffect)
      exact hmem
  · exact fun hmem => ⟨_, hmem, rfl⟩

def IsOwn (place : ScriptPlace) : Effect → Prop
  | script name file => IsSpelled isDotted name ∧ file.path = place.pathOf name
  | problem _ => True

end Effect

abbrev Plan := List (Except Interruption Effect)

namespace Plan

/-- What is done before the first interruption. -/
def begun : Plan → List Effect
  | .ok effect :: plan => effect :: begun plan
  | _ => []

def ending : Plan → Except Interruption Unit
  | [] => .ok ()
  | .ok _ :: plan => ending plan
  | .error error :: _ => .error error

theorem mem_of_mem_begun {plan : Plan} {effect : Effect} (h : effect ∈ plan.begun) :
    .ok effect ∈ plan := by
  induction plan with
  | nil => simp [begun] at h
  | cons item plan ih =>
    cases item with
    | error error => simp [begun] at h
    | ok first =>
      rw [begun] at h
      rcases List.mem_cons.mp h with rfl | h
      · exact List.mem_cons_self ..
      · exact List.mem_cons_of_mem _ (ih h)

theorem ending_eq_ok_iff {plan : Plan} : plan.ending = .ok () ↔ ∀ error, .error error ∉ plan := by
  induction plan with
  | nil => simp [ending]
  | cons item plan ih =>
    cases item with
    | error error =>
      simp only [ending, reduceCtorEq, false_iff, not_forall, not_not]
      exact ⟨error, List.mem_cons_self ..⟩
    | ok effect => simp [ending, ih]

theorem map_begun {plan : Plan} (h : plan.ending = .ok ()) : plan.begun.map .ok = plan := by
  induction plan with
  | nil => rfl
  | cons item plan ih =>
    cases item with
    | error error => simp [ending] at h
    | ok effect => rw [begun, List.map_cons, ih h]

theorem begun_perm {plan other : Plan} (hperm : plan.Perm other) (h : plan.ending = .ok ()) :
    other.ending = .ok () ∧ plan.begun.Perm other.begun := by
  have hother : other.ending = .ok () := by
    rw [ending_eq_ok_iff] at h ⊢
    exact fun error hmem => h error (hperm.mem_iff.mpr hmem)
  refine ⟨hother, ?_⟩
  rwa [← map_begun h, ← map_begun hother,
    List.map_perm_map_iff fun _ _ => Except.ok.inj] at hperm

end Plan

def EnumDeclaration.planned (place : ScriptPlace) (enum : EnumDeclaration) :
    Except Interruption Effect :=
  match place.scriptFile enum.name (resolve 0 enum.cases) with
  | .ok file => .ok (.script enum.name file)
  | .error error => .error (.numeral error)

def Declaration.planned (settings : Settings) (declaration : Declaration) :
    Except Interruption Effect :=
  match declaration.asEnum? with
  | some enum => enum.planned settings.place
  | none => .ok (.problem (.misplaced settings.marker declaration.file declaration.line))

def readPlan (settings : Settings) (path : Path) : Except FileReadError (List Declaration) → Plan
  | .ok declarations => declarations.map (·.planned settings)
  | .error (.access .nullInPath) => [.error (.access .nullInPath)]
  | .error (.numeral error) => [.error (.numeral error)]
  | .error error => [.ok (.problem (Step.skipped path error).problem)]

def declared : Except FileReadError (List Declaration) → Nat
  | .ok declarations => declarations.length
  | .error _ => 0

def Disk.plan (disk : Disk) (settings : Settings) (files : List Path) : Plan :=
  files.flatMap fun file => readPlan settings file (disk.readDeclarations settings.marker file)

def Disk.count (disk : Disk) (settings : Settings) (files : List Path) : Nat :=
  (files.map fun file => declared (disk.readDeclarations settings.marker file)).sum

namespace Step

def perform (settings : Settings) : Effect → Step Unit
  | .script name file => keep settings name file
  | .problem problem => report ⟨.error, problem⟩

def follow (settings : Settings) : Plan → Step Unit
  | [] => return ()
  | .ok effect :: plan => do
    perform settings effect
    follow settings plan
  | .error error :: _ => throw error

variable {settings : Settings}

theorem follow_append (front back : Plan) :
    follow settings (front ++ back) = (do follow settings front; follow settings back) := by
  induction front with
  | nil => rfl
  | cons item front ih =>
    cases item with
    | error error => rfl
    | ok effect =>
      rw [List.cons_append, follow, follow, ih]
      simp only [bind_assoc]

theorem generateEnum_eq_follow (settings : Settings) (enum : EnumDeclaration) :
    (do let _ ← generateEnum settings enum : Step Unit) =
      follow settings [enum.planned settings.place] := by
  unfold EnumDeclaration.planned
  cases hfile : settings.place.scriptFile enum.name (resolve 0 enum.cases) with
  | error error =>
    rw [generateEnum, hfile]
    rfl
  | ok file =>
    rw [generateEnum_eq hfile]
    simp only [follow, perform, bind_assoc, pure_bind]

theorem expand_eq_follow (settings : Settings) (declaration : Declaration) :
    expand settings declaration = follow settings [declaration.planned settings] := by
  rw [expand, Declaration.planned]
  cases declaration.asEnum? with
  | some enum => exact generateEnum_eq_follow settings enum
  | none => simp only [follow, perform, bind_pure_unit]

theorem expandAll_eq_follow (settings : Settings) (declarations : List Declaration) :
    expandAll settings declarations =
      follow settings (declarations.map (·.planned settings)) := by
  induction declarations with
  | nil => rfl
  | cons declaration declarations ih =>
    rw [expandAll, expand_eq_follow, ih, ← follow_append]
    rfl

theorem treat_eq_follow (settings : Settings) (path : Path)
    (read : Except FileReadError (List Declaration)) :
    treat settings path read = (do
      follow settings (readPlan settings path read)
      return declared read) := by
  unfold treat
  split
  · rw [expandAll_eq_follow]
    rfl
  · simp only [readPlan, follow, perform, bind_assoc, pure_bind]
    rfl
  · simp only [readPlan, follow, perform, bind_assoc, pure_bind]
    rfl
  · simp only [readPlan, follow, perform, bind_assoc, pure_bind]
    rfl
  · rename_i error hfile
    cases error with
    | file error => exact absurd rfl (hfile error)
    | nullInPath => rfl
  · rfl

theorem generateFile_eq_follow {path : Path} {session : Session}
    {read : Except FileReadError (List Declaration)}
    (hread : session.disk.readDeclarations settings.marker path = read) :
    (generateFile settings path).run.run session =
      (((follow settings (readPlan settings path read)).outcome session).map fun _ => declared read,
        (follow settings (readPlan settings path read)).after session) := by
  rw [generateFile_run, hread, treat_eq_follow, run_map _ fun _ => declared read]

section

variable {session : Session} {initial : Disk} {made written : Place → Prop} {files : List Path}

theorem keeps_follow {holds : Session → Prop} {plan : Plan}
    (hperform : ∀ effect, .ok effect ∈ plan → Keeps holds (perform settings effect)) :
    Keeps holds (follow settings plan) := by
  induction plan with
  | nil => exact keeps_pure ()
  | cons item plan ih =>
    cases item with
    | error error => exact fun _ h => h
    | ok effect =>
      apply (hperform effect (List.mem_cons_self ..)).bind
      exact fun _ => ih fun effect hmem => hperform effect (List.mem_cons_of_mem _ hmem)

theorem keeps_alters {effect : Effect}
    (hmade : ∀ name file, effect = .script name file →
      ∀ place, initial.IsOnWay file.path.parent place → made place)
    (hwritten : ∀ name file, effect = .script name file →
      written (initial.destination file.path)) :
    Keeps (fun session => Disk.Alters made written initial session.disk)
      (perform settings effect) := by
  intro session h
  cases effect with
  | problem problem =>
    rw [perform, report_disk]
    exact h
  | script name file =>
    rw [perform, keep_disk]
    split
    · exact h
    · have hstore :=
        Disk.alters_store session.disk file.path (Utf8.encode file.contents)
      rw [Disk.isOnWay_congr h.home, Disk.destination_congr h.home] at hstore
      refine h.trans (hstore.mono (hmade name file rfl) ?_)
      rintro place rfl
      exact hwritten name file rfl

theorem alters_follow {plan : Plan}
    (hmade : ∀ name file, .ok (.script name file) ∈ plan →
      ∀ place, initial.IsOnWay file.path.parent place → made place)
    (hwritten : ∀ name file, .ok (.script name file) ∈ plan →
      written (initial.destination file.path))
    (h : Disk.Alters made written initial session.disk) :
    Disk.Alters made written initial ((follow settings plan).after session).disk := by
  refine keeps_follow (fun effect hmem => keeps_alters ?_ ?_) session h
  · rintro name file rfl
    exact hmade name file hmem
  · rintro name file rfl
    exact hwritten name file hmem

theorem grows_follow {plan : Plan}
    (hwritten : ∀ name file, .ok (.script name file) ∈ plan →
      written (initial.destination file.path))
    (hgrows : Disk.Grows written initial session.disk) :
    Disk.Grows written initial ((follow settings plan).after session).disk := by
  have halters : Disk.Alters (fun _ => True) written session.disk
      ((follow settings plan).after session).disk := by
    refine alters_follow (fun _ _ _ _ _ => trivial) ?_ (.refl session.disk)
    intro name file hmem
    rw [Disk.destination_congr hgrows.home]
    exact hwritten name file hmem
  exact hgrows.trans halters.grows

theorem generateFiles_run
    (hsteady : ∀ file ∈ files, ∀ after, Disk.Grows written initial after →
      after.readDeclarations settings.marker file = initial.readDeclarations settings.marker file)
    (hwritten : ∀ name file, .ok (.script name file) ∈ initial.plan settings files →
      written (initial.destination file.path))
    (hgrows : Disk.Grows written initial session.disk) :
    (generateFiles settings files).run.run session = (do
      follow settings (initial.plan settings files)
      return initial.count settings files : Step Nat).run.run session := by
  -- On the files still to be read; the disk has grown by what was stored for those before.
  induction files generalizing session with
  | nil => rfl
  | cons file files ih =>
    obtain ⟨hfile, hfiles⟩ := List.forall_mem_cons.mp hsteady
    let read := initial.readDeclarations settings.marker file
    let rest := initial.plan settings files
    have hplan : initial.plan settings (file :: files) = readPlan settings file read ++ rest := rfl
    have hcount : initial.count settings (file :: files) =
        declared read + initial.count settings files := rfl
    rw [hplan] at hwritten
    have hone : (generateFile settings file).run.run session = (do
        follow settings (readPlan settings file read)
        return declared read : Step Nat).run.run session := by
      rw [generateFile_run, hfile session.disk hgrows, treat_eq_follow]
    have hmiddle : Disk.Grows written initial
        ((follow settings (readPlan settings file read)).after session).disk :=
      grows_follow (fun name file hmem => hwritten name file (List.mem_append_left _ hmem)) hgrows
    have hrest :=
      ih hfiles (fun name file hmem => hwritten name file (List.mem_append_right _ hmem)) hmiddle
    calc (generateFiles settings (file :: files)).run.run session
      _ = (do
          let count ← (do follow settings (readPlan settings file read); return declared read)
          return count + (← generateFiles settings files) : Step Nat).run.run session :=
        run_bind_congr_left hone _
      _ = (do
          follow settings (readPlan settings file read)
          return declared read + (← generateFiles settings files) : Step Nat).run.run session := by
        simp only [bind_assoc, pure_bind]
      _ = (do
          follow settings (readPlan settings file read)
          return declared read +
            (← (do follow settings rest; return initial.count settings files)) :
              Step Nat).run.run session :=
        run_bind_congr_right fun _ => run_bind_congr_left hrest _
      _ = _ := by
        rw [hplan, follow_append, hcount]
        simp only [bind_assoc, pure_bind]

theorem generateFiles_eq_follow
    (hsteady : ∀ file ∈ files, ∀ after, Disk.Grows written initial after →
      after.readDeclarations settings.marker file = initial.readDeclarations settings.marker file)
    (hwritten : ∀ name file, .ok (.script name file) ∈ initial.plan settings files →
      written (initial.destination file.path))
    (hgrows : Disk.Grows written initial session.disk) :
    (generateFiles settings files).run.run session =
      (((follow settings (initial.plan settings files)).outcome session).map
        (fun _ => initial.count settings files),
        (follow settings (initial.plan settings files)).after session) := by
  rw [generateFiles_run hsteady hwritten hgrows, run_map _ fun _ => initial.count settings files]

end

theorem name_of_planned {place : ScriptPlace} {enum : EnumDeclaration} {name : List Char}
    {file : ScriptFile} (h : enum.planned place = .ok (.script name file)) : name = enum.name := by
  unfold EnumDeclaration.planned at h
  split at h
  · exact (Effect.script.inj (Except.ok.inj h)).1.symm
  · simp at h

theorem exists_enum_of_planned {declaration : Declaration} {name : List Char} {file : ScriptFile}
    (h : declaration.planned settings = .ok (.script name file)) :
    ∃ enum, declaration.asEnum? = some enum ∧
      enum.planned settings.place = .ok (.script name file) := by
  unfold Declaration.planned at h
  split at h
  · rename_i enum henum
    exact ⟨enum, henum, h⟩
  · simp at h

theorem exists_enum_of_readPlan {path : Path} {read : Except FileReadError (List Declaration)}
    {name : List Char} {file : ScriptFile}
    (h : .ok (.script name file) ∈ readPlan settings path read) :
    ∃ declarations, read = .ok declarations ∧ ∃ declaration ∈ declarations,
      ∃ enum, declaration.asEnum? = some enum ∧
        enum.planned settings.place = .ok (.script name file) := by
  unfold readPlan at h
  split at h
  · rename_i declarations
    obtain ⟨declaration, hdeclaration, hplanned⟩ := List.mem_map.mp h
    exact ⟨declarations, rfl, declaration, hdeclaration, exists_enum_of_planned hplanned⟩
  · simp at h
  · simp at h
  · simp at h

theorem isOwn_of_planned {place : ScriptPlace} {enum : EnumDeclaration}
    (hname : IsSpelled isDotted enum.name) {effect : Effect} (h : enum.planned place = .ok effect) :
    effect.IsOwn place := by
  unfold EnumDeclaration.planned at h
  split at h
  · rename_i file hfile
    obtain rfl := Except.ok.inj h
    exact ⟨hname, ScriptPlace.path_of_scriptFile hfile⟩
  · simp at h

theorem isOwn_planned {declaration : Declaration}
    (hname : ∀ enum ∈ declaration.asEnum?, IsSpelled isDotted enum.name) {effect : Effect}
    (h : declaration.planned settings = .ok effect) : effect.IsOwn settings.place := by
  unfold Declaration.planned at h
  split at h
  · rename_i enum henum
    exact isOwn_of_planned (hname enum henum) h
  · obtain rfl := Except.ok.inj h
    trivial

theorem isSpelled_asEnum? {declaration : Declaration}
    (hname : IsSpelled isDotted declaration.name) :
    ∀ enum ∈ declaration.asEnum?, IsSpelled isDotted enum.name := by
  intro enum henum
  rwa [name_of_asEnum? henum]

theorem isOwn_readPlan {path : Path} {read : Except FileReadError (List Declaration)}
    (hnames : ∀ declarations, read = .ok declarations →
      ∀ d ∈ declarations, IsSpelled isDotted d.name) {effect : Effect}
    (h : .ok effect ∈ readPlan settings path read) : effect.IsOwn settings.place := by
  unfold readPlan at h
  split at h
  · rename_i declarations
    obtain ⟨declaration, hmem, hplanned⟩ := List.mem_map.mp h
    exact isOwn_planned (isSpelled_asEnum? (hnames declarations rfl declaration hmem)) hplanned
  · simp at h
  · simp at h
  · obtain rfl := Except.ok.inj (List.mem_singleton.mp h)
    trivial

theorem isOwn_plan {disk : Disk} {files : List Path} {effect : Effect}
    (h : .ok effect ∈ disk.plan settings files) : effect.IsOwn settings.place := by
  obtain ⟨file, -, hmem⟩ := List.mem_flatMap.mp h
  refine isOwn_readPlan ?_ hmem
  intro declarations hread
  exact Disk.isSpelled_of_readDeclarations hread

theorem hasNull_of_isOwn {place : ScriptPlace} (hplace : place.IsNullFree) {name : List Char}
    {file : ScriptFile} (h : (Effect.script name file).IsOwn place) :
    Disk.hasNull file.path = false := by
  obtain ⟨hname, hpath⟩ := h
  rw [hpath]
  apply ScriptPlace.hasNull_pathOf hplace
  intro hnull
  exact absurd (hname.forall_mem isNamePart_isDotted _ hnull) (by decide)

theorem isOwn_begun (settings : Settings) (disk : Disk) (files : List Path) :
    ∀ effect ∈ (disk.plan settings files).begun, effect.IsOwn settings.place :=
  fun _ hmem => isOwn_plan (Plan.mem_of_mem_begun hmem)

theorem isIn_of_isOwn {place : ScriptPlace} (hextension : '/' ∉ place.extension)
    {name : List Char} {file : ScriptFile} (h : (Effect.script name file).IsOwn place) :
    Disk.IsIn place.directory file.path := by
  obtain ⟨hname, hpath⟩ := h
  refine ⟨name ++ place.dottedExtension, ScriptPlace.append_ne_parentName hname _, ?_⟩
  rw [hpath, ScriptPlace.pathOf_eq hextension hname]

theorem isScriptPlace_of_plan {disk : Disk} {files : List Path} (hplace : settings.place.IsApart)
    {name : List Char} {file : ScriptFile}
    (h : .ok (.script name file) ∈ disk.plan settings files) :
    disk.IsScriptPlace settings.place.directory (disk.destination file.path) := by
  obtain ⟨hname, hpath⟩ := isOwn_plan h
  rw [hpath, Disk.destination_eq_placeOf (hplace.parentName_not_mem hname)]
  exact hplace.isScriptPlace hname disk

theorem generatePaths_eq_follow {initial : Disk} {session : Session} {paths files : List Path}
    (hplace : settings.place.IsApart) (htree : initial.IsTree)
    (hsteady : ∀ file ∈ files, initial.IsSteady settings.place.directory file)
    (hgrows : Disk.Grows (initial.IsScriptPlace settings.place.directory) initial session.disk)
    (hfiles : session.disk.sourceFiles paths = .ok files) :
    (generatePaths settings paths).run.run session =
      (((follow settings (initial.plan settings files)).outcome session).map
        (fun _ => initial.count settings files),
        (follow settings (initial.plan settings files)).after session) := by
  rw [generatePaths_run, hfiles]
  apply generateFiles_eq_follow _ _ hgrows
  · intro file hfile after hafter
    exact (hsteady file hfile).readDeclarations_eq htree hafter settings.marker
  · exact fun name file => isScriptPlace_of_plan hplace

end Step

end EnumExport
