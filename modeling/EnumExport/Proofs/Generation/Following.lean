import EnumExport.Proofs.Generation.Plans

namespace EnumExport

namespace Step

variable {settings : Settings} {session before after : Session} {effects : List Effect}

structure Performed (settings : Settings) (effects : List Effect) (before after : Session) :
    Prop where
  generated : after.generated = Keyed.setAll (Effect.scripts effects) before.generated
  errors : after.report.withSeverity .error =
    before.report.withSeverity .error ++ Effect.problems effects
  disk : after.disk = before.disk.storeAll (Effect.files settings effects)
  written : after.written = before.written ++
    (before.disk.storable (Effect.files settings effects)).map (·.path)
  dry : settings.dryRun = true →
    after.report.diagnostics = before.report.diagnostics ++ Effect.problems effects

theorem performed_nil (session : Session) : Performed settings [] session session := by
  constructor <;> simp [Effect.files_nil, Effect.scripts, Effect.problems, Keyed.setAll,
    Disk.storeAll, Disk.storable, Disk.openable]

theorem Records.diagnostics {d : Diagnostic} (h : Records d before after) :
    after.report.diagnostics = before.report.diagnostics ++ [d] := by
  obtain ⟨console, rfl⟩ := h
  rfl

theorem withSeverity_of_diagnostics {report other : Report} {ds : List Diagnostic}
    (h : other.diagnostics = report.diagnostics ++ ds) (severity : Severity) :
    other.withSeverity severity =
      report.withSeverity severity ++ ds.filter (·.severity = severity) := by
  rw [Report.withSeverity, Report.withSeverity, h, List.filter_append]

theorem performed_problem {problem : Problem} (h : Records ⟨.error, problem⟩ before after) :
    Performed settings [.problem problem] before after := by
  have hfiles := Effect.files_problem settings problem
  have hdiagnostics := h.diagnostics
  obtain ⟨console, rfl⟩ := h
  constructor
  · rfl
  · exact withSeverity_of_diagnostics hdiagnostics .error
  · rw [hfiles]
    rfl
  · rw [hfiles]
    exact (List.append_nil _).symm
  · exact fun _ => hdiagnostics

theorem performed_script {name : List Char} {file : ScriptFile}
    (h : Generates settings name file before after) :
    Performed settings [.script name file] before after := by
  have hnone : before.report.withSeverity .error =
      before.report.withSeverity .error ++ Effect.problems [.script name file] :=
    (List.append_nil _).symm
  cases h with
  | dry hdry =>
    have hfiles := Effect.files_of_dry hdry [.script name file]
    constructor
    · rfl
    · exact hnone
    · rw [hfiles]
      rfl
    · rw [hfiles]
      exact (List.append_nil _).symm
    · exact fun _ => (List.append_nil _).symm
  | written hwet hstore hread =>
    rw [← ScriptFile.encode_contents] at hstore
    have hfiles : Effect.files settings [.script name file] = [file] :=
      Effect.files_of_wet hwet _
    constructor
    · rfl
    · exact hnone
    · rw [hfiles]
      exact (congrArg Prod.snd hstore).symm
    · rw [hfiles, Disk.storable_of_store hstore,
        if_pos (Disk.success?_eq_true_iff.mpr rfl)]
      rfl
    · simp [hwet]
  | failed hwet hstore hrecords =>
    rw [← ScriptFile.encode_contents] at hstore
    have hfiles : Effect.files settings [.script name file] = [file] :=
      Effect.files_of_wet hwet _
    have herrors := withSeverity_of_diagnostics hrecords.diagnostics .error
    obtain ⟨console, rfl⟩ := hrecords
    constructor
    · rfl
    · exact herrors
    · rw [hfiles]
      exact (congrArg Prod.snd hstore).symm
    · rw [hfiles, Disk.storable_of_store hstore, if_neg (Disk.success?_error_ne _)]
      exact (List.append_nil _).symm
    · simp [hwet]

def IsFiled (settings : Settings) (directory : Path) (effects : List Effect) : Prop :=
  ∀ file ∈ Effect.files settings effects, Disk.IsIn directory file.path

theorem isFiled_of_isOwn (hextension : '/' ∉ settings.place.extension)
    (h : ∀ effect ∈ effects, effect.IsOwn settings.place) :
    IsFiled settings settings.place.directory effects := by
  intro file hfile
  obtain ⟨name, hmem⟩ := Effect.files_subset settings effects file hfile
  exact isIn_of_isOwn hextension (h _ (Effect.mem_scripts_iff.mp hmem))

theorem isFiled_plan (hextension : '/' ∉ settings.place.extension) (disk : Disk)
    (files : List Path) :
    IsFiled settings settings.place.directory (disk.plan settings files).begun :=
  isFiled_of_isOwn hextension (isOwn_begun settings disk files)

theorem Performed.append {directory : Path} {front back : List Effect} {middle : Session}
    (hnames : Disk.parentName ∉ directory.names) (hfront : IsFiled settings directory front)
    (hback : IsFiled settings directory back) (hfirst : Performed settings front before middle)
    (hlast : Performed settings back middle after) :
    Performed settings (front ++ back) before after := by
  constructor
  · rw [hlast.generated, hfirst.generated, Effect.scripts, Effect.scripts, Effect.scripts,
      List.filterMap_append, Keyed.setAll, Keyed.setAll, Keyed.setAll, List.foldl_append]
  · rw [hlast.errors, hfirst.errors, Effect.problems, Effect.problems, Effect.problems,
      List.filterMap_append, List.append_assoc]
  · rw [hlast.disk, hfirst.disk, Effect.files_append, Disk.storeAll, Disk.storeAll, Disk.storeAll,
      List.foldl_append]
  · rw [hlast.written, hfirst.written, hfirst.disk, Disk.storable_storeAll hnames hfront hback,
      Effect.files_append, Disk.storable_append, List.map_append, List.append_assoc]
  · intro hdry
    rw [hlast.dry hdry, hfirst.dry hdry, Effect.problems, Effect.problems, Effect.problems,
      List.filterMap_append, List.append_assoc]

theorem perform_spec {effect : Effect}
    (hadmits : ∀ file ∈ Effect.files settings [effect], session.disk.stores? file.path ≠ none) :
    (perform settings effect).outcome session = .ok () ∧
      Performed settings [effect] session ((perform settings effect).after session) := by
  cases effect with
  | problem problem =>
    obtain ⟨houtcome, hrecords⟩ := report_spec session (d := ⟨.error, problem⟩) trivial
    exact ⟨houtcome, performed_problem hrecords⟩
  | script name file =>
    have hfile : Admits settings session.disk file := by
      intro hwet
      apply hadmits
      rw [Effect.files_of_wet hwet]
      exact List.mem_singleton.mpr rfl
    obtain ⟨houtcome, hgenerates⟩ := keep_spec name hfile
    exact ⟨houtcome, performed_script hgenerates⟩

theorem admits_of_perform {effect : Effect}
    (h : (perform settings effect).outcome session = .ok ()) :
    ∀ file ∈ Effect.files settings [effect], session.disk.stores? file.path ≠ none := by
  intro file hfile
  cases effect with
  | problem problem => simp [Effect.files_problem] at hfile
  | script name kept =>
    cases hrun : settings.dryRun with
    | true => simp [Effect.files_of_dry hrun] at hfile
    | false =>
      rw [Effect.files_of_wet hrun] at hfile
      obtain rfl : file = kept := List.mem_singleton.mp hfile
      exact keep_outcome_iff.mp h hrun

/-- Following a plan is to do what comes before the first interruption, and to end as the plan
does, if no path of a file to be stored is interrupted for a null character. -/
theorem follow_spec {directory : Path} (hnames : Disk.parentName ∉ directory.names) {plan : Plan}
    (hfiled : IsFiled settings directory plan.begun)
    (hadmits : ∀ file ∈ Effect.files settings plan.begun,
      session.disk.stores? file.path ≠ none) :
    (follow settings plan).outcome session = plan.ending ∧
      Performed settings plan.begun session ((follow settings plan).after session) := by
  induction plan generalizing session with
  | nil => exact ⟨rfl, performed_nil session⟩
  | cons item plan ih =>
    cases item with
    | error error => exact ⟨rfl, performed_nil session⟩
    | ok effect =>
      have hsplit : Plan.begun (.ok effect :: plan) = [effect] ++ Plan.begun plan := rfl
      rw [IsFiled, hsplit, Effect.files_append, List.forall_mem_append] at hfiled
      rw [hsplit, Effect.files_append, List.forall_mem_append] at hadmits
      obtain ⟨hfirst, hfiled⟩ := hfiled
      obtain ⟨houtcome, hperformed⟩ := perform_spec hadmits.1
      have hrest : ∀ file ∈ Effect.files settings (Plan.begun plan),
          ((perform settings effect).after session).disk.stores? file.path ≠ none := by
        intro file hfile
        rw [hperformed.disk, Disk.stores?_storeAll hnames hfirst (hfiled file hfile)]
        exact hadmits.2 file hfile
      obtain ⟨hend, hall⟩ := ih hfiled hrest
      rw [follow, outcome_bind houtcome, after_bind houtcome]
      exact ⟨hend, hperformed.append hnames hfirst hfiled hall⟩

theorem admits_of_follow {directory : Path} (hnames : Disk.parentName ∉ directory.names)
    {plan : Plan} (hfiled : IsFiled settings directory plan.begun)
    (h : (follow settings plan).outcome session = .ok ()) :
    ∀ file ∈ Effect.files settings plan.begun, session.disk.stores? file.path ≠ none := by
  induction plan generalizing session with
  | nil =>
    simp [Plan.begun, Effect.files_nil]
  | cons item plan ih =>
    cases item with
    | error error => cases h
    | ok effect =>
      have hsplit : Plan.begun (.ok effect :: plan) = [effect] ++ Plan.begun plan := rfl
      rw [IsFiled, hsplit, Effect.files_append, List.forall_mem_append] at hfiled
      rw [hsplit, Effect.files_append, List.forall_mem_append]
      obtain ⟨hfirst, hfiled⟩ := hfiled
      obtain ⟨_, houtcome, hend⟩ := exists_of_outcome_bind h
      have hadmits := admits_of_perform houtcome
      obtain ⟨-, hperformed⟩ := perform_spec hadmits
      refine ⟨hadmits, fun file hfile => ?_⟩
      have hrest := ih hfiled hend file hfile
      rwa [hperformed.disk, Disk.stores?_storeAll hnames hfirst (hfiled file hfile)] at hrest

theorem performed_of_follow {directory : Path} (hnames : Disk.parentName ∉ directory.names)
    {plan : Plan} (hfiled : IsFiled settings directory plan.begun)
    (h : (follow settings plan).outcome session = .ok ()) :
    plan.ending = .ok () ∧
      Performed settings plan.begun session ((follow settings plan).after session) := by
  obtain ⟨hend, hperformed⟩ := follow_spec hnames hfiled (admits_of_follow hnames hfiled h)
  exact ⟨hend.symm.trans h, hperformed⟩

end Step

end EnumExport
