import EnumExport.Proofs.Generation.Steps
import EnumExport.Proofs.Reading.Spelling

namespace EnumExport

def Declaration.IsPrintable (declaration : Declaration) : Prop :=
  ∀ enum ∈ declaration.asEnum?, ∀ c ∈ resolve 0 enum.cases, c.IsPrintable

inductive Through {α : Type} (effect : α → Session → Session → Prop) :
    List α → Session → Session → Prop
  | nil {session : Session} : Through effect [] session session
  | cons {item : α} {items : List α} {before middle after : Session} :
      effect item before middle → Through effect items middle after →
      Through effect (item :: items) before after

namespace Step

def misplaced (settings : Settings) (declaration : Declaration) : Diagnostic :=
  ⟨.error, .misplaced settings.marker declaration.file declaration.line⟩

inductive Expands (settings : Settings) (declaration : Declaration) (before after : Session) : Prop
  | script {enum : EnumDeclaration} : declaration.asEnum? = some enum →
      Generates settings enum.name
        (settings.place.script enum.name (resolve 0 enum.cases)) before after →
      Expands settings declaration before after
  | misplaced : declaration.asEnum? = none →
      Records (misplaced settings declaration) before after →
      Expands settings declaration before after

theorem name_of_asEnum? {declaration : Declaration} {enum : EnumDeclaration}
    (h : declaration.asEnum? = some enum) : enum.name = declaration.name := by
  unfold Declaration.asEnum? at h
  split at h
  · obtain rfl := Option.some.inj h
    rfl
  · simp at h

theorem expand_spec {settings : Settings} (session : Session) {declaration : Declaration}
    (hnull : Disk.hasNull (settings.place.pathOf declaration.name) = false)
    (hprintable : declaration.IsPrintable) :
    (expand settings declaration).outcome session = .ok () ∧
      Expands settings declaration session ((expand settings declaration).after session) := by
  cases henum : declaration.asEnum? with
  | none =>
    have hexpand : expand settings declaration = report (misplaced settings declaration) := by
      rw [expand, henum]
      rfl
    obtain ⟨houtcome, hrecords⟩ :=
      report_spec session (d := misplaced settings declaration) trivial
    rw [hexpand]
    exact ⟨houtcome, .misplaced henum hrecords⟩
  | some enum =>
    have hexpand : expand settings declaration =
        (generateEnum settings enum >>= fun _ => return ()) := by
      rw [expand, henum]
    have hfile := settings.place.scriptFile_of_isPrintable enum.name (hprintable enum henum)
    rw [← name_of_asEnum? henum] at hnull
    obtain ⟨houtcome, hgenerates⟩ := generateEnum_spec session hnull hfile
    rw [hexpand, outcome_bind houtcome, after_bind houtcome]
    exact ⟨rfl, .script henum hgenerates⟩

theorem expand_error {settings : Settings} (session : Session) {declaration : Declaration}
    (hprintable : ¬ declaration.IsPrintable) :
    (expand settings declaration).outcome session = .error (.numeral .unprintable) ∧
      (expand settings declaration).after session = session := by
  unfold Declaration.IsPrintable at hprintable
  push Not at hprintable
  obtain ⟨enum, henum, hlong⟩ := hprintable
  have hexpand : expand settings declaration =
      (generateEnum settings enum >>= fun _ => return ()) := by
    rw [expand, Option.mem_def.mp henum]
  obtain ⟨houtcome, hafter⟩ := generateEnum_error session
    (settings.place.scriptFile_of_not_isPrintable enum.name hlong)
  rw [hexpand, outcome_bind_error houtcome, after_bind_error houtcome]
  exact ⟨rfl, hafter⟩

theorem expandAll_spec {settings : Settings} (session : Session) {declarations : List Declaration}
    (hnull : ∀ d ∈ declarations, Disk.hasNull (settings.place.pathOf d.name) = false)
    (hprintable : ∀ d ∈ declarations, d.IsPrintable) :
    (expandAll settings declarations).outcome session = .ok () ∧
      Through (Expands settings) declarations session
        ((expandAll settings declarations).after session) := by
  induction declarations generalizing session with
  | nil => exact ⟨rfl, .nil⟩
  | cons declaration declarations ih =>
    obtain ⟨houtcome, hexpands⟩ := expand_spec session (hnull _ (List.mem_cons_self ..))
      (hprintable _ (List.mem_cons_self ..))
    obtain ⟨hrest, hthrough⟩ := ih ((expand settings declaration).after session)
      (fun d hd => hnull d (List.mem_cons_of_mem _ hd))
      (fun d hd => hprintable d (List.mem_cons_of_mem _ hd))
    rw [expandAll, outcome_bind houtcome, after_bind houtcome]
    exact ⟨hrest, .cons hexpands hthrough⟩

theorem expandAll_error {settings : Settings} (session : Session)
    {declarations : List Declaration}
    (hnull : ∀ d ∈ declarations, Disk.hasNull (settings.place.pathOf d.name) = false)
    (hprintable : ∃ d ∈ declarations, ¬ d.IsPrintable) :
    (expandAll settings declarations).outcome session = .error (.numeral .unprintable) := by
  induction declarations generalizing session with
  | nil => simp at hprintable
  | cons declaration declarations ih =>
    rw [expandAll]
    by_cases hfirst : declaration.IsPrintable
    · obtain ⟨houtcome, -⟩ := expand_spec session (hnull _ (List.mem_cons_self ..)) hfirst
      obtain ⟨d, hd, hlong⟩ := hprintable
      have hd : d ∈ declarations := by
        rcases List.mem_cons.mp hd with rfl | hd
        · exact absurd hfirst hlong
        · exact hd
      rw [outcome_bind houtcome]
      exact ih _ (fun d hd => hnull d (List.mem_cons_of_mem _ hd)) ⟨d, hd, hlong⟩
    · exact outcome_bind_error (expand_error session hfirst).1 _

end Step

namespace ScriptPlace

def IsNullFree (place : ScriptPlace) : Prop :=
  Disk.hasNull place.directory = false ∧ Char.ofNat 0 ∉ place.extension

theorem mem_of_mem_slashPieces {text piece : List Char} (h : piece ∈ slashPieces text) :
    ∀ c ∈ piece, c ∈ text := by
  induction text generalizing piece with
  | nil => simp_all [slashPieces]
  | cons d text ih =>
    intro c hc
    rw [slashPieces] at h
    split at h
    · rcases List.mem_cons.mp h with rfl | h
      · simp at hc
      · exact List.mem_cons_of_mem _ (ih h c hc)
    · split at h
      · obtain rfl := List.mem_singleton.mp h
        exact List.mem_cons.mpr (Or.inl (List.mem_singleton.mp hc))
      · rename_i first pieces hp
        rcases List.mem_cons.mp h with rfl | h
        · rcases List.mem_cons.mp hc with rfl | hc
          · exact List.mem_cons_self ..
          · exact List.mem_cons_of_mem _ (ih (by simp [hp]) c hc)
        · exact List.mem_cons_of_mem _ (ih (by simp [hp, h]) c hc)

theorem hasNull_pathOf {place : ScriptPlace} (hplace : place.IsNullFree) {name : List Char}
    (hname : Char.ofNat 0 ∉ name) : Disk.hasNull (place.pathOf name) = false := by
  obtain ⟨hdirectory, hextension⟩ := hplace
  have htext : Char.ofNat 0 ∉ name ++ place.dottedExtension := by
    intro h
    rcases List.mem_append.mp h with h | h
    · exact hname h
    · rcases List.mem_cons.mp h with h | h
      · exact absurd h (by decide)
      · exact hextension ((List.dropWhile_sublist _).subset h)
  have hfile : ∀ piece ∈ (Path.ofText (name ++ place.dottedExtension)).names,
      Char.ofNat 0 ∉ piece := by
    intro piece hpiece h
    exact htext (mem_of_mem_slashPieces (List.mem_of_mem_filter hpiece) _ h)
  rw [Disk.hasNull_eq_false_iff] at hdirectory ⊢
  rw [pathOf, Path.join]
  split
  · intro piece hpiece
    rcases List.mem_append.mp hpiece with hpiece | hpiece
    · exact hdirectory piece hpiece
    · exact hfile piece hpiece
  · exact hfile

end ScriptPlace

theorem hasNull_pathOf_of_readSource {place : ScriptPlace} (hplace : place.IsNullFree)
    {marker : List Char} {file : Option (List Char)} {source : List Char}
    {declarations : List Declaration} (h : readSource marker file source = .ok declarations) :
    ∀ d ∈ declarations, Disk.hasNull (place.pathOf d.name) = false := by
  intro d hd
  apply ScriptPlace.hasNull_pathOf hplace
  intro hnull
  have hdotted := (isSpelled_of_readSource h d hd).forall_mem isNamePart_isDotted _ hnull
  exact absurd hdotted (by decide)

end EnumExport
