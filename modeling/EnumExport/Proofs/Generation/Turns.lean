import EnumExport.Proofs.Generation.Completion

namespace EnumExport

namespace Step

variable {settings : Settings} {session : Session} {first path : Path} {files : List Path}
  {count : Nat} {read : Except FileReadError (List Declaration)}

theorem generateFiles_cons_run (h : (generateFile settings first).outcome session = .ok count) :
    (generateFiles settings (first :: files)).run.run session =
      (((generateFiles settings files).outcome ((generateFile settings first).after session)).map
        (count + ·),
        (generateFiles settings files).after ((generateFile settings first).after session)) := by
  rw [generateFiles, run_bind, h]
  exact run_map _ (count + ·) _

def ReadInTurn (settings : Settings) (files : List Path) (session : Session) (path : Path)
    (read : Except FileReadError (List Declaration)) : Prop :=
  ∃ front back count, files = front ++ path :: back ∧
    (generateFiles settings front).outcome session = .ok count ∧
    ((generateFiles settings front).after session).disk.readDeclarations settings.marker path = read

theorem readInTurn_head (settings : Settings) (files : List Path) (session : Session)
    (path : Path) :
    ReadInTurn settings (path :: files) session path
      (session.disk.readDeclarations settings.marker path) :=
  ⟨[], files, 0, rfl, rfl, rfl⟩

theorem ReadInTurn.cons (hfirst : (generateFile settings first).outcome session = .ok count)
    (h : ReadInTurn settings files ((generateFile settings first).after session) path read) :
    ReadInTurn settings (first :: files) session path read := by
  obtain ⟨front, back, more, rfl, houtcome, hread⟩ := h
  have hrun := @generateFiles_cons_run _ _ _ front _ hfirst
  rw [houtcome] at hrun
  refine ⟨first :: front, back, count + more, rfl, congrArg Prod.fst hrun, ?_⟩
  rw [after, hrun]
  exact hread

end Step

end EnumExport
