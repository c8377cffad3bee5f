import EnumExport.CommandLine.Command
import EnumExport.Proofs.Disk.Outline
import EnumExport.Proofs.Generation.Errors

/-!
The exit status: that of a run to its end is settled by the paths that are missing or, if none is,
by what the files are read as when the run comes to them. What is printed besides, and whether a
script could be written, has no part in it.
-/

namespace EnumExport

namespace CommandStep

variable {α β : Type} {before after : Screen}

def Ends (step : CommandStep α) (before : Screen) (value : α) (after : Screen) : Prop :=
  step.run.run before = (.ok value, after)

theorem ends_pure_iff {result value : α} :
    Ends (pure result) before value after ↔ value = result ∧ after = before := by
  change (Except.ok result, before) = (Except.ok value, after) ↔ _
  rw [Prod.mk.injEq, Except.ok.injEq]
  exact and_congr eq_comm eq_comm

theorem ends_bind_iff {step : CommandStep α} {next : α → CommandStep β} {value : β} :
    Ends (step >>= next) before value after ↔
      ∃ first middle, Ends step before first middle ∧ Ends (next first) middle value after := by
  unfold Ends ExceptT.run StateT.run
  simp only [bind, ExceptT.bind, ExceptT.mk, StateT.bind, ExceptT.bindCont]
  cases hstep : step before with
  | mk result middle =>
    cases result with
    | error error =>
      constructor
      · intro h
        cases h
      · rintro ⟨first, middle, h, -⟩
        cases h
    | ok first =>
      constructor
      · exact fun h => ⟨first, middle, rfl, h⟩
      · rintro ⟨first, middle, h, hrest⟩
        cases h
        exact hrest

def KeepsSession (step : CommandStep α) : Prop :=
  ∀ before value after, Ends step before value after → after.session = before.session

theorem keepsSession_pure (value : α) : KeepsSession (pure value) := by
  intro before _ after h
  rw [(ends_pure_iff.mp h).2]

theorem KeepsSession.bind {step : CommandStep α} {next : α → CommandStep β}
    (hstep : KeepsSession step) (hnext : ∀ value, KeepsSession (next value)) :
    KeepsSession (step >>= next) := by
  intro before value after h
  obtain ⟨first, middle, hfirst, hrest⟩ := ends_bind_iff.mp h
  exact (hnext first _ _ _ hrest).trans (hstep _ _ _ hfirst)

theorem KeepsSession.forM {step : α → CommandStep PUnit} (h : ∀ item, KeepsSession (step item))
    (items : List α) : KeepsSession (items.forM step) := by
  induction items with
  | nil => exact keepsSession_pure _
  | cons item items ih => exact (h item).bind fun _ => ih

theorem KeepsSession.mapM {step : α → CommandStep β} (h : ∀ item, KeepsSession (step item))
    (items : List α) : KeepsSession (items.mapM step) := by
  induction items with
  | nil => exact keepsSession_pure _
  | cons item items ih =>
    rw [List.mapM_cons]
    exact (h item).bind fun _ => ih.bind fun _ => keepsSession_pure _

end CommandStep

def Disk.missing (disk : Disk) (paths : List Path) : List Path :=
  paths.filter fun path => disk.pathExists path = .ok false

namespace CommandStep

def reported (disk : Disk) (report : Report) : Screen := ⟨⟨disk, report, [], []⟩, []⟩

end CommandStep

section

variable {disk : Disk} {arguments : List (List Char)} {options : Options}
  (hparse : parseCommandLine arguments = .ok (.run options))

include hparse

end

end EnumExport
