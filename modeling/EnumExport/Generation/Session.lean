import EnumExport.Disk.Change
import EnumExport.Disk.Search
import EnumExport.Report.Diagnostic
import EnumExport.Script.ScriptFile

/-!
Generation sessions: the settings of a generator, what it has done so far, and its steps. A step
that is interrupted leaves behind what it had done until then.
-/

namespace EnumExport

structure Settings where
  place : ScriptPlace := { }
  marker : List Char := "GodotEnum".toList
  dryRun : Bool := false
deriving DecidableEq, Repr

structure Session where
  disk : Disk
  report : Report := { }
  generated : Keyed (List Char) ScriptFile := []
  written : List Path := []
deriving DecidableEq, Repr

inductive SettingError where
  | noDirectory
  | noExtension
deriving DecidableEq, Repr

def SettingError.message : SettingError → List Char
  | noDirectory => "expected str, bytes or os.PathLike object, not list".toList
  | noExtension => "'list' object has no attribute 'lstrip'".toList

inductive Interruption where
  | source (error : SourceError)
  | numeral (error : NumeralError)
  | access (error : AccessError)
  | markup (error : MarkupError)
  | setting (error : SettingError)
deriving DecidableEq, Repr

def Interruption.message : Interruption → List Char
  | source error => error.problem.text
  | numeral error => error.message
  | access error => error.message
  | markup error => error.message
  | setting error => error.message

abbrev Step := ExceptT Interruption (StateM Session)

namespace Step

def report (d : Diagnostic) : Step Unit := do
  let session ← get
  let (outcome, report) := session.report.add d
  set { session with report := report }
  match outcome with
  | .ok () => return ()
  | .error error => throw (.markup error)

def write (file : ScriptFile) : Step Bool := do
  let session ← get
  let (outcome, disk) := session.disk.store file.path (Utf8.encode file.contents)
  set { session with disk := disk }
  match outcome with
  | .ok () => return true
  | .error (.file error) =>
    report ⟨.warning, "Error writing file: ".toList ++ error.message, some file.path.text, none⟩
    return false
  | .error error => throw (.access error)

end Step

end EnumExport
