import EnumExport.CommandLine.Usage
import EnumExport.Console.Rule
import EnumExport.Console.Table
import EnumExport.Generation.SourceFiles

namespace EnumExport

structure CommandOutcome where
  status : Except Interruption Nat
  output : List Char
  errors : List Char
  disk : Disk

structure Screen where
  session : Session
  output : List Char := []

abbrev CommandStep := ExceptT Interruption (StateM Screen)

namespace CommandStep

def generate {α : Type} (step : Step α) : CommandStep α := do
  let screen ← get
  let (outcome, session) := step.run.run screen.session
  set { screen with session := session }
  match outcome with
  | .ok value => return value
  | .error interruption => throw interruption

def print (text : List Char) : CommandStep Unit :=
  modify fun screen => { screen with output := screen.output ++ text }

def printMarkup (markup : List Char) : CommandStep Unit :=
  match Markup.shown markup with
  | .ok text => print (expandTabs text ++ ['\n'])
  | .error error => throw (.markup error)

def ofMarkup (markup : List Char) : CommandStep StyledText :=
  match Markup.render markup with
  | .ok text => return text
  | .error error => throw (.markup error)

def printScript (file : ScriptFile) : CommandStep Unit := do
  print (ruleLine (← ofMarkup file.path.text) ++ ['\n'])
  print (expandTabs (Markup.dropDevices (Emoji.replace file.contents)) ++ ['\n'])

def printDryRun : CommandStep Unit := do
  (← get).session.generated.forM fun (_, file) => printScript file
  printMarkup "🔍 Dry run complete - no files written".toList

def summaryRow (written : List Path) (name : List Char) (file : ScriptFile) :
    CommandStep (List StyledText) := do
  return [← ofMarkup name, ← ofMarkup file.path.text,
    ⟨if file.path ∈ written then "yes".toList else "no".toList, []⟩]

def printSummary : CommandStep Unit := do
  let session := (← get).session
  let rows ← session.generated.mapM fun (name, file) => summaryRow session.written name file
  let table : Table :=
    ⟨"Generated Enums".toList, ["Enum".toList, "Output".toList, "Written".toList], rows⟩
  table.lines.forM fun line => print (line ++ ['\n'])

def generateAll (options : Options) : CommandStep Nat := do
  if options.verbose then
    printMarkup ("🔍 Scanning ".toList ++ natText options.paths.length ++ " path(s) for @".toList ++
      options.settings.marker)
  let count ← generate (Step.generatePaths options.settings options.paths)
  if options.verbose then
    printMarkup ("Found ".toList ++ natText count ++ " attributed declaration(s)".toList)
  if options.settings.dryRun then printDryRun
  else if options.verbose then printSummary
  return if (← get).session.report.hasErrors then 1 else 0

def missingPaths (disk : Disk) (paths : List Path) : Except AccessError (List Path) :=
  paths.filterMapM fun path =>
    (disk.pathExists path).map fun there => if there then none else some path

def reportMissing (path : Path) : CommandStep Unit :=
  generate (Step.report ⟨.error, "No such file or directory: ".toList ++ path.text, none, none⟩)

def runOptions (options : Options) : CommandStep Nat := do
  match missingPaths (← get).session.disk options.paths with
  | .error error => throw (.access error)
  | .ok [] =>
    match options.settingError? with
    | some error => throw (.setting error)
    | none => generateAll options
  | .ok missing =>
    missing.forM reportMissing
    return 1

end CommandStep

def runCommand (disk : Disk) (arguments : List (List Char)) : CommandOutcome :=
  match parseCommandLine arguments with
  | .error error => ⟨.ok 2, [], usageErrorText error, disk⟩
  | .ok .help => ⟨.ok 0, helpText, [], disk⟩
  | .ok (.run options) =>
    let (status, screen) := (CommandStep.runOptions options).run.run ⟨⟨disk, { }, [], []⟩, []⟩
    ⟨status, screen.output, screen.session.report.console, screen.session.disk⟩

end EnumExport
