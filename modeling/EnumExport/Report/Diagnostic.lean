import EnumExport.Console.Markup
import EnumExport.Report.Problem

namespace EnumExport

inductive Severity where
  | error
  | warning
  | note
  | other (name : List Char)
deriving DecidableEq, Repr

namespace Severity

def name : Severity → List Char
  | error => "error".toList
  | warning => "warning".toList
  | note => "note".toList
  | other name => name

def ofName (name : List Char) : Severity :=
  if name = "error".toList then error
  else if name = "warning".toList then warning
  else if name = "note".toList then note
  else other name

def style : Severity → List Char
  | error => "bold red".toList
  | warning => "yellow".toList
  | note => "cyan".toList
  | other _ => []

end Severity

structure Diagnostic where
  severity : Severity
  problem : Problem
deriving DecidableEq, Repr

namespace Diagnostic

def location (d : Diagnostic) : List Char := d.problem.location

def text (d : Diagnostic) : List Char :=
  Problem.located d.location (d.severity.name ++ ": ".toList ++ d.problem.message)

def markup (d : Diagnostic) : List Char :=
  Problem.located (Markup.escape d.location)
    ('[' :: d.severity.style ++ ']' :: d.severity.name ++ "[/".toList ++ d.severity.style ++
      "]: ".toList ++ Markup.escape d.problem.message)

def consoleText (d : Diagnostic) : Except MarkupError (List Char) :=
  (Markup.shown d.markup).map fun text => expandTabs text ++ ['\n']

end Diagnostic

structure Report where
  diagnostics : List Diagnostic := []
  console : List Char := []
deriving DecidableEq, Repr

namespace Report

/-- Records a diagnostic and shows it. It is on record even if it cannot be shown. -/
def add (report : Report) (d : Diagnostic) : Except MarkupError Unit × Report :=
  let diagnostics := report.diagnostics ++ [d]
  match d.consoleText with
  | .ok text => (.ok (), ⟨diagnostics, report.console ++ text⟩)
  | .error error => (.error error, ⟨diagnostics, report.console⟩)

def withSeverity (report : Report) (severity : Severity) : List Diagnostic :=
  report.diagnostics.filter (·.severity = severity)

def hasErrors (report : Report) : Bool := !(report.withSeverity .error).isEmpty

end Report

end EnumExport
