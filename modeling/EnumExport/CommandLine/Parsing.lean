import EnumExport.CommandLine.Options

namespace EnumExport

inductive Invocation where
  | help
  | run (options : Options)
deriving DecidableEq, Repr

structure PartialOptions where
  settings : Settings := { }
  emptied : List Switch := []
  verbose : Bool := false
  paths : Option (List Path) := none
  extras : List (List Char) := []

namespace PartialOptions

def setFlag (options : PartialOptions) : Switch → PartialOptions
  | .dryRun => { options with settings := { options.settings with dryRun := true } }
  | .verbose => { options with verbose := true }
  | _ => options

def emptyValue : List Char := "[]".toList

def setText (settings : Settings) (value : List Char) : Switch → Settings
  | .outputDirectory =>
    { settings with place := { settings.place with directory := Path.ofText value } }
  | .extension => { settings with place := { settings.place with extension := value } }
  | .marker => { settings with marker := value }
  | _ => settings

def setValue (options : PartialOptions) (value : List Char) (switch : Switch) : PartialOptions :=
  let emptied := options.emptied.filter (· != switch)
  if value = Word.separatorText then
    { options with
      settings := setText options.settings emptyValue switch
      emptied := switch :: emptied }
  else { options with settings := setText options.settings value switch, emptied := emptied }

def addExtras (options : PartialOptions) (texts : List (List Char)) : PartialOptions :=
  { options with extras := options.extras ++ texts }

def takeRun (options : PartialOptions) (run : List Word) : PartialOptions :=
  if options.paths.isNone && run.any (· != .separator) then
    { options with
      paths := some ((run.filter (· != .separator)).map fun word => Path.ofText word.text) }
  else options.addExtras (run.map Word.text)

def finish (options : PartialOptions) : Except UsageError Invocation :=
  match options.paths with
  | none => .error .missingPaths
  | some paths =>
    if options.extras.isEmpty then
      .ok (.run ⟨options.settings, options.emptied, options.verbose, paths⟩)
    else .error (.unrecognised options.extras)

end PartialOptions

def parseHelpCluster : List Char → Except UsageError Invocation
  | [] => .ok .help
  | c :: letters =>
    if c = 'h' then parseHelpCluster letters else .error (.ignoredValue .help (c :: letters))

def parseWords (options : PartialOptions) (words : List Word) : Except UsageError Invocation :=
  match words with
  | [] => options.finish
  | .unknown text :: rest => parseWords (options.addExtras [text]) rest
  | .helpCluster letters :: _ => parseHelpCluster letters
  | .option switch (some value) :: rest =>
    if switch.takesValue then parseWords (options.setValue value switch) rest
    else .error (.ignoredValue switch value)
  | .option switch none :: rest =>
    if switch.takesValue then
      match rest with
      | .argument value :: rest => parseWords (options.setValue value switch) rest
      | _ => .error (.missingValue switch)
    else if switch = .help then .ok .help
    else parseWords (options.setFlag switch) rest
  | word :: rest =>
    parseWords (options.takeRun (word :: rest.takeWhile Word.isPositional))
      (rest.dropWhile Word.isPositional)
termination_by words.length
decreasing_by
  all_goals simp only [List.length_cons]
  any_goals omega
  exact Nat.lt_succ_of_le (List.dropWhile_sublist Word.isPositional).length_le

def parseCommandLine (arguments : List (List Char)) : Except UsageError Invocation := do
  parseWords { } (← Word.ofTexts arguments)

end EnumExport
