import EnumExport.Generation.Session

namespace EnumExport

inductive Switch where
  | help
  | outputDirectory
  | extension
  | marker
  | dryRun
  | verbose
deriving DecidableEq, Repr

namespace Switch

def all : List Switch := [help, outputDirectory, extension, marker, dryRun, verbose]

def longName : Switch → List Char
  | help => "--help".toList
  | outputDirectory => "--output-dir".toList
  | extension => "--extension".toList
  | marker => "--attribute".toList
  | dryRun => "--dry-run".toList
  | verbose => "--verbose".toList

def takesValue : Switch → Bool
  | outputDirectory | extension | marker => true
  | help | dryRun | verbose => false

def title : Switch → List Char
  | help => "-h/--help".toList
  | switch => switch.longName

end Switch

inductive UsageError where
  | ambiguous (word : List Char) (candidates : List Switch)
  | missingValue (switch : Switch)
  | ignoredValue (switch : Switch) (value : List Char)
  | missingPaths
  | unrecognised (words : List (List Char))
deriving DecidableEq, Repr

def UsageError.message : UsageError → List Char
  | ambiguous word candidates =>
    "ambiguous option: ".toList ++ word ++ " could match ".toList ++
      ", ".toList.intercalate (candidates.map Switch.longName)
  | missingValue switch =>
    "argument ".toList ++ switch.title ++ ": expected one argument".toList
  | ignoredValue switch value =>
    "argument ".toList ++ switch.title ++ ": ignored explicit argument ".toList ++ quoted value
  | missingPaths => "the following arguments are required: paths".toList
  | unrecognised words => "unrecognized arguments: ".toList ++ " ".toList.intercalate words

inductive Word where
  | separator
  | argument (text : List Char)
  | option (switch : Switch) (value : Option (List Char))
  | helpCluster (letters : List Char)
  | unknown (text : List Char)
deriving DecidableEq, Repr

namespace Word

def separatorText : List Char := "--".toList

def shortHelp : List Char := "-h".toList

def splitValue (text : List Char) : List Char × Option (List Char) :=
  match text.dropWhile (· != '=') with
  | [] => (text, none)
  | _ :: value => (text.takeWhile (· != '='), some value)

def isUnsignedNumber (text : List Char) : Bool :=
  let digits (text : List Char) : Bool :=
    let rest := text.dropWhile isDecimalDigit
    (text.takeWhile isDecimalDigit != []) && (rest == [] || rest == ['\n'])
  digits text ||
    match text.dropWhile isDecimalDigit with
    | '.' :: rest => digits rest
    | _ => false

def ofLong (text : List Char) : Except UsageError (Option Word) :=
  let (name, value) := splitValue text
  match Switch.all.filter (·.longName == name) with
  | switch :: _ => .ok (some (.option switch value))
  | [] =>
    match Switch.all.filter fun switch => name.isPrefixOf switch.longName with
    | [] => .ok none
    | [switch] => .ok (some (.option switch value))
    | candidates => .error (.ambiguous text candidates)

def ofShort (text : List Char) : Option Word :=
  if shortHelp.isPrefixOf text then
    match text.drop shortHelp.length with
    | [] => some (.option .help none)
    | ['='] => some (.option .help (some []))
    | '=' :: letters => some (.helpCluster letters)
    | letters => some (.helpCluster letters)
  else none

def ofOther (text : List Char) : Word :=
  if isUnsignedNumber (text.drop 1) || text.contains ' ' then .argument text else .unknown text

def ofText (text : List Char) : Except UsageError Word :=
  match text with
  | '-' :: '-' :: _ => (ofLong text).map (·.getD (ofOther text))
  | '-' :: _ :: _ => .ok ((ofShort text).getD (ofOther text))
  | _ => .ok (.argument text)

def ofTexts : List (List Char) → Except UsageError (List Word)
  | [] => .ok []
  | text :: texts =>
    if text = separatorText then .ok (.separator :: texts.map .argument)
    else do return (← ofText text) :: (← ofTexts texts)

def text : Word → List Char
  | separator => separatorText
  | argument text => text
  | option switch none => switch.longName
  | option switch (some value) => switch.longName ++ '=' :: value
  | helpCluster letters => shortHelp ++ letters
  | unknown text => text

def isPositional : Word → Bool
  | separator | argument _ => true
  | option _ _ | helpCluster _ | unknown _ => false

end Word

structure Options where
  settings : Settings := { }
  emptied : List Switch := []
  verbose : Bool := false
  paths : List Path
deriving DecidableEq, Repr

def Options.settingError? (options : Options) : Option SettingError :=
  if options.emptied.contains .outputDirectory then some .noDirectory
  else if options.emptied.contains .extension then some .noExtension
  else none

end EnumExport
