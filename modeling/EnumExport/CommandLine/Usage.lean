import EnumExport.CommandLine.Parsing

namespace EnumExport

def commandName : List Char := "godot-enum-gen".toList

def usageText : List Char :=
  "usage: godot-enum-gen [-h] [--output-dir OUTPUT_DIR] [--extension EXTENSION]
                      [--attribute ATTRIBUTE] [--dry-run] [--verbose]
                      paths [paths ...]
".toList

def helpText : List Char := usageText ++ "
Generate GDScript enums from attributed Swift enum declarations

positional arguments:
  paths                 Swift source files or directories to scan

options:
  -h, --help            show this help message and exit
  --output-dir OUTPUT_DIR
                        Directory for generated files (default: Enums)
  --extension EXTENSION
                        Extension for generated files (default: gd)
  --attribute ATTRIBUTE
                        Attribute marking enums to generate (default:
                        GodotEnum)
  --dry-run             Print generated files instead of writing them
  --verbose             Enable verbose output with a summary table

Examples:
  godot-enum-gen Sources/                          # Write Enums/<Name>.gd for every @GodotEnum enum
  godot-enum-gen State.swift --dry-run             # Print the generated files only
  godot-enum-gen Sources/ --output-dir game/enums  # Write somewhere else
        
".toList

def usageErrorText (error : UsageError) : List Char :=
  usageText ++ commandName ++ ": error: ".toList ++ error.message ++ ['\n']

end EnumExport
