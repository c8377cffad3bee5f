import EnumExport.Text.Numeral
import EnumExport.Disk.Path

namespace EnumExport

inductive FileFault where
  | notFound
  | occupied
  | notDirectory
  | isDirectory
  | tooLarge
  | nameTooLong
deriving DecidableEq, Repr

namespace FileFault

def number : FileFault → Nat
  | notFound => 2
  | occupied => 17
  | notDirectory => 20
  | isDirectory => 21
  | tooLarge => 27
  | nameTooLong => 36

def text : FileFault → List Char
  | notFound => "No such file or directory".toList
  | occupied => "File exists".toList
  | notDirectory => "Not a directory".toList
  | isDirectory => "Is a directory".toList
  | tooLarge => "File too large".toList
  | nameTooLong => "File name too long".toList

end FileFault

structure FileError where
  fault : FileFault
  path : Option Path
deriving DecidableEq, Repr

def FileError.message (error : FileError) : List Char :=
  "[Errno ".toList ++ natText error.fault.number ++ "] ".toList ++ error.fault.text ++
    match error.path with
    | none => []
    | some path => ": ".toList ++ quoted path.text

inductive AccessError where
  | nullInPath
  | file (error : FileError)
deriving DecidableEq, Repr

def AccessError.message : AccessError → List Char
  | nullInPath => "embedded null byte".toList
  | file error => error.message

end EnumExport
