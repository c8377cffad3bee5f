import EnumExport.Console.Parameter.Reader
import EnumExport.Text.Quoted

namespace EnumExport

inductive HandlerError where
  | misspelt (parameters given : List Char) (error : Parameter.SyntaxError)
  | worthless (given : List Char) (error : Parameter.ValueError)
deriving DecidableEq, Repr

def HandlerError.message : HandlerError → List Char
  | misspelt parameters given error =>
    "error parsing ".toList ++ quoted parameters ++ " in ".toList ++ quoted given ++ "; ".toList ++
      error.message
  | worthless given error => "error parsing ".toList ++ quoted given ++ "; ".toList ++ error.message

namespace Handler

def isNamePart (c : Char) : Bool := isWord c || c == '.'

def parameters (text : List Char) : List Char :=
  match text.dropWhile isNamePart with
  | [] => "()".toList
  | '(' :: rest =>
    if rest.getLast? = some ')' ∧ !rest.contains '\n' then '(' :: rest else text
  | _ => text

def check (given : List Char) : Except HandlerError Unit :=
  if given.isEmpty then .ok ()
  else
    let parameters := parameters (trim given)
    match Parameter.read parameters with
    | .error error => .error (.misspelt parameters given error)
    | .ok reading =>
      match reading.value with
      | .error error => .error (.worthless given error)
      | .ok _ => .ok ()

end Handler

end EnumExport
