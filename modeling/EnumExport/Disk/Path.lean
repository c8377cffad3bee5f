/-!
Paths: an anchor and the names below it. Repeated slashes and names that stand for the same
directory are dropped when a path is read; names that stand for the parent are kept, since what
they mean depends on the disk.
-/

namespace EnumExport

inductive Anchor where
  | here
  | root
  | doubleRoot
deriving DecidableEq, Repr

structure Path where
  anchor : Anchor
  names : List (List Char)
deriving DecidableEq, Repr

def Anchor.text : Anchor → List Char
  | here => []
  | root => ['/']
  | doubleRoot => ['/', '/']

def Anchor.ofText (text : List Char) : Anchor :=
  match (text.takeWhile (· == '/')).length with
  | 0 => here
  | 2 => doubleRoot
  | _ => root

def slashPieces : List Char → List (List Char)
  | [] => [[]]
  | c :: text =>
    if c = '/' then [] :: slashPieces text
    else match slashPieces text with
      | [] => [[c]]
      | piece :: pieces => (c :: piece) :: pieces

namespace Path

def isName (piece : List Char) : Bool := !piece.isEmpty && piece != ['.']

def ofText (text : List Char) : Path := ⟨Anchor.ofText text, (slashPieces text).filter isName⟩

def text (path : Path) : List Char :=
  match path.anchor, path.names with
  | .here, [] => ['.']
  | anchor, names => anchor.text ++ ['/'].intercalate names

def join (directory path : Path) : Path :=
  match path.anchor with
  | .here => ⟨directory.anchor, directory.names ++ path.names⟩
  | _ => path

def parent (path : Path) : Path := { path with names := path.names.dropLast }

def below (path : Path) (names : List (List Char)) : Path :=
  { path with names := path.names ++ names }

end Path

end EnumExport
