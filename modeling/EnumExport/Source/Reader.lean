import EnumExport.Source.CaseClause
import EnumExport.Source.Header

namespace EnumExport

open Glyph

variable {α : Type}

inductive BodyFault where
  | missing
  | unbalanced
deriving DecidableEq, Repr

structure SourceError where
  fault : BodyFault
  name : List Char
  file : Option (List Char)
  line : Int
deriving DecidableEq, Repr

namespace SourceError

def message (error : SourceError) : List Char :=
  match error.fault with
  | .missing => "missing body for '".toList ++ error.name ++ "'".toList
  | .unbalanced => "unbalanced braces in '".toList ++ error.name ++ "'".toList

end SourceError

inductive ReadError where
  | source (error : SourceError)
  | numeral (error : NumeralError)
deriving DecidableEq, Repr

def spells (marker : List Char) (gs : List (Glyph α)) : Bool :=
  startsName gs && leadingWord gs == marker

def occurrences (marker : List Char) : Nat → List (Glyph α) → List (Nat × List (Glyph α))
  | _, [] => []
  | line, g :: rest =>
    if g.shown = '\n' then occurrences marker (line + 1) rest
    else if g.shown = '@' ∧ spells marker rest then
      (line, afterWord rest) :: occurrences marker line rest
    else occurrences marker line rest

def headers (marker : List Char) (gs : List (Glyph α)) : List (Nat × Header α) :=
  (occurrences marker 1 gs).filterMap fun (line, rest) => (header? rest).map (line, ·)

def body? (rest : List (Glyph α)) : Except BodyFault (List (Glyph α)) :=
  match rest.dropWhile (·.shown != '{') with
  | [] => .error .missing
  | _ :: inside =>
    match blockInside? 0 inside with
    | none => .error .unbalanced
    | some (inside, _) => .ok inside

def readElement (element : Element Char) : Except NumeralError EnumCase := do
  let rawValue ← element.rawValue.mapM fun gs => Expression.read (gs.map Glyph.source)
  return ⟨unquotedText element.name, rawValue⟩

def readDeclaration (file : Option (List Char)) (line : Nat) (header : Header Char) :
    Except ReadError Declaration :=
  match body? header.rest with
  | .error fault => .error (.source ⟨fault, text header.name, file, line⟩)
  | .ok inside =>
    match (caseElements inside).mapM readElement with
    | .error error => .error (.numeral error)
    | .ok cases => .ok ⟨header.kind, unquotedText header.name, cases, file, some (line : Int)⟩

/-- The declarations of a text that carry the marker, in text order. The first that cannot be
read decides the error. -/
def readSource (marker : List Char) (file : Option (List Char)) (source : List Char) :
    Except ReadError (List Declaration) :=
  (headers marker (glyphs source)).mapM fun (line, header) => readDeclaration file line header

end EnumExport
