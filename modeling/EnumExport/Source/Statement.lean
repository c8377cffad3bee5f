import EnumExport.Source.Glyph

/-!
Division of a block into statements, and of a case statement into elements. Separators inside
parentheses or brackets do not count, nor does a line end at which the statement goes on.
-/

namespace EnumExport

variable {α : Type}

def opensGroup (c : Char) : Bool := c == '(' || c == '['

def closesGroup (c : Char) : Bool := c == ')' || c == ']'

def isJoint (c : Char) : Bool := c == ',' || c == '='

def startsWithJoint (gs : List (Glyph α)) : Bool :=
  match Glyph.skipBlanks gs with
  | [] => false
  | g :: _ => isJoint g.shown

/-- Whether a statement goes on after a line end. It does if the last mark before or the first
after is a joint. The part before is given backwards. -/
def continues (before after : List (Glyph α)) : Bool :=
  startsWithJoint before || startsWithJoint after

structure Division where
  isSeparator : Char → Bool
  joinsLines : Bool

namespace Division

def separatesAt (division : Division) (before : List (Glyph α)) (g : Glyph α)
    (after : List (Glyph α)) : Bool :=
  division.isSeparator g.shown &&
    !(division.joinsLines && g.shown == '\n' && continues before after)

/-- The parts of some glyphs, when `depth` groups are open and the first part has begun with
`before`, given backwards. A group closed before it was opened counts for nothing. -/
def partsFrom (division : Division) : Nat → List (Glyph α) → List (Glyph α) → List (List (Glyph α))
  | _, before, [] => [before.reverse]
  | depth, before, g :: rest =>
    if opensGroup g.shown then division.partsFrom (depth + 1) (g :: before) rest
    else if closesGroup g.shown then division.partsFrom (depth - 1) (g :: before) rest
    else if depth = 0 ∧ division.separatesAt before g rest then
      before.reverse :: division.partsFrom 0 [] rest
    else division.partsFrom depth (g :: before) rest

def parts (division : Division) (gs : List (Glyph α)) : List (List (Glyph α)) :=
  division.partsFrom 0 [] gs

end Division

def statements (block : List (Glyph α)) : List (List (Glyph α)) :=
  Division.parts ⟨fun c => c == ';' || c == '\n', true⟩ block

def elements (statement : List (Glyph α)) : List (List (Glyph α)) :=
  Division.parts ⟨(· == ','), false⟩ statement

end EnumExport
