import EnumExport.Console.Color
import EnumExport.Keyed

namespace EnumExport

inductive Emphasis where
  | bold
  | dim
  | italic
  | underline
  | blink
  | blink2
  | reverse
  | conceal
  | strike
  | underline2
  | frame
  | encircle
  | overline
deriving DecidableEq, Repr

namespace Emphasis

def all : List Emphasis :=
  [bold, dim, italic, underline, blink, blink2, reverse, conceal, strike, underline2, frame,
    encircle, overline]

def name : Emphasis → List Char
  | bold => "bold".toList
  | dim => "dim".toList
  | italic => "italic".toList
  | underline => "underline".toList
  | blink => "blink".toList
  | blink2 => "blink2".toList
  | reverse => "reverse".toList
  | conceal => "conceal".toList
  | strike => "strike".toList
  | underline2 => "underline2".toList
  | frame => "frame".toList
  | encircle => "encircle".toList
  | overline => "overline".toList

def shortNames : List (List Char × Emphasis) := [
  ("b".toList, bold), ("d".toList, dim), ("i".toList, italic), ("u".toList, underline),
  ("r".toList, reverse), ("c".toList, conceal), ("s".toList, strike), ("uu".toList, underline2),
  ("o".toList, overline)]

def ofName? (word : List Char) : Option Emphasis :=
  (all.find? (·.name = word)).or (shortNames.lookup word)

end Emphasis

structure Style where
  emphases : Keyed Emphasis Bool := []
  color : Option (List Char) := none
  background : Option (List Char) := none
  link : Option (List Char) := none
deriving DecidableEq, Repr

namespace Style

def emphasize (style : Style) (emphasis : Emphasis) (on : Bool) : Style :=
  { style with emphases := Keyed.set emphasis on style.emphases }

def addWords (style : Style) : List (List Char) → Except StyleError Style
  | [] => .ok style
  | word :: words =>
    let keyword := lowerText word
    if keyword = "on".toList then
      match words with
      | [] => .error .unknown
      | color :: words => do addWords { style with background := some (← Color.read color) } words
    else if keyword = "not".toList then
      match words with
      | [] => .error .unknown
      | name :: words =>
        match Emphasis.ofName? name with
        | some emphasis => addWords (style.emphasize emphasis false) words
        | none => .error .unknown
    else if keyword = "link".toList then
      match words with
      | [] => .error .unknown
      | target :: words => addWords { style with link := some target } words
    else match Emphasis.ofName? keyword with
      | some emphasis => addWords (style.emphasize emphasis true) words
      | none => do addWords { style with color := some (← Color.read keyword) } words

def plainText : List Char := "none".toList

def read (definition : List Char) : Except StyleError Style :=
  if trim definition = plainText then .ok { } else addWords { } (words definition)

def emphasisWords (style : Style) (emphasis : Emphasis) : List (List Char) :=
  match Keyed.get? emphasis style.emphases with
  | some true => [emphasis.name]
  | some false => ["not".toList, emphasis.name]
  | none => []

def text (style : Style) : List Char :=
  let parts := Emphasis.all.flatMap style.emphasisWords ++ style.color.toList ++
    (style.background.toList.flatMap fun color => ["on".toList, color]) ++
    (style.link.toList.flatMap fun target => ["link".toList, target])
  if parts.isEmpty then plainText else [' '].intercalate parts

def normalName (definition : List Char) : Except NumeralError (List Char) :=
  match read definition with
  | .ok style => .ok style.text
  | .error .unknown => .ok (lowerText (trim definition))
  | .error (.numeral error) => .error error

def lookUp (definition : List Char) : Except NumeralError Unit :=
  match read definition with
  | .error (.numeral error) => .error error
  | _ => .ok ()

end Style

end EnumExport
