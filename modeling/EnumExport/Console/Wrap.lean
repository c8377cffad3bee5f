import EnumExport.Console.StyledText
import EnumExport.Text.Parts

namespace EnumExport

def spacedWords (text : List Char) : List (List Char) :=
  let lead := text.takeWhile isBlank
  match followed (text.dropWhile isBlank) with
  | [] => []
  | word :: words => (lead ++ word) :: words
where
  followed : List Char → List (List Char)
    | [] => []
    | [c] => [[c]]
    | c :: d :: text =>
      match followed (d :: text) with
      | [] => [[c]]
      | word :: words =>
        if isBlank c && !isBlank d then [c] :: word :: words else (c :: word) :: words

namespace Wrap

def breaksFrom (width : Nat) (place column : Nat) : List (List Char) → List Nat
  | [] => []
  | word :: words =>
    let next := place + word.length
    let needed := textCells (trimEnd word)
    if column + needed ≤ width then
      breaksFrom width next (column + textCells word) words
    else if 0 < place ∧ (width < needed ∨ 0 < column) then
      place :: breaksFrom width next (textCells word) words
    else breaksFrom width next (if width < needed then textCells word else column) words

def dropEnd (width : Nat) (line : StyledText) : StyledText :=
  let blank := (line.text.reverse.takeWhile isBlank).length
  line.withText (line.text.take (line.text.length - min blank (line.text.length - width)))

def fitLine (width : Nat) (line : StyledText) : List Char :=
  let line := (dropEnd width line).shorten width
  StyledText.filled width ⟨line.text ++ spaces (width - textCells line.text), line.spans⟩

def wrapLine (width : Nat) (line : StyledText) : List (List Char) :=
  let line := line.expandTabs
  (line.divide (breaksFrom width 0 0 (spacedWords line.text))).map (fitLine width)

def lineEndsFrom (place : Nat) : List Char → List Nat
  | [] => []
  | c :: text =>
    if c = '\n' then place :: (place + 1) :: lineEndsFrom (place + 1) text
    else lineEndsFrom (place + 1) text

def sourceLines (styled : StyledText) : List StyledText :=
  (styled.divide (lineEndsFrom 0 styled.text)).filter (·.text != ['\n'])

def lines (width : Nat) (styled : StyledText) : List (List Char) :=
  (sourceLines styled).flatMap (wrapLine width)

end Wrap

end EnumExport
