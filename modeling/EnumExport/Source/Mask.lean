import EnumExport.Source.Lexeme

namespace EnumExport

def blankOut (text : List Char) : List Char := text.map fun c => if c = '\n' then c else ' '

def Lexeme.masked (keepStrings : Bool) : Lexeme → List Char
  | code c => [c]
  | string inner => '"' :: (if keepStrings then inner else blankOut inner) ++ ['"']
  | comment inner => blankOut ('/' :: inner)

def mask (keepStrings : Bool) (text : List Char) : List Char :=
  (lexemes text).flatMap (Lexeme.masked keepStrings)

@[simp] theorem length_blankOut (text : List Char) : (blankOut text).length = text.length := by
  simp [blankOut]

theorem Lexeme.length_masked (keepStrings : Bool) (lexeme : Lexeme) :
    (lexeme.masked keepStrings).length = lexeme.written.length := by
  cases lexeme <;> cases keepStrings <;> simp [masked, written]

theorem length_mask (keepStrings : Bool) (text : List Char) :
    (mask keepStrings text).length = text.length := by
  conv => rhs; rw [← flatMap_written_lexemes text]
  simp only [mask, List.length_flatMap]
  exact congrArg List.sum (List.map_congr_left fun lexeme _ => lexeme.length_masked keepStrings)

end EnumExport
