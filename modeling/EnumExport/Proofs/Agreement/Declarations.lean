import EnumExport.Proofs.Agreement.Cases
import EnumExport.Proofs.Reading.Views

namespace EnumExport

open Glyph

structure DeclarationOutline where
  kind : DeclarationKind
  name : List Char
  cases : List CaseOutline
  file : Option (List Char)
  line : Option Int
deriving DecidableEq, Repr

def Declaration.outline (declaration : Declaration) : DeclarationOutline :=
  ⟨declaration.kind, declaration.name, declaration.cases.map EnumCase.outline, declaration.file,
    declaration.line⟩

def caseOutlines (inside : List (Glyph Char)) : Except NumeralError (List CaseOutline) :=
  ((caseElements inside).mapM readElement).map (List.map EnumCase.outline)

def readOutlines (marker : List Char) (file : Option (List Char)) (source : List Char) :
    Except ReadError (List DeclarationOutline) :=
  (readSource marker file source).map (List.map Declaration.outline)

theorem caseOutlines_eq {inside inside' : List (Glyph Char)}
    (h : Agrees true true (flatten inside) (flatten inside')) :
    caseOutlines inside = caseOutlines inside' :=
  Agrees.mapM_readElement_eq h.forall₂_clauseElements

theorem map_outline_readDeclaration (file : Option (List Char)) (line : Nat)
    (header : Header Char) :
    (readDeclaration file line header).map Declaration.outline =
      match body? header.rest with
      | .error fault => .error (.source ⟨fault, text header.name, file, line⟩)
      | .ok inside => ((caseOutlines inside).mapError .numeral).map fun cases =>
          ⟨header.kind, unquotedText header.name, cases, file, some (line : Int)⟩ := by
  rw [readDeclaration]
  cases body? header.rest with
  | error fault => rfl
  | ok inside =>
    simp only [caseOutlines]
    cases (caseElements inside).mapM readElement <;> rfl

end EnumExport
