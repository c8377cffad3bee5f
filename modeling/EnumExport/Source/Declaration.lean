import EnumExport.Source.Expression

namespace EnumExport

structure EnumCase where
  name : List Char
  rawValue : Option Expression
deriving DecidableEq, Repr

inductive DeclarationKind where
  | enum
  | struct
  | classType
  | actor
  | protocol
  | extension
  | other (keyword : List Char)
deriving DecidableEq, Repr

namespace DeclarationKind

def recognised : List DeclarationKind :=
  [enum, struct, classType, actor, protocol, extension]

def keyword : DeclarationKind → List Char
  | enum => "enum".toList
  | struct => "struct".toList
  | classType => "class".toList
  | actor => "actor".toList
  | protocol => "protocol".toList
  | extension => "extension".toList
  | other keyword => keyword

def ofKeyword? (word : List Char) : Option DeclarationKind :=
  recognised.find? (·.keyword == word)

def ofKeyword (word : List Char) : DeclarationKind := (ofKeyword? word).getD (other word)

theorem ofKeyword?_keyword {kind : DeclarationKind} (h : kind ∈ recognised) :
    ofKeyword? kind.keyword = some kind := by
  simp only [recognised, List.mem_cons, List.not_mem_nil, or_false] at h
  rcases h with rfl | rfl | rfl | rfl | rfl | rfl <;> decide

end DeclarationKind

structure EnumDeclaration where
  name : List Char
  cases : List EnumCase
deriving DecidableEq, Repr

structure Declaration where
  kind : DeclarationKind
  name : List Char
  cases : List EnumCase
  file : Option (List Char)
  line : Option Int
deriving DecidableEq, Repr

namespace Declaration

def asEnum? (declaration : Declaration) : Option EnumDeclaration :=
  match declaration.kind with
  | .enum => some ⟨declaration.name, declaration.cases⟩
  | _ => none

end Declaration

end EnumExport
