import EnumExport.Source.Declaration

namespace EnumExport

structure ResolvedCase where
  name : List Char
  value : Int
deriving DecidableEq, Repr

def EnumCase.explicit? (c : EnumCase) : Option Int := c.rawValue.bind Expression.eval?

def resolve (next : Int) : List EnumCase → List ResolvedCase
  | [] => []
  | c :: cases =>
    let value := c.explicit?.getD next
    ⟨c.name, value⟩ :: resolve (value + 1) cases

@[simp] theorem map_name_resolve (next : Int) (cases : List EnumCase) :
    (resolve next cases).map ResolvedCase.name = cases.map EnumCase.name := by
  induction cases generalizing next with
  | nil => rfl
  | cons c cases ih => simp [resolve, ih]

end EnumExport
