import EnumExport.Text.Blank

namespace EnumExport

def splitWhere (separates : Char → Bool) : List Char → List (List Char)
  | [] => [[]]
  | c :: text =>
    if separates c then [] :: splitWhere separates text
    else match splitWhere separates text with
      | [] => [[c]]
      | part :: parts => (c :: part) :: parts

theorem length_splitWhere (separates : Char → Bool) (text : List Char) :
    (splitWhere separates text).length = text.countP separates + 1 := by
  induction text with
  | nil => rfl
  | cons c text ih =>
    by_cases h : separates c = true
    · simp [splitWhere, h, ih]
    · unfold splitWhere
      rw [if_neg h, List.countP_cons_of_neg h, ← ih]
      split
      · simp_all
      · simp_all

def words (text : List Char) : List (List Char) := (splitWhere isBlank text).filter (· != [])

end EnumExport
