import EnumExport.Text.Blank

/-!
Emoji codes: names between colons that a console shows as pictures. Only those whose names are
whole numbers are in the table, as a line number stands between colons. A name such as `smile` is
left as it is.
-/

namespace EnumExport

namespace Emoji

def table : List (List Char × List Char) := [
  ("100".toList, ['💯']), ("1234".toList, ['🔢']), ("-1".toList, ['👎']), ("+1".toList, ['👍'])]

def variants : List (List Char × Char) := [
  ("-emoji".toList, Char.ofNat 0xFE0F), ("-text".toList, Char.ofNat 0xFE0E)]

def picture? (code : List Char) : Option (List Char) :=
  match variants.find? fun (ending, _) => ending.isSuffixOf code with
  | some (ending, selector) =>
    (table.lookup (code.take (code.length - ending.length))).map (· ++ [selector])
  | none => table.lookup code

def isCodeChar (c : Char) : Bool := c != ':' && !isBlank c

def shown (code : List Char) : List Char := (picture? code).getD (':' :: code ++ [':'])

/-- A text with its codes replaced. A colon that closes one code cannot open the next. -/
def replace : List Char → List Char
  | [] => []
  | c :: text =>
    if c = ':' then
      match _h : text.dropWhile isCodeChar with
      | ':' :: rest => shown (text.takeWhile isCodeChar) ++ replace rest
      | _ => c :: replace text
    else c :: replace text
termination_by text => text.length
decreasing_by
  all_goals simp only [List.length_cons]
  · have := (@List.dropWhile_sublist _ text isCodeChar).length_le
    rw [_h, List.length_cons] at this
    omega
  all_goals omega

end Emoji

end EnumExport
