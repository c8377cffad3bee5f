import EnumExport.Console.Highlight

namespace EnumExport

def consoleWidth : Nat := 80

def ruleEnd (text : List Char) : StyledText := ⟨text, [⟨0, text.length, []⟩]⟩

def ruleTitle (title : StyledText) : StyledText :=
  (title.withText (title.text.map fun c => if c = '\n' then ' ' else c)).expandTabs.shorten
    (consoleWidth - 4)

def ruleLine (title : StyledText) : List Char :=
  let title := ruleTitle title.highlighted
  let size := textCells title.text
  let side := (consoleWidth - size) / 2
  let dashes (n : Nat) : List Char := List.replicate n '─'
  let right := dashes (min (side + 1) (consoleWidth - (side - 1) - size))
  let line := (ruleEnd (dashes (side - 1) ++ [' '])).append (title.append (ruleEnd (' ' :: right)))
  (line.withText (fitCells consoleWidth line.text)).cropped consoleWidth

end EnumExport
