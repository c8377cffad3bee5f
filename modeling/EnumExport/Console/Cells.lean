import EnumExport.Console.CellWidths

namespace EnumExport

def joiner : Char := Char.ofNat 0x200D

def pictureSelector : Char := Char.ofNat 0xFE0F

def widening (shown : Option Char) : Nat := if shown.any widenedRanges.holds then 1 else 0

def textCellsAfter (shown : Option Char) : List Char → Nat
  | [] => 0
  | c :: text =>
    if c = joiner then
      match text with
      | [] => 0
      | _ :: text => textCellsAfter shown text
    else if c = pictureSelector then widening shown + textCellsAfter none text
    else
      let cells := charCells c
      cells + textCellsAfter (if cells = 0 then shown else some c) text

def textCells (text : List Char) : Nat := textCellsAfter none text

def spaces (n : Nat) : List Char := List.replicate n ' '

structure Cluster where
  text : List Char
  cells : Nat
deriving DecidableEq, Repr

namespace Cluster

def add (cluster : Cluster) (text : List Char) : Cluster :=
  { cluster with text := cluster.text ++ text }

def listAfter (cluster : Cluster) (shown : Option Char) : List Char → List Cluster
  | [] => [cluster]
  | c :: text =>
    if c = joiner then
      match text with
      | [] => [cluster.add [c]]
      | d :: text => listAfter (cluster.add [c, d]) shown text
    else if c = pictureSelector then
      listAfter ⟨cluster.text ++ [c], cluster.cells + widening shown⟩ none text
    else
      let cells := charCells c
      if cells = 0 then listAfter (cluster.add [c]) shown text
      else cluster :: listAfter ⟨[c], cells⟩ (some c) text

def list : List Char → List Cluster
  | [] => []
  | c :: text =>
    let cells := charCells c
    listAfter ⟨[c], cells⟩ (if cells = 0 then none else some c) text

def cut : Nat → List Cluster → List Char
  | _, [] => []
  | room, cluster :: clusters =>
    if room = 0 then []
    else if cluster.cells ≤ room then cluster.text ++ cut (room - cluster.cells) clusters
    else [' ']

end Cluster

def fitCells (cells : Nat) (text : List Char) : List Char :=
  let size := textCells text
  if size ≤ cells then text ++ spaces (cells - size) else Cluster.cut cells (Cluster.list text)

def shorten (cells : Nat) (text : List Char) : List Char :=
  if cells < textCells text then fitCells (cells - 1) text ++ ['…'] else text

def tabSize : Nat := 8

def tabSpaces (text : List Char) : List Char :=
  let past := textCells (text ++ [' ']) % tabSize
  ' ' :: spaces (if past = 0 then 0 else tabSize - past)

def expandTabsAfter (before : List Char) : List Char → List Char
  | [] => before.reverse
  | c :: text =>
    if c = '\t' then before.reverse ++ tabSpaces before.reverse ++ expandTabsAfter [] text
    else if c = '\n' then before.reverse ++ c :: expandTabsAfter [] text
    else expandTabsAfter (c :: before) text

def expandTabs (text : List Char) : List Char := expandTabsAfter [] text

end EnumExport
