import EnumExport.Console.Wrap

namespace EnumExport

structure Table where
  title : List Char
  headings : List (List Char)
  rows : List (List StyledText)

namespace Table

def endsLine (c : Char) : Bool :=
  (0x0A ≤ c.toNat && c.toNat ≤ 0x0D) || (0x1C ≤ c.toNat && c.toNat ≤ 0x1E) ||
    [0x85, 0x2028, 0x2029].contains c.toNat

def entryWidth (entry : StyledText) : Nat :=
  ((splitWhere endsLine entry.text).map textCells).foldl max 0

def columnWidths (table : Table) : List Nat :=
  table.rows.foldl (fun widths row => List.zipWith max widths (row.map entryWidth))
    (table.headings.map textCells)

structure Frame where
  left : Char
  fill : Char
  between : Char
  right : Char

def top : Frame := ⟨'┏', '━', '┳', '┓'⟩
def underHeadings : Frame := ⟨'┡', '━', '╇', '┩'⟩
def bottom : Frame := ⟨'└', '─', '┴', '┘'⟩
def headingRow : Frame := ⟨'┃', ' ', '┃', '┃'⟩
def entryRow : Frame := ⟨'│', ' ', '│', '│'⟩

def framed (frame : Frame) (cells : List (List Char)) : List Char :=
  frame.left :: [frame.between].intercalate cells ++ [frame.right]

def ruled (frame : Frame) (widths : List Nat) : List Char :=
  framed frame (widths.map fun width => List.replicate (width + 2) frame.fill)

def rowLine (frame : Frame) (cells : List (List Char)) : List Char :=
  framed frame (cells.map fun cell => ' ' :: cell ++ [' '])

def rowLines (frame : Frame) (widths : List Nat) (row : List StyledText) : List (List Char) :=
  let columns := List.zipWith Wrap.lines widths row
  let height := (columns.map List.length).foldl max 0
  (List.range height).map fun n =>
    rowLine frame (List.zipWith (fun width column => (column[n]?).getD (spaces width))
      widths columns)

def titleLine (width : Nat) (title : List Char) : List Char :=
  fitCells width (spaces ((width - textCells title) / 2) ++ title)

def lines (table : Table) : List (List Char) :=
  let widths := table.columnWidths
  let width := textCells (ruled top widths)
  [titleLine width table.title, ruled top widths] ++
    rowLines headingRow widths (table.headings.map fun heading => ⟨heading, []⟩) ++
    [ruled underHeadings widths] ++ table.rows.flatMap (rowLines entryRow widths) ++
    [ruled bottom widths]

end Table

end EnumExport
