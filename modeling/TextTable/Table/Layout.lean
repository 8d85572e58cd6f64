import TextTable.Cell.Block
import TextTable.Cell.Format
import TextTable.Table.Grid
import TextTable.Text.Wrap

/-! # Layout

Columns are laid out one by one: the cells are formatted, cut or wrapped, and padded to the width of
the column. Then the cells of every row are brought to one height. A column depends on another one
only by the heights of the rows.
-/

namespace TextTable

/-- The glyph of a vertical rule. -/
def verticalRuleGlyph : Text := ['|']

/-- A column with its heading and its cells laid out. -/
structure Column where
  heading : Block
  /-- A cell for every row that is no rule. -/
  cells : List Block
  width : Nat
  align : Align
  lsep : Option Text := none
  rsep : Option Text := none
  verticalRule : Bool := false
  deriving DecidableEq, Repr

/-- A row of a laid out table. -/
inductive RowSlot where
  /-- The cells with this index in their columns. -/
  | data (index : Nat)
  | rule
  deriving DecidableEq, Repr

/-- A laid out table. -/
structure Layout where
  columns : List Column
  rows : List RowSlot
  /-- The text after each column; the last one is empty. -/
  separators : List Text
  deriving DecidableEq, Repr

namespace Column

/-- The alignment of a column whose first cell is `first`: numbers stand on the right. -/
def autoAlign (first : Option Value) : Align :=
  if first.any Value.isNumeric then .right else .left

/-- The block of a cell within the width of its column. -/
def fitCell (config : Config) (format : ColumnFormat) (b : Block) : Block :=
  match format.width with
  | none => b
  | some limit =>
    if format.wrap then { b with lines := b.text.wrap limit true }
    else b.truncateLines limit config.moreMarker

/-- The block of a heading. Only a column of fixed width cuts it. -/
def fitHeading (config : Config) (format : ColumnFormat) (b : Block) : Block :=
  match format.width with
  | none => b
  | some limit => if format.fixed then b.truncateLines limit config.moreMarker else b

/-- The width of a column with the given blocks. -/
def widthOf (format : ColumnFormat) (heading : Block) (cells : List Block) : Nat :=
  let natural := max heading.width (Grid.largest (cells.map Block.width))
  match format.width with
  | none => natural
  | some limit => if format.fixed then limit else natural

/-- The column with the given heading and texts of cells, before rows are brought to one height. -/
def ofTexts (config : Config) (format : ColumnFormat) (auto : Align) (heading : Text)
    (texts : List Text) : Column :=
  let (headingAlign, headingText) := config.splitAlign heading
  let align := format.align.getD auto
  let heading := fitHeading config format
    (.ofText headingText ((headingAlign <|> format.align).getD auto))
  let cells := texts.map fun t => fitCell config format (.ofText t align)
  let width := widthOf format heading cells
  { heading := heading.padWidth width
    cells := cells.map (Block.padWidth width)
    width
    align
    lsep := format.lsep
    rsep := format.rsep }

/-- A vertical rule beside the given number of data rows. -/
def rule (dataRows : Nat) : Column :=
  let glyph := Block.ofText verticalRuleGlyph .left
  { heading := glyph
    cells := List.replicate dataRows glyph
    width := displayWidth verticalRuleGlyph
    align := .left
    verticalRule := true }

end Column

/-- The texts of the cells of a column from top to bottom. A missing cell is empty. -/
def CellFormatter.texts (f : CellFormatter) (format : ColumnFormat) (column : Nat)
    (cells : List (Nat × Option Value)) : Except CellError (List Text) :=
  cells.mapM fun (row, slot) =>
    match slot with
    | some v => f.format format row column v
    | none => .ok []

/-- The column of a grid with the given number, before rows are brought to one height. -/
def CellFormatter.column (f : CellFormatter) (registry : Registry) (g : Grid) (i : Nat) :
    GridColumn → Except CellError Column
  | .verticalRule => .ok (.rule g.dataRows)
  | .data heading formatText => do
    let format := ColumnFormat.resolve registry (.parse f.config formatText)
    let cells := g.cellsOf i
    let texts ← f.texts format i cells
    return .ofTexts f.config format (Column.autoAlign (cells.head?.bind Prod.snd)) heading texts

namespace Block

/-- The number of blank lines above a block that has `extra` lines too few. -/
def linesAbove (valign : VAlign) (extra : Nat) : Nat :=
  match valign with
  | .top => 0
  | .centerTop => extra / 2
  | .centerBottom => extra - extra / 2
  | .bottom => extra

/-- The block with blank lines above and below to make `height` lines. -/
def padHeight (height width : Nat) (valign : VAlign) (b : Block) : Block :=
  let extra := height - b.height
  let above := linesAbove valign extra
  { b with
    lines := List.replicate above (spaces width) ++ b.lines ++
      List.replicate (extra - above) (spaces width) }

/-- The last line that is kept, with the marker at its right end. -/
def markLine (width : Nat) (marker line : Text) : Text :=
  let marker := marker.truncateToWidth width
  (line.truncateToWidth (width - displayWidth marker) ++ marker).padRight width

/-- The first `height` lines, with the marker in the last of them. -/
def cut (height width : Nat) (marker : Text) (b : Block) : Block :=
  let kept := b.lines.take height
  { b with
    lines := kept.dropLast ++ (kept.getLast?.map (markLine width marker)).toList
    truncated := true }

/-- The block brought to `height` lines. -/
def fitHeight (config : Config) (height width : Nat) (b : Block) : Block :=
  if height < b.height then b.cut height width config.moreMarker
  else b.padHeight height width config.cellVAlign

/-- The lines of a vertical rule. -/
def ruleOf (height : Nat) (b : Block) : Block :=
  { b with lines := List.replicate height verticalRuleGlyph }

end Block

namespace Layout

/-- The largest of the heights of some blocks, one if there are none. -/
def tallest (blocks : List Block) : Nat :=
  match blocks with
  | [] => 1
  | _ => Grid.largest (blocks.map Block.height)

/-- The columns that are no rules. -/
def dataColumns (columns : List Column) : List Column := columns.filter (!·.verticalRule)

/-- The height of the heading row. -/
def headingHeightOf (columns : List Column) : Nat :=
  tallest ((dataColumns columns).map Column.heading)

/-- The largest height that the configuration allows a row of the given height. -/
def capHeight (config : Config) (natural : Nat) : Nat :=
  match config.maxCellHeight with
  | some limit => min natural (max limit 1)
  | none => natural

/-- The height of the data row with the given index. -/
def rowHeight (config : Config) (columns : List Column) (index : Nat) : Nat :=
  capHeight config (tallest ((dataColumns columns).filterMap (·.cells[index]?)))

/-- The column with its heading and its cells brought to the given heights. -/
def fitColumn (config : Config) (headingHeight : Nat) (heights : List Nat) (c : Column) : Column :=
  if c.verticalRule then
    { c with
      heading := c.heading.ruleOf headingHeight
      cells := c.cells.zipWith (fun b height => b.ruleOf height) heights }
  else
    { c with
      heading := c.heading.padHeight headingHeight c.width config.headingVAlign
      cells := c.cells.zipWith (fun b height => b.fitHeight config height c.width) heights }

/-- The rows of a grid, with the data rows numbered from `index` on. -/
def slots (index : Nat) : List GridRow → List RowSlot
  | [] => []
  | .cells _ :: rest => .data index :: slots (index + 1) rest
  | .rule :: rest => .rule :: slots index rest

/-- The texts after the columns. Between two columns it is the left text of the right one, or else
the right text of the left one, or else the default. -/
def separatorsOf (default : Text) : List Column → List Text
  | [] => []
  | [_] => [[]]
  | left :: right :: rest =>
    (right.lsep <|> left.rsep).getD default :: separatorsOf default (right :: rest)

/-- The layout of a grid. -/
def ofGrid (f : CellFormatter) (registry : Registry) (g : Grid) : Except CellError Layout := do
  let columns ← g.columns.zipIdx.mapM fun (column, i) => f.column registry g i column
  let headingHeight := headingHeightOf columns
  let heights := (List.range g.dataRows).map (rowHeight f.config columns)
  return {
    columns := columns.map (fitColumn f.config headingHeight heights)
    rows := slots 0 g.rows
    separators := separatorsOf f.config.separator columns }

def widths (l : Layout) : List Nat := l.columns.map Column.width

/-- The columns of the table with its separators. -/
def tableWidth (l : Layout) : Nat :=
  Grid.total l.widths + Grid.total (l.separators.map displayWidth)

/-- Some heading is not blank. -/
def hasHeadings (l : Layout) : Bool :=
  l.columns.any fun c => !c.verticalRule && !c.heading.isBlank

def headingHeight (l : Layout) : Nat := Grid.largest (l.columns.map (·.heading.height))

/-- The lines of the headings, column by column. -/
def headingBlocks (l : Layout) : List (List Text) := l.columns.map (·.heading.lines)

/-- The lines of a data row, column by column. -/
def rowBlocks (l : Layout) (index : Nat) : List (List Text) :=
  l.columns.map fun c => (c.cells[index]?.map Block.lines).getD []

end Layout

end TextTable
