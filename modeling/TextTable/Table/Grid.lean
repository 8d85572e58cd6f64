import TextTable.Value.Basic

/-! # Grids

The input of a table is given by rows or by columns. Either way it becomes a grid: rows with a slot
for every column, where a slot may be empty, and rules between rows and between columns.
-/

namespace TextTable

/-- A row of the input. -/
inductive Row where
  | cells (values : List Value)
  /-- A horizontal rule. -/
  | rule

namespace Row

/-- An array is the row of its items, and any other value a row with one cell. -/
def ofValue : Value → Row
  | .array items => .cells items
  | v => .cells [v]

/-- The number of cells, zero for a rule. -/
def length : Row → Nat
  | .cells values => values.length
  | .rule => 0

def values : Row → List Value
  | .cells values => values
  | .rule => []

/-- The rows of an array of rows. Null has no rows, and any other value is a single row. -/
def listOfValue : Value → List Row
  | .array rows => rows.map ofValue
  | .null => []
  | v => [ofValue v]

end Row

/-- A column of the input. -/
inductive ColumnInput where
  | column (heading format : Text) (cells : List Value)
  | verticalRule

namespace ColumnInput

def cells : ColumnInput → List Value
  | .column _ _ cells => cells
  | .verticalRule => []

end ColumnInput

/-- A column of a grid, without its cells. -/
inductive GridColumn where
  | data (heading format : Text)
  | verticalRule
  deriving DecidableEq, Repr

def GridColumn.isRule : GridColumn → Bool
  | .data .. => false
  | .verticalRule => true

/-- A row of a grid: a slot for every column, which is empty where the input has no cell. -/
inductive GridRow where
  | cells (slots : List (Option Value))
  | rule

/-- The input of a table. -/
structure Grid where
  columns : List GridColumn
  rows : List GridRow

namespace Grid

/-- The largest of some numbers, zero if there are none. -/
def largest (ns : List Nat) : Nat := ns.foldr max 0

/-- The sum of some numbers. -/
def total (ns : List Nat) : Nat := ns.foldr (· + ·) 0

/-- The grid of some rows. It has a column for every heading and for every cell of the longest row;
formats beyond that are dropped. -/
def ofRows (headings formats : List Text) (rows : List Row) : Grid :=
  let count := max headings.length (largest (rows.map Row.length))
  { columns :=
      (List.range count).map fun i => .data (headings[i]?.getD []) (formats[i]?.getD [])
    rows := rows.map fun row =>
      match row with
      | .cells values => .cells ((List.range count).map (values[·]?))
      | .rule => .rule }

/-- The grid of some columns. It has a row for every cell of the longest column. -/
def ofColumns (input : List ColumnInput) : Grid :=
  let height := largest (input.map (·.cells.length))
  { columns := input.map fun column =>
      match column with
      | .column heading format _ => .data heading format
      | .verticalRule => .verticalRule
    rows := (List.range height).map fun r => .cells (input.map (·.cells[r]?)) }

/-- The grid without its vertical rules. -/
def withoutVerticalRules (g : Grid) : Grid :=
  { columns := g.columns.filter (!·.isRule)
    rows := g.rows.map fun row =>
      match row with
      | .cells slots =>
        .cells (((g.columns.zip slots).filter fun (column, _) => !column.isRule).map Prod.snd)
      | .rule => .rule }

/-- The cells of a column from top to bottom, with the numbers of their rows. Rules have no cell. -/
def cellsOf (g : Grid) (column : Nat) : List (Nat × Option Value) :=
  g.rows.zipIdx.filterMap fun (row, r) =>
    match row with
    | .cells slots => some (r, slots[column]?.join)
    | .rule => none

/-- The number of rows that are no rules. -/
def dataRows (g : Grid) : Nat := g.rows.countP fun row => row matches .cells _

end Grid

end TextTable
