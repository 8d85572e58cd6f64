import TextTable.Table.Bordered

/-! # Tables

A table has a configuration, format functions and perhaps a handler of cell errors, and renders
input by rows or by columns.
-/

namespace TextTable

/-- How a table is drawn. -/
inductive Style where
  /-- With guidelines and separators. -/
  | plain
  /-- With a frame around every cell. -/
  | bordered
  deriving DecidableEq, Repr, Inhabited

/-- Why a table cannot be rendered. -/
inductive TableError where
  | cell (e : CellError)
  | config (e : ConfigError)
  deriving DecidableEq

/-- What it takes to render tables. -/
structure Table where
  config : Config := {}
  registry : Registry := {}
  /-- Takes the place of the error policy. -/
  handler : Option ErrorHandler := none

namespace Table

/-- The function of columns that name none. -/
def defaultFunction (t : Table) : Except ConfigError FormatFunction :=
  match t.config.defaultFunction with
  | none => .ok (.builtin .format)
  | some name =>
    match t.registry.resolve name with
    | some f => .ok f
    | none => .error (.unknownFunction name)

/-- The cell formatter of a table whose configuration can be used. -/
def formatter (t : Table) : Except ConfigError CellFormatter := do
  t.config.validate
  return { config := t.config, defaultFunction := ← t.defaultFunction, handler := t.handler }

/-- The layout of a grid. -/
def layoutGrid (t : Table) (g : Grid) : Except TableError Layout := do
  let f ← t.formatter.mapError .config
  (Layout.ofGrid f t.registry g).mapError .cell

/-- The grid that a style shows: frames make vertical rules unnecessary. -/
def gridOf (style : Style) (g : Grid) : Grid :=
  match style with
  | .plain => g
  | .bordered => g.withoutVerticalRules

/-- The rendered grid. -/
def renderGrid (t : Table) (g : Grid) (title : Text) (style : Style) :
    Except TableError RenderedTable := do
  let l ← t.layoutGrid (gridOf style g)
  return match style with
    | .plain => l.renderPlain t.config title
    | .bordered => l.renderBordered t.config title

/-- The layout of some rows. -/
def layoutRows (t : Table) (headings formats : List Text) (rows : List Row) :
    Except TableError Layout :=
  t.layoutGrid (.ofRows headings formats rows)

def renderRows (t : Table) (headings formats : List Text) (rows : List Row) (title : Text)
    (style : Style) : Except TableError RenderedTable :=
  t.renderGrid (.ofRows headings formats rows) title style

def renderColumns (t : Table) (columns : List ColumnInput) (title : Text) (style : Style) :
    Except TableError RenderedTable :=
  t.renderGrid (.ofColumns columns) title style

/-- The text of a table that is given by rows. -/
def rowsText (t : Table) (headings formats : List Text) (rows : List Row) (title : Text)
    (style : Style) : Except TableError Text :=
  (t.renderRows headings formats rows title style).map RenderedTable.text

/-- The text of a table that is given by columns. -/
def columnsText (t : Table) (columns : List ColumnInput) (title : Text) (style : Style) :
    Except TableError Text :=
  (t.renderColumns columns title style).map RenderedTable.text

/-- The text of a block, on request without the white space around it. -/
def cellString (strip : Bool) (b : Block) : Text := if strip then b.text.trim else b.text

/-- The texts of the headings and of the cells of every data row. -/
def rowStrings (t : Table) (headings formats : List Text) (rows : List Row) (strip : Bool) :
    Except TableError (List (List Text)) := do
  let l ← t.layoutRows headings formats rows
  let data := l.rows.filterMap fun slot =>
    match slot with
    | .data index => some (l.columns.filterMap fun c => c.cells[index]?.map (cellString strip))
    | .rule => none
  return l.columns.map (fun c => cellString strip c.heading) :: data

/-- A table with the given guidelines and the given spec of floats. -/
def quick (guidelines floatSpec : Text) : Table := { config := { guidelines, floatSpec } }

end Table

/-- The text of rows in a table with default options. -/
def mono (headings formats : List Text) (rows : List Row) (title guidelines floatSpec : Text)
    (style : Style) : Except TableError Text :=
  (Table.quick guidelines floatSpec).rowsText headings formats rows title style

/-- The text of columns in a table with default options. -/
def monocol (columns : List ColumnInput) (title guidelines floatSpec : Text) (style : Style) :
    Except TableError Text :=
  (Table.quick guidelines floatSpec).columnsText columns title style

end TextTable
