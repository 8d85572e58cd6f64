import TextTable.Text.Basic

/-! # Rendered tables

The lines of a table, grouped by the rows that they show.
-/

namespace TextTable

/-- What a group of lines shows. -/
inductive RowKind where
  | title
  /-- A guideline or a border. -/
  | guideline
  | heading
  | data
  /-- A horizontal rule of the input. -/
  | rule
  deriving DecidableEq, Repr

/-- The lines of a row. -/
structure RenderedRow where
  kind : RowKind
  lines : List Text
  deriving DecidableEq, Repr

/-- The row with its lines finished: the indent stands in front, and white space at the end is
dropped. -/
def RenderedRow.finish (indent : Text) (row : RenderedRow) : RenderedRow :=
  { row with lines := row.lines.map fun line => indent ++ line.trimEnd }

/-- The rows of a rendered table. -/
structure RenderedTable where
  rows : List RenderedRow
  deriving DecidableEq, Repr

namespace RenderedTable

def lines (t : RenderedTable) : List Text := t.rows.flatMap RenderedRow.lines

/-- The lines, joined by line feeds. -/
def text (t : RenderedTable) : Text := Text.unlines t.lines

/-- The rows that show data rows of the input. -/
def dataRows (t : RenderedTable) : List RenderedRow := t.rows.filter (·.kind = .data)

end RenderedTable

end TextTable
