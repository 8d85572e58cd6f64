import TextTable.Directive.Basic
import TextTable.Table.Rendered
import TextTable.Text.Wrap

/-! # Title lines

A title is centred over the table unless it names another alignment, and wrapped to the table if it
has the wrap mark. A title that is wider than the table is not padded.
-/

namespace TextTable

/-- The lines of a title over a table of the given width. -/
def titleLines (config : Config) (tableWidth : Nat) (t : Text) : List Text :=
  let title := Title.parse config t
  let lines :=
    if title.wrap && 0 < tableWidth then title.text.wrap tableWidth false else title.text.lines
  if blockWidth lines ≤ tableWidth then
    lines.map fun line => line.justify tableWidth (title.align.getD .center)
  else lines

/-- The row of a title, if there is a title. -/
def titleRows (config : Config) (tableWidth : Nat) (t : Text) : List RenderedRow :=
  if t.isEmpty then [] else [⟨.title, titleLines config tableWidth t⟩]

end TextTable
