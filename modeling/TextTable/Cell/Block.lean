import TextTable.Text.Justify

/-! # Blocks of lines

The text of a cell as lines, which are cut or padded to a width and to a height.
-/

namespace TextTable

/-- The lines of a cell and their alignment. -/
structure Block where
  lines : List Text
  align : Align
  /-- A part of the text was cut. -/
  truncated : Bool := false
  deriving DecidableEq, Repr

namespace Block

def ofText (t : Text) (align : Align) : Block := { lines := t.lines, align }

/-- The columns of the widest line. -/
def width (b : Block) : Nat := blockWidth b.lines

def height (b : Block) : Nat := b.lines.length

def text (b : Block) : Text := Text.unlines b.lines

/-- Every line is blank. -/
def isBlank (b : Block) : Bool := b.lines.all Text.isBlank

/-- The block with every line that is wider than `width` cut. -/
def truncateLines (width : Nat) (marker : Text) (b : Block) : Block :=
  { b with
    lines := b.lines.map fun line => line.truncateEnd width marker
    truncated := b.truncated || b.lines.any fun line => width < displayWidth line }

/-- The block with every line padded to `width`, or to the widest line. -/
def padWidth (width : Nat) (b : Block) : Block :=
  let width := max width b.width
  { b with lines := b.lines.map fun line => line.justify width b.align }

end Block

end TextTable
