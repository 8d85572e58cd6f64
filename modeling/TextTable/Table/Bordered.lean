import TextTable.Table.Plain

/-! # Bordered tables

A bordered table has a frame around every cell. Borders and contents alternate: a rule of the input
takes the place of the border at which it stands, and several rules in a row are one. The measures
of a frame are machine words, and so are the sums of them that say how long a line is and how many
lines a block takes.
-/

namespace TextTable

/-- The measures and the glyphs of a frame. -/
structure Frame where
  widths : List Nat
  hmargin : Nat
  vmargin : Nat
  glyphs : BorderGlyphs
  deriving DecidableEq, Repr

namespace Frame

/-- The columns of the table with its frame. -/
def tableWidth (f : Frame) : Nat :=
  let n := f.widths.length
  if n = 0 then 0 else toSize (Grid.total f.widths + 2 * f.hmargin * n + n + 1)

/-- A border that is drawn with the given glyph. -/
def border (f : Frame) (glyph : Char) : Text :=
  f.glyphs.corner :: f.widths.flatMap fun width =>
    List.replicate (toSize (width + 2 * f.hmargin)) glyph ++ [f.glyphs.corner]

/-- The line of a block with the given number, counted from above the margin. -/
def blockLine (f : Frame) (block : List Text) (width i : Nat) : Text :=
  if f.vmargin ≤ i then block[i - f.vmargin]?.getD (spaces width) else spaces width

/-- The line of some blocks with the given number, with sides and margins around each block. -/
def contentLine (f : Frame) (blocks : List (List Text)) (i : Nat) : Text :=
  f.glyphs.side :: (blocks.zip f.widths).flatMap fun (block, width) =>
    spaces f.hmargin ++ f.blockLine block width i ++ spaces f.hmargin ++ [f.glyphs.side]

/-- The lines of some blocks that stand side by side. -/
def content (f : Frame) (blocks : List (List Text)) : List Text :=
  (List.range (toSize (2 * f.vmargin + Layout.blocksHeight blocks))).map (f.contentLine blocks)

end Frame

/-- The rows of a bordered table that are rendered so far, the last one first. -/
structure BorderState where
  rows : List RenderedRow
  /-- No border was drawn yet. -/
  needsTop : Bool
  deriving DecidableEq, Repr

namespace BorderState

/-- A data row, with a border below, and above if there is none yet. -/
def addData (f : Frame) (blocks : List (List Text)) (s : BorderState) : BorderState :=
  let above := if s.needsTop then [⟨.guideline, [f.border f.glyphs.top]⟩] else []
  { rows := ⟨.guideline, [f.border f.glyphs.bottom]⟩ :: ⟨.data, f.content blocks⟩ :: above ++ s.rows
    needsTop := false }

/-- A rule, in place of a border above it. A rule below a rule is not drawn. -/
def addRule (f : Frame) (s : BorderState) : BorderState :=
  let rule : RenderedRow := ⟨.rule, [f.border f.glyphs.divider]⟩
  match s.rows with
  | [] => { rows := [rule], needsTop := false }
  | last :: before =>
    match last.kind with
    | .rule => s
    | .guideline => { s with rows := rule :: before }
    | _ => { rows := rule :: s.rows, needsTop := false }

/-- The next row of a layout. -/
def add (l : Layout) (f : Frame) (s : BorderState) : RowSlot → BorderState
  | .data index => s.addData f (l.rowBlocks index)
  | .rule => s.addRule f

end BorderState

namespace Layout

def frame (l : Layout) (config : Config) : Frame :=
  { widths := l.widths
    hmargin := config.hmargin
    vmargin := config.vmargin
    glyphs := config.borderGlyphs }

/-- The rows of the headings between their borders. -/
def borderedHeading (l : Layout) (f : Frame) : List RenderedRow :=
  [⟨.guideline, [f.border f.glyphs.top]⟩, ⟨.heading, f.content l.headingBlocks⟩,
    ⟨.guideline, [f.border f.glyphs.divider]⟩]

/-- The rows of a bordered table before their lines are finished. -/
def borderedRows (l : Layout) (config : Config) (title : Text) : List RenderedRow :=
  let f := l.frame config
  let title := titleRows config f.tableWidth title
  if l.columns.isEmpty then title
  else
    let start : BorderState :=
      if l.hasHeadings then
        { rows := (l.borderedHeading f).reverse ++ title.reverse, needsTop := false }
      else { rows := title.reverse, needsTop := true }
    (l.rows.foldl (BorderState.add l f) start).rows.reverse

/-- The bordered table. -/
def renderBordered (l : Layout) (config : Config) (title : Text) : RenderedTable :=
  ⟨(l.borderedRows config title).map (.finish config.indent)⟩

end Layout

end TextTable
