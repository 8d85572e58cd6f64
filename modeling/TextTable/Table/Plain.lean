import TextTable.Table.Layout
import TextTable.Table.Title

/-! # Plain tables

A plain table has separators between its columns, and guidelines above, below and under its
headings.
-/

namespace TextTable

namespace Layout

/-- The line of a guideline, without the indent. A blank guideline is none. -/
def guideline (l : Layout) (separated : Bool) (char : Option Char) : Option Text := do
  let c ← char
  let line :=
    if separated then
      (l.columns.zip l.separators).flatMap fun (column, separator) =>
        List.replicate column.width c ++ separator
    else List.replicate l.tableWidth c
  if Text.isBlank line then none else some line

/-- The number of lines of the longest block. -/
def blocksHeight (blocks : List (List Text)) : Nat := Grid.largest (blocks.map List.length)

/-- The line with the given number of some blocks, with a separator after each. -/
def joinLine (blocks : List (List Text)) (separators : List Text) (i : Nat) : Text :=
  (blocks.zip separators).flatMap fun (block, separator) => block[i]?.getD [] ++ separator

/-- The lines of some blocks that stand side by side. -/
def joinBlocks (blocks : List (List Text)) (separators : List Text) : List Text :=
  (List.range (blocksHeight blocks)).map (joinLine blocks separators)

/-- The rows of a guideline. -/
def guidelineRows (line : Option Text) : List RenderedRow :=
  line.toList.map fun line => ⟨.guideline, [line]⟩

/-- The rows of a plain table before their lines are finished. -/
def plainRows (l : Layout) (config : Config) (title : Text) : List RenderedRow :=
  let chars := config.guidelineChars
  let line (char : Option Char) := l.guideline config.separatedGuidelines char
  let heading := line chars.heading
  titleRows config l.tableWidth title ++
    guidelineRows (line chars.top) ++
    (if l.hasHeadings then
      ⟨.heading, joinBlocks l.headingBlocks l.separators⟩ :: guidelineRows heading
    else []) ++
    l.rows.map (fun slot =>
      match slot with
      | .data index => ⟨.data, joinBlocks (l.rowBlocks index) l.separators⟩
      | .rule => ⟨.rule, [heading.getD []]⟩) ++
    guidelineRows (line chars.bottom)

/-- The plain table. -/
def renderPlain (l : Layout) (config : Config) (title : Text) : RenderedTable :=
  ⟨(l.plainRows config title).map (.finish config.indent)⟩

end Layout

end TextTable
