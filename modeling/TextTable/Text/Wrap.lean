import TextTable.Text.Alphanumeric
import TextTable.Text.Escape

/-! # Word wrapping

A text is taken apart into pieces that a line break may not divide, and lines are filled with pieces
as long as they fit. A piece is a word or a part of one: words also break after a hyphen between two
alphanumeric characters and, on request, wherever the width of a line is reached.
-/

namespace TextTable

/-- A stretch of text without a line break, and the number of spaces after it. -/
structure Piece where
  text : Text
  spaces : Nat
  deriving DecidableEq, Repr

namespace Piece

/-- The columns of the text of a piece. -/
def width (p : Piece) : Nat := shownWidth p.text

/-- The columns of a piece that is not the last one of its line. -/
def fullWidth (p : Piece) : Nat := p.width + p.spaces

end Piece

namespace Wrap

/-- The words of a text and the spaces after each. Leading spaces follow an empty word. -/
def words : Text → List Piece
  | [] => []
  | c :: rest =>
    if c = ' ' then
      match words rest with
      | ⟨[], n⟩ :: more => ⟨[], n + 1⟩ :: more
      | more => ⟨[], 1⟩ :: more
    else
      match words rest with
      | p :: more => ⟨c :: p.text, p.spaces⟩ :: more
      | [] => [⟨[c], 0⟩]

/-- The part of a word up to its first breaking hyphen, and the parts after it. A hyphen breaks
between two alphanumeric characters, `before` being the character in front of the text. -/
def hyphenParts (before : Option Char) : Text → Text × List Text
  | [] => ([], [])
  | c :: rest =>
    let (part, more) := hyphenParts (some c) rest
    if c = '-' && before.any isAlphanumeric && rest.head?.any isAlphanumeric then
      ([c], part :: more)
    else (c :: part, more)

/-- The part of a word that fits in what is left of `limit` columns after `used`, and the parts
after it. A part takes its first shown character whatever its width. -/
def fittingParts (limit used : Nat) (e : Escape) : Text → Text × List Text
  | [] => ([], [])
  | c :: rest =>
    if e.shows c && 0 < used && limit < used + charWidth c then
      let (part, more) := fittingParts limit (charWidth c) (e.next c) rest
      ([], (c :: part) :: more)
    else
      let (part, more) := fittingParts limit (used + e.columns c) (e.next c) rest
      (c :: part, more)

/-- The pieces of a word that was divided: the spaces of the word follow the last part. -/
def ofParts (spaces : Nat) : Text → List Text → List Piece
  | part, [] => [⟨part, spaces⟩]
  | part, next :: more => ⟨part, 0⟩ :: ofParts spaces next more

/-- The pieces of a word that end at a breaking hyphen or at its end. -/
def atHyphens (p : Piece) : List Piece :=
  let (part, more) := hyphenParts none p.text
  ofParts p.spaces part more

/-- The parts of a piece that is wider than `limit`. -/
def cutToWidth (limit : Nat) (p : Piece) : List Piece :=
  if limit < p.width then
    let (part, more) := fittingParts limit 0 .outside p.text
    ofParts p.spaces part more
  else [p]

/-- The pieces of a text. -/
def pieces (limit : Nat) (breakWords : Bool) (t : Text) : List Piece :=
  let parts := (words t).flatMap atHyphens
  if breakWords then parts.flatMap (cutToWidth limit) else parts

/-- The pieces that go to a line on which `used` columns are taken, and the lines after it. -/
def fillLine (limit used : Nat) : List Piece → List Piece × List (List Piece)
  | [] => ([], [])
  | p :: rest =>
    if limit < used + p.width then
      let (line, more) := fillLine limit p.fullWidth rest
      ([], (p :: line) :: more)
    else
      let (line, more) := fillLine limit (used + p.fullWidth) rest
      (p :: line, more)

/-- Lines filled from the first piece on: a line ends where the next piece does not fit. -/
def fill (limit : Nat) : List Piece → List (List Piece)
  | [] => [[]]
  | p :: rest =>
    let (line, more) := fillLine limit p.fullWidth rest
    (p :: line) :: more

/-- The text of a line. The spaces after its last piece are dropped. -/
def lineText : List Piece → Text
  | [] => []
  | [p] => p.text
  | p :: rest => p.text ++ TextTable.spaces p.spaces ++ lineText rest

end Wrap

namespace Text

/-- Every white space as a plain space. -/
def flatten (t : Text) : Text := t.map fun c => if isWhite c then ' ' else c

/-- The text without the spaces at its end. -/
def dropEndSpaces (t : Text) : Text := (t.reverse.dropWhile (· = ' ')).reverse

/-- The text flowed into lines of at most `width` columns, where zero acts as one. A word wider than
a line is divided if `breakWords` is set and otherwise stands on a line of its own. A text with
fewer bytes than a line has columns is one line. -/
def wrap (t : Text) (width : Nat) (breakWords : Bool) : List Text :=
  let limit := max width 1
  let flat := t.flatten
  if flat.byteSize < limit then [flat.dropEndSpaces]
  else (Wrap.fill limit (Wrap.pieces limit breakWords flat)).map Wrap.lineText

theorem wrap_ne_nil (t : Text) (width : Nat) (breakWords : Bool) :
    t.wrap width breakWords ≠ [] := by
  unfold wrap
  dsimp only
  split
  · simp
  · unfold Wrap.fill
    split <;> simp

end Text

end TextTable
