import TextTable.Text.Justify

/-! # Configuration

The options of a table, their defaults, and the characters that they name. A configuration is valid
if the characters of the directive language can be told apart.
-/

namespace TextTable

/-- Vertical alignment of a short cell within a taller row. -/
inductive VAlign where
  | top
  /-- Centred, with an odd line below. -/
  | centerTop
  /-- Centred, with an odd line above. -/
  | centerBottom
  | bottom
  deriving DecidableEq, Repr, Inhabited

/-- What happens to a cell that cannot be formatted. -/
inductive ErrorPolicy where
  /-- The error ends the layout. -/
  | raise
  /-- The cell shows question marks, and the error is logged. -/
  | log
  /-- The cell shows question marks. -/
  | ignore
  /-- The cell shows the given text. -/
  | substitute (text : Text)
  deriving DecidableEq, Repr, Inhabited

/-- The options of a table. -/
structure Config where
  /-- The format function of columns that name none; the built-in `format` if absent. -/
  defaultFunction : Option Text := none
  onCellError : ErrorPolicy := .raise
  /-- The spec of floats under the built-in `format` in a column without a spec. -/
  floatSpec : Text := ".6f".toList
  /-- The spec of integers under the built-in `format` in a column without a spec. -/
  intSpec : Text := []
  /-- The text of null in columns that name none. -/
  noneText : Text := []
  /-- The text between two columns. -/
  separator : Text := "  ".toList
  /-- Guidelines are drawn under the columns only. -/
  separatedGuidelines : Bool := false
  /-- The characters of the top, the heading and the bottom guideline. -/
  guidelines : Text := "---".toList
  /-- The end of a text that was cut. -/
  moreMarker : Text := "...".toList
  /-- The characters for left, centre and right alignment. -/
  alignChars : Text := "<^>".toList
  /-- The mark of a title that is wrapped. -/
  wrapChar : Text := "=".toList
  /-- The characters that open, divide and close a group of options. -/
  optionDelimiters : Text := "(;)".toList
  headingVAlign : VAlign := .bottom
  cellVAlign : VAlign := .top
  /-- The largest number of lines of a data row. -/
  maxCellHeight : Option Nat := none
  /-- The glyphs of the top, the bottom, the sides, the corners and the dividers of a frame. -/
  borderChars : Text := "--|+=".toList
  /-- The spaces between a side of a frame and the text. -/
  hmargin : Nat := 1
  /-- The blank lines between a border and the text. -/
  vmargin : Nat := 0
  /-- The text in front of every line. -/
  indent : Text := []
  deriving DecidableEq, Repr, Inhabited

/-- Why a configuration cannot be used. -/
inductive ConfigError where
  | alignChars (chars : Text)
  | delimiters (chars : Text)
  /-- The character that opens a group of options is an alignment character. -/
  | delimiterIsAlignChar (c : Char)
  /-- No format function has the name of the default function. -/
  | unknownFunction (name : Text)
  /-- The text is no configuration. -/
  | parse
  deriving DecidableEq, Repr

def ConfigError.message : ConfigError → Text
  | .alignChars chars =>
    "align_chars must be empty or 3 unique characters, got '".toList ++ chars ++ ['\'']
  | .delimiters chars =>
    "option_delimiters must be empty or 3 characters (open, sep, close), got '".toList ++ chars ++
      ['\'']
  | .delimiterIsAlignChar c =>
    "option delimiter '".toList ++ c :: "' is also an alignment character".toList
  | .unknownFunction name => "unknown default function '".toList ++ name ++ ['\'']
  | .parse => "cannot parse configuration".toList

/-- The characters around a group of options. -/
structure Delimiters where
  opening : Char
  separator : Char
  closing : Char
  deriving DecidableEq, Repr

/-- The characters of the guidelines that are drawn. -/
structure Guidelines where
  top : Option Char
  heading : Option Char
  bottom : Option Char
  deriving DecidableEq, Repr

/-- The glyphs of a frame. -/
structure BorderGlyphs where
  top : Char
  bottom : Char
  side : Char
  corner : Char
  divider : Char
  deriving DecidableEq, Repr

namespace Config

/-- The alignment that a character stands for. -/
def alignFor (config : Config) (c : Char) : Option Align :=
  match config.alignChars with
  | left :: center :: right :: _ =>
    if c = left then some .left
    else if c = center then some .center
    else if c = right then some .right
    else none
  | _ => none

def delimiters (config : Config) : Option Delimiters :=
  match config.optionDelimiters with
  | opening :: separator :: closing :: _ => some { opening, separator, closing }
  | _ => none

/-- The mark of a title that is wrapped. -/
def wrapIndicator (config : Config) : Option Char := config.wrapChar.head?

/-- A guideline without a character, or with a space, is not drawn. -/
def guidelineChars (config : Config) : Guidelines :=
  let char (i : Nat) := config.guidelines[i]?.filter (· ≠ ' ')
  { top := char 0, heading := char 1, bottom := char 2 }

/-- The glyphs of a frame; a missing one is a plus sign. -/
def borderGlyphs (config : Config) : BorderGlyphs :=
  let glyph (i : Nat) := config.borderChars[i]?.getD '+'
  { top := glyph 0, bottom := glyph 1, side := glyph 2, corner := glyph 3, divider := glyph 4 }

/-- There are no alignment characters or three different ones. -/
def validateAlign (config : Config) : Except ConfigError Unit :=
  if config.alignChars = [] ∨ (config.alignChars.length = 3 ∧ config.alignChars.Nodup) then .ok ()
  else .error (.alignChars config.alignChars)

/-- There are no delimiters or three, of which the separator differs from the others and the opening
one is no alignment character. -/
def validateDelimiters (config : Config) : Except ConfigError Unit :=
  match config.optionDelimiters with
  | [] => .ok ()
  | [opening, separator, closing] =>
    if separator = opening ∨ separator = closing then .error (.delimiters config.optionDelimiters)
    else if opening ∈ config.alignChars then .error (.delimiterIsAlignChar opening)
    else .ok ()
  | chars => .error (.delimiters chars)

/-- The characters of the directive language can be told apart. -/
def validate (config : Config) : Except ConfigError Unit := do
  config.validateAlign
  config.validateDelimiters

end Config

end TextTable
