import TextTable.Directive.ColumnFormat

/-! # Cell formatting

The text of a cell: null has a text of its own, and other values are shown by the format function of
the column. A number that shows no digit but zero may be replaced, and a negative number may stand
in parentheses. An error is turned into a text by the error handler, or else by the error policy,
and such a text is not changed any more.
-/

namespace TextTable

/-- An error together with the position of its cell. Rows count rules too. -/
structure CellError where
  row : Nat
  column : Nat
  spec : Text
  source : FormatError
  deriving DecidableEq

def CellError.message (e : CellError) : Text :=
  "cell[".toList ++ Nat.toDigits 10 e.row ++ "][".toList ++ Nat.toDigits 10 e.column ++
    "], format_spec= ".toList ++ e.spec ++ ": ".toList ++ e.source.message

/-- Gives the text that replaces a cell, or the error that ends the layout. -/
abbrev ErrorHandler := CellError → Except CellError Text

/-- The text of a cell that could not be formatted. -/
def errorText : Text := "???".toList

/-- What a policy does with an error. -/
def ErrorPolicy.handle : ErrorPolicy → ErrorHandler
  | .raise, e => .error e
  | .log, _ | .ignore, _ => .ok errorText
  | .substitute text, _ => .ok text

/-- The text before the minus sign of a number and the text after it. The sign stands right before
the first letter or digit, or else is the first minus sign. -/
def splitMinus (t : Text) : Option (Text × Text) :=
  let front := t.takeWhile fun c => !c.isAlphanum
  let number := t.dropWhile fun c => !c.isAlphanum
  if !number.isEmpty && front.getLast? = some '-' then some (front.dropLast, number)
  else t.cutAt '-'

/-- A character that can end a number. -/
def endsNumber (c : Char) : Bool := c.isAlphanum || c = '%'

/-- The text up to the end of the number, and the padding after it. -/
def splitNumber (t : Text) : Text × Text :=
  let number :=
    if t.any endsNumber then (t.reverse.dropWhile fun c => !endsNumber c).reverse else t.trimEnd
  (number, t.drop number.length)

/-- The text of a negative number with parentheses in place of the minus sign. Without a minus sign,
a space takes the place of the closing parenthesis. -/
def parenthesize (t : Text) : Text :=
  match splitMinus t with
  | none => t ++ [' ']
  | some (before, after) =>
    let (number, padding) := splitNumber after
    before ++ '(' :: number ++ ')' :: padding

/-- What cell formatting needs besides the column and the cell. -/
structure CellFormatter where
  config : Config
  /-- The function of columns that name none. -/
  defaultFunction : FormatFunction
  handler : Option ErrorHandler

namespace CellFormatter

/-- The function of a column. -/
def function (f : CellFormatter) (format : ColumnFormat) : FormatFunction :=
  format.function.getD f.defaultFunction

/-- The spec of a value in a column without a spec, under the built-in `format`. -/
def defaultSpec (f : CellFormatter) : Value → Text
  | .float _ => f.config.floatSpec
  | .int _ => f.config.intSpec
  | _ => []

/-- The spec that the function of a column is given with a value. -/
def spec (f : CellFormatter) (format : ColumnFormat) (v : Value) : Text :=
  if format.spec.isEmpty && (f.function format).isDefaultFormat then f.defaultSpec v
  else format.spec

/-- What happens to an error. -/
def handle (f : CellFormatter) : ErrorHandler := f.handler.getD f.config.onCellError.handle

/-- The text of a formatted value under the zero and parentheses options. -/
def finish (format : ColumnFormat) (v : Value) (t : Text) : Text :=
  let zero := if v.isNumeric && !t.any FormatSpec.isNonzeroDigit then format.zeroText else none
  let t := zero.getD t
  if format.parentheses && v.isNumeric then
    if zero.isNone && v.isNegative then parenthesize t else t ++ [' ']
  else t

/-- The text of the value in the given cell. -/
def format (f : CellFormatter) (format : ColumnFormat) (row column : Nat) (v : Value) :
    Except CellError Text :=
  match v with
  | .null => .ok (format.noneText.getD f.config.noneText)
  | v =>
    let spec := f.spec format v
    match (f.function format).call v spec with
    | .ok t => .ok (finish format v t)
    | .error source => f.handle { row, column, spec, source }

end CellFormatter

end TextTable
