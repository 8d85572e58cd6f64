import TextTable.Directive.Basic
import TextTable.Function.Registry

/-! # Column formats

What the options of a directive mean. The options are gone through once, and each may fill a slot of
the column format that is still empty. Options that apply to nothing are passed over.
-/

namespace TextTable

/-- How a column shows its cells. -/
structure ColumnFormat where
  align : Option Align := none
  /-- The number of columns to which cells are cut or wrapped. -/
  width : Option Nat := none
  /-- The column has exactly its width. Only set together with a width. -/
  fixed : Bool := false
  /-- The cells are wrapped. Only set together with a width. -/
  wrap : Bool := false
  /-- The text on the left of the column. -/
  lsep : Option Text := none
  /-- The text on the right of the column. -/
  rsep : Option Text := none
  /-- The text of null. -/
  noneText : Option Text := none
  /-- The text of numbers that show no digit but zero. -/
  zeroText : Option Text := none
  /-- Negative numbers stand in parentheses. -/
  parentheses : Bool := false
  function : Option FormatFunction := none
  spec : Text := []

/-- What an option can set. -/
inductive OptionSlot where
  | width
  | fixed
  | wrap
  | lsep
  | rsep
  | noneText
  | zeroText
  | parentheses
  | function
  deriving DecidableEq, Repr

/-- The slot that the name of an option stands for. Any other name is that of a function. -/
def OptionSlot.ofName (name : Text) : OptionSlot :=
  if name = "width".toList then .width
  else if name = "fixed".toList then .fixed
  else if name = "wrap".toList then .wrap
  else if name = "lsep".toList then .lsep
  else if name = "rsep".toList ∨ name = "sep".toList then .rsep
  else if name = "none".toList then .noneText
  else if name = "zero".toList then .zeroText
  else if name = "parentheses".toList then .parentheses
  else .function

namespace ColumnFormat

/-- The format with one more option, which fills a slot that is empty. An option without a value
that is no flag is the name of a function, even if it is a name that takes a value. -/
def add (registry : Registry) (f : ColumnFormat) (o : DirectiveOption) : ColumnFormat :=
  match OptionSlot.ofName o.name, o.value with
  | .width, some v => { f with width := f.width <|> (readSize v.trim).filter (0 < ·) }
  | .fixed, none => { f with fixed := true }
  | .wrap, none => { f with wrap := true }
  | .lsep, some v => { f with lsep := f.lsep <|> some v }
  | .rsep, some v => { f with rsep := f.rsep <|> some v }
  | .noneText, some v => { f with noneText := f.noneText <|> some v }
  | .zeroText, some v => { f with zeroText := f.zeroText <|> some v }
  | .parentheses, none => { f with parentheses := true }
  | _, none => { f with function := f.function <|> registry.resolve o.name }
  | _, some _ => f

/-- Without a width, a column is neither fixed nor wrapped. -/
def sized (f : ColumnFormat) : ColumnFormat :=
  if f.width.isSome then f else { f with fixed := false, wrap := false }

/-- The meaning of a directive. -/
def resolve (registry : Registry) (d : Directive) : ColumnFormat :=
  (d.options.foldl (add registry) { align := d.align, spec := d.spec }).sized

end ColumnFormat

end TextTable
