import TextTable.Config.Basic
import TextTable.Number.Digits
import TextTable.Value.Basic

/-! # Fields of a configuration

A configuration is written as fields with fixed names. Reading takes the fields in any order, but
none twice and none with another name; a field that is absent keeps its value. How a field's value
is read depends on the notation, which a `FieldReader` describes.
-/

namespace TextTable

/-- How the values of a notation are read. -/
structure FieldReader (α : Type) where
  text : α → Option Text
  /-- The value stands for nothing. -/
  isNull : α → Bool
  bool : α → Option Bool
  /-- A number that fits a machine word. -/
  size : α → Option Nat
  /-- The name of a choice, and the value that goes with it if there is one. -/
  choice : α → Option (Text × Option α)

namespace FieldReader

variable {α : Type} (reader : FieldReader α)

/-- A value that may be absent. -/
def optional {β : Type} (read : α → Option β) (v : α) : Option (Option β) :=
  if reader.isNull v then some none else (read v).map some

/-- A choice that takes no value, or a null. -/
def isPlain (content : Option α) : Bool := content.all reader.isNull

def valign (v : α) : Option VAlign := do
  let (name, content) ← reader.choice v
  if !reader.isPlain content then none
  else if name = "top".toList then some .top
  else if name = "center_top".toList then some .centerTop
  else if name = "center_bottom".toList then some .centerBottom
  else if name = "bottom".toList then some .bottom
  else none

def policy (v : α) : Option ErrorPolicy := do
  let (name, content) ← reader.choice v
  if name = "substitute".toList then .substitute <$> reader.text (← content)
  else if !reader.isPlain content then none
  else if name = "raise".toList then some .raise
  else if name = "log".toList then some .log
  else if name = "ignore".toList then some .ignore
  else none

end FieldReader

namespace Config

/-- The names of the fields, in the order in which they are written. -/
def fieldNames : List Text :=
  ["default_function".toList, "on_cell_error".toList, "float_spec".toList, "int_spec".toList,
    "none_text".toList, "separator".toList, "separated_guidelines".toList, "guidelines".toList,
    "more_marker".toList, "align_chars".toList, "wrap_char".toList, "option_delimiters".toList,
    "heading_valign".toList, "cell_valign".toList, "max_cell_height".toList,
    "border_chars".toList, "hmargin".toList, "vmargin".toList, "indent".toList]

variable {α : Type}

/-- The value of a field, or its present value if the field is absent. -/
def readField {β : Type} (fields : List (Text × α)) (name : String) (read : α → Option β)
    (present : β) : Option β :=
  match Dict.get? fields name.toList with
  | some v => read v
  | none => some present

/-- The configuration with the given fields in place of its own. -/
def readFields (reader : FieldReader α) (config : Config) (fields : List (Text × α)) :
    Option Config := do
  let names := fields.map Prod.fst
  if !(names.all (· ∈ fieldNames) && names.Nodup) then none
  let field {β : Type} := readField (β := β) fields
  return {
    defaultFunction :=
      ← field "default_function" (reader.optional reader.text) config.defaultFunction
    onCellError := ← field "on_cell_error" reader.policy config.onCellError
    floatSpec := ← field "float_spec" reader.text config.floatSpec
    intSpec := ← field "int_spec" reader.text config.intSpec
    noneText := ← field "none_text" reader.text config.noneText
    separator := ← field "separator" reader.text config.separator
    separatedGuidelines := ← field "separated_guidelines" reader.bool config.separatedGuidelines
    guidelines := ← field "guidelines" reader.text config.guidelines
    moreMarker := ← field "more_marker" reader.text config.moreMarker
    alignChars := ← field "align_chars" reader.text config.alignChars
    wrapChar := ← field "wrap_char" reader.text config.wrapChar
    optionDelimiters := ← field "option_delimiters" reader.text config.optionDelimiters
    headingVAlign := ← field "heading_valign" reader.valign config.headingVAlign
    cellVAlign := ← field "cell_valign" reader.valign config.cellVAlign
    maxCellHeight := ← field "max_cell_height" (reader.optional reader.size) config.maxCellHeight
    borderChars := ← field "border_chars" reader.text config.borderChars
    hmargin := ← field "hmargin" reader.size config.hmargin
    vmargin := ← field "vmargin" reader.size config.vmargin
    indent := ← field "indent" reader.text config.indent }

/-- The configuration with the given values for its first fields. -/
def readValues (reader : FieldReader α) (config : Config) (values : List α) : Option Config :=
  if fieldNames.length < values.length then none
  else readFields reader config (fieldNames.zip values)

/-- A configuration that was read, if it is valid. -/
def checked (config : Option Config) : Except ConfigError Config :=
  match config with
  | none => .error .parse
  | some c => do
    c.validate
    return c

end Config

end TextTable
