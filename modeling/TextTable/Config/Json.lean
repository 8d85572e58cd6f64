import TextTable.Config.Fields
import TextTable.Value.Reader

/-! # Configurations in JSON

A configuration is an object of its fields, or an array of the values of its first fields.
-/

namespace TextTable

/-- How the fields of a configuration are read from JSON. -/
def FieldReader.json : FieldReader Value where
  text
    | .string t => some t
    | _ => none
  isNull
    | .null => true
    | _ => false
  bool
    | .bool b => some b
    | _ => none
  size
    | .int n => if 0 ≤ n ∧ n ≤ maxSize then some n.toNat else none
    | _ => none
  choice
    | .string name => some (name, none)
    | .object [(name, content)] => some (name, some content)
    | _ => none

def VAlign.toValue : VAlign → Value
  | .top => .string "top".toList
  | .centerTop => .string "center_top".toList
  | .centerBottom => .string "center_bottom".toList
  | .bottom => .string "bottom".toList

def ErrorPolicy.toValue : ErrorPolicy → Value
  | .raise => .string "raise".toList
  | .log => .string "log".toList
  | .ignore => .string "ignore".toList
  | .substitute text => .object [("substitute".toList, .string text)]

namespace Config

/-- The fields of a configuration. -/
def toFields (config : Config) : List (Text × Value) :=
  [("default_function".toList, (config.defaultFunction.map Value.string).getD .null),
    ("on_cell_error".toList, config.onCellError.toValue),
    ("float_spec".toList, .string config.floatSpec),
    ("int_spec".toList, .string config.intSpec),
    ("none_text".toList, .string config.noneText),
    ("separator".toList, .string config.separator),
    ("separated_guidelines".toList, .bool config.separatedGuidelines),
    ("guidelines".toList, .string config.guidelines),
    ("more_marker".toList, .string config.moreMarker),
    ("align_chars".toList, .string config.alignChars),
    ("wrap_char".toList, .string config.wrapChar),
    ("option_delimiters".toList, .string config.optionDelimiters),
    ("heading_valign".toList, config.headingVAlign.toValue),
    ("cell_valign".toList, config.cellVAlign.toValue),
    ("max_cell_height".toList, (config.maxCellHeight.map fun n => Value.int n).getD .null),
    ("border_chars".toList, .string config.borderChars),
    ("hmargin".toList, .int config.hmargin),
    ("vmargin".toList, .int config.vmargin),
    ("indent".toList, .string config.indent)]

/-- The configuration as a JSON object. -/
def toValue (config : Config) : Value := .object config.toFields

/-- The configuration that a JSON value describes. -/
def ofValue? : Value → Option Config
  | .object fields => readFields .json {} fields
  | .array values => readValues .json {} values
  | _ => none

/-- The valid configuration that a JSON text describes. -/
def ofJson (t : Text) : Except ConfigError Config := checked ((Value.ofJson? t).bind ofValue?)

end Config

end TextTable
