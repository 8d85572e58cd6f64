import TextTable.Function.Scale
import TextTable.Template.Brace
import TextTable.Template.Dollar
import TextTable.Template.Percent

/-! # Built-in format functions

A format function makes text of a value and a spec, whose meaning is up to the function.
-/

namespace TextTable

/-- The built-in format functions. -/
inductive Builtin where
  /-- The spec is a format spec. -/
  | format
  /-- The spec is a text for true and a text for false, with a comma between. -/
  | boolean
  /-- The spec is a format spec for the scaled number. -/
  | scale (s : Scale)
  /-- The spec is a brace template over the fields of an object. -/
  | mformat
  /-- The spec is a percent template. -/
  | pformat
  /-- The spec is a brace template with the value as its only argument. -/
  | sformat
  /-- The spec is a dollar template over the fields of an object. -/
  | tformat
  deriving DecidableEq, Repr

namespace Builtin

def name : Builtin → Text
  | .format => "format".toList
  | .boolean => "boolean".toList
  | .scale s => s.name
  | .mformat => "mformat".toList
  | .pformat => "pformat".toList
  | .sformat => "sformat".toList
  | .tformat => "tformat".toList

def all : List Builtin :=
  [.format, .boolean, .mformat, .pformat, .sformat, .tformat] ++ Scale.all.map .scale

def ofName? (name : Text) : Option Builtin := all.find? fun b => b.name = name

/-- One of the two texts of a spec, by whether the value holds. The empty spec stands for `T,F`. -/
def chooseText (v : Value) (spec : Text) : Except FormatError Text :=
  if spec.isEmpty then .ok (if v.holds then ['T'] else ['F'])
  else
    match spec.cutAt ',' with
    | some (yes, no) => .ok (if v.holds then yes else no)
    | none => .error (.invalidSpec spec .choice)

/-- The value of a result that may be infinite. -/
def ofRounded : Rounded → Value
  | .finite x => .float x
  | .infinite _ => .null

/-- The value scaled, for a number. A result out of range is null. -/
def scaled (s : Scale) (v : Value) : Except FormatError Value :=
  match v.toDouble? with
  | some (.finite x) => .ok (ofRounded (s.apply x))
  | some (.infinite _) => .ok .null
  | none => .error (.notNumeric v.type)

/-- The text of a value under a spec. -/
def call (b : Builtin) (v : Value) (spec : Text) : Except FormatError Text :=
  match b with
  | .format => formatValue v spec
  | .boolean => chooseText v spec
  | .scale s => do formatValue (← scaled s v) spec
  | .mformat =>
    match v.fields? with
    | some fields => Brace.expand spec { keywords := fields }
    | none => .error (.typeMismatch '{' v.type)
  | .pformat => Percent.expand spec v
  | .sformat => Brace.expand spec { positional := [v] }
  | .tformat =>
    match v.fields? with
    | some fields => Dollar.expand spec fields
    | none => .error (.typeMismatch '$' v.type)

end Builtin

end TextTable
