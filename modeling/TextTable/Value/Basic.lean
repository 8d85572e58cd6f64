import TextTable.Dict
import TextTable.Number.Double

/-! # Cell values

A cell holds a JSON value. Integers and floats are different values even if they denote the same
number, and a cell's objects list their fields in the order of their keys.
-/

namespace TextTable

/-- A JSON value. -/
inductive Value where
  | null
  | bool (b : Bool)
  | int (n : Int)
  | float (x : Double)
  | string (t : Text)
  | array (items : List Value)
  | object (fields : List (Text × Value))
  deriving Inhabited

/-- The type of a value, as error messages name it. -/
inductive ValueType where
  | null
  | boolean
  | integer
  | float
  | string
  | array
  | object
  deriving DecidableEq, Repr

def ValueType.name : ValueType → Text
  | .null => "null".toList
  | .boolean => "boolean".toList
  | .integer => "integer".toList
  | .float => "float".toList
  | .string => "string".toList
  | .array => "array".toList
  | .object => "object".toList

namespace Value

def type : Value → ValueType
  | .null => .null
  | .bool _ => .boolean
  | .int _ => .integer
  | .float _ => .float
  | .string _ => .string
  | .array _ => .array
  | .object _ => .object

/-- The value is a number. Booleans are none. -/
def isNumeric : Value → Bool
  | .int _ | .float _ => true
  | _ => false

/-- The value is a number less than zero. -/
def isNegative : Value → Bool
  | .int n => n < 0
  | .float x => x.isNegative
  | _ => false

/-- Null, false, zero, empty text and empty containers do not hold, and all other values do. -/
def holds : Value → Bool
  | .null => false
  | .bool b => b
  | .int n => n != 0
  | .float x => !x.isZero
  | .string t => !t.isEmpty
  | .array items => !items.isEmpty
  | .object fields => !fields.isEmpty

/-- The fields of an object. -/
def fields? : Value → Option (Dict Value)
  | .object fields => some fields
  | _ => none

/-- The number as a double, if the value is one. -/
def toDouble? : Value → Option Rounded
  | .int n => some (Double.ofInt n)
  | .float x => some (.finite x)
  | _ => none

mutual

/-- The value with the fields of all its objects in the order of their keys. Of fields with the same
key the last one is kept. -/
def ordered : Value → Value
  | .null => .null
  | .bool b => .bool b
  | .int n => .int n
  | .float x => .float x
  | .string t => .string t
  | .array items => .array (orderedItems items)
  | .object fields => .object (orderedFields fields)

def orderedItems : List Value → List Value
  | [] => []
  | v :: rest => v.ordered :: orderedItems rest

def orderedFields : List (Text × Value) → List (Text × Value)
  | [] => []
  | (key, v) :: rest => Dict.insertNew key v.ordered (orderedFields rest)

end

end Value

end TextTable
