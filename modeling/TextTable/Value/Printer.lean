import TextTable.Number.Decimal
import TextTable.Value.Basic

/-! # Compact JSON text

The text of a value without white space. Strings escape quotes, backslashes and control characters
only; floats show the fewest digits that read back.
-/

namespace TextTable

/-- A character inside a string. -/
def escapedChar (c : Char) : Text :=
  match c with
  | '"' => ['\\', '"']
  | '\\' => ['\\', '\\']
  | '\x08' => ['\\', 'b']
  | '\t' => ['\\', 't']
  | '\n' => ['\\', 'n']
  | '\x0C' => ['\\', 'f']
  | '\r' => ['\\', 'r']
  | _ =>
    if c.toNat < 0x20 then
      ['\\', 'u', '0', '0', Nat.digitChar (c.toNat / 16), Nat.digitChar (c.toNat % 16)]
    else [c]

/-- A string in quotes. -/
def quoted (t : Text) : Text := '"' :: t.flatMap escapedChar ++ ['"']

/-- A magnitude in JSON text: positional for exponents from -5 to 15, and otherwise with an exponent
that has a sign and no padding. -/
def Double.jsonMagnitude (rank : Nat) : Text :=
  let s := Scientific.shortest .toEven rank
  if -5 ≤ s.exponent ∧ s.exponent ≤ 15 then withPoint s.positional
  else s.mantissa ++ exponentText 1 s.exponent

/-- A number in decimal. -/
def intText (n : Int) : Text :=
  if n < 0 then '-' :: Nat.toDigits 10 n.natAbs else Nat.toDigits 10 n.natAbs

def Double.toJson (x : Double) : Text :=
  if x.negative then '-' :: jsonMagnitude x.rank else jsonMagnitude x.rank

namespace Value

mutual

/-- The compact JSON text of a value. -/
def toJson : Value → Text
  | .null => "null".toList
  | .bool true => "true".toList
  | .bool false => "false".toList
  | .int n => intText n
  | .float x => x.toJson
  | .string t => quoted t
  | .array items => '[' :: itemsToJson items
  | .object fields => '{' :: fieldsToJson fields

/-- The items of an array up to the closing bracket. -/
def itemsToJson : List Value → Text
  | [] => [']']
  | [v] => v.toJson ++ [']']
  | v :: rest => v.toJson ++ ',' :: itemsToJson rest

/-- The fields of an object up to the closing brace. -/
def fieldsToJson : List (Text × Value) → Text
  | [] => ['}']
  | [(key, v)] => quoted key ++ ':' :: v.toJson ++ ['}']
  | (key, v) :: rest => quoted key ++ ':' :: v.toJson ++ ',' :: fieldsToJson rest

end

end Value

end TextTable
