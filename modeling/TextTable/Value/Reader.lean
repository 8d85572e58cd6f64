import TextTable.Number.Digits
import TextTable.Value.Basic

/-! # Reading JSON text

A value is read from the whole text, with white space around every token. Objects keep their fields
as they are written, in that order and with repetitions. An integer literal outside of the 64-bit
range is a float, and so is `-0`.
-/

namespace TextTable

namespace Json

def isSpace (c : Char) : Bool := c = ' ' || c = '\t' || c = '\n' || c = '\r'

def skipSpace (t : Text) : Text := t.dropWhile isSpace

/-- The value of a hexadecimal digit. -/
def hexDigit? (c : Char) : Option Nat :=
  if c.isDigit then some (c.toNat - '0'.toNat)
  else if 'a' ≤ c ∧ c ≤ 'f' then some (c.toNat - 'a'.toNat + 10)
  else if 'A' ≤ c ∧ c ≤ 'F' then some (c.toNat - 'A'.toNat + 10)
  else none

/-- The value of four hexadecimal digits. -/
def hexNumber? (a b c d : Char) : Option Nat := do
  return (((← hexDigit? a) * 16 + (← hexDigit? b)) * 16 + (← hexDigit? c)) * 16 + (← hexDigit? d)

/-- The character that a backslash and `c` stand for. -/
def unescape? (c : Char) : Option Char :=
  match c with
  | '"' => some '"'
  | '\\' => some '\\'
  | '/' => some '/'
  | 'b' => some '\x08'
  | 'f' => some '\x0C'
  | 'n' => some '\n'
  | 'r' => some '\r'
  | 't' => some '\t'
  | _ => none

/-- The rest of a string after its opening quote, and the text after its closing quote. Halves of a
surrogate pair are read as one character, and only as a pair. -/
def readString : Text → Option (Text × Text)
  | [] => none
  | '"' :: rest => some ([], rest)
  | '\\' :: 'u' :: a :: b :: c :: d :: rest =>
    match hexNumber? a b c d with
    | none => none
    | some n =>
      if 0xD800 ≤ n && n < 0xDC00 then
        match rest with
        | '\\' :: 'u' :: a :: b :: c :: d :: rest =>
          match hexNumber? a b c d with
          | none => none
          | some m =>
            if 0xDC00 ≤ m && m < 0xE000 then
              let char := Char.ofNat (0x10000 + (n - 0xD800) * 0x400 + (m - 0xDC00))
              (readString rest).map fun (t, after) => (char :: t, after)
            else none
        | _ => none
      else if 0xDC00 ≤ n && n < 0xE000 then none
      else (readString rest).map fun (t, after) => (Char.ofNat n :: t, after)
  | '\\' :: c :: rest =>
    match unescape? c with
    | none => none
    | some char => (readString rest).map fun (t, after) => (char :: t, after)
  | c :: rest =>
    if c.toNat < 0x20 then none else (readString rest).map fun (t, after) => (c :: t, after)

/-- The digits in front, and the rest. -/
def takeDigits (t : Text) : Text × Text := t.span Char.isDigit

/-- A float, unless the literal is out of range. -/
def ofRounded : Rounded → Option Value
  | .finite x => some (.float x)
  | .infinite _ => none

/-- The value of an integer literal, which is a float if it does not fit in 64 bits. -/
def integer (negative : Bool) (digits : Text) : Option Value :=
  let n := Nat.ofDigitChars 10 digits 0
  if negative then
    if 0 < n && n ≤ maxSize / 2 + 1 then some (.int (-(n : Int)))
    else ofRounded (Double.ofDecimal true n 0)
  else if n ≤ maxSize then some (.int n)
  else ofRounded (Double.ofDecimal false n 0)

/-- The decimals of a number after its integer part, which may be none, and the rest. -/
def readFraction (t : Text) : Option (Text × Text) :=
  match t with
  | '.' :: rest =>
    let (decimals, rest) := takeDigits rest
    if decimals.isEmpty then none else some (decimals, rest)
  | _ => some ([], t)

/-- The exponent of a number after its decimals, if there is one, and the rest. -/
def readExponent (t : Text) : Option (Option Int × Text) :=
  match t with
  | [] => some (none, [])
  | c :: rest =>
    if c = 'e' || c = 'E' then
      let (negative, rest) := match rest with
        | '-' :: rest => (true, rest)
        | '+' :: rest => (false, rest)
        | _ => (false, rest)
      let (digits, rest) := takeDigits rest
      let n := Nat.ofDigitChars 10 digits 0
      if digits.isEmpty then none else some (some (if negative then -(n : Int) else n), rest)
    else some (none, c :: rest)

/-- A number, and the text after it. -/
def readNumber (t : Text) : Option (Value × Text) := do
  let (negative, t) := match t with
    | '-' :: rest => (true, rest)
    | _ => (false, t)
  let (whole, t) := takeDigits t
  if whole.isEmpty || (whole.head? = some '0' && 1 < whole.length) then none
  let (decimals, t) ← readFraction t
  let (exponent, t) ← readExponent t
  if decimals.isEmpty && exponent.isNone then
    return (← integer negative whole, t)
  let coefficient := Nat.ofDigitChars 10 (whole ++ decimals) 0
  let value := Double.ofDecimal negative coefficient (exponent.getD 0 - decimals.length)
  return (← ofRounded value, t)

/-- The text after a keyword. -/
def readWord (word : Text) (v : Value) (t : Text) : Option (Value × Text) :=
  if word.isPrefixOf t then some (v, t.drop word.length) else none

mutual

/-- A value, and the text after it. The fuel bounds the number of nested steps. -/
def readValue : Nat → Text → Option (Value × Text)
  | 0, _ => none
  | fuel + 1, t =>
    match skipSpace t with
    | [] => none
    | c :: rest =>
      if c = '"' then (readString rest).map fun (s, after) => (.string s, after)
      else if c = '[' then
        match skipSpace rest with
        | ']' :: rest => some (.array [], rest)
        | _ => (readItems fuel rest).map fun (items, after) => (.array items, after)
      else if c = '{' then
        match skipSpace rest with
        | '}' :: rest => some (.object [], rest)
        | _ => (readFields fuel rest).map fun (fields, after) => (.object fields, after)
      else if c = 'n' then readWord "null".toList .null (c :: rest)
      else if c = 't' then readWord "true".toList (.bool true) (c :: rest)
      else if c = 'f' then readWord "false".toList (.bool false) (c :: rest)
      else readNumber (c :: rest)

/-- The items of an array that is not empty, up to the closing bracket. -/
def readItems : Nat → Text → Option (List Value × Text)
  | 0, _ => none
  | fuel + 1, t => do
    let (v, rest) ← readValue fuel t
    match skipSpace rest with
    | ',' :: rest =>
      let (more, after) ← readItems fuel rest
      return (v :: more, after)
    | ']' :: rest => return ([v], rest)
    | _ => none

/-- The fields of an object that is not empty, up to the closing brace. -/
def readFields : Nat → Text → Option (List (Text × Value) × Text)
  | 0, _ => none
  | fuel + 1, t =>
    match skipSpace t with
    | '"' :: rest => do
      let (key, rest) ← readString rest
      match skipSpace rest with
      | ':' :: rest =>
        let (v, rest) ← readValue fuel rest
        match skipSpace rest with
        | ',' :: rest =>
          let (more, after) ← readFields fuel rest
          return ((key, v) :: more, after)
        | '}' :: rest => return ([(key, v)], rest)
        | _ => none
      | _ => none
    | _ => none

end

end Json

/-- The value that a JSON text denotes. -/
def Value.ofJson? (t : Text) : Option Value :=
  match Json.readValue (2 * t.length + 1) t with
  | some (v, rest) => if (Json.skipSpace rest).isEmpty then some v else none
  | none => none

end TextTable
