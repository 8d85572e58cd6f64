import TextTable.Format.Spec

/-! # Fields

A field is the text of a value before padding. Numbers and texts each become a field under a format
spec, or are refused; padding comes last and never refuses or cuts anything.
-/

namespace TextTable

/-- The text of a value before padding. -/
structure Field where
  /-- The sign and the radix mark. -/
  lead : Text
  body : Text
  align : FieldAlign
  deriving DecidableEq, Repr

namespace Field

def text (f : Field) : Text := f.lead ++ f.body

/-- The field with `n` fill characters. -/
def padBy (f : Field) (fill : Char) (n : Nat) : Text :=
  match f.align with
  | .left => f.text ++ List.replicate n fill
  | .right => List.replicate n fill ++ f.text
  | .center => List.replicate (n / 2) fill ++ f.text ++ List.replicate (n - n / 2) fill
  | .afterSign => f.lead ++ List.replicate n fill ++ f.body

/-- The field padded to at least `width` characters. -/
def pad (f : Field) (fill : Char) (width : Option Nat) : Text :=
  f.padBy fill (width.getD 0 - f.text.length)

theorem length_padBy (f : Field) (fill : Char) (n : Nat) :
    (f.padBy fill n).length = f.text.length + n := by
  unfold padBy
  split <;> simp [text] <;> omega

theorem length_pad (f : Field) (fill : Char) (width : Option Nat) :
    (f.pad fill width).length = max (width.getD 0) f.text.length := by
  rw [pad, length_padBy]
  omega

end Field

/-- A way to write the digits of an integer. -/
inductive Radix where
  | decimal
  | binary
  | octal
  | hex
  | upperHex
  deriving DecidableEq, Repr

namespace Radix

def ofCode? : Option Char → Option Radix
  | none | some 'd' | some 'n' => some .decimal
  | some 'b' => some .binary
  | some 'o' => some .octal
  | some 'x' => some .hex
  | some 'X' => some .upperHex
  | _ => none

def base : Radix → Nat
  | .decimal => 10
  | .binary => 2
  | .octal => 8
  | .hex | .upperHex => 16

/-- The mark in front of the digits in the alternate form. -/
def mark : Radix → Text
  | .decimal => []
  | .binary => ['0', 'b']
  | .octal => ['0', 'o']
  | .hex => ['0', 'x']
  | .upperHex => ['0', 'X']

/-- The number of digits in a group. -/
def groupSize : Radix → Nat
  | .decimal => 3
  | _ => 4

def digits (r : Radix) (n : Nat) : Text :=
  let digits := Nat.toDigits r.base n
  if r = .upperHex then digits.map Char.toUpper else digits

end Radix

namespace FormatSpec

/-- The digits in groups. -/
def group (spec : FormatSpec) (size : Nat) (digits : Text) : Text :=
  match spec.grouping with
  | none => digits
  | some g => groupDigits g.char size digits

/-- The field of an integer in digits. Commas group decimal digits only. -/
def radixField (spec : FormatSpec) (r : Radix) (n : Int) : Except FormatError Field :=
  if spec.precision.isSome then .error (.invalidSpec [] .integerPrecision)
  else if r ≠ .decimal ∧ spec.grouping = some .comma then
    .error (.invalidSpec [] (.radixGrouping .comma (spec.code.getD 'd')))
  else
    .ok {
      lead := spec.sign.text (n < 0) ++ if spec.alternate then r.mark else []
      body := spec.group r.groupSize (r.digits n.natAbs)
      align := spec.numericAlign }

/-- The field of the character with the given code point. -/
def characterField (spec : FormatSpec) (n : Int) : Except FormatError Field :=
  if 0 ≤ n ∧ n.toNat.isValidChar then
    .ok { lead := [], body := [Char.ofNat n.toNat], align := spec.align.getD .right }
  else .error (.invalidSpec ['c'] (.characterRange n))

end FormatSpec

namespace Rounded

/-- The magnitude with `places` decimals. The alternate form keeps the point without decimals. -/
def fixed (places : Nat) (alternate : Bool) (x : Rounded) : Text :=
  let text := match x with
    | .finite x => TextTable.fixed x.units Double.unitsPerOne places
    | .infinite _ => "inf".toList
  if alternate && places = 0 then text ++ ['.'] else text

end Rounded

namespace Double

/-- The magnitude with `places` decimals in the mantissa, and an exponent. The alternate form keeps
the point without decimals. -/
def exponential (places : Nat) (alternate : Bool) (x : Double) : Text :=
  let s := Scientific.round x.units unitsPerOne (places + 1)
  s.mantissa ++ (if alternate && places = 0 then ['.'] else []) ++ exponentText 2 s.exponent

/-- The text without the zeros that end its decimals, and without a point at its end. -/
def dropZeros (t : Text) : Text :=
  if '.' ∈ t then ((t.reverse.dropWhile (· = '0')).dropWhile (· = '.')).reverse else t

/-- The magnitude rounded to `precision` significant digits, at least one. It is positional if the
exponent of the rounded number is at least -4 and less than the number of digits. The alternate form
keeps zeros at the end. The exponents from -4 to -2 ask for up to three decimals more than digits,
and their number is not bounded, where a printer may refuse more than 65535. -/
def general (precision : Nat) (alternate : Bool) (x : Double) : Text :=
  let count := max precision 1
  let s := Scientific.round x.units unitsPerOne count
  let (mantissa, exponent) :=
    if -4 ≤ s.exponent ∧ s.exponent < count then
      (TextTable.fixed x.units unitsPerOne (count - 1 - s.exponent).toNat, [])
    else (s.mantissa, exponentText 2 s.exponent)
  (if alternate then mantissa else dropZeros mantissa) ++ exponent

/-- The magnitude with the fewest digits that read back: positional for exponents from -4 to 15, and
otherwise with an exponent of at least two digits. -/
def plain (x : Double) : Text :=
  if x.isZero then "0.0".toList
  else
    let s := Scientific.shortest .up x.rank
    if -4 ≤ s.exponent ∧ s.exponent < 16 then withPoint s.positional
    else s.mantissa ++ exponentText 2 s.exponent

end Double

namespace FormatSpec

/-- The magnitude of a finite number under the type code of a spec. -/
def doubleBody (spec : FormatSpec) (x : Double) : Except FormatError Text :=
  let precision := spec.precision.getD 6
  match spec.code with
  | none =>
    match spec.precision with
    | none => .ok x.plain
    | some p =>
      let text := x.general p spec.alternate
      .ok (if text.any fun c => c = '.' || c = 'e' then text else text ++ ['.', '0'])
  | some code =>
    match code with
    | 'f' | 'F' => .ok ((Rounded.finite x).fixed precision spec.alternate)
    | 'e' => .ok (x.exponential precision spec.alternate)
    | 'E' => .ok ((x.exponential precision spec.alternate).map Char.toUpper)
    | 'g' | 'n' => .ok (x.general precision spec.alternate)
    | 'G' => .ok ((x.general precision spec.alternate).map Char.toUpper)
    | '%' => .ok ((x.scaleUp 100).fixed precision spec.alternate ++ ['%'])
    | _ => .error (.typeMismatch code .float)

/-- A digit other than zero. -/
def isNonzeroDigit (c : Char) : Bool := '1' ≤ c && c ≤ '9'

/-- The digits in front of a number's text in groups. -/
def groupWhole (spec : FormatSpec) (body : Text) : Text :=
  spec.group 3 (body.takeWhile Char.isDigit) ++ body.dropWhile Char.isDigit

/-- The field of a number in double precision. -/
def floatField (spec : FormatSpec) (x : Rounded) : Except FormatError Field := do
  let body ← match x with
    | .finite x => spec.doubleBody x
    | .infinite _ => pure "inf".toList
  let negative := x.negative && !(spec.noNegativeZero && !body.any isNonzeroDigit)
  return {
    lead := spec.sign.text negative
    body := spec.groupWhole body
    align := spec.numericAlign }

/-- The field of an integer. Codes of floats apply to the integer in double precision. -/
def integerField (spec : FormatSpec) (n : Int) : Except FormatError Field :=
  match Radix.ofCode? spec.code with
  | some r => spec.radixField r n
  | none =>
    match spec.code with
    | some 'c' => spec.characterField n
    | some code =>
      if code ∈ ['e', 'E', 'f', 'F', 'g', 'G', '%'] then spec.floatField (Double.ofInt n)
      else .error (.typeMismatch code .integer)
    | none => spec.radixField .decimal n

/-- The field of a text. The precision is the largest number of characters. -/
def textField (spec : FormatSpec) (t : Text) : Except FormatError Field :=
  match spec.code with
  | none | some 's' =>
    if spec.sign ≠ .minus then .error (.invalidSpec [] .textSign)
    else if spec.alternate then .error (.invalidSpec [] .textAlternate)
    else if spec.grouping.isSome then .error (.invalidSpec [] .textGrouping)
    else if spec.align = some .afterSign then .error (.invalidSpec [] .textAfterSign)
    else
      let body := match spec.precision with
        | some p => t.take p
        | none => t
      .ok { lead := [], body, align := spec.align.getD .left }
  | some code => .error (.typeMismatch code .string)

/-- The field of a value. Booleans are text unless the code asks for a number; arrays and objects
are compact JSON text. -/
def field (spec : FormatSpec) : Value → Except FormatError Field
  | .null => spec.textField "null".toList
  | .bool b =>
    match spec.code with
    | none | some 's' => spec.textField (if b then "true".toList else "false".toList)
    | some _ => spec.integerField b.toNat
  | .int n => spec.integerField n
  | .float x => spec.floatField (.finite x)
  | .string t => spec.textField t
  | .array items => spec.textField (Value.array items).toJson
  | .object fields => spec.textField (Value.object fields).toJson

/-- The field padded to the width of the spec. -/
def padField (spec : FormatSpec) (f : Field) : Text := f.pad spec.fillChar spec.width

/-- The text of a value under a spec. -/
def format (spec : FormatSpec) (v : Value) : Except FormatError Text :=
  (spec.field v).map spec.padField

end FormatSpec

/-- The text of a value under the text of a spec. -/
def formatValue (v : Value) (spec : Text) : Except FormatError Text :=
  match FormatSpec.parse spec with
  | .error fault => .error (.invalidSpec spec fault)
  | .ok parsed => (parsed.format v).mapError (FormatError.withSpec spec)

end TextTable
