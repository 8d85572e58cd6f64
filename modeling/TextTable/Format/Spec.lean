import TextTable.Format.Error

/-! # Format specs

A format spec is written `[[fill]align][sign][z][#][0][width][grouping][.precision][type]`. Every
part is optional. `FormatSpec.parse` reads a spec and `FormatSpec.toText` writes it.
-/

namespace TextTable

/-- Where a short field stands in its width. -/
inductive FieldAlign where
  | left
  | right
  | center
  /-- The padding goes between the sign and the digits. -/
  | afterSign
  deriving DecidableEq, Repr

def FieldAlign.char : FieldAlign → Char
  | .left => '<'
  | .right => '>'
  | .center => '^'
  | .afterSign => '='

def FieldAlign.ofChar? : Char → Option FieldAlign
  | '<' => some .left
  | '>' => some .right
  | '^' => some .center
  | '=' => some .afterSign
  | _ => none

@[simp] theorem FieldAlign.ofChar?_char (a : FieldAlign) : ofChar? a.char = some a := by
  cases a <;> rfl

/-- What stands in front of a number that is not negative. -/
inductive Sign where
  /-- Nothing. -/
  | minus
  /-- A plus sign. -/
  | plus
  /-- A space. -/
  | space
  deriving DecidableEq, Repr

def Sign.char : Sign → Char
  | .minus => '-'
  | .plus => '+'
  | .space => ' '

def Sign.ofChar? : Char → Option Sign
  | '-' => some .minus
  | '+' => some .plus
  | ' ' => some .space
  | _ => none

@[simp] theorem Sign.ofChar?_char (s : Sign) : ofChar? s.char = some s := by cases s <;> rfl

/-- The sign of a number. -/
def Sign.text (s : Sign) (negative : Bool) : Text :=
  if negative then ['-']
  else
    match s with
    | .minus => []
    | .plus => ['+']
    | .space => [' ']

/-- A format spec. -/
structure FormatSpec where
  fill : Option Char := none
  align : Option FieldAlign := none
  sign : Sign := .minus
  /-- A negative number that shows no digit but zero has no minus sign. -/
  noNegativeZero : Bool := false
  alternate : Bool := false
  zeroPad : Bool := false
  width : Option Nat := none
  grouping : Option Grouping := none
  precision : Option Nat := none
  /-- The type code. -/
  code : Option Char := none
  deriving DecidableEq, Repr, Inhabited

namespace FormatSpec

/-- The fill and the alignment in front of a text, and the rest. A character before an alignment
character is a fill, whatever it is. -/
def takeAlign (t : Text) : Option Char × Option FieldAlign × Text :=
  match t with
  | [] => (none, none, [])
  | [c] =>
    match FieldAlign.ofChar? c with
    | some a => (none, some a, [])
    | none => (none, none, [c])
  | fill :: c :: rest =>
    match FieldAlign.ofChar? c with
    | some a => (some fill, some a, rest)
    | none =>
      match FieldAlign.ofChar? fill with
      | some a => (none, some a, c :: rest)
      | none => (none, none, fill :: c :: rest)

/-- The sign option in front of a text, and the rest. -/
def takeSign (t : Text) : Sign × Text :=
  match t with
  | [] => (.minus, [])
  | c :: rest =>
    match Sign.ofChar? c with
    | some s => (s, rest)
    | none => (.minus, c :: rest)

/-- Whether a text starts with `flag`, and the rest. -/
def takeFlag (flag : Char) (t : Text) : Bool × Text :=
  match t with
  | [] => (false, [])
  | c :: rest => if c = flag then (true, rest) else (false, c :: rest)

/-- The number in front of a text, and the rest. Digits of a number that is too large are passed
over. -/
def takeNumber (t : Text) : Option Nat × Text :=
  (readDigits (t.takeWhile Char.isDigit), t.dropWhile Char.isDigit)

/-- The grouping option in front of a text, and the rest. -/
def takeGrouping (t : Text) : Option Grouping × Text :=
  match t with
  | [] => (none, [])
  | c :: rest =>
    match Grouping.ofChar? c with
    | some g => (some g, rest)
    | none => (none, c :: rest)

/-- The precision in front of a text, and the rest. A point needs a number. -/
def takePrecision (t : Text) : Except SpecFault (Option Nat × Text) :=
  match takeFlag '.' t with
  | (false, rest) => .ok (none, rest)
  | (true, rest) =>
    match takeNumber rest with
    | (some p, rest) => .ok (some p, rest)
    | (none, _) => .error .missingPrecision

/-- The type code, which ends a spec. -/
def takeCode (t : Text) : Except SpecFault (Option Char) :=
  match t with
  | [] => .ok none
  | [c] => .ok (some c)
  | _ => .error .trailingText

/-- Reads a format spec. -/
def parse (t : Text) : Except SpecFault FormatSpec := do
  let (fill, align, t) := takeAlign t
  let (sign, t) := takeSign t
  let (noNegativeZero, t) := takeFlag 'z' t
  let (alternate, t) := takeFlag '#' t
  let (zeroPad, t) := takeFlag '0' t
  let (width, t) := takeNumber t
  let (grouping, t) := takeGrouping t
  let (precision, t) ← takePrecision t
  let code ← takeCode t
  return { fill, align, sign, noNegativeZero, alternate, zeroPad, width, grouping, precision, code }

/-- Writes a format spec. The sign option is always written. -/
def toText (spec : FormatSpec) : Text :=
  spec.fill.toList ++ (spec.align.map FieldAlign.char).toList ++ [spec.sign.char] ++
    (if spec.noNegativeZero then ['z'] else []) ++ (if spec.alternate then ['#'] else []) ++
    (if spec.zeroPad then ['0'] else []) ++ (spec.width.map (Nat.toDigits 10)).getD [] ++
    (spec.grouping.map Grouping.char).toList ++
    (spec.precision.map fun p => '.' :: Nat.toDigits 10 p).getD [] ++ spec.code.toList

/-- The character that pads a field. -/
def fillChar (spec : FormatSpec) : Char := spec.fill.getD (if spec.zeroPad then '0' else ' ')

/-- The alignment of a number. -/
def numericAlign (spec : FormatSpec) : FieldAlign :=
  spec.align.getD (if spec.zeroPad then .afterSign else .right)

end FormatSpec

end TextTable
