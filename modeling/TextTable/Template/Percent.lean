import TextTable.Template.Scan

/-! # Percent templates

In a percent template `%[(key)][flags][width][.precision][modifiers]code` stands for the text of an
argument, and `%%` stands for a percent sign. An array gives the arguments in order, an object gives
them by their keys, and any other value is the only argument.
-/

namespace TextTable.Percent

/-- The flags of a conversion. -/
structure Flags where
  left : Bool
  plus : Bool
  space : Bool
  alternate : Bool
  zero : Bool
  deriving DecidableEq, Repr

/-- A conversion. -/
structure Conversion where
  key : Option Text
  flags : Flags
  width : Option Nat
  /-- The precision, zero after a point without a number. -/
  precision : Option Nat
  code : Char
  deriving DecidableEq, Repr

/-- A part of a template. -/
inductive Part where
  | literal (c : Char)
  | conversion (c : Conversion)
  deriving DecidableEq, Repr

/-- The key in parentheses in front of a text, and the rest. -/
def takeKey (t : Text) : Except SpecFault (Option Text × Text) :=
  match t with
  | [] => .ok (none, [])
  | c :: rest =>
    if c = '(' then
      match Text.cutAt ')' rest with
      | some (key, after) => .ok (some key, after)
      | none => .error .incompleteKey
    else .ok (none, c :: rest)

def isFlag (c : Char) : Bool := c = '-' || c = '+' || c = ' ' || c = '#' || c = '0'

/-- The flags that a text of flag characters sets, in any order. -/
def Flags.ofText (t : Text) : Flags :=
  { left := '-' ∈ t, plus := '+' ∈ t, space := ' ' ∈ t, alternate := '#' ∈ t, zero := '0' ∈ t }

/-- The precision in front of a text, and the rest. -/
def takePrecision (t : Text) : Option Nat × Text :=
  match FormatSpec.takeFlag '.' t with
  | (false, rest) => (none, rest)
  | (true, rest) =>
    let (precision, rest) := FormatSpec.takeNumber rest
    (some (precision.getD 0), rest)

/-- A length modifier, which means nothing here. -/
def isModifier (c : Char) : Bool := c = 'h' || c = 'l' || c = 'L'

/-- The conversion after a percent sign, and the rest. -/
def takeConversion (t : Text) : Except SpecFault (Conversion × Text) := do
  let (key, t) ← takeKey t
  let flags := Flags.ofText (t.takeWhile isFlag)
  let (width, t) := FormatSpec.takeNumber (t.dropWhile isFlag)
  let (precision, t) := takePrecision t
  match t.dropWhile isModifier with
  | [] => .error .incompleteConversion
  | code :: rest => return ({ key, flags, width, precision, code }, rest)

theorem length_dropWhile_le (p : Char → Bool) (t : Text) : (t.dropWhile p).length ≤ t.length :=
  (List.dropWhile_suffix p).length_le

theorem length_takeKey {t rest : Text} {key : Option Text} (h : takeKey t = .ok (key, rest)) :
    rest.length ≤ t.length := by
  unfold takeKey at h
  split at h
  · simp_all
  · split at h
    · split at h
      · next hcut =>
        obtain ⟨rfl, rfl⟩ := Prod.mk.inj (Except.ok.inj h)
        have := (Text.cutAt_eq_some_iff.mp hcut).1
        subst this
        simp
        omega
      · simp at h
    · obtain ⟨rfl, rfl⟩ := Prod.mk.inj (Except.ok.inj h)
      exact Nat.le_refl _

theorem length_takePrecision (t : Text) : (takePrecision t).2.length ≤ t.length := by
  unfold takePrecision FormatSpec.takeFlag
  cases t with
  | nil => simp
  | cons c rest =>
    by_cases h : c = '.'
    · simp only [h, if_true, FormatSpec.takeNumber]
      exact Nat.le_succ_of_le (length_dropWhile_le _ _)
    · simp [h]

theorem length_takeConversion {t rest : Text} {c : Conversion}
    (h : takeConversion t = .ok (c, rest)) : rest.length < t.length := by
  unfold takeConversion at h
  cases hk : takeKey t with
  | error e => simp [hk, bind, Except.bind] at h
  | ok r =>
    obtain ⟨key, after⟩ := r
    simp only [hk, bind, Except.bind, FormatSpec.takeNumber] at h
    split at h
    · simp at h
    · next hd =>
      obtain ⟨_, rfl⟩ := Prod.mk.inj (Except.ok.inj h)
      have h₁ := congrArg List.length hd
      have h₂ := length_dropWhile_le isModifier
        (takePrecision ((after.dropWhile isFlag).dropWhile Char.isDigit)).2
      have h₃ := length_takePrecision ((after.dropWhile isFlag).dropWhile Char.isDigit)
      have h₄ := length_dropWhile_le Char.isDigit (after.dropWhile isFlag)
      have h₅ := length_dropWhile_le isFlag after
      have h₆ := length_takeKey hk
      simp only [List.length_cons] at h₁
      omega

/-- The parts of a template. -/
def scan : Text → Scan Part
  | [] => .done
  | '%' :: '%' :: rest => .cons (.literal '%') (scan rest)
  | c :: rest =>
    if c = '%' then
      match _h : takeConversion rest with
      | .ok (conversion, after) => .cons (.conversion conversion) (scan after)
      | .error fault => .stop fault
    else .cons (.literal c) (scan rest)
termination_by t => t.length
decreasing_by
  · simp only [List.length_cons]
    omega
  · have := length_takeConversion _h
    simp only [List.length_cons]
    omega
  · simp

/-- The format spec with the flags, the width and the precision of a conversion. The left flag rules
out the zero flag. -/
def Conversion.spec (c : Conversion) : FormatSpec :=
  let zero := c.flags.zero && !c.flags.left
  { fill := if zero then some '0' else none
    align := some (if c.flags.left then .left else if zero then .afterSign else .right)
    sign := if c.flags.plus then .plus else if c.flags.space then .space else .minus
    alternate := c.flags.alternate
    zeroPad := zero
    width := c.width
    precision := c.precision }

/-- A text under a spec that was made for numbers. -/
def textConversion (spec : FormatSpec) (t : Text) : Except FormatError Text :=
  let align := if spec.align = some .afterSign then some .right else spec.align
  let spec := { spec with sign := .minus, alternate := false, align, fill := some ' ' }
  (spec.textField t).map spec.padField

/-- The number of integers of 128 bits that are not negative. -/
def integerRange : Int := 0x80000000000000000000000000000000

/-- The integer that a value holds; of a float the integer part, kept within 128 bits. -/
def integerArgument (code : Char) : Value → Except FormatError Int
  | .int n => .ok n
  | .float x => .ok (max (-integerRange) (min (integerRange - 1) x.truncate))
  | .bool b => .ok b.toNat
  | v => .error (.typeMismatch code v.type)

/-- The field with zeros in front of its digits to make at least `count`. Sign characters do not
count. -/
def withMinDigits (count : Nat) (f : Field) : Text :=
  let signs := f.body.takeWhile fun c => c = '-' || c = '+' || c = ' '
  let digits := f.body.drop signs.length
  f.lead ++ signs ++ List.replicate (count - Text.byteSize digits) '0' ++ digits

/-- An integer whose precision is the least number of digits. With a precision the padding is
always spaces. -/
def integerConversion (spec : FormatSpec) (n : Int) : Except FormatError Text :=
  match spec.precision with
  | none => (spec.integerField n).map spec.padField
  | some count => do
    let f ← { spec with precision := none }.integerField n
    let align := if spec.align = some .left then FieldAlign.left else .right
    let padded : Field := { lead := [], body := withMinDigits count f, align }
    return padded.pad ' ' spec.width

/-- The text of an argument under a conversion. -/
def Conversion.expand (c : Conversion) (v : Value) : Except FormatError Text :=
  if c.code = 's' then textConversion c.spec v.plainText
  else if c.code ∈ ['r', 'a'] then textConversion c.spec v.toJson
  else if c.code ∈ ['d', 'i', 'u', 'o', 'x', 'X', 'c'] then do
    let n ← integerArgument c.code v
    let code := if c.code ∈ ['i', 'u'] then 'd' else c.code
    integerConversion { c.spec with code := some code } n
  else if c.code ∈ ['e', 'E', 'f', 'F', 'g', 'G'] then
    match v.toDouble? with
    | some x =>
      let spec := { c.spec with code := some c.code }
      (spec.floatField x).map spec.padField
    | none => .error (.typeMismatch c.code v.type)
  else .error (.invalidSpec [] (.unsupportedConversion c.code))

/-- The arguments that a value gives in order. -/
def arguments : Value → List Value
  | .array items => items
  | v => [v]

/-- The argument of a conversion, and the arguments that are left. -/
def Conversion.select (c : Conversion) (keywords : Option (Dict Value)) (left : List Value) :
    Except FormatError (Value × List Value) :=
  match c.key with
  | some key =>
    match keywords with
    | none => .error (.arguments .mappingRequired)
    | some fields =>
      match fields.get? key with
      | some v => .ok (v, left)
      | none => .error (.missingKey key)
  | none =>
    match left with
    | v :: rest => .ok (v, rest)
    | [] => .error (.arguments .tooFew)

/-- The text of the parts of a template, and the arguments that are left. -/
def expandParts (keywords : Option (Dict Value)) :
    List Value → List Part → Except FormatError (Text × List Value)
  | left, [] => .ok ([], left)
  | left, .literal c :: rest => (expandParts keywords left rest).map fun (t, left) => (c :: t, left)
  | left, .conversion c :: rest => do
    let (v, left) ← c.select keywords left
    let t ← c.expand v
    let (more, left) ← expandParts keywords left rest
    return (t ++ more, left)

/-- The text of a template with the arguments of a value. Only an object may be left over. -/
def expand (template : Text) (v : Value) : Except FormatError Text := do
  let s := scan template
  let (t, left) ← expandParts v.fields? (arguments v) s.parts
  templateError template s.fault
  if v.fields?.isNone && !left.isEmpty then .error (.arguments .tooMany)
  return t

end TextTable.Percent
