import TextTable.Template.Scan

/-! # Brace templates

In a brace template `{name!conversion:spec}` stands for the text of an argument under a format spec,
and `{{` and `}}` stand for braces. The name is empty or a number for a positional argument, or the
key of a keyword argument, and `.key` and `[key]` after it lead into the argument.
-/

namespace TextTable.Brace

/-- A step from a value into one of its parts. -/
inductive Accessor where
  /-- The field `.key` of an object. -/
  | attribute (key : Text)
  /-- The field or item `[key]` of an object or an array. -/
  | element (key : Text)
  deriving DecidableEq, Repr

/-- The argument that a field names. -/
inductive Argument where
  /-- The positional argument after the one that was taken last. -/
  | next
  | position (i : Nat)
  | keyword (key : Text)
  deriving DecidableEq, Repr

/-- A replacement field. -/
structure Replacement where
  argument : Argument
  path : Scan Accessor
  conversion : Option Char
  spec : Text

/-- A part of a template. -/
inductive Part where
  | literal (c : Char)
  | replacement (r : Replacement)

mutual

/-- The accessors that a text consists of. -/
def scanPath : Text → Scan Accessor
  | [] => .done
  | c :: rest =>
    if c = '.' then scanAttribute [] rest
    else if c = '[' then scanElement [] rest
    else .stop .afterBracket

/-- The accessors after a point, `key` being read already. -/
def scanAttribute (key : Text) : Text → Scan Accessor
  | [] => .cons (.attribute key) .done
  | c :: rest =>
    if c = '.' then .cons (.attribute key) (scanAttribute [] rest)
    else if c = '[' then .cons (.attribute key) (scanElement [] rest)
    else scanAttribute (key ++ [c]) rest

/-- The accessors after an opening bracket, `key` being read already. -/
def scanElement (key : Text) : Text → Scan Accessor
  | [] => .stop .missingBracket
  | c :: rest =>
    if c = ']' then .cons (.element key) (scanPath rest) else scanElement (key ++ [c]) rest

end

/-- The name in front of the first `!` or `:` outside of brackets, and the rest. -/
def splitName (depth : Int) : Text → Text × Text
  | [] => ([], [])
  | c :: rest =>
    if depth = 0 ∧ (c = '!' ∨ c = ':') then ([], c :: rest)
    else
      let depth := if c = '[' then depth + 1 else if c = ']' then depth - 1 else depth
      let (name, after) := splitName depth rest
      (c :: name, after)

/-- The conversion that follows a name, and the rest. -/
def splitConversion : Text → Option Char × Text
  | ['!'] => (none, [])
  | '!' :: c :: rest => (some c, rest)
  | t => (none, t)

/-- The spec without the colon in front. -/
def dropColon : Text → Text
  | ':' :: rest => rest
  | t => t

/-- The argument with the given name. -/
def Argument.ofName (name : Text) : Argument :=
  if name.isEmpty then .next
  else
    match readSize name with
    | some i => .position i
    | none => .keyword name

/-- A character that starts an accessor. -/
def startsAccessor (c : Char) : Bool := c = '.' || c = '['

/-- The replacement field with the given text between its braces. -/
def Replacement.ofText (t : Text) : Replacement :=
  let (name, rest) := splitName 0 t
  let (conversion, rest) := splitConversion rest
  { argument := .ofName (name.takeWhile fun c => !startsAccessor c)
    path := scanPath (name.dropWhile fun c => !startsAccessor c)
    conversion
    spec := dropColon rest }

mutual

/-- The parts of a template. -/
def scan : Text → Scan Part
  | [] => .done
  | '{' :: '{' :: rest => .cons (.literal '{') (scan rest)
  | '}' :: '}' :: rest => .cons (.literal '}') (scan rest)
  | c :: rest =>
    if c = '{' then scanReplacement [] rest
    else if c = '}' then .stop .closingBrace
    else .cons (.literal c) (scan rest)

/-- The parts of a template after an opening brace, `t` being read already. -/
def scanReplacement (t : Text) : Text → Scan Part
  | [] => .stop .openingBrace
  | c :: rest =>
    if c = '}' then
      if t.count '[' = t.count ']' then .cons (.replacement (.ofText t)) (scan rest)
      else .stop .unmatchedBracket
    else if c = '{' then .stop .nestedField
    else scanReplacement (t ++ [c]) rest

end

/-- The part of a value to which an accessor leads. -/
def Accessor.get (v : Value) : Accessor → Except FormatError Value
  | .attribute key =>
    match v.fields?.bind (·.get? key) with
    | some w => .ok w
    | none => .error (.missingKey key)
  | .element key =>
    match v with
    | .array items =>
      match readSize key with
      | none => .error (.missingKey key)
      | some i =>
        match items[i]? with
        | some w => .ok w
        | none => .error (.index i)
    | .object fields =>
      match Dict.get? fields key with
      | some w => .ok w
      | none => .error (.missingKey key)
    | _ => .error (.missingKey key)

/-- The part of a value to which a path leads. -/
def follow (v : Value) : List Accessor → Except FormatError Value
  | [] => .ok v
  | a :: rest => do follow (← a.get v) rest

/-- The arguments of a template. -/
structure Arguments where
  positional : List Value := []
  keywords : Dict Value := []

/-- How the fields of a template have named positional arguments so far. -/
inductive Numbering where
  | unused
  /-- By their order, with this many fields. -/
  | automatic (used : Nat)
  /-- By their numbers. -/
  | manual
  deriving DecidableEq, Repr

def Arguments.atPosition (args : Arguments) (i : Nat) : Except FormatError Value :=
  match args.positional[i]? with
  | some v => .ok v
  | none => .error (.index i)

/-- The value of an argument, and the numbering with it. -/
def Arguments.select (args : Arguments) (numbering : Numbering) :
    Argument → Except FormatError (Value × Numbering)
  | .next =>
    match numbering with
    | .unused => (args.atPosition 0).map (·, .automatic 1)
    | .automatic used => (args.atPosition used).map (·, .automatic (used + 1))
    | .manual => .error (.invalidSpec [] .manualToAutomatic)
  | .position i =>
    match numbering with
    | .automatic _ => .error (.invalidSpec [] .automaticToManual)
    | _ => (args.atPosition i).map (·, .manual)
  | .keyword key =>
    match args.keywords.get? key with
    | some v => .ok (v, numbering)
    | none => .error (.missingKey key)

/-- The value that a conversion makes of a value. -/
def convert (v : Value) : Option Char → Except FormatError Value
  | none => .ok v
  | some c =>
    if c = 's' then .ok (.string v.plainText)
    else if c = 'r' ∨ c = 'a' then .ok (.string v.toJson)
    else .error (.invalidSpec [] (.unknownConversion c))

/-- The text of a field whose argument is `v`. -/
def Replacement.expand (template : Text) (r : Replacement) (v : Value) :
    Except FormatError Text := do
  let v ← follow v r.path.parts
  templateError template r.path.fault
  formatValue (← (convert v r.conversion).mapError (.withSpec template)) r.spec

/-- The text of the parts of a template. -/
def expandParts (template : Text) (args : Arguments) :
    Numbering → List Part → Except FormatError Text
  | _, [] => .ok []
  | numbering, .literal c :: rest => (expandParts template args numbering rest).map (c :: ·)
  | numbering, .replacement r :: rest => do
    let (v, numbering) ← (args.select numbering r.argument).mapError (.withSpec template)
    let t ← r.expand template v
    return t ++ (← expandParts template args numbering rest)

/-- The text of a template with the given arguments. -/
def expand (template : Text) (args : Arguments) : Except FormatError Text := do
  let s := scan template
  let t ← expandParts template args .unused s.parts
  templateError template s.fault
  return t

end TextTable.Brace
