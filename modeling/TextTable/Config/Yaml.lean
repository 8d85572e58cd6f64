import TextTable.Config.Fields
import TextTable.Config.Yaml.Mapping

/-! # Configurations in YAML

A configuration is a mapping of its fields to scalars. Which truth value or number a plain scalar
denotes is decided by its text.
-/

namespace TextTable

namespace Yaml

/-- The truth value that a plain scalar denotes. -/
def bool? (t : Text) : Option Bool :=
  if t = "true".toList || t = "True".toList || t = "TRUE".toList then some true
  else if t = "false".toList || t = "False".toList || t = "FALSE".toList then some false
  else none

/-- The text is a word for nothing. -/
def isNullWord (t : Text) : Bool :=
  t = ['~'] || t = "null".toList || t = "Null".toList || t = "NULL".toList

/-- The number with the given digits, unless it exceeds a machine word. -/
def number? (base : Nat) (digits : Text) : Option Nat := do
  if digits.isEmpty then none
  let n ← digits.foldlM (fun n c => do
    let d ← Json.hexDigit? c
    if d < base then some (n * base + d) else none) 0
  if n ≤ maxSize then some n else none

/-- The number that a plain scalar denotes: in decimal without zeros in front, or in another radix
with a mark in front. -/
def size? (t : Text) : Option Nat :=
  let digits := match t with
    | '+' :: rest => rest
    | _ => t
  match digits with
  | '0' :: 'x' :: rest => number? 16 rest
  | '0' :: 'o' :: rest => number? 8 rest
  | '0' :: 'b' :: rest => number? 2 rest
  | '0' :: _ :: _ => none
  | _ => number? 10 digits

namespace Scalar

/-- The scalar stands for nothing: it is not written, or is a word for nothing. -/
def isNull (s : Scalar) : Bool :=
  s.plain && s.tag.isNone && (s.text.isEmpty || isNullWord s.text)

/-- The name of a choice and the value that goes with it. A tag that names no type is a choice. -/
def choice (s : Scalar) : Text × Option Scalar :=
  match s.tag with
  | none | some ('!' :: _) => (s.text, none)
  | some tag => (tag, some { s with tag := none })

end Scalar

end Yaml

/-- How the fields of a configuration are read from YAML. Every scalar can be a text, and only plain
scalars can be anything else. -/
def FieldReader.yaml : FieldReader Yaml.Scalar where
  text s := some s.text
  isNull := Yaml.Scalar.isNull
  bool s := if s.plain then Yaml.bool? s.text else none
  size s := if s.plain then Yaml.size? s.text else none
  choice s := some s.choice

/-- The valid configuration that a YAML text describes. -/
def Config.ofYaml (t : Text) : Except ConfigError Config :=
  checked ((Yaml.fields? t).bind (readFields .yaml {}))

end TextTable
