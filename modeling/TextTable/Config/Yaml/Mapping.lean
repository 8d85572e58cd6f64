import TextTable.Config.Yaml.Scalar

/-! # Mappings in YAML

The part of YAML that a configuration needs: a document is one mapping of scalars, either a block
with one field below the other or a list of fields in braces. A document without a mapping counts as
an empty one.
-/

namespace TextTable

namespace Yaml

/-- No value stands at a place: the text, the field or the block ends there. -/
def endsField (flow : Bool) (indent : Nat) (p : Place) : Bool :=
  match p.rest with
  | [] => true
  | c :: _ => (p.fresh && p.column < indent) || (flow && (c = ',' || c = '}'))

/-- The value of a field after its colon, and the place after it. A missing value is empty. Before a
scalar an exclamation mark alone is no tag. -/
def readValue (flow : Bool) (indent : Nat) (p : Place) : Option (Scalar × Place) :=
  let p := p.skip flow
  if endsField flow indent p then some (.empty, p)
  else if p.rest.head? = some '!' then do
    let (tag, p) ← readTag flow p
    let p := p.skip flow
    if endsField flow indent p then return ({ Scalar.empty with tag := some tag }, p)
    let (s, after) ← readScalar flow indent p
    return (if tag.isEmpty then s else { s with tag := some tag }, after)
  else readScalar flow indent p

/-- The field at a place, and the place after it. A colon stands on the line of the key, and in a
block its word ends with it. A key alone has an empty value, in braces only. -/
def readField (flow : Bool) (indent : Nat) (p : Place) : Option ((Text × Scalar) × Place) := do
  let (key, after) ← readScalar flow indent p
  let q := after.skip flow
  match q.rest with
  | ':' :: rest =>
    if p.canBeKey q && (flow || endsWord rest) then do
      let (value, after) ← readValue flow indent (q.advance 1)
      return ((key.text, value), after)
    else none
  | _ => if flow then some ((key.text, .empty), q) else none

/-- The fields of a block whose keys stand in a column, and the place after it. The fuel bounds
their number. -/
def readBlock (column : Nat) : Nat → Place → Option (List (Text × Scalar) × Place)
  | 0, _ => none
  | fuel + 1, p => do
    let (field, after) ← readField false (column + 1) p
    let q := after.skip false
    if q.isOutside || (q.fresh && q.column < column) then return ([field], q)
    if !(q.fresh && q.column = column) then none
    let (fields, after) ← readBlock column fuel q
    return (field :: fields, after)

/-- The fields up to a closing brace, and the place after it. The fuel bounds their number. -/
def readFlow : Nat → Place → Option (List (Text × Scalar) × Place)
  | 0, _ => none
  | fuel + 1, p => do
    let p := p.skip true
    if p.rest.head? = some '}' then return ([], p.advance 1)
    let (field, after) ← readField true 0 p
    let q := after.skip true
    match q.rest with
    | ',' :: _ =>
      let (fields, after) ← readFlow fuel (q.advance 1)
      return (field :: fields, after)
    | '}' :: _ => return ([field], q.advance 1)
    | _ => none

/-- The mapping at a place, and the place after it. A block starts on a line of its own. -/
def readMapping (p : Place) : Option (List (Text × Scalar) × Place) :=
  match p.rest with
  | [] => some ([], p)
  | '{' :: _ => readFlow p.rest.length (p.advance 1)
  | _ => if p.fresh then readBlock p.column p.rest.length p else none

/-- Nothing is left after a document but marks for its end. The fuel bounds their number. -/
def isOver : Nat → Place → Bool
  | 0, _ => false
  | fuel + 1, p =>
    let p := p.skip false
    p.rest.isEmpty || (p.endsDocument && isOver fuel (p.advance 3))

/-- The fields of the document that starts at a place. -/
def readDocument (p : Place) : Option (List (Text × Scalar)) := do
  let p := p.skip false
  let content := (p.advance 3).skip false
  let (fields, after) ←
    if !p.startsDocument then readMapping p
    else if content.isOutside then some ([], content)
    else readMapping content
  if isOver (p.rest.length + 1) after then some fields else none

/-- The fields of the document that a text consists of. A byte order mark may stand before it. -/
def fields? (t : Text) : Option (List (Text × Scalar)) :=
  if t.all isAllowed then
    match normalize t with
    | '\uFEFF' :: rest => readDocument ⟨rest, 1, true⟩
    | t => readDocument ⟨t, 0, true⟩
  else none

end Yaml

end TextTable
