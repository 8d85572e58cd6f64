import TextTable.Config.Yaml.Place
import TextTable.Value.Reader

/-! # Scalars in YAML

A scalar is plain or in single or double quotes, and may have a tag. It may go over several lines:
the white space around a line break counts for nothing, and the break itself for a space, or for the
further breaks if there are any.
-/

namespace TextTable

namespace Yaml

/-- A scalar. -/
structure Scalar where
  tag : Option Text
  /-- The scalar stands without quotes. -/
  plain : Bool
  text : Text
  deriving DecidableEq, Repr

/-- The scalar in a place where nothing is written. -/
def Scalar.empty : Scalar := ⟨none, true, []⟩

/-- White space between two words of a scalar. -/
inductive Gap where
  | blanks (t : Text)
  /-- A line break and the further ones. An escaped line break counts as none. -/
  | breaks (first : Option Char) (more : Text)

namespace Gap

/-- There is no white space between two characters of a word. -/
def empty : Gap := .blanks []

/-- The white space with one more character. Blanks count for nothing before and after a break. -/
def push (c : Char) : Gap → Gap
  | .blanks t => if isBreak c then .breaks (some c) [] else .blanks (t ++ [c])
  | .breaks first more => if isBreak c then .breaks first (more ++ [c]) else .breaks first more

def isEmpty : Gap → Bool
  | .blanks t => t.isEmpty
  | .breaks _ _ => false

def hasBreak : Gap → Bool
  | .blanks _ => false
  | .breaks _ _ => true

/-- The text that the white space stands for. A line feed folds into a space. -/
def text : Gap → Text
  | .blanks t => t
  | .breaks first more =>
    if first = some '\n' then (if more.isEmpty then [' '] else more) else first.toList ++ more

end Gap

/-- A piece of a text in quotes. -/
inductive Piece where
  | char (c : Char)
  /-- A character that an escape stands for. It is no white space between words. -/
  | escape (c : Char)
  /-- An escaped line break. -/
  | splice

/-- The text that the pieces after some white space stand for. -/
def fold : Gap → List Piece → Text
  | gap, [] => gap.text
  | gap, .char c :: rest =>
    if isBlank c || isBreak c then fold (gap.push c) rest
    else gap.text ++ c :: fold .empty rest
  | gap, .escape c :: rest => gap.text ++ c :: fold .empty rest
  | gap, .splice :: rest => gap.text ++ fold (.breaks none []) rest

/-- The pieces of a text in single quotes, where two quotes are one, and the place after it. -/
def readSingle : Nat → Text → Option (List Piece × Place)
  | _, [] => none
  | column, '\'' :: '\'' :: rest =>
    (readSingle (column + 2) rest).map fun (t, after) => (.escape '\'' :: t, after)
  | column, '\'' :: rest => some ([], ⟨rest, column + 1, false⟩)
  | column, c :: rest =>
    if column = 0 && startsMark (c :: rest) then none
    else (readSingle (columnAfter column c) rest).map fun (t, after) => (.char c :: t, after)

/-- The character that a backslash and `c` stand for. -/
def unescape? (c : Char) : Option Char :=
  match c with
  | '0' => some '\x00'
  | 'a' => some '\x07'
  | 'b' => some '\x08'
  | 't' | '\t' => some '\t'
  | 'n' => some '\n'
  | 'v' => some '\x0B'
  | 'f' => some '\x0C'
  | 'r' => some '\r'
  | 'e' => some '\x1B'
  | ' ' => some ' '
  | '"' => some '"'
  | '/' => some '/'
  | '\\' => some '\\'
  | 'N' => some '\u0085'
  | '_' => some '\u00A0'
  | 'L' => some '\u2028'
  | 'P' => some '\u2029'
  | _ => none

/-- The character with the given hexadecimal number. -/
def hexChar? (digits : Text) : Option Char := do
  let n ← digits.foldlM (fun n c => (Json.hexDigit? c).map (n * 16 + ·)) 0
  if n.isValidChar then some (Char.ofNat n) else none

/-- The pieces of a text in double quotes, and the place after it. -/
def readDouble : Nat → Text → Option (List Piece × Place)
  | _, [] => none
  | column, '"' :: rest => some ([], ⟨rest, column + 1, false⟩)
  | column, '\\' :: 'x' :: a :: b :: rest => do
    let (t, after) ← readDouble (column + 4) rest
    return (.escape (← hexChar? [a, b]) :: t, after)
  | column, '\\' :: 'u' :: a :: b :: c :: d :: rest => do
    let (t, after) ← readDouble (column + 6) rest
    return (.escape (← hexChar? [a, b, c, d]) :: t, after)
  | column, '\\' :: 'U' :: a :: b :: c :: d :: e :: f :: g :: h :: rest => do
    let (t, after) ← readDouble (column + 10) rest
    return (.escape (← hexChar? [a, b, c, d, e, f, g, h]) :: t, after)
  | column, '\\' :: c :: rest =>
    if isBreak c then
      (readDouble 0 rest).map fun (t, after) => (.splice :: t, after)
    else do
      let (t, after) ← readDouble (column + 2) rest
      return (.escape (← unescape? c) :: t, after)
  | column, c :: rest =>
    if column = 0 && startsMark (c :: rest) then none
    else (readDouble (columnAfter column c) rest).map fun (t, after) => (.char c :: t, after)

/-- A character that ends a plain scalar inside of braces. -/
def isFlowEnd (c : Char) : Bool := c = ',' || c = '[' || c = ']' || c = '{' || c = '}'

/-- A character that cannot start a plain scalar. -/
def isIndicator (c : Char) : Bool :=
  c ∈ [',', '[', ']', '{', '}', '#', '&', '*', '!', '|', '>', '\'', '"', '%', '@', '\x60']

/-- The text starts with a plain scalar. A dash, a question mark or a colon starts one if its word
goes on, and inside of braces only the dash does. -/
def startsPlain (flow : Bool) (t : Text) : Bool :=
  match t with
  | [] => false
  | c :: rest =>
    if c = '-' then !endsWord rest
    else if c = '?' || c = ':' then !flow && !endsWord rest
    else !(isIndicator c || isBlank c || isBreak c)

/-- A plain scalar ends after some white space before the character `c`. It ends before a comment, a
mark, a colon at the end of a word, a character that ends it inside of braces, and a line with less
indentation. -/
def endsPlain (flow : Bool) (indent : Nat) (gap : Gap) (column : Nat) (c : Char) (rest : Text) :
    Bool :=
  (gap.hasBreak && column < indent) || (column = 0 && startsMark (c :: rest)) ||
    (!gap.isEmpty && c = '#') || (c = ':' && endsWord rest) || (flow && isFlowEnd c)

/-- A plain scalar after some white space, and the place after it and the white space at its end.
Inside of braces a colon stands directly before no bracket, comma or question mark. A line is not
indented by tabs. -/
def readPlain (flow : Bool) (indent : Nat) : Gap → Nat → Text → Option (Text × Place)
  | gap, column, [] => some ([], ⟨[], column, gap.hasBreak⟩)
  | gap, column, c :: rest =>
    if isBlank c || isBreak c then
      if c = '\t' && gap.hasBreak && column < indent then none
      else readPlain flow indent (gap.push c) (columnAfter column c) rest
    else if endsPlain flow indent gap column c rest then
      some ([], ⟨c :: rest, column, gap.hasBreak⟩)
    else if flow && c = ':' && rest.head?.any (fun d => d = '?' || isFlowEnd d) then none
    else do
      let (t, after) ← readPlain flow indent .empty (column + 1) rest
      return (gap.text ++ c :: t, after)

/-- The scalar without a tag at a place, and the place after it. -/
def readScalar (flow : Bool) (indent : Nat) (p : Place) : Option (Scalar × Place) :=
  if p.isOutside then none
  else
    match p.rest with
    | '\'' :: rest =>
      (readSingle (p.column + 1) rest).map fun (t, after) => (⟨none, false, fold .empty t⟩, after)
    | '"' :: rest =>
      (readDouble (p.column + 1) rest).map fun (t, after) => (⟨none, false, fold .empty t⟩, after)
    | t =>
      if startsPlain flow t then
        (readPlain flow indent .empty p.column t).map fun (t, after) => (⟨none, true, t⟩, after)
      else none

/-- A character of a tag. -/
def isTagChar (c : Char) : Bool :=
  c.isAlphanum || c ∈ ['_', '-', ';', '/', '?', ':', '@', '&', '=', '+', '$', '.', '!', '~', '*',
    '\'', '(', ')']

/-- The tag whose exclamation mark stands at a place, and the place after it. A second exclamation
mark follows the first one directly, before the name of a type. -/
def readTag (flow : Bool) (p : Place) : Option (Text × Place) :=
  let p := p.advance 1
  let tag := p.rest.takeWhile isTagChar
  let after := p.advance tag.length
  let isName := match Text.cutAt '!' tag with
    | none => true
    | some (before, name) => before.isEmpty && !name.isEmpty
  if isName && (endsWord after.rest || (flow && after.rest.head? = some ',')) then some (tag, after)
  else none

end Yaml

end TextTable
