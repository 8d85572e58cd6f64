import TextTable.Text.Basic

/-! # Places in a YAML text

A reader goes from one place of a text to the next. Indentation matters, so a place knows its
column, and whether it is the first of its line where something is written.
-/

namespace TextTable

namespace Yaml

def isBlank (c : Char) : Bool := c = ' ' || c = '\t'

/-- A character that ends a line. Carriage returns and the next-line character are line feeds here,
see `normalize`. -/
def isBreak (c : Char) : Bool := c = '\n' || c = '\u2028' || c = '\u2029'

/-- The text with line feeds in place of the other line breaks of its kind. -/
def normalize : Text → Text
  | [] => []
  | '\r' :: '\n' :: rest => '\n' :: normalize rest
  | c :: rest => (if c = '\r' || c = '\u0085' then '\n' else c) :: normalize rest

/-- A character that may stand in a text. -/
def isAllowed (c : Char) : Bool :=
  let n := c.toNat
  c = '\t' || c = '\n' || c = '\r' || (0x20 ≤ n && n ≤ 0x7E) || n == 0x85 ||
    (0xA0 ≤ n && n != 0xFFFE && n != 0xFFFF)

/-- No word goes on with the text. -/
def endsWord (t : Text) : Bool := t.head?.all fun c => isBlank c || isBreak c

/-- The text starts with a mark that is a word of its own. -/
def hasMark (mark : Text) (t : Text) : Bool :=
  mark.isPrefixOf t && endsWord (t.drop mark.length)

/-- The text starts with the mark for the start or the end of a document. -/
def startsMark (t : Text) : Bool := hasMark "---".toList t || hasMark "...".toList t

/-- A place in a text. -/
structure Place where
  rest : Text
  /-- The number of characters before it on its line. -/
  column : Nat
  /-- Nothing but white space stands before it on its line. -/
  fresh : Bool

/-- The column after a character. -/
def columnAfter (column : Nat) (c : Char) : Nat := if isBreak c then 0 else column + 1

/-- The next place where something is written. Inside of a comment that is behind the line break.
Tabs are no indentation: at the start of a line they are skipped inside of braces only. -/
def skipFrom (flow comment fresh : Bool) (column : Nat) : Text → Place
  | [] => ⟨[], column, fresh⟩
  | c :: rest =>
    if isBreak c then skipFrom flow false true 0 rest
    else if comment || c = ' ' || (c = '\t' && (flow || !fresh)) then
      skipFrom flow comment fresh (column + 1) rest
    else if c = '#' then skipFrom flow true fresh (column + 1) rest
    else ⟨c :: rest, column, fresh⟩

namespace Place

/-- The next place where something is written. -/
def skip (flow : Bool) (p : Place) : Place := skipFrom flow false p.fresh p.column p.rest

/-- The place after the first `n` characters of a line. -/
def advance (n : Nat) (p : Place) : Place := ⟨p.rest.drop n, p.column + n, false⟩

/-- A document starts with the mark at the place. -/
def startsDocument (p : Place) : Bool := p.column = 0 && hasMark "---".toList p.rest

/-- A document ends with the mark at the place. -/
def endsDocument (p : Place) : Bool := p.column = 0 && hasMark "...".toList p.rest

/-- There is no room for anything more of a document. -/
def isOutside (p : Place) : Bool := p.rest.isEmpty || (p.column = 0 && startsMark p.rest)

/-- What stands between two places can be a key: it is short and on one line. -/
def canBeKey (p q : Place) : Bool :=
  let between := p.rest.take (p.rest.length - q.rest.length)
  between.length ≤ 1024 && !between.any isBreak

end Place

end Yaml

end TextTable
