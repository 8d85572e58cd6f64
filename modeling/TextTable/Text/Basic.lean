/-! # Text

A text is the list of its Unicode scalar values. This module holds the character class of white
space and the ways to trim a text and to take it apart at line breaks and at a separator.
-/

namespace TextTable

/-- A text, as the list of its Unicode scalar values. -/
abbrev Text := List Char

/-- The characters with the Unicode property White_Space. -/
def isWhite (c : Char) : Bool :=
  let n := c.toNat
  (0x09 ≤ n && n ≤ 0x0D) || n == 0x20 || n == 0x85 || n == 0xA0 || n == 0x1680 ||
    (0x2000 ≤ n && n ≤ 0x200A) || n == 0x2028 || n == 0x2029 || n == 0x202F || n == 0x205F ||
    n == 0x3000

/-- The text of `n` spaces. -/
def spaces (n : Nat) : Text := List.replicate n ' '

@[simp] theorem length_spaces (n : Nat) : (spaces n).length = n := List.length_replicate

namespace Text

def trimStart (t : Text) : Text := t.dropWhile isWhite

def trimEnd (t : Text) : Text := (t.reverse.dropWhile isWhite).reverse

/-- The text without white space at its two ends. -/
def trim (t : Text) : Text := trimEnd (trimStart t)

/-- Every character is white space. -/
def isBlank (t : Text) : Bool := t.all isWhite

/-- The lines of a text, where `\n` and `\r\n` end a line. A break at the very end opens no further
line, and the empty text has no line. -/
def brokenLines : Text → List Text
  | [] => []
  | '\n' :: rest => [] :: brokenLines rest
  | '\r' :: '\n' :: rest => [] :: brokenLines rest
  | c :: rest =>
    match brokenLines rest with
    | [] => [[c]]
    | line :: lines => (c :: line) :: lines

/-- The lines of a text, of which there is at least one. -/
def lines (t : Text) : List Text :=
  match brokenLines t with
  | [] => [[]]
  | line :: lines => line :: lines

theorem lines_ne_nil (t : Text) : lines t ≠ [] := by
  unfold lines
  split <;> simp

/-- The lines, joined by line feeds. -/
def unlines : List Text → Text
  | [] => []
  | [line] => line
  | line :: rest => line ++ '\n' :: unlines rest

/-- The pieces between the occurrences of `sep`, of which there is at least one. -/
def splitOn (sep : Char) : Text → List Text
  | [] => [[]]
  | c :: rest =>
    if c = sep then [] :: splitOn sep rest
    else
      match splitOn sep rest with
      | [] => [[c]]
      | piece :: pieces => (c :: piece) :: pieces

/-- The text before the first `sep` and the text after it. -/
def cutAt (sep : Char) : Text → Option (Text × Text)
  | [] => none
  | c :: rest =>
    if c = sep then some ([], rest)
    else (cutAt sep rest).map fun (before, after) => (c :: before, after)

theorem cutAt_eq_some_iff {sep : Char} {t before after : Text} :
    cutAt sep t = some (before, after) ↔ t = before ++ sep :: after ∧ sep ∉ before := by
  induction t generalizing before with
  | nil => simp [cutAt]
  | cons c rest ih =>
    by_cases h : c = sep
    · cases before with
      | nil => simp [cutAt, h]
      | cons b before => simp [cutAt, h]; grind
    · cases before with
      | nil => simp [cutAt, h]
      | cons b before => simp [cutAt, h, ih]; grind

/-- The number of bytes of the text in UTF-8. -/
def byteSize : Text → Nat
  | [] => 0
  | c :: rest => c.utf8Size + byteSize rest

end Text

end TextTable
