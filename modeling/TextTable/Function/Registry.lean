import TextTable.Function.Builtin
import TextTable.Text.Hidden

/-! # Registry of format functions

Format functions are found by their names. A user function hides a built-in function with the same
name.
-/

namespace TextTable

/-- A format function of the user. -/
abbrev UserFunction := Value → Text → Except FormatError Text

/-- A format function. -/
inductive FormatFunction where
  | builtin (b : Builtin)
  | custom (f : UserFunction)

namespace FormatFunction

def call : FormatFunction → UserFunction
  | .builtin b => b.call
  | .custom f => f

/-- The function is the built-in `format`, for which numbers have a default spec. -/
def isDefaultFormat : FormatFunction → Bool
  | .builtin .format => true
  | _ => false

end FormatFunction

/-- The user functions by their names. -/
structure Registry where
  user : Dict UserFunction := []

namespace Registry

/-- Adds a user function, in place of one with the same name. -/
def register (r : Registry) (name : Text) (f : UserFunction) : Registry :=
  { user := r.user.insert name f }

/-- The function with the given name, if there is one. -/
def resolve (r : Registry) (name : Text) : Option FormatFunction :=
  match r.user.get? name with
  | some f => some (.custom f)
  | none => (Builtin.ofName? name).map .builtin

def contains (r : Registry) (name : Text) : Bool := (r.resolve name).isSome

/-- The names of the user functions, in order. -/
def userNames (r : Registry) : List Text := r.user.keys

/-- A character of a name in quotes. -/
def quotedChar (c : Char) : Text :=
  match c with
  | '"' => ['\\', '"']
  | '\\' => ['\\', '\\']
  | '\t' => ['\\', 't']
  | '\n' => ['\\', 'n']
  | '\r' => ['\\', 'r']
  | '\x00' => ['\\', '0']
  | _ =>
    if isHidden c then ['\\', 'u', '{'] ++ Nat.toDigits 16 c.toNat ++ ['}'] else [c]

def quotedName (name : Text) : Text := '"' :: name.flatMap quotedChar ++ ['"']

/-- The registry in words: the names of the user functions. -/
def describe (r : Registry) : Text :=
  "Registry \x7b user: [".toList ++ List.intercalate [',', ' '] (r.userNames.map quotedName) ++
    "] \x7d".toList

end Registry

end TextTable
