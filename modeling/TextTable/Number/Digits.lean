import TextTable.Text.Basic

/-! # Digits in text

Digit groups, and the reading of natural numbers that fit a machine word.
-/

namespace TextTable

/-- The digits with `sep` before every digit whose distance from the end is a multiple of `every`,
the first digit apart. -/
def groupDigits (sep : Char) (every : Nat) : Text → Text
  | [] => []
  | [d] => [d]
  | d :: rest =>
    if rest.length % every = 0 then d :: sep :: groupDigits sep every rest
    else d :: groupDigits sep every rest

/-- The largest number that a count or a size can be. -/
def maxSize : Nat := 0xFFFFFFFFFFFFFFFF

/-- The size that a sum or a product of sizes is. One that is too large wraps around. -/
def toSize (n : Nat) : Nat := n % (maxSize + 1)

/-- The number that a text of decimal digits denotes, if there is a digit and the number is not too
large. -/
def readDigits (digits : Text) : Option Nat :=
  let n := Nat.ofDigitChars 10 digits 0
  if digits.isEmpty || maxSize < n then none else some n

/-- The number that a text of decimal digits denotes. A plus sign may stand in front. -/
def readSize (text : Text) : Option Nat :=
  let digits := match text with
    | '+' :: rest => rest
    | _ => text
  if digits.all Char.isDigit then readDigits digits else none

end TextTable
