import TextTable.Number.Double
import TextTable.Text.Basic

/-! # Decimal text of numbers

A positive quotient or a double becomes decimal text in three steps: the digits and the exponent are
chosen (`Scientific.round`, `Scientific.shortest`, `fixed`), the point is placed (`positional`,
`mantissa`), and the exponent is written.
-/

namespace TextTable

/-- Decimal digits `d₀ d₁ d₂ …` and the exponent of ten of the first, for
`d₀.d₁d₂… * 10 ^ exponent`. -/
structure Scientific where
  digits : Text
  exponent : Int
  deriving DecidableEq, Repr

/-- The direction of a tie between two decimal neighbours. -/
inductive Tie where
  | up
  | toEven
  deriving DecidableEq, Repr

/-- The digits of `n`, with zeros in front to make at least `count`. -/
def paddedDigits (count n : Nat) : Text :=
  let digits := Nat.toDigits 10 n
  List.replicate (count - digits.length) '0' ++ digits

/-- The number `num / den` with `places` decimals, rounded half to even. The number of decimals is
not bounded, where a printer may refuse more than 65535. -/
def fixed (num den places : Nat) : Text :=
  let digits := paddedDigits (places + 1) (roundDiv (num * Nat.pow 10 places) den)
  let whole := digits.take (digits.length - places)
  if places = 0 then whole else whole ++ '.' :: digits.drop (digits.length - places)

namespace Scientific

/-- The number `num / den` with `count` significant digits, rounded half to even. Zero has the
exponent zero. -/
def round (num den count : Nat) : Scientific :=
  if num = 0 then ⟨List.replicate count '0', 0⟩
  else
    let exponent := floorLog 10 num den
    let places : Int := (count : Int) - 1 - exponent
    let n := roundDiv (num * Nat.pow 10 places.toNat) (den * Nat.pow 10 (-places).toNat)
    if n < Nat.pow 10 count then ⟨Nat.toDigits 10 n, exponent⟩
    else ⟨Nat.toDigits 10 (n / 10), exponent + 1⟩

/-- The decimal with at most `count` digits that is nearest to the magnitude of the given rank among
those that read back as this magnitude, if there is one. -/
def readingBack (tie : Tie) (rank count : Nat) : Option Scientific :=
  let units := Double.unitsOfRank rank
  let gap := Nat.pow 2 (Double.shift rank)
  let below :=
    if Double.significand rank = Double.binade && 0 < Double.shift rank then gap else 2 * gap
  let exponent := floorLog 10 units Double.unitsPerOne
  let places : Int := (count : Int) - 1 - exponent
  let scale := Nat.pow 10 places.toNat
  let num := 4 * units * scale
  let den := 4 * Double.unitsPerOne * Nat.pow 10 (-places).toNat
  let low := num - below * scale
  let high := num + 2 * gap * scale
  let readsBack (n : Nat) : Bool :=
    if Double.significand rank % 2 = 0 then low ≤ n * den && n * den ≤ high
    else low < n * den && n * den < high
  let ofNat (n : Nat) : Scientific :=
    let digits := Nat.toDigits 10 n
    ⟨(digits.reverse.dropWhile (· = '0')).reverse, (digits.length : Int) - 1 - places⟩
  let n := num / den
  let remainder := 2 * (num % den)
  if readsBack n && readsBack (n + 1) then
    let upper := den < remainder || (remainder = den && (tie = .up || n % 2 = 1))
    some (ofNat (if upper then n + 1 else n))
  else if readsBack n then some (ofNat n)
  else if readsBack (n + 1) then some (ofNat (n + 1))
  else none

/-- The decimal with the fewest digits that reads back as the magnitude of the given rank, and of
those the nearest. Seventeen digits always suffice. -/
def shortest (tie : Tie) (rank : Nat) : Scientific :=
  if rank = 0 then ⟨['0'], 0⟩
  else
    ((List.range 17).findSome? fun count => readingBack tie rank (count + 1)).getD
      (round (Double.unitsOfRank rank) Double.unitsPerOne 17)

/-- The digits with a point after the first, if more follow. -/
def mantissa (s : Scientific) : Text :=
  match s.digits with
  | [] => []
  | [d] => [d]
  | d :: rest => d :: '.' :: rest

/-- The number without an exponent, and without a point if it is whole. -/
def positional (s : Scientific) : Text :=
  if s.exponent < 0 then
    '0' :: '.' :: List.replicate ((-s.exponent).toNat - 1) '0' ++ s.digits
  else
    let whole := s.exponent.toNat + 1
    let padded := s.digits ++ List.replicate (whole - s.digits.length) '0'
    if s.digits.length ≤ whole then padded else padded.take whole ++ '.' :: padded.drop whole

end Scientific

/-- An exponent with its sign and at least `count` digits. -/
def exponentText (count : Nat) (exponent : Int) : Text :=
  'e' :: (if exponent < 0 then '-' else '+') :: paddedDigits count exponent.natAbs

/-- Text with a decimal point: `.0` follows a number without one. -/
def withPoint (text : Text) : Text :=
  if '.' ∈ text then text else text ++ ['.', '0']

end TextTable
