import TextTable.Number.Rounding

/-! # Double precision numbers

A finite double is a sign and the rank of its magnitude among the magnitudes of all finite doubles,
in increasing order from zero. Every magnitude is a whole number of units of `2 ^ -1074`, so exact
arithmetic on doubles is arithmetic on natural numbers, and a result becomes a double again by
rounding a quotient.
-/

namespace TextTable

/-- A finite double precision number. -/
structure Double where
  negative : Bool
  rank : Nat
  rank_lt : rank < 0x7FF0000000000000 := by decide
  deriving DecidableEq

/-- The outcome of rounding to double precision. -/
inductive Rounded where
  | finite (x : Double)
  | infinite (negative : Bool)
  deriving DecidableEq

namespace Double

/-- The number of units in one. -/
def unitsPerOne : Nat := Nat.pow 2 1074

/-- The number of magnitudes from a power of two up to the next one. -/
def binade : Nat := 0x10000000000000

/-- The leading bits of a magnitude, at most 53. -/
def significand (rank : Nat) : Nat :=
  if rank < binade then rank else binade + rank % binade

/-- The number of zero bits that follow the significand. -/
def shift (rank : Nat) : Nat := rank / binade - 1

/-- The magnitude of the given rank, in units. -/
def unitsOfRank (rank : Nat) : Nat := significand rank * Nat.pow 2 (shift rank)

/-- The magnitude of a double, in units. -/
def units (x : Double) : Nat := unitsOfRank x.rank

instance : Inhabited Double := ⟨⟨false, 0, by decide⟩⟩

def zero : Double := ⟨false, 0, by decide⟩

/-- The double is zero, of either sign. -/
def isZero (x : Double) : Bool := x.rank == 0

/-- The double is less than zero, which no zero is. -/
def isNegative (x : Double) : Bool := x.negative && !x.isZero

/-- The rank of the magnitude nearest to `num / den`; of two nearest ones the one with an even
significand. It is past the largest finite rank if `num / den` rounds to infinity. -/
def nearestRank (num den : Nat) : Nat :=
  let scaled := num * unitsPerOne
  let shift := (scaled / den).log2 - 52
  shift * binade + roundDiv scaled (den * Nat.pow 2 shift)

/-- The number with the given sign and the magnitude `num / den`, rounded. -/
def round (negative : Bool) (num den : Nat) : Rounded :=
  let rank := nearestRank num den
  if h : rank < 0x7FF0000000000000 then .finite ⟨negative, rank, h⟩ else .infinite negative

/-- An integer, rounded. -/
def ofInt (n : Int) : Rounded := round (n < 0) n.natAbs 1

/-- The decimal number `coefficient * 10 ^ exponent` with the given sign, rounded. -/
def ofDecimal (negative : Bool) (coefficient : Nat) (exponent : Int) : Rounded :=
  let magnitude := (digitsAfterFirst 10 coefficient : Int) + exponent
  if coefficient = 0 || magnitude < -400 then .finite ⟨negative, 0, by decide⟩
  else if 400 < magnitude then .infinite negative
  else round negative (coefficient * Nat.pow 10 exponent.toNat) (Nat.pow 10 (-exponent).toNat)

/-- The product with a natural number, rounded. -/
def scaleUp (x : Double) (k : Nat) : Rounded := round x.negative (x.units * k) unitsPerOne

/-- The quotient by a natural number, rounded. -/
def scaleDown (x : Double) (k : Nat) : Rounded := round x.negative x.units (unitsPerOne * k)

/-- The integer part, with the sign of the double. -/
def truncate (x : Double) : Int :=
  let n := x.units / unitsPerOne
  if x.negative then -(n : Int) else n

/-- The bit of a minus sign in the interchange format. -/
def signBit : Nat := 0x8000000000000000

/-- The 64 bits of the interchange format. -/
def toBits (x : Double) : Nat := (if x.negative then signBit else 0) + x.rank

end Double

namespace Rounded

def negative : Rounded → Bool
  | .finite x => x.negative
  | .infinite negative => negative

/-- The 64 bits of the interchange format. -/
def toBits : Rounded → Nat
  | .finite x => x.toBits
  | .infinite negative => (if negative then Double.signBit else 0) + 0x7FF0000000000000

end Rounded

end TextTable
