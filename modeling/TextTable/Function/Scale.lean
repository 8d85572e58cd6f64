import TextTable.Number.Double
import TextTable.Text.Basic

/-! # Scaling

The powers of 1000 and 1024 by which a number can be scaled before it is formatted.
-/

namespace TextTable

/-- A unit in which numbers are shown. -/
inductive Scale where
  | thousands
  | millions
  | billions
  | trillions
  | milli
  | micro
  | nano
  | pico
  | kibi
  | mebi
  | gibi
  | tebi
  deriving DecidableEq, Repr

namespace Scale

def all : List Scale :=
  [.thousands, .millions, .billions, .trillions, .milli, .micro, .nano, .pico, .kibi, .mebi, .gibi,
    .tebi]

def name : Scale → Text
  | .thousands => "thousands".toList
  | .millions => "millions".toList
  | .billions => "billions".toList
  | .trillions => "trillions".toList
  | .milli => "milli".toList
  | .micro => "micro".toList
  | .nano => "nano".toList
  | .pico => "pico".toList
  | .kibi => "kibi".toList
  | .mebi => "mebi".toList
  | .gibi => "gibi".toList
  | .tebi => "tebi".toList

def ofName? (name : Text) : Option Scale := all.find? fun s => s.name = name

/-- The ratio of the larger to the smaller unit. -/
def factor : Scale → Nat
  | .thousands | .milli => 1000
  | .millions | .micro => Nat.pow 1000 2
  | .billions | .nano => Nat.pow 1000 3
  | .trillions | .pico => Nat.pow 1000 4
  | .kibi => 1024
  | .mebi => Nat.pow 1024 2
  | .gibi => Nat.pow 1024 3
  | .tebi => Nat.pow 1024 4

/-- The unit is smaller than one, so that numbers in it are larger. -/
def isFraction : Scale → Bool
  | .milli | .micro | .nano | .pico => true
  | _ => false

/-- The number in this unit, rounded to double precision. -/
def apply (s : Scale) (x : Double) : Rounded :=
  if s.isFraction then x.scaleUp s.factor else x.scaleDown s.factor

end Scale

end TextTable
