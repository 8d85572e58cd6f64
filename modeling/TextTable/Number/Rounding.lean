/-! # Rounding a quotient

`roundDiv` is the integer nearest to a quotient, where a half goes to the even neighbour, and
`floorLog` the exponent of a positive quotient in a given base. All roundings of the library, to
decimal digits as well as to double precision, are made of these two.
-/

namespace TextTable

/-- The integer nearest to `num / den`; of two nearest ones the even one. -/
def roundDiv (num den : Nat) : Nat :=
  let q := num / den
  let twice := 2 * (num % den)
  if twice < den then q
  else if den < twice then q + 1
  else q + q % 2

/-- The quotient rounded is the quotient cut off, or one more. -/
theorem roundDiv_cases (num den : Nat) :
    (roundDiv num den = num / den ∧ 2 * (num % den) ≤ den) ∨
      (roundDiv num den = num / den + 1 ∧ den ≤ 2 * (num % den)) := by
  unfold roundDiv
  dsimp only
  split
  · exact Or.inl ⟨rfl, by omega⟩
  · split
    · exact Or.inr ⟨rfl, by omega⟩
    · rcases Nat.mod_two_eq_zero_or_one (num / den) with h | h
      · exact Or.inl ⟨by omega, by omega⟩
      · exact Or.inr ⟨by omega, by omega⟩

/-- The rounded quotient is at most half a unit too large. -/
theorem roundDiv_le {num den : Nat} (h : 0 < den) :
    2 * (den * roundDiv num den) ≤ 2 * num + den := by
  have hm := Nat.div_add_mod num den
  have hl := Nat.mod_lt num h
  rcases roundDiv_cases num den with ⟨hr, _⟩ | ⟨hr, _⟩ <;> rw [hr]
  · omega
  · rw [Nat.mul_add]; omega

/-- The rounded quotient is at most half a unit too small. -/
theorem le_roundDiv {num den : Nat} (h : 0 < den) :
    2 * num ≤ 2 * (den * roundDiv num den) + den := by
  have hm := Nat.div_add_mod num den
  have hl := Nat.mod_lt num h
  rcases roundDiv_cases num den with ⟨hr, _⟩ | ⟨hr, _⟩ <;> rw [hr]
  · omega
  · rw [Nat.mul_add]; omega

theorem roundDiv_even_of_half {num den : Nat} (h : 2 * (num % den) = den) :
    roundDiv num den % 2 = 0 := by
  simp only [roundDiv, h, Nat.lt_irrefl, if_false]
  omega

/-- The number of digits after the first that `n` has in the given base. -/
def digitsAfterFirst (base n : Nat) : Nat := (Nat.toDigits base n).length - 1

/-- The largest exponent `e` with `base ^ e ≤ num / den`, for a positive quotient. -/
def floorLog (base num den : Nat) : Int :=
  if den ≤ num then (digitsAfterFirst base (num / den) : Nat)
  else -((digitsAfterFirst base ((den - 1) / num) : Nat) + 1 : Int)

end TextTable
