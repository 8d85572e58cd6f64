import Mathlib.Data.Rat.Floor
import TextTable.Value.Basic

/-! # Exact values

A number stands for a rational number, and a double has the integer part of the one that it stands
for.
-/

namespace TextTable

def truncation (q : ℚ) : Int := if 0 ≤ q then ⌊q⌋ else ⌈q⌉

theorem truncation_intCast (n : Int) : truncation n = n := by
  unfold truncation
  split
  · exact Int.floor_intCast n
  · exact Int.ceil_intCast n

theorem truncation_neg (q : ℚ) : truncation (-q) = -truncation q := by
  unfold truncation
  rcases lt_trichotomy q 0 with hneg | rfl | hpos
  · rw [if_pos (neg_nonneg.mpr hneg.le), if_neg hneg.not_ge, Int.floor_neg]
  · simp
  · rw [if_neg (not_le.mpr (neg_neg_of_pos hpos)), if_pos hpos.le, Int.ceil_neg]

namespace Double

def toRat (x : Double) : ℚ :=
  let magnitude : ℚ := (x.units : ℚ) / (unitsPerOne : ℚ)
  if x.negative then -magnitude else magnitude

theorem unitsPerOne_pos : 0 < unitsPerOne := by
  obtain ⟨k, hk⟩ : ∃ k, unitsPerOne = Nat.pow 2 k := ⟨1074, by unfold unitsPerOne; rfl⟩
  rw [hk]
  exact Nat.two_pow_pos k

theorem abs_toRat (x : Double) : |x.toRat| = (x.units : ℚ) / (unitsPerOne : ℚ) := by
  have hnonneg : 0 ≤ (x.units : ℚ) / (unitsPerOne : ℚ) := by positivity
  unfold toRat
  dsimp only
  split
  · rw [abs_neg, abs_of_nonneg hnonneg]
  · exact abs_of_nonneg hnonneg

theorem truncate_eq (x : Double) : x.truncate = truncation x.toRat := by
  have hnonneg : 0 ≤ (x.units : ℚ) / (unitsPerOne : ℚ) := by positivity
  have hfloor : truncation ((x.units : ℚ) / (unitsPerOne : ℚ)) = (x.units / unitsPerOne : Nat) := by
    rw [truncation, if_pos hnonneg, Rat.floor_natCast_div_natCast, Int.natCast_ediv]
  unfold truncate toRat
  split
  · rw [truncation_neg, hfloor]
  · exact hfloor.symm

end Double

def Value.toRat? : Value → Option ℚ
  | .int n => some n
  | .float x => some x.toRat
  | _ => none

end TextTable
