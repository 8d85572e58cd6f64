import Mathlib.Algebra.Order.Group.Unbundled.Abs
import Mathlib.Algebra.Order.Ring.Abs
import Mathlib.Order.Interval.Set.UnorderedInterval
import Mathlib.Order.Monotone.Basic
import Mathlib.Tactic.Linarith
import Mathlib.Tactic.LinearCombination
import Mathlib.Tactic.Positivity
import TextTable.Proofs.Number.Exact

/-! # The nearest magnitude

The magnitudes of doubles grow with their ranks, and a number is nearest to the magnitude of a rank
if it lies between the midpoints to the neighbours. The midpoints themselves belong to the rank with
the even significand.
-/

namespace TextTable

namespace Double

def magnitude (rank : Nat) : ℚ := (unitsOfRank rank : ℚ) / unitsPerOne

/-- The magnitude of this rank is the nearest to a number; of two nearest ones it is the one with an
even significand. A number whose nearest rank is past the largest finite one overflows. -/
def IsNearest (q : ℚ) (rank : Nat) : Prop :=
  ∀ other ≠ rank, |magnitude rank - q| < |magnitude other - q| ∨
    |magnitude rank - q| = |magnitude other - q| ∧ Even (significand rank)

/-- The number half way between the magnitude of a rank and the next one. -/
def halfway (rank : Nat) : ℚ := (magnitude rank + magnitude (rank + 1)) / 2

variable {q p : ℚ} {rank other : Nat}

theorem even_significand_iff : Even (significand rank) ↔ Even rank := by
  unfold significand binade
  split <;> simp only [Nat.even_iff]
  omega

theorem binade_pos : 0 < binade := by decide

theorem shift_of_lt (h : rank < binade) : shift rank = 0 ∧ significand rank = rank := by
  rw [shift, Nat.div_eq_of_lt h, significand, if_pos h]
  exact ⟨rfl, rfl⟩

theorem shift_add (k : Nat) {m : Nat} (hm : m < binade) :
    shift (binade * (k + 1) + m) = k ∧ significand (binade * (k + 1) + m) = binade + m := by
  have hle : ¬ binade * (k + 1) + m < binade := by
    rw [Nat.mul_succ]
    omega
  rw [shift, Nat.mul_add_div binade_pos, Nat.div_eq_of_lt hm, significand, if_neg hle,
    Nat.mul_add_mod, Nat.mod_eq_of_lt hm]
  exact ⟨rfl, rfl⟩

theorem rank_cases (rank : Nat) : rank < binade ∨ ∃ k m, m < binade ∧
    rank = binade * (k + 1) + m := by
  rcases Nat.lt_or_ge rank binade with h | h
  · exact Or.inl h
  · refine Or.inr ⟨rank / binade - 1, rank % binade, Nat.mod_lt _ binade_pos, ?_⟩
    rw [Nat.sub_add_cancel (Nat.div_pos h binade_pos), Nat.div_add_mod]

/-- From one magnitude to the next there are as many units as the last bit of the significand
weighs. -/
theorem unitsOfRank_succ (rank : Nat) :
    unitsOfRank (rank + 1) = unitsOfRank rank + 2 ^ shift rank := by
  unfold unitsOfRank
  simp only [Nat.pow_eq]
  rcases rank_cases rank with h | ⟨k, m, hm, rfl⟩
  · rw [(shift_of_lt h).1, (shift_of_lt h).2]
    rcases Nat.lt_or_ge (rank + 1) binade with hnext | hnext
    · rw [(shift_of_lt hnext).1, (shift_of_lt hnext).2]
      ring
    · have heq : rank + 1 = binade * (0 + 1) + 0 := by omega
      rw [heq, (shift_add 0 binade_pos).1, (shift_add 0 binade_pos).2]
      omega
  · rw [(shift_add k hm).1, (shift_add k hm).2]
    rcases Nat.lt_or_ge (m + 1) binade with hnext | hnext
    · rw [Nat.add_assoc, (shift_add k hnext).1, (shift_add k hnext).2]
      ring
    · have heq : binade * (k + 1) + m + 1 = binade * (k + 1 + 1) + 0 := by
        rw [Nat.mul_succ binade (k + 1)]
        omega
      have hlast : binade = m + 1 := by omega
      rw [heq, (shift_add (k + 1) binade_pos).1, (shift_add (k + 1) binade_pos).2, hlast]
      ring

/-- The distance to the magnitude below is smaller where a binade starts. -/
theorem two_mul_gap (prior : Nat) : 2 * 2 ^ shift prior =
    if significand (prior + 1) = binade && decide (0 < shift (prior + 1)) then
      2 ^ shift (prior + 1)
    else 2 * 2 ^ shift (prior + 1) := by
  rcases rank_cases (prior + 1) with h | ⟨k, m, hm, h⟩
  · rw [(shift_of_lt h).1, (shift_of_lt (by omega : prior < binade)).1, if_neg (by simp)]
  · rw [h, (shift_add k hm).1, (shift_add k hm).2]
    rcases Nat.eq_zero_or_pos m with rfl | hpos
    · cases k with
      | zero =>
        have hprior : prior < binade := by omega
        rw [(shift_of_lt hprior).1]
        rfl
      | succ k =>
        have hlast : binade - 1 < binade := Nat.sub_lt binade_pos Nat.one_pos
        have hprior : prior = binade * (k + 1) + (binade - 1) := by
          rw [Nat.mul_succ binade (k + 1)] at h
          omega
        rw [hprior, (shift_add k hlast).1, if_pos (by simp), pow_succ, Nat.mul_comm]
    · have hprior : prior = binade * (k + 1) + (m - 1) := by omega
      have hnot : ¬ (decide (binade + m = binade) && decide (0 < k)) = true := by
        rw [decide_eq_false (by omega), Bool.false_and]
        exact Bool.false_ne_true
      rw [hprior, (shift_add k (by omega)).1, if_neg hnot]

theorem unitsPerOne_cast_pos : (0 : ℚ) < unitsPerOne := by exact_mod_cast unitsPerOne_pos

/-- The distance of magnitudes with `k` zero bits behind the significand. -/
def step (k : Nat) : ℚ := (2 ^ k : Nat) / unitsPerOne

theorem step_pos (k : Nat) : 0 < step k :=
  div_pos (by exact_mod_cast Nat.two_pow_pos k) unitsPerOne_cast_pos

theorem step_le_step {j k : Nat} (h : j ≤ k) : step j ≤ step k := by
  refine div_le_div_of_nonneg_right ?_ unitsPerOne_cast_pos.le
  exact_mod_cast Nat.pow_le_pow_right Nat.two_pos h

theorem magnitude_succ (rank : Nat) :
    magnitude (rank + 1) = magnitude rank + step (shift rank) := by
  rw [magnitude, magnitude, step, unitsOfRank_succ, Nat.cast_add, add_div]

theorem magnitude_lt_succ (rank : Nat) : magnitude rank < magnitude (rank + 1) := by
  rw [magnitude_succ]
  exact lt_add_of_pos_right _ (step_pos _)

theorem significand_lt (rank : Nat) : significand rank < 2 ^ 53 := by
  unfold significand binade
  split <;> omega

theorem magnitude_succ_le (rank : Nat) :
    magnitude (rank + 1) ≤ 2 ^ 53 * (magnitude (rank + 1) - magnitude rank) := by
  have hunits : unitsOfRank (rank + 1) ≤ 2 ^ 53 * 2 ^ shift rank := by
    have hsplit : unitsOfRank (rank + 1) = (significand rank + 1) * 2 ^ shift rank := by
      rw [unitsOfRank_succ, Nat.add_mul, Nat.one_mul]
      rfl
    rw [hsplit]
    exact Nat.mul_le_mul_right _ (significand_lt rank)
  have hgap : magnitude (rank + 1) - magnitude rank = step (shift rank) := by
    rw [magnitude_succ, add_sub_cancel_left]
  rw [hgap, magnitude, step, ← mul_div_assoc, div_le_div_iff_of_pos_right unitsPerOne_cast_pos]
  exact_mod_cast hunits

theorem strictMono_magnitude : StrictMono magnitude := strictMono_nat_of_lt_succ magnitude_lt_succ

theorem magnitude_zero : magnitude 0 = 0 := by
  have hzero : unitsOfRank 0 = 0 := Nat.zero_mul _
  rw [magnitude, hzero, Nat.cast_zero, zero_div]

theorem magnitude_nonneg (rank : Nat) : 0 ≤ magnitude rank :=
  magnitude_zero ▸ strictMono_magnitude.monotone rank.zero_le

theorem magnitude_pos (h : rank ≠ 0) : 0 < magnitude rank :=
  magnitude_zero ▸ strictMono_magnitude (Nat.pos_of_ne_zero h)

theorem magnitude_lt_halfway (rank : Nat) : magnitude rank < halfway rank := by
  have hlt := magnitude_lt_succ rank
  unfold halfway
  linarith

theorem halfway_lt_magnitude (rank : Nat) : halfway rank < magnitude (rank + 1) := by
  have hlt := magnitude_lt_succ rank
  unfold halfway
  linarith

theorem strictMono_halfway : StrictMono halfway :=
  strictMono_nat_of_lt_succ fun rank =>
    (halfway_lt_magnitude rank).trans (magnitude_lt_halfway (rank + 1))

theorem abs_sub_lt_iff_lt_midpoint {a b : ℚ} (h : a < b) :
    |a - q| < |b - q| ↔ q < (a + b) / 2 := by
  rw [← sq_lt_sq]
  constructor <;> intro hlt <;> nlinarith

theorem abs_sub_lt_iff_midpoint_lt {a b : ℚ} (h : a < b) :
    |b - q| < |a - q| ↔ (a + b) / 2 < q := by
  rw [← sq_lt_sq]
  constructor <;> intro hlt <;> nlinarith

theorem abs_sub_eq_iff_eq_midpoint {a b : ℚ} (h : a < b) :
    |a - q| = |b - q| ↔ q = (a + b) / 2 := by
  rw [← sq_eq_sq_iff_abs_eq_abs]
  constructor <;> intro heq
  · have hprod : (b - a) * (a + b - 2 * q) = 0 := by linear_combination -heq
    rcases mul_eq_zero.mp hprod with hzero | hzero <;> linarith
  · rw [heq]
    ring

theorem isNearest_zero : IsNearest 0 0 := by
  intro other hne
  have hpos := magnitude_pos hne
  rw [magnitude_zero, sub_self, abs_zero, sub_zero, abs_of_pos hpos]
  exact Or.inl hpos

/-- Nearest to a magnitude are the numbers up to the midpoints on its two sides. -/
theorem isNearest_iff : IsNearest q rank ↔
    (q ≤ halfway rank ∧ (q = halfway rank → Even rank)) ∧
      ∀ prior, rank = prior + 1 → halfway prior ≤ q ∧ (q = halfway prior → Even rank) := by
  constructor
  · intro h
    constructor
    · rcases h (rank + 1) (by omega) with hlt | ⟨heq, heven⟩
      · have hupper := (abs_sub_lt_iff_lt_midpoint (magnitude_lt_succ rank)).mp hlt
        exact ⟨hupper.le, fun heq => absurd heq hupper.ne⟩
      · have hupper := (abs_sub_eq_iff_eq_midpoint (magnitude_lt_succ rank)).mp heq
        exact ⟨hupper.le, fun _ => even_significand_iff.mp heven⟩
    · rintro prior rfl
      rcases h prior (by omega) with hlt | ⟨heq, heven⟩
      · have hlower := (abs_sub_lt_iff_midpoint_lt (magnitude_lt_succ prior)).mp hlt
        exact ⟨hlower.le, fun heq => absurd heq hlower.ne'⟩
      · have hlower := (abs_sub_eq_iff_eq_midpoint (magnitude_lt_succ prior)).mp heq.symm
        exact ⟨hlower.ge, fun _ => even_significand_iff.mp heven⟩
  -- The midpoints to the neighbours are nearer than those to other magnitudes.
  · rintro ⟨⟨hupper, hupper_even⟩, hlower⟩ other hne
    rcases Nat.lt_or_gt_of_ne hne with hlt | hgt
    · obtain ⟨prior, rfl⟩ : ∃ prior, rank = prior + 1 := ⟨rank - 1, by omega⟩
      obtain ⟨hge, heven⟩ := hlower prior rfl
      have hmono : (magnitude other + magnitude (prior + 1)) / 2 ≤ halfway prior := by
        have hle := strictMono_magnitude.monotone (show other ≤ prior by omega)
        unfold halfway
        linarith
      have hmag := strictMono_magnitude hlt
      rcases (hmono.trans hge).lt_or_eq with h | h
      · exact Or.inl ((abs_sub_lt_iff_midpoint_lt hmag).mpr h)
      · refine Or.inr ⟨((abs_sub_eq_iff_eq_midpoint hmag).mpr h.symm).symm, ?_⟩
        exact even_significand_iff.mpr (heven (by linarith))
    · have hmono : halfway rank ≤ (magnitude rank + magnitude other) / 2 := by
        have hle := strictMono_magnitude.monotone (show rank + 1 ≤ other by omega)
        unfold halfway
        linarith
      have hmag := strictMono_magnitude hgt
      rcases (hupper.trans hmono).lt_or_eq with h | h
      · exact Or.inl ((abs_sub_lt_iff_lt_midpoint hmag).mpr h)
      · refine Or.inr ⟨(abs_sub_eq_iff_eq_midpoint hmag).mpr h, ?_⟩
        exact even_significand_iff.mpr (hupper_even (by linarith))

/-- What lies between a number and the magnitude nearest to it is nearest to this magnitude, too. -/
theorem IsNearest.of_between (h : IsNearest q rank) (hp : p ∈ Set.uIcc q (magnitude rank)) :
    IsNearest p rank := by
  rw [isNearest_iff] at h ⊢
  obtain ⟨⟨hupper, hupper_even⟩, hlower⟩ := h
  have hmid := magnitude_lt_halfway rank
  rcases Set.mem_uIcc.mp hp with ⟨hqp, hpm⟩ | ⟨hmp, hpq⟩
  · refine ⟨⟨by linarith, fun heq => by linarith⟩, fun prior hprior => ?_⟩
    obtain ⟨hge, heven⟩ := hlower prior hprior
    exact ⟨by linarith, fun heq => heven (by linarith)⟩
  · refine ⟨⟨by linarith, fun heq => hupper_even (by linarith)⟩, ?_⟩
    rintro prior rfl
    have hprior := halfway_lt_magnitude prior
    exact ⟨by linarith, fun heq => by linarith⟩

theorem isNearest_of_abs_sub_lt (h : |magnitude rank - q| < magnitude rank / 2 ^ 54) :
    IsNearest q rank := by
  obtain ⟨hlow, hhigh⟩ := abs_lt.mp h
  have hlt := magnitude_lt_succ rank
  have habove := magnitude_succ_le rank
  rw [isNearest_iff]
  constructor
  · have hupper : q < halfway rank := by
      unfold halfway
      linarith
    exact ⟨hupper.le, fun heq => absurd heq hupper.ne⟩
  · rintro prior rfl
    have hbelow := magnitude_succ_le prior
    have hlower : halfway prior < q := by
      unfold halfway
      linarith
    exact ⟨hlower.le, fun heq => absurd heq hlower.ne'⟩

theorem IsNearest.unique (h : IsNearest q rank) (hother : IsNearest q other) : rank = other := by
  have hle {a b : Nat} (ha : IsNearest q a) (hb : IsNearest q b) : b ≤ a := by
    by_contra hlt
    obtain ⟨prior, rfl⟩ : ∃ prior, b = prior + 1 := ⟨b - 1, by omega⟩
    obtain ⟨⟨hupper, hupper_even⟩, -⟩ := isNearest_iff.mp ha
    obtain ⟨hlower, hlower_even⟩ := (isNearest_iff.mp hb).2 prior rfl
    have hmono := strictMono_halfway.monotone (show a ≤ prior by omega)
    have hsame : halfway a = halfway prior := le_antisymm hmono (hlower.trans hupper)
    obtain rfl : a = prior := strictMono_halfway.injective hsame
    have heq : q = halfway a := le_antisymm hupper hlower
    exact Nat.even_add_one.mp (hlower_even heq) (hupper_even heq)
  exact Nat.le_antisymm (hle hother h) (hle h hother)

end Double

end TextTable
