import TextTable.Proofs.Number.Nearest
import TextTable.Proofs.Number.Significant

/-! # Rounding to double precision

A quotient or a decimal is rounded to the double with the nearest magnitude. This depends on the
number alone: a decimal may be written with any exponent.
-/

namespace TextTable

namespace Double

variable {num den k r rank prior : Nat} {q : ℚ} {negative : Bool} {x : Double}

theorem magnitude_steps (hr : r ≤ 2 * binade) (hk : k = 0 ∨ binade ≤ r) :
    magnitude (k * binade + r) = r * step k := by
  have hunits : unitsOfRank (k * binade + r) = r * 2 ^ k := by
    rcases Nat.lt_or_ge r binade with hlt | hge
    · obtain rfl := hk.resolve_right (by omega)
      rw [Nat.zero_mul, Nat.zero_add, unitsOfRank, (shift_of_lt hlt).1, (shift_of_lt hlt).2]
      rfl
    rcases hr.lt_or_eq with hlt | rfl
    · have hrank : k * binade + r = binade * (k + 1) + (r - binade) := by
        rw [Nat.mul_succ, Nat.mul_comm]
        omega
      have hlast : r - binade < binade := by omega
      rw [hrank, unitsOfRank, (shift_add k hlast).1, (shift_add k hlast).2,
        Nat.add_sub_cancel' hge]
      rfl
    · have hrank : k * binade + 2 * binade = binade * (k + 1 + 1) + 0 := by ring
      rw [hrank, unitsOfRank, (shift_add (k + 1) binade_pos).1, (shift_add (k + 1) binade_pos).2,
        Nat.pow_eq, pow_succ]
      ring
  rw [magnitude, hunits, step, Nat.cast_mul, mul_div_assoc]

theorem le_shift (hk : k = 0 ∨ binade ≤ r) : k ≤ shift (k * binade + r) := by
  rcases hk with rfl | hr
  · exact Nat.zero_le _
  · rw [shift, Nat.mul_comm, Nat.mul_add_div binade_pos]
    have hone : 1 ≤ r / binade := Nat.div_pos hr binade_pos
    omega

theorem shift_prior (hrank : k * binade + r = prior + 1) (hr : r ≤ 2 * binade)
    (hk : k = 0 ∨ binade < r) : shift prior = k := by
  have hpos := binade_pos
  have hquotient : (r - 1) / binade < 2 := Nat.div_lt_of_lt_mul (by omega)
  rcases hk with rfl | hlt
  · have hprior : prior = r - 1 := by omega
    rw [shift, hprior]
    omega
  · have hprior : prior = binade * k + (r - 1) := by
      rw [Nat.mul_comm]
      omega
    have hone : 1 ≤ (r - 1) / binade := Nat.div_pos (by omega) hpos
    rw [shift, hprior, Nat.mul_add_div hpos]
    omega

theorem even_steps_iff : Even (k * binade + r) ↔ Even (r : ℤ) := by
  have hbinade : Even (k * binade) := Even.mul_left (by decide) k
  rw [Nat.even_add, iff_true_left hbinade, Int.even_coe_nat]

/-- A number that is nearest to `r` steps is nearest to the magnitude of that many steps. Below the
first binade with these steps magnitudes are closer, so that it must not start there. -/
theorem isNearest_of_steps (hq : IsNearestInt q r) (hr : r ≤ 2 * binade)
    (hk : k = 0 ∨ binade ≤ r) (hfirst : k ≠ 0 → (binade : ℚ) ≤ q) :
    IsNearest (q * step k) (k * binade + r) := by
  have hstep := step_pos k
  have hmagnitude := magnitude_steps hr hk
  obtain ⟨hlow, hhigh⟩ := abs_le.mp hq.near
  push_cast at hlow hhigh
  have heven (hhalf : |q - r| = 1 / 2) : Even (k * binade + r) :=
    even_steps_iff.mpr (hq.even (by exact_mod_cast hhalf))
  rw [isNearest_iff]
  constructor
  · have hgap : step k ≤ step (shift (k * binade + r)) := step_le_step (le_shift hk)
    have hhalfway : (r + 1 / 2) * step k ≤ halfway (k * binade + r) := by
      rw [halfway, magnitude_succ, hmagnitude]
      linarith
    have hle : q * step k ≤ (r + 1 / 2) * step k := by
      refine mul_le_mul_of_nonneg_right ?_ hstep.le
      linarith
    refine ⟨hle.trans hhalfway, fun heq => heven ?_⟩
    have hsame : q * step k = (r + 1 / 2) * step k := le_antisymm hle (heq ▸ hhalfway)
    rw [mul_left_inj' hstep.ne'] at hsame
    rw [hsame, add_sub_cancel_left]
    norm_num
  · intro prior hprior
    by_cases hregular : k = 0 ∨ binade < r
    · have hhalfway : halfway prior = (r - 1 / 2) * step k := by
        have hsucc := magnitude_succ prior
        rw [← hprior, hmagnitude, shift_prior hprior hr hregular] at hsucc
        rw [halfway, ← hprior, hmagnitude]
        linarith
      rw [hhalfway]
      refine ⟨mul_le_mul_of_nonneg_right (by linarith) hstep.le, fun heq => heven ?_⟩
      rw [mul_left_inj' hstep.ne'] at heq
      rw [heq, sub_sub_cancel_left]
      norm_num
    · obtain ⟨hk0, hbinade⟩ := not_or.mp hregular
      obtain rfl : r = binade := Nat.le_antisymm (Nat.le_of_not_lt hbinade) (hk.resolve_left hk0)
      have hlt : halfway prior < q * step k := by
        have hbelow := halfway_lt_magnitude prior
        rw [← hprior, hmagnitude] at hbelow
        exact hbelow.trans_le (mul_le_mul_of_nonneg_right (hfirst hk0) hstep.le)
      exact ⟨hlt.le, fun heq => absurd heq hlt.ne'⟩

theorem leadingBits_lt (n : Nat) : n / 2 ^ (n.log2 - 52) < 2 * binade := by
  have hbits : 2 ^ (n.log2 - 52) * (2 * binade) = 2 ^ (n.log2 - 52 + 53) := by
    rw [pow_add]
    rfl
  refine Nat.div_lt_of_lt_mul (Nat.lt_of_lt_of_le Nat.lt_log2_self ?_)
  rw [hbits]
  exact Nat.pow_le_pow_right Nat.two_pos (by omega)

theorem binade_le_leadingBits {n : Nat} (h : n.log2 - 52 ≠ 0) :
    binade ≤ n / 2 ^ (n.log2 - 52) := by
  have hbits : binade * 2 ^ (n.log2 - 52) = 2 ^ n.log2 := by
    have hlog : n.log2 = 52 + (n.log2 - 52) := by omega
    conv_rhs => rw [hlog, pow_add]
    rfl
  rw [Nat.le_div_iff_mul_le (Nat.two_pow_pos _), hbits]
  refine Nat.log2_self_le ?_
  rintro rfl
  exact h rfl

theorem isNearest_nearestRank (num : Nat) (hden : 0 < den) :
    IsNearest (num / den) (nearestRank num den) := by
  unfold nearestRank
  extract_lets scaled k
  have hdenk : 0 < den * Nat.pow 2 k := Nat.mul_pos hden (Nat.two_pow_pos k)
  have hquotient : (num / den : ℚ) = scaled / (den * Nat.pow 2 k : Nat) * step k := by
    have hone := unitsPerOne_cast_pos
    have hpos : (0 : ℚ) < den := by exact_mod_cast hden
    simp only [scaled, step, Nat.pow_eq]
    push_cast
    field_simp
  have hcut : scaled / (den * Nat.pow 2 k) = scaled / den / 2 ^ k := by
    rw [Nat.div_div_eq_div_mul, Nat.pow_eq]
  have hlt : scaled / (den * Nat.pow 2 k) < 2 * binade := by
    rw [hcut]
    exact leadingBits_lt _
  have hge (hk : k ≠ 0) : binade ≤ scaled / (den * Nat.pow 2 k) := by
    rw [hcut]
    exact binade_le_leadingBits hk
  have hround := roundDiv_cases scaled (den * Nat.pow 2 k)
  rw [hquotient]
  refine isNearest_of_steps (isNearestInt_roundDiv scaled hdenk) (by omega) ?_ fun hk => ?_
  · rcases eq_or_ne k 0 with hk | hk
    · exact Or.inl hk
    · have hbits := hge hk
      exact Or.inr (by omega)
  · rw [le_div_iff₀ (by exact_mod_cast hdenk)]
    exact_mod_cast (Nat.le_div_iff_mul_le hdenk).mp (hge hk)

/-- The double with the nearest magnitude is the only one with a nearest magnitude and its sign. -/
theorem finite_eq_iff (h : IsNearest q rank) (hrank : rank < 0x7FF0000000000000) :
    Rounded.finite ⟨negative, rank, hrank⟩ = .finite x ↔
      x.negative = negative ∧ IsNearest q x.rank := by
  constructor
  · rintro hx
    obtain rfl := Rounded.finite.inj hx
    exact ⟨rfl, h⟩
  · rintro ⟨rfl, hx⟩
    obtain rfl := h.unique hx
    rfl

/-- A quotient is rounded to a double if and only if this is the nearest one. -/
theorem round_eq_finite_iff (hden : 0 < den) : round negative num den = .finite x ↔
    x.negative = negative ∧ IsNearest (num / den) x.rank := by
  have hnearest := isNearest_nearestRank num hden
  unfold round
  extract_lets rank
  split
  · exact finite_eq_iff hnearest _
  · next hlarge =>
    refine iff_of_false (by simp) ?_
    rintro ⟨-, hx⟩
    have hrank : rank = x.rank := hnearest.unique hx
    exact hlarge (hrank ▸ x.rank_lt)

variable {n : Nat} {e : ℤ}

theorem lt_zpow_digitsAfterFirst (n : Nat) (e : ℤ) :
    (n * 10 ^ e : ℚ) < 10 ^ (digitsAfterFirst 10 n + e + 1) := by
  have hlt : (n : ℚ) < 10 ^ (digitsAfterFirst 10 n + 1) := by
    exact_mod_cast lt_pow_digitsAfterFirst n
  rw [add_right_comm, zpow_add₀ (by norm_num), ← Nat.cast_add_one, zpow_natCast]
  exact mul_lt_mul_of_pos_right hlt (zpow_pos (by norm_num) e)

theorem zpow_digitsAfterFirst_le (hn : 0 < n) (e : ℤ) :
    (10 : ℚ) ^ (digitsAfterFirst 10 n + e) ≤ n * 10 ^ e := by
  have hle : (10 : ℚ) ^ digitsAfterFirst 10 n ≤ n := by
    exact_mod_cast pow_digitsAfterFirst_le hn
  rw [zpow_add₀ (by norm_num), zpow_natCast]
  exact mul_le_mul_of_nonneg_right hle (zpow_pos (by norm_num) e).le

theorem unitsPerOne_lt : 2 * unitsPerOne < 10 ^ 400 := by decide +kernel

theorem isNearest_zero_of_lt (hq : q < 10 ^ (-400 : ℤ)) : IsNearest q 0 := by
  have hfirst : magnitude 1 = 1 / unitsPerOne := by
    have hone : unitsOfRank 1 = 1 := by decide
    rw [magnitude, hone, Nat.cast_one]
  have hlt : q < halfway 0 := by
    have hunits : (2 * unitsPerOne : ℚ) < 10 ^ 400 := by exact_mod_cast unitsPerOne_lt
    have hpos := unitsPerOne_cast_pos
    rw [halfway, magnitude_zero, zero_add, zero_add, hfirst, div_div, mul_comm]
    refine hq.trans ?_
    rw [zpow_neg, inv_eq_one_div]
    exact one_div_lt_one_div_of_lt (mul_pos two_pos hpos) hunits
  exact isNearest_iff.mpr ⟨⟨hlt.le, fun _ => Even.zero⟩, fun prior hprior => by omega⟩

theorem unitsOfRank_last_lt : unitsOfRank 0x7FF0000000000000 < 10 ^ 400 * unitsPerOne := by
  decide +kernel

/-- Numbers that are rounded to a finite magnitude are below the magnitude that would come next. -/
theorem lt_of_isNearest (h : IsNearest q rank) (hrank : rank < 0x7FF0000000000000) :
    q < 10 ^ (400 : ℤ) := by
  have hupper := (isNearest_iff.mp h).1.1.trans_lt (halfway_lt_magnitude rank)
  have hlast : magnitude 0x7FF0000000000000 < 10 ^ (400 : ℤ) := by
    rw [magnitude, div_lt_iff₀ unitsPerOne_cast_pos]
    exact_mod_cast unitsOfRank_last_lt
  exact hupper.trans_le ((strictMono_magnitude.monotone hrank).trans hlast.le)

/-- A decimal is rounded to a double if and only if this is the nearest one. -/
theorem ofDecimal_eq_finite_iff : ofDecimal negative n e = .finite x ↔
    x.negative = negative ∧ IsNearest (n * 10 ^ e) x.rank := by
  have hlow := lt_zpow_digitsAfterFirst n e
  unfold ofDecimal
  extract_lets magnitude
  split
  · next hsmall =>
    refine finite_eq_iff ?_ _
    simp only [Bool.or_eq_true, decide_eq_true_eq] at hsmall
    rcases hsmall with rfl | hsmall
    · rw [Nat.cast_zero, zero_mul]
      exact isNearest_zero
    · refine isNearest_zero_of_lt (hlow.trans_le ?_)
      exact zpow_le_zpow_right₀ (by norm_num) (by omega)
  · next hsmall =>
    simp only [Bool.or_eq_true, decide_eq_true_eq, not_or] at hsmall
    split
    · next hlarge =>
      refine iff_of_false (by simp) ?_
      rintro ⟨-, hx⟩
      have hhigh := zpow_digitsAfterFirst_le (Nat.pos_of_ne_zero hsmall.1) e
      have hpow : (10 : ℚ) ^ (400 : ℤ) ≤ 10 ^ (digitsAfterFirst 10 n + e) :=
        zpow_le_zpow_right₀ (by norm_num) (by omega)
      exact absurd (hpow.trans hhigh) (not_le.mpr (lt_of_isNearest hx x.rank_lt))
    · have hden : 0 < Nat.pow 10 (-e).toNat := Nat.pow_pos (by decide)
      have hquotient : (n * Nat.pow 10 e.toNat : Nat) / (Nat.pow 10 (-e).toNat : Nat) =
          (n * 10 ^ e : ℚ) := by
        have hpos : (0 : ℚ) < 10 ^ (-e).toNat := by positivity
        simp only [Nat.pow_eq]
        push_cast
        rw [div_eq_iff hpos.ne', mul_assoc, zpow_mul_pow_toNat]
      rw [round_eq_finite_iff hden, hquotient]

end Double

end TextTable
