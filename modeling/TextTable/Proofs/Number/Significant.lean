import Mathlib.Algebra.Order.Ring.Rat
import Mathlib.Data.Int.Log
import Mathlib.Data.Rat.Floor
import Mathlib.Tactic.Linarith
import Mathlib.Tactic.LinearCombination
import Mathlib.Tactic.Positivity
import TextTable.Proofs.Number.Reading

/-! # Significant digits

A positive number is rounded to some number of significant digits: to the nearest multiple of the
place value of the last of them, and of two nearest ones to the even multiple.
-/

namespace TextTable

/-- The integer nearest to a number; of two nearest ones the even one. -/
structure IsNearestInt (q : ℚ) (n : ℤ) : Prop where
  near : |q - n| ≤ 1 / 2
  even : |q - n| = 1 / 2 → Even n

/-- The exponent of the place value of the last of `digits` significant digits. -/
def lastPlace (digits : Nat) (q : ℚ) : Int := Int.log 10 q + 1 - digits

def IsRounded (digits : Nat) (q r : ℚ) : Prop :=
  ∃ n : ℤ, IsNearestInt (q / 10 ^ lastPlace digits q) n ∧ r = n * 10 ^ lastPlace digits q

variable {q : ℚ} {n m : ℤ} {num den count : Nat}

theorem IsNearestInt.le_of_le (h : IsNearestInt q n) (hm : (m : ℚ) ≤ q) : m ≤ n := by
  have hnear := (abs_le.mp h.near).2
  have hlt : (m : ℚ) < n + 1 := by linarith
  exact Int.lt_add_one_iff.mp (by exact_mod_cast hlt)

theorem IsNearestInt.ge_of_ge (h : IsNearestInt q n) (hm : q ≤ m) : n ≤ m := by
  have hnear := (abs_le.mp h.near).1
  have hlt : (n : ℚ) < m + 1 := by linarith
  exact Int.lt_add_one_iff.mp (by exact_mod_cast hlt)

theorem IsNearestInt.of_lt (h : |q - n| < 1 / 2) : IsNearestInt q n :=
  ⟨h.le, fun heq => absurd heq h.ne⟩

/-- Of two integers next to each other at most one is even. -/
theorem IsNearestInt.unique (hn : IsNearestInt q n) (hm : IsNearestInt q m) : n = m := by
  have hle {a b : ℤ} (ha : IsNearestInt q a) (hb : IsNearestInt q b) : a ≤ b := by
    by_contra hlt
    have hone : (b : ℚ) + 1 ≤ a := by exact_mod_cast not_le.mp hlt
    have hqa := abs_le.mp ha.near
    have hqb := abs_le.mp hb.near
    have hahalf : |q - a| = 1 / 2 := by
      rw [abs_of_nonpos (by linarith)]
      linarith
    have hbhalf : |q - b| = 1 / 2 := by
      rw [abs_of_nonneg (by linarith)]
      linarith
    have hsucc : a = b + 1 := by
      have hcast : (a : ℚ) = b + 1 := by linarith
      exact_mod_cast hcast
    have hodd := (hb.even hbhalf).add_one
    rw [← hsucc] at hodd
    exact (Int.not_even_iff_odd.mpr hodd) (ha.even hahalf)
  exact le_antisymm (hle hn hm) (hle hm hn)

/-- A rounded quotient that is half a unit off is of a remainder that is half of the divisor. -/
theorem twice_mod_eq_of_half (hden : 0 < den)
    (h : 2 * num = 2 * (den * roundDiv num den) + den ∨
      2 * (den * roundDiv num den) = 2 * num + den) : 2 * (num % den) = den := by
  have hdiv := Nat.div_add_mod num den
  have hlt := Nat.mod_lt num hden
  rcases roundDiv_cases num den with ⟨heq, hmod⟩ | ⟨heq, hmod⟩ <;> rw [heq] at h
  · omega
  · rw [Nat.mul_add] at h
    omega

theorem isNearestInt_roundDiv (num : Nat) (hden : 0 < den) :
    IsNearestInt (num / den) (roundDiv num den) := by
  have hpos : (0 : ℚ) < den := by exact_mod_cast hden
  have hcancel : (num / den : ℚ) * den = num := div_mul_cancel₀ _ hpos.ne'
  have hle : (2 * (den * roundDiv num den) : ℚ) ≤ 2 * num + den := by
    exact_mod_cast @roundDiv_le num den hden
  have hge : (2 * num : ℚ) ≤ 2 * (den * roundDiv num den) + den := by
    exact_mod_cast @le_roundDiv num den hden
  generalize (num / den : ℚ) = a at hcancel
  constructor
  · push_cast
    rw [abs_le]
    constructor
    · refine le_of_mul_le_mul_right ?_ hpos
      linarith
    · refine le_of_mul_le_mul_right ?_ hpos
      linarith
  · push_cast
    intro hhalf
    have hrem : 2 * (num % den) = den := by
      apply twice_mod_eq_of_half hden
      rcases (abs_eq (by norm_num)).mp hhalf with h | h
      · left
        have hnum : (2 * num : ℚ) = 2 * (den * roundDiv num den) + den := by
          linear_combination -2 * hcancel + 2 * den * h
        exact_mod_cast hnum
      · right
        have hnum : (2 * (den * roundDiv num den) : ℚ) = 2 * num + den := by
          linear_combination 2 * hcancel - 2 * den * h
        exact_mod_cast hnum
    exact (Int.even_coe_nat _).mpr (Nat.even_iff.mpr (roundDiv_even_of_half hrem))

theorem log_eq_of_lt {e : ℤ} (hle : (10 : ℚ) ^ e ≤ q) (hlt : q < 10 ^ (e + 1)) :
    Int.log 10 q = e := by
  have hpos : 0 < q := lt_of_lt_of_le (zpow_pos (by norm_num) e) hle
  have hlow : e ≤ Int.log 10 q := (Int.zpow_le_iff_le_log (b := 10) (by norm_num) hpos).mp hle
  have hhigh : Int.log 10 q < e + 1 :=
    (Int.lt_zpow_iff_log_lt (b := 10) (by norm_num) hpos).mp hlt
  omega

theorem zpow_log_le (h : 0 < q) : (10 : ℚ) ^ Int.log 10 q ≤ q := by
  exact_mod_cast Int.zpow_log_le_self (b := 10) (by norm_num) h

theorem lt_zpow_log (q : ℚ) : q < 10 ^ (Int.log 10 q + 1) := by
  exact_mod_cast Int.lt_zpow_succ_log_self (b := 10) (by norm_num) q

/-- Scaled by a power of ten, a positive number has any number of digits in front of the point. -/
theorem scaled_mem (h : 0 < q) (c : Nat) :
    10 ^ c ≤ q * 10 ^ (c - Int.log 10 q) ∧ q * 10 ^ (c - Int.log 10 q) < 10 ^ (c + 1) := by
  have hpow : (0 : ℚ) < 10 ^ (c - Int.log 10 q) := zpow_pos (by norm_num) _
  have hscaled (k : ℤ) :
      (10 : ℚ) ^ (Int.log 10 q + k) * 10 ^ (c - Int.log 10 q) = 10 ^ (c + k) := by
    rw [← zpow_add₀ (by norm_num)]
    congr 1
    omega
  constructor
  · have hle := mul_le_mul_of_nonneg_right (zpow_log_le h) hpow.le
    have hzero := hscaled 0
    rw [add_zero, add_zero, zpow_natCast] at hzero
    rwa [hzero] at hle
  · have hlt := mul_lt_mul_of_pos_right (lt_zpow_log q) hpow
    rwa [hscaled, ← Nat.cast_succ, zpow_natCast] at hlt

theorem pow_digitsAfterFirst_le {n : Nat} (h : 0 < n) : 10 ^ digitsAfterFirst 10 n ≤ n := by
  by_contra hlt
  rcases Nat.eq_zero_or_pos (digitsAfterFirst 10 n) with hzero | hpos
  · rw [hzero, pow_zero] at hlt
    omega
  · have hlength := (Nat.length_toDigits_le_iff (by decide) hpos).mpr (Nat.not_le.mp hlt)
    unfold digitsAfterFirst at hlength hpos
    omega

theorem lt_pow_digitsAfterFirst (n : Nat) : n < 10 ^ (digitsAfterFirst 10 n + 1) := by
  apply (Nat.length_toDigits_le_iff (by decide) (Nat.succ_pos _)).mp
  unfold digitsAfterFirst
  omega

theorem digitsAfterFirst_eq {n d : Nat} (hle : 10 ^ d ≤ n) (hlt : n < 10 ^ (d + 1)) :
    digitsAfterFirst 10 n = d := by
  have hpos : 0 < n := lt_of_lt_of_le (by positivity) hle
  have hlow := lt_of_le_of_lt hle (lt_pow_digitsAfterFirst n)
  have hhigh := lt_of_le_of_lt (pow_digitsAfterFirst_le hpos) hlt
  rw [Nat.pow_lt_pow_iff_right (by decide)] at hlow hhigh
  omega

theorem log_div (hnum : 0 < num) (hden : 0 < den) :
    Int.log 10 (num / den : ℚ) = floorLog 10 num den := by
  have hnumpos : (0 : ℚ) < num := by exact_mod_cast hnum
  have hdenpos : (0 : ℚ) < den := by exact_mod_cast hden
  unfold floorLog
  split
  · next hle =>
    obtain ⟨d, hd⟩ : ∃ d, d = digitsAfterFirst 10 (num / den) := ⟨_, rfl⟩
    have hlow : 10 ^ d * den ≤ num :=
      (Nat.le_div_iff_mul_le hden).mp (hd ▸ pow_digitsAfterFirst_le (Nat.div_pos hle hden))
    have hhigh : num < 10 ^ (d + 1) * den :=
      (Nat.div_lt_iff_lt_mul hden).mp (hd ▸ lt_pow_digitsAfterFirst (num / den))
    rw [← hd]
    apply log_eq_of_lt
    · rw [zpow_natCast, le_div_iff₀ hdenpos]
      exact_mod_cast hlow
    · rw [← Nat.cast_succ, zpow_natCast, div_lt_iff₀ hdenpos]
      exact_mod_cast hhigh
  -- The reciprocal is more than one.
  · next hlt =>
    obtain ⟨d, hd⟩ : ∃ d, d = digitsAfterFirst 10 ((den - 1) / num) := ⟨_, rfl⟩
    have hpos : 0 < (den - 1) / num := Nat.div_pos (by omega) hnum
    have hlow : 10 ^ d * num ≤ den - 1 :=
      (Nat.le_div_iff_mul_le hnum).mp (hd ▸ pow_digitsAfterFirst_le hpos)
    have hhigh : den - 1 < 10 ^ (d + 1) * num :=
      (Nat.div_lt_iff_lt_mul hnum).mp (hd ▸ lt_pow_digitsAfterFirst ((den - 1) / num))
    rw [← hd]
    apply log_eq_of_lt
    · rw [← Nat.cast_succ, zpow_neg, zpow_natCast, le_div_iff₀ hdenpos,
        inv_mul_le_iff₀ (by positivity)]
      have hle : den ≤ 10 ^ (d + 1) * num := by omega
      exact_mod_cast hle
    · rw [neg_add, neg_add_cancel_right, zpow_neg, zpow_natCast, div_lt_iff₀ hdenpos,
        lt_inv_mul_iff₀ (by positivity)]
      have hlt : 10 ^ d * num < den := by omega
      exact_mod_cast hlt

theorem zpow_mul_pow_toNat (e : ℤ) : (10 : ℚ) ^ e * 10 ^ (-e).toNat = 10 ^ e.toNat := by
  rw [← zpow_natCast, ← zpow_natCast, ← zpow_add₀ (by norm_num)]
  congr 1
  omega

theorem isNearestInt_scaled (num : Nat) (hden : 0 < den) (places : ℤ) :
    IsNearestInt (num / den * 10 ^ places)
      (roundDiv (num * Nat.pow 10 places.toNat) (den * Nat.pow 10 (-places).toNat)) := by
  have hscaled : (num / den : ℚ) * 10 ^ places =
      (num * Nat.pow 10 places.toNat : Nat) / (den * Nat.pow 10 (-places).toNat : Nat) := by
    simp only [Nat.pow_eq]
    push_cast
    rw [← zpow_mul_pow_toNat]
    field_simp
  rw [hscaled]
  exact isNearestInt_roundDiv _ (Nat.mul_pos hden (Nat.pow_pos (by decide)))

theorem IsRounded.eq_zero {r : ℚ} (h : IsRounded count 0 r) : r = 0 := by
  obtain ⟨n, hn, rfl⟩ := h
  rw [zero_div] at hn
  have hzero : n = 0 := hn.unique (.of_lt (by norm_num))
  rw [hzero, Int.cast_zero, zero_mul]

/-- A number that is rounded up to a power of ten is rounded to it with one digit less, too. -/
theorem IsNearestInt.of_carry {n : ℕ} (h : IsNearestInt q n) (hlt : q < 10 ^ (count + 1))
    (hle : 10 ^ (count + 1) ≤ n) :
    n = 10 ^ (count + 1) ∧ IsNearestInt (q / 10) (10 ^ count : ℕ) := by
  have heq : n = 10 ^ (count + 1) := by
    have hge := h.ge_of_ge (m := (10 ^ (count + 1) : ℕ)) (by exact_mod_cast hlt.le)
    exact le_antisymm (by exact_mod_cast hge) hle
  refine ⟨heq, .of_lt ?_⟩
  have hnear := (abs_le.mp h.near).1
  rw [heq] at hnear
  push_cast at hnear ⊢
  rw [pow_succ] at hnear hlt
  rw [abs_lt]
  constructor <;> linarith

namespace Scientific

/-- The digits and the exponent are those of the number with `count` significant digits. -/
structure Rounds (s : Scientific) (count : Nat) (q : ℚ) : Prop where
  isRounded : IsRounded count q s.value
  log_value : Int.log 10 s.value = s.exponent
  /-- The number is rounded at the last place that the exponent of the result gives, too. -/
  nearest : ∃ n : ℤ, IsNearestInt (q * 10 ^ ((count : ℤ) - 1 - s.exponent)) n ∧
    s.value = n / 10 ^ ((count : ℤ) - 1 - s.exponent)

theorem value_toDigits (n : Nat) (e : Int) : value ⟨Nat.toDigits 10 n, e⟩ =
    n * 10 ^ (e - digitsAfterFirst 10 n) := by
  have hlength : 0 < (Nat.toDigits 10 n).length := List.length_pos_of_ne_nil Nat.toDigits_ne_nil
  have hexp : e + 1 - (Nat.toDigits 10 n).length = e - digitsAfterFirst 10 n := by
    unfold digitsAfterFirst
    omega
  rw [value, Nat.ofDigitChars_ten_toDigits, hexp]

theorem log_value_toDigits {n : Nat} (h : 0 < n) (e : Int) :
    Int.log 10 (value ⟨Nat.toDigits 10 n, e⟩) = e := by
  have hlow : (10 : ℚ) ^ digitsAfterFirst 10 n ≤ n := by exact_mod_cast pow_digitsAfterFirst_le h
  have hhigh : (n : ℚ) < 10 ^ (digitsAfterFirst 10 n + 1) := by
    exact_mod_cast lt_pow_digitsAfterFirst n
  rw [value_toDigits, zpow_sub₀ (by norm_num), zpow_natCast]
  have hscale : (0 : ℚ) < 10 ^ e := zpow_pos (by norm_num) e
  have hpow : (0 : ℚ) < 10 ^ digitsAfterFirst 10 n := by positivity
  apply log_eq_of_lt
  · rw [← mul_div_assoc, le_div_iff₀ hpow, mul_comm]
    exact mul_le_mul_of_nonneg_right hlow hscale.le
  · rw [← mul_div_assoc, div_lt_iff₀ hpow, zpow_add_one₀ (by norm_num)]
    rw [pow_succ] at hhigh
    nlinarith

theorem rounds_zero (den count : Nat) : (round 0 den count).Rounds count 0 := by
  have hvalue : (round 0 den count).value = 0 := by
    rw [round, if_pos rfl, value, Nat.ofDigitChars_replicate_zero, Nat.mul_zero, Nat.cast_zero,
      zero_mul]
  have hzero : IsNearestInt 0 0 := .of_lt (by norm_num)
  constructor
  · exact ⟨0, by rwa [zero_div], by rw [hvalue, Int.cast_zero, zero_mul]⟩
  · rw [hvalue, Int.log_zero_right]
    rfl
  · exact ⟨0, by rwa [zero_mul], by rw [hvalue, Int.cast_zero, zero_div]⟩

theorem isRounded_of_scaled {c : Nat} {e : ℤ} {r : ℚ} (he : Int.log 10 q = e)
    (h : IsNearestInt (q * 10 ^ (c - e)) n) (hr : r = n / 10 ^ (c - e)) :
    IsRounded (c + 1) q r := by
  have hlast : lastPlace (c + 1) q = -(c - e) := by
    rw [lastPlace, he]
    omega
  refine ⟨n, ?_, ?_⟩ <;> rw [hlast, zpow_neg]
  · rwa [div_inv_eq_mul]
  · rw [hr, div_eq_mul_inv]

theorem rounds_toDigits {n c : Nat} {e : ℤ} (he : Int.log 10 q = e)
    (h : IsNearestInt (q * 10 ^ (c - e)) n) (hle : 10 ^ c ≤ n) (hlt : n < 10 ^ (c + 1)) :
    Rounds ⟨Nat.toDigits 10 n, e⟩ (c + 1) q := by
  have hvalue : value ⟨Nat.toDigits 10 n, e⟩ = n / 10 ^ (c - e) := by
    rw [value_toDigits, digitsAfterFirst_eq hle hlt, ← neg_sub, zpow_neg, div_eq_mul_inv]
  have hexp : ((c + 1 : Nat) : ℤ) - 1 - e = c - e := by omega
  constructor
  · exact isRounded_of_scaled he h hvalue
  · exact log_value_toDigits (lt_of_lt_of_le (by positivity) hle) e
  · dsimp only
    rw [hexp]
    exact ⟨n, h, hvalue⟩

/-- Rounding can carry into a new digit, and then the number is a power of ten. -/
theorem rounds_carry {n c : Nat} {e : ℤ} (he : Int.log 10 q = e)
    (h : IsNearestInt (q * 10 ^ (c - e)) n) (hlt : q * 10 ^ (c - e) < 10 ^ (c + 1))
    (hle : 10 ^ (c + 1) ≤ n) : Rounds ⟨Nat.toDigits 10 (n / 10), e + 1⟩ (c + 1) q := by
  obtain ⟨rfl, hcarry⟩ := h.of_carry hlt hle
  have htenth : 10 ^ (c + 1) / 10 = 10 ^ c := by rw [pow_succ, Nat.mul_div_cancel _ (by decide)]
  have hdigits : digitsAfterFirst 10 (10 ^ c) = c :=
    digitsAfterFirst_eq le_rfl (Nat.pow_lt_pow_right (by decide) (by omega))
  have hexp : ((c + 1 : Nat) : ℤ) - 1 - (e + 1) = c - e - 1 := by omega
  have htens : (10 : ℚ) ^ (c - e) = 10 ^ (c - e - 1) * 10 := by
    rw [← zpow_add_one₀ (by norm_num), sub_add_cancel]
  have hvalue : value ⟨Nat.toDigits 10 (10 ^ c), e + 1⟩ = (10 ^ c : ℕ) / 10 ^ (c - e - 1) := by
    have hneg : e + 1 - (c : ℤ) = -(c - e - 1) := by omega
    rw [value_toDigits, hdigits, hneg, zpow_neg, ← div_eq_mul_inv]
  rw [htenth]
  constructor
  · refine isRounded_of_scaled he h ?_
    rw [hvalue, htens, pow_succ]
    push_cast
    field_simp
  · exact log_value_toDigits (by positivity) (e + 1)
  · dsimp only
    rw [hexp]
    refine ⟨(10 ^ c : ℕ), ?_, hvalue⟩
    rwa [htens, ← mul_assoc, mul_div_cancel_right₀ _ (by norm_num)] at hcarry

theorem rounds_round (num : Nat) (hden : 0 < den) (hcount : 0 < count) :
    (round num den count).Rounds count (num / den) := by
  rcases Nat.eq_zero_or_pos num with rfl | hnum
  · rw [Nat.cast_zero, zero_div]
    exact rounds_zero den count
  obtain ⟨c, rfl⟩ : ∃ c, count = c + 1 := ⟨count - 1, by omega⟩
  have hnumpos : (0 : ℚ) < num := by exact_mod_cast hnum
  have hdenpos : (0 : ℚ) < den := by exact_mod_cast hden
  have hlog := log_div hnum hden
  have hscaled := scaled_mem (div_pos hnumpos hdenpos) c
  have hnearest := isNearestInt_scaled num hden ((c + 1 : Nat) - 1 - floorLog 10 num den)
  unfold round
  rw [if_neg hnum.ne']
  extract_lets e places n
  change IsNearestInt (num / den * 10 ^ places) n at hnearest
  have hplaces : places = c - e := by simp only [places]; omega
  rw [hplaces] at hnearest
  rw [hlog] at hscaled
  split
  · next hfits =>
    have hle := hnearest.le_of_le (m := (10 ^ c : ℕ)) (by exact_mod_cast hscaled.1)
    exact rounds_toDigits hlog hnearest (by exact_mod_cast hle) hfits
  · next hcarry => exact rounds_carry hlog hnearest hscaled.2 (Nat.not_lt.mp hcarry)

/-- The number with the decimals that the exponent of the rounded number leaves is this number. -/
theorem Rounds.fixed_eq {s : Scientific} (h : s.Rounds count (num / den)) (hden : 0 < den)
    (hexponent : s.exponent < count) :
    (roundDiv (num * Nat.pow 10 (count - 1 - s.exponent).toNat) den : ℚ) /
      10 ^ (count - 1 - s.exponent).toNat = s.value := by
  obtain ⟨n, hn, hvalue⟩ := h.nearest
  have hnearest := isNearestInt_scaled num hden ((count : ℤ) - 1 - s.exponent)
  have hden' : den * Nat.pow 10 (-((count : ℤ) - 1 - s.exponent)).toNat = den := by
    have hzero : (-((count : ℤ) - 1 - s.exponent)).toNat = 0 := by omega
    rw [hzero, Nat.pow_eq, Nat.pow_zero, Nat.mul_one]
  have hplaces : (((count : ℤ) - 1 - s.exponent).toNat : ℤ) = count - 1 - s.exponent := by omega
  rw [hden'] at hnearest
  rw [hvalue, hn.unique hnearest, Int.cast_natCast, ← zpow_natCast, hplaces]

end Scientific

end TextTable
