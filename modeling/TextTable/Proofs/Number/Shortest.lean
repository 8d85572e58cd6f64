import Mathlib.Algebra.Order.Floor.Semifield
import TextTable.Proofs.Number.Nearest
import TextTable.Proofs.Number.Significant

/-! # The shortest decimal

A magnitude is shown as the decimal with the fewest digits that it is nearest to, and as the closest
one of these. With a given number of digits only the two decimals next to the magnitude matter,
because the numbers that it is nearest to have no gaps.
-/

namespace TextTable

open Double

/-- The number is a decimal of at most `count` digits. -/
def HasDigits (count : Nat) (q : ℚ) : Prop := ∃ (n : Nat) (k : ℤ), n < 10 ^ count ∧ q = n * 10 ^ k

/-- The first number is closer to a magnitude than the second one, or as close and, in a tie that
goes up, not below it. -/
structure IsCloser (tie : Tie) (rank : Nat) (q p : ℚ) : Prop where
  close : |magnitude rank - q| ≤ |magnitude rank - p|
  tie : tie = .up → |magnitude rank - q| = |magnitude rank - p| → p ≤ q

/-- Of the decimals that read back as the magnitude of a rank the one with the fewest digits, and of
these the closest one. -/
structure IsShortest (tie : Tie) (rank : Nat) (q : ℚ) : Prop where
  nearest : IsNearest q rank
  closest : ∃ count, HasDigits count q ∧ ∀ p, IsNearest p rank →
    (∀ k, HasDigits k p → count ≤ k) ∧ (HasDigits count p → IsCloser tie rank q p)

theorem HasDigits.eq_zero {q : ℚ} (h : HasDigits 0 q) : q = 0 := by
  obtain ⟨n, k, hn, rfl⟩ := h
  obtain rfl : n = 0 := by omega
  rw [Nat.cast_zero, zero_mul]

theorem HasDigits.nonneg {count : Nat} {q : ℚ} (h : HasDigits count q) : 0 ≤ q := by
  obtain ⟨n, k, -, rfl⟩ := h
  exact mul_nonneg n.cast_nonneg (zpow_nonneg (by norm_num) k)

theorem IsShortest.nonneg {tie : Tie} {rank : Nat} {q : ℚ} (h : IsShortest tie rank q) :
    0 ≤ q := by
  obtain ⟨count, hdigits, -⟩ := h.closest
  exact hdigits.nonneg

theorem IsCloser.refl (tie : Tie) (rank : Nat) (q : ℚ) : IsCloser tie rank q q :=
  ⟨le_rfl, fun _ _ => le_rfl⟩

theorem IsCloser.trans {tie : Tie} {rank : Nat} {p q r : ℚ} (h : IsCloser tie rank p q)
    (hnext : IsCloser tie rank q r) : IsCloser tie rank p r where
  close := h.close.trans hnext.close
  tie hup heq := by
    have hsame : |magnitude rank - p| = |magnitude rank - q| :=
      le_antisymm h.close (hnext.close.trans heq.ge)
    exact (hnext.tie hup (hsame.symm.trans heq)).trans (h.tie hup hsame)

theorem IsCloser.of_between {tie : Tie} {rank : Nat} {p q : ℚ}
    (h : p ∈ Set.uIcc q (magnitude rank)) : IsCloser tie rank p q := by
  rcases Set.mem_uIcc.mp h with ⟨hqp, hp⟩ | ⟨hp, hpq⟩
  · exact ⟨by rw [abs_of_nonneg, abs_of_nonneg] <;> linarith, fun _ _ => hqp⟩
  · have hpdist : |magnitude rank - p| = p - magnitude rank := by
      rw [abs_of_nonpos (by linarith), neg_sub]
    have hqdist : |magnitude rank - q| = q - magnitude rank := by
      rw [abs_of_nonpos (by linarith), neg_sub]
    constructor
    · rw [hpdist, hqdist]
      linarith
    · intro _ heq
      rw [hpdist, hqdist] at heq
      linarith

namespace Scientific

variable {tie : Tie} {rank count n m : Nat} {q p : ℚ} {s : Scientific} {places : ℤ}

def ofPlaces (places : ℤ) (n : Nat) : Scientific :=
  ⟨((Nat.toDigits 10 n).reverse.dropWhile (· = '0')).reverse,
    ((Nat.toDigits 10 n).length : ℤ) - 1 - places⟩

/-- The decimals that the last of `count` significant digits of a magnitude leaves. -/
def placesOf (rank count : Nat) : ℤ := (count : ℤ) - 1 - Int.log 10 (magnitude rank)

/-- The decimal that is `n` units of the last of `count` significant digits of a magnitude. -/
def decimal (rank count n : Nat) : ℚ := n / 10 ^ placesOf rank count

/-- The decimal next to a magnitude, from below. -/
def cut (rank count : Nat) : Nat := ⌊magnitude rank * 10 ^ placesOf rank count⌋₊

/-- One of the two decimals next to the magnitude that reads back as this magnitude. -/
structure IsCandidate (rank count n : Nat) : Prop where
  next : n = cut rank count ∨ n = cut rank count + 1
  nearest : IsNearest (decimal rank count n) rank

/-- The candidate that is closest to the magnitude. -/
structure IsChosen (tie : Tie) (rank count n : Nat) : Prop extends IsCandidate rank count n where
  closest : ∀ m, IsCandidate rank count m →
    IsCloser tie rank (decimal rank count n) (decimal rank count m)

theorem value_ofPlaces (places : ℤ) (n : Nat) : (ofPlaces places n).value = n / 10 ^ places := by
  obtain ⟨k, hk⟩ := exists_dropWhile_append_zeros (Nat.toDigits 10 n)
  have hvalue := value_toDigits n (((Nat.toDigits 10 n).length : ℤ) - 1 - places)
  have hlength : 0 < (Nat.toDigits 10 n).length := List.length_pos_of_ne_nil Nat.toDigits_ne_nil
  have hexp : ((Nat.toDigits 10 n).length : ℤ) - 1 - places - digitsAfterFirst 10 n = -places := by
    unfold digitsAfterFirst
    omega
  rw [ofPlaces, ← value_append_zeros _ _ k, hk, hvalue, hexp, zpow_neg, div_eq_mul_inv]

theorem log_value_ofPlaces (places : ℤ) (hn : 0 < n) :
    Int.log 10 (ofPlaces places n).value = (ofPlaces places n).exponent := by
  obtain ⟨k, hk⟩ := exists_dropWhile_append_zeros (Nat.toDigits 10 n)
  have hlog := log_value_toDigits hn (((Nat.toDigits 10 n).length : ℤ) - 1 - places)
  rwa [← hk, value_append_zeros, hk] at hlog

/-- The units in which decimals and midpoints are compared. -/
def unit (places : ℤ) : ℚ := 4 * unitsPerOne * 10 ^ places.toNat

theorem unit_pos (places : ℤ) : 0 < unit places := by
  have hpos := unitsPerOne_cast_pos
  unfold unit
  positivity

theorem cast_mul_den (places : ℤ) (n : Nat) :
    ((n * (4 * unitsPerOne * Nat.pow 10 (-places).toNat) : Nat) : ℚ) =
      n / 10 ^ places * unit places := by
  have hpos : (0 : ℚ) < 10 ^ places := zpow_pos (by norm_num) places
  rw [unit, ← zpow_mul_pow_toNat, div_mul_eq_mul_div, eq_div_iff hpos.ne']
  simp only [Nat.pow_eq]
  push_cast
  ring

theorem cast_scaled (places : ℤ) (units : Nat) :
    ((4 * units * Nat.pow 10 places.toNat : Nat) : ℚ) = units / unitsPerOne * unit places := by
  have hpos := unitsPerOne_cast_pos
  rw [unit]
  simp only [Nat.pow_eq]
  push_cast
  field_simp

theorem cast_high (places : ℤ) (rank : Nat) :
    ((4 * unitsOfRank rank * Nat.pow 10 places.toNat +
      2 * Nat.pow 2 (shift rank) * Nat.pow 10 places.toNat : Nat) : ℚ) =
        halfway rank * unit places := by
  have hnext : 4 * unitsOfRank rank * Nat.pow 10 places.toNat +
      2 * Nat.pow 2 (shift rank) * Nat.pow 10 places.toNat =
        (2 * unitsOfRank rank + 2 * unitsOfRank (rank + 1)) * Nat.pow 10 places.toNat := by
    simp only [Nat.pow_eq]
    rw [unitsOfRank_succ]
    ring
  have hpos := unitsPerOne_cast_pos
  rw [hnext, unit, halfway, magnitude, magnitude]
  simp only [Nat.pow_eq]
  push_cast
  field_simp
  ring

theorem cast_low (places : ℤ) (prior : Nat) :
    ((4 * unitsOfRank (prior + 1) * Nat.pow 10 places.toNat -
      (if significand (prior + 1) = binade && decide (0 < shift (prior + 1)) then
        Nat.pow 2 (shift (prior + 1)) else 2 * Nat.pow 2 (shift (prior + 1))) *
          Nat.pow 10 places.toNat : Nat) : ℚ) = halfway prior * unit places := by
  simp only [Nat.pow_eq]
  rw [← two_mul_gap]
  have hnext : 4 * unitsOfRank (prior + 1) * 10 ^ places.toNat -
      2 * 2 ^ shift prior * 10 ^ places.toNat =
        (2 * unitsOfRank prior + 2 * unitsOfRank (prior + 1)) * 10 ^ places.toNat := by
    rw [unitsOfRank_succ, ← Nat.sub_mul]
    congr 1
    omega
  have hpos := unitsPerOne_cast_pos
  rw [hnext, unit, halfway, magnitude, magnitude]
  push_cast
  field_simp
  ring

theorem isNearest_iff_scaled {prior low high : Nat} (hrank : rank = prior + 1) (places : ℤ)
    (hlow : (low : ℚ) = halfway prior * unit places)
    (hhigh : (high : ℚ) = halfway rank * unit places) (n : Nat) :
    let scaled := n * (4 * unitsPerOne * Nat.pow 10 (-places).toNat)
    (if significand rank % 2 = 0 then decide (low ≤ scaled) && decide (scaled ≤ high)
      else decide (low < scaled) && decide (scaled < high)) = true ↔
        IsNearest (n / 10 ^ places) rank := by
  intro scaled
  have hscaled : (scaled : ℚ) = n / 10 ^ places * unit places := cast_mul_den places n
  generalize (n : ℚ) / 10 ^ places = q at hscaled
  have hunit := unit_pos places
  have hle_low : low ≤ scaled ↔ halfway prior ≤ q := by
    rw [← Nat.cast_le (α := ℚ), hlow, hscaled, mul_le_mul_iff_left₀ hunit]
  have hle_high : scaled ≤ high ↔ q ≤ halfway rank := by
    rw [← Nat.cast_le (α := ℚ), hhigh, hscaled, mul_le_mul_iff_left₀ hunit]
  have hlt_low : low < scaled ↔ halfway prior < q := by
    rw [← Nat.cast_lt (α := ℚ), hlow, hscaled, mul_lt_mul_iff_left₀ hunit]
  have hlt_high : scaled < high ↔ q < halfway rank := by
    rw [← Nat.cast_lt (α := ℚ), hhigh, hscaled, mul_lt_mul_iff_left₀ hunit]
  have heven : significand rank % 2 = 0 ↔ Even rank := by
    rw [← Nat.even_iff, even_significand_iff]
  subst hrank
  rw [isNearest_iff]
  split
  · next hmod =>
    have hsame := heven.mp hmod
    simp only [Bool.and_eq_true, decide_eq_true_eq, hle_low, hle_high, Nat.add_right_cancel_iff,
      forall_eq', hsame, implies_true, and_true]
    exact and_comm
  · next hmod =>
    have hsame : ¬ Even (prior + 1) := fun h => hmod (heven.mpr h)
    simp only [Bool.and_eq_true, decide_eq_true_eq, hlt_low, hlt_high, Nat.add_right_cancel_iff,
      forall_eq', hsame, imp_false, ← lt_iff_le_and_ne]
    constructor
    · rintro ⟨hlower, hupper⟩
      exact ⟨hupper, hlower.le, hlower.ne'⟩
    · rintro ⟨hupper, hle, hne⟩
      exact ⟨lt_of_le_of_ne hle (Ne.symm hne), hupper⟩

theorem scale_pos (places : ℤ) : (0 : ℚ) < 10 ^ places := zpow_pos (by norm_num) places

theorem cut_le (rank count : Nat) :
    (cut rank count : ℚ) ≤ magnitude rank * 10 ^ placesOf rank count :=
  Nat.floor_le (mul_nonneg (magnitude_nonneg rank) (scale_pos _).le)

theorem lt_cut_succ (rank count : Nat) :
    magnitude rank * 10 ^ placesOf rank count < (cut rank count : ℚ) + 1 :=
  Nat.lt_floor_add_one _

theorem decimal_le_magnitude (h : n ≤ cut rank count) :
    decimal rank count n ≤ magnitude rank := by
  rw [decimal, div_le_iff₀ (scale_pos _)]
  exact le_trans (by exact_mod_cast h) (cut_le rank count)

theorem magnitude_lt_decimal (h : cut rank count + 1 ≤ n) :
    magnitude rank < decimal rank count n := by
  rw [decimal, lt_div_iff₀ (scale_pos _)]
  exact lt_of_lt_of_le (lt_cut_succ rank count) (by exact_mod_cast h)

theorem decimal_le_decimal (h : n ≤ m) : decimal rank count n ≤ decimal rank count m :=
  div_le_div_of_nonneg_right (by exact_mod_cast h) (scale_pos _).le

/-- The part of a magnitude that is cut off, in units of the last place. -/
def cutOff (rank count : Nat) : ℚ := magnitude rank * 10 ^ placesOf rank count - cut rank count

theorem abs_sub_cut (rank count : Nat) :
    |magnitude rank - decimal rank count (cut rank count)| =
      cutOff rank count / 10 ^ placesOf rank count := by
  have hscale := (scale_pos (placesOf rank count)).ne'
  rw [abs_of_nonneg (sub_nonneg.mpr (decimal_le_magnitude le_rfl)), cutOff, decimal]
  field_simp

theorem abs_sub_cut_succ (rank count : Nat) :
    |magnitude rank - decimal rank count (cut rank count + 1)| =
      (1 - cutOff rank count) / 10 ^ placesOf rank count := by
  have hscale := (scale_pos (placesOf rank count)).ne'
  rw [abs_of_nonpos (sub_nonpos.mpr (magnitude_lt_decimal le_rfl).le), cutOff, decimal]
  push_cast
  field_simp
  ring

theorem isCloser_cut (h : cutOff rank count ≤ 1 / 2)
    (htie : tie = .up → cutOff rank count ≠ 1 / 2) :
    IsCloser tie rank (decimal rank count (cut rank count))
      (decimal rank count (cut rank count + 1)) := by
  have hscale := scale_pos (placesOf rank count)
  constructor
  · rw [abs_sub_cut, abs_sub_cut_succ, div_le_div_iff_of_pos_right hscale]
    linarith
  · intro hup heq
    rw [abs_sub_cut, abs_sub_cut_succ, div_left_inj' hscale.ne'] at heq
    exact absurd (by linarith) (htie hup)

theorem isCloser_cut_succ (h : 1 / 2 ≤ cutOff rank count) :
    IsCloser tie rank (decimal rank count (cut rank count + 1))
      (decimal rank count (cut rank count)) := by
  have hscale := scale_pos (placesOf rank count)
  constructor
  · rw [abs_sub_cut, abs_sub_cut_succ, div_le_div_iff_of_pos_right hscale]
    linarith
  · exact fun _ _ => decimal_le_decimal (Nat.le_succ _)

/-- The quotient that the program takes is the decimal below the magnitude, and its remainder is
what this cuts off. -/
theorem cut_eq_div {num den : Nat} (hden : 0 < den)
    (h : magnitude rank * 10 ^ placesOf rank count = num / den) :
    cut rank count = num / den ∧ cutOff rank count * den = (num % den : Nat) := by
  have hcut : cut rank count = num / den := by
    rw [cut, h, Nat.floor_div_eq_div]
  have hpos : (0 : ℚ) < den := by exact_mod_cast hden
  have hdiv : (den * (num / den : Nat) + (num % den : Nat) : ℚ) = num := by
    exact_mod_cast Nat.div_add_mod num den
  refine ⟨hcut, ?_⟩
  rw [cutOff, hcut, h, sub_mul, div_mul_cancel₀ _ hpos.ne']
  linarith

theorem half_le_cutOff {num den : Nat} (hden : 0 < den)
    (h : cutOff rank count * den = (num % den : Nat)) :
    1 / 2 ≤ cutOff rank count ↔ den ≤ 2 * (num % den) := by
  have hpos : (0 : ℚ) < den := by exact_mod_cast hden
  rw [← Nat.cast_le (α := ℚ), Nat.cast_mul, ← h]
  constructor <;> intro hle <;> push_cast at * <;> nlinarith

theorem cutOff_le_half {num den : Nat} (hden : 0 < den)
    (h : cutOff rank count * den = (num % den : Nat)) :
    cutOff rank count ≤ 1 / 2 ↔ 2 * (num % den) ≤ den := by
  have hpos : (0 : ℚ) < den := by exact_mod_cast hden
  rw [← Nat.cast_le (α := ℚ), Nat.cast_mul, ← h]
  constructor <;> intro hle <;> push_cast at * <;> nlinarith

theorem IsCandidate.isChosen (h : IsCandidate rank count n)
    (hother : ∀ m, IsCandidate rank count m → m ≠ n →
      IsCloser tie rank (decimal rank count n) (decimal rank count m)) :
    IsChosen tie rank count n where
  toIsCandidate := h
  closest m hm := by
    by_cases hsame : m = n
    · rw [hsame]
      exact .refl tie rank _
    · exact hother m hm hsame

theorem isChosen_cut (h : IsCandidate rank count (cut rank count))
    (hclose : IsCandidate rank count (cut rank count + 1) →
      cutOff rank count ≤ 1 / 2 ∧ (tie = .up → cutOff rank count ≠ 1 / 2)) :
    IsChosen tie rank count (cut rank count) := by
  refine h.isChosen fun m hm hne => ?_
  obtain rfl := hm.next.resolve_left hne
  exact isCloser_cut (hclose hm).1 (hclose hm).2

theorem isChosen_cut_succ (h : IsCandidate rank count (cut rank count + 1))
    (hclose : IsCandidate rank count (cut rank count) → 1 / 2 ≤ cutOff rank count) :
    IsChosen tie rank count (cut rank count + 1) := by
  refine h.isChosen fun m hm hne => ?_
  obtain rfl := hm.next.resolve_right hne
  exact isCloser_cut_succ (hclose hm)

theorem placesOf_eq (hrank : rank ≠ 0) (count : Nat) : placesOf rank count =
    (count : ℤ) - 1 - floorLog 10 (unitsOfRank rank) unitsPerOne := by
  have hunits : 0 < unitsOfRank rank :=
    Nat.lt_of_lt_of_le (Nat.two_pow_pos _) (gap_le_unitsOfRank hrank)
  rw [placesOf, magnitude, log_div hunits unitsPerOne_pos]

/-- The choice by the tests which of the two decimals read back and whether the upper one is
closer. -/
theorem choice_spec {readsBack : Nat → Bool} {upper : Bool} (f : Nat → Scientific)
    (hreads : ∀ m, readsBack m = true ↔ IsNearest (decimal rank count m) rank)
    (hupper : upper = true → 1 / 2 ≤ cutOff rank count)
    (hlower : upper = false →
      cutOff rank count ≤ 1 / 2 ∧ (tie = .up → cutOff rank count ≠ 1 / 2)) :
    let n := cut rank count
    let result :=
      if readsBack n && readsBack (n + 1) then some (f (if upper then n + 1 else n))
      else if readsBack n then some (f n)
      else if readsBack (n + 1) then some (f (n + 1))
      else none
    (∃ n, IsChosen tie rank count n ∧ result = some (f n)) ∨
      (∀ n, ¬ IsCandidate rank count n) ∧ result = none := by
  have hcandidate (m : Nat) : IsCandidate rank count m ↔
      (m = cut rank count ∨ m = cut rank count + 1) ∧ readsBack m = true := by
    rw [hreads]
    exact ⟨fun h => ⟨h.next, h.nearest⟩, fun h => ⟨h.1, h.2⟩⟩
  intro n result
  by_cases hn : readsBack n = true <;> by_cases hsucc : readsBack (n + 1) = true
  · left
    simp only [result, hn, hsucc, Bool.and_self, if_true]
    cases hup : upper
    · exact ⟨_, isChosen_cut ((hcandidate _).mpr ⟨Or.inl rfl, hn⟩) fun _ => hlower hup, rfl⟩
    · exact ⟨_, isChosen_cut_succ ((hcandidate _).mpr ⟨Or.inr rfl, hsucc⟩) fun _ => hupper hup, rfl⟩
  · left
    simp only [result, hn, hsucc, Bool.and_false, Bool.false_eq_true, if_false, if_true]
    exact ⟨_, isChosen_cut ((hcandidate _).mpr ⟨Or.inl rfl, hn⟩)
      fun h => absurd ((hcandidate _).mp h).2 hsucc, rfl⟩
  · left
    simp only [result, hn, hsucc, Bool.false_and, Bool.false_eq_true, if_false, if_true]
    exact ⟨_, isChosen_cut_succ ((hcandidate _).mpr ⟨Or.inr rfl, hsucc⟩)
      fun h => absurd ((hcandidate _).mp h).2 hn, rfl⟩
  · right
    simp only [result, hn, hsucc, Bool.false_and, Bool.false_eq_true, if_false]
    refine ⟨fun m hm => ?_, trivial⟩
    obtain ⟨rfl | rfl, hm⟩ := (hcandidate m).mp hm
    · exact hn hm
    · exact hsucc hm

/-- A result is a chosen candidate, and without a result there is no candidate. -/
theorem readingBack_spec (tie : Tie) (hrank : rank ≠ 0) (count : Nat) :
    (∃ n, IsChosen tie rank count n ∧
      readingBack tie rank count = some (ofPlaces (placesOf rank count) n)) ∨
    (∀ n, ¬ IsCandidate rank count n) ∧ readingBack tie rank count = none := by
  obtain ⟨prior, rfl⟩ : ∃ prior, rank = prior + 1 := ⟨rank - 1, by omega⟩
  unfold readingBack
  extract_lets units gap below exponent places scale num den low high readsBack ofNat n remainder
    upper
  have hplaces : placesOf (prior + 1) count = places := placesOf_eq hrank count
  have hreads (m : Nat) : readsBack m = true ↔
      IsNearest (decimal (prior + 1) count m) (prior + 1) := by
    rw [decimal, hplaces]
    exact isNearest_iff_scaled rfl places (cast_low places prior) (cast_high places (prior + 1)) m
  have hden : 0 < den :=
    Nat.mul_pos (Nat.mul_pos (by decide) unitsPerOne_pos) (Nat.pow_pos (by decide))
  have hquotient : magnitude (prior + 1) * 10 ^ placesOf (prior + 1) count = num / den := by
    have hnum : (num : ℚ) = magnitude (prior + 1) * unit places := cast_scaled places units
    have hone := cast_mul_den places 1
    rw [Nat.one_mul, Nat.cast_one] at hone
    have hscale := (scale_pos places).ne'
    have hunit := (unit_pos places).ne'
    rw [hplaces, hnum, hone]
    field_simp
  obtain ⟨hcut, hrest⟩ := cut_eq_div hden hquotient
  have hupper : upper = true → 1 / 2 ≤ cutOff (prior + 1) count := by
    intro hup
    have hle : den ≤ remainder := by
      simp only [upper, Bool.or_eq_true, Bool.and_eq_true, decide_eq_true_eq] at hup
      omega
    exact (half_le_cutOff hden hrest).mpr hle
  have hlower : upper = false → cutOff (prior + 1) count ≤ 1 / 2 ∧
      (tie = .up → cutOff (prior + 1) count ≠ 1 / 2) := by
    intro hup
    simp only [upper, Bool.or_eq_false_iff, Bool.and_eq_false_iff, decide_eq_false_iff_not,
      not_lt] at hup
    refine ⟨(cutOff_le_half hden hrest).mpr hup.1, fun htie hhalf => ?_⟩
    have hle := (half_le_cutOff hden hrest).mp hhalf.ge
    have heq : remainder = den := Nat.le_antisymm hup.1 hle
    exact hup.2.elim (fun hne => hne heq) fun hnot => hnot.1 htie
  have hchoice := choice_spec (ofPlaces places) hreads hupper hlower
  rw [hcut] at hchoice
  rw [hplaces]
  exact hchoice

theorem scaled_magnitude_mem (hrank : rank ≠ 0) (c : Nat) :
    10 ^ c ≤ magnitude rank * 10 ^ placesOf rank (c + 1) ∧
      magnitude rank * 10 ^ placesOf rank (c + 1) < 10 ^ (c + 1) := by
  have hplaces : placesOf rank (c + 1) = c - Int.log 10 (magnitude rank) := by
    unfold placesOf
    omega
  rw [hplaces]
  exact scaled_mem (magnitude_pos hrank) c

/-- A decimal that is not below the first digit of a magnitude is a multiple of its last place. -/
theorem exists_eq_decimal_of_hasDigits (hdigits : HasDigits count q)
    (hle : 10 ^ Int.log 10 (magnitude rank) ≤ q) :
    ∃ n, q = decimal rank count n := by
  obtain ⟨a, k, ha, rfl⟩ := hdigits
  have hlt : (10 : ℚ) ^ Int.log 10 (magnitude rank) < 10 ^ (count + k) := by
    have hcast : (a : ℚ) < 10 ^ count := by exact_mod_cast ha
    have hmul := mul_lt_mul_of_pos_right hcast (scale_pos k)
    rw [zpow_add₀ (by norm_num), zpow_natCast]
    exact lt_of_le_of_lt hle hmul
  rw [zpow_lt_zpow_iff_right₀ (by norm_num)] at hlt
  obtain ⟨j, hj⟩ : ∃ j : Nat, (j : ℤ) = k + placesOf rank count :=
    ⟨(k + placesOf rank count).toNat, Int.toNat_of_nonneg (by unfold placesOf; omega)⟩
  refine ⟨a * 10 ^ j, ?_⟩
  rw [decimal, eq_div_iff (scale_pos _).ne', mul_assoc, ← zpow_add₀ (by norm_num), ← hj,
    zpow_natCast]
  push_cast
  rfl

/-- One of the two decimals next to a magnitude is between it and any other decimal. -/
theorem exists_between (hrank : rank ≠ 0) (hcount : 0 < count) (hdigits : HasDigits count q) :
    ∃ n, (n = cut rank count ∨ n = cut rank count + 1) ∧
      decimal rank count n ∈ Set.uIcc q (magnitude rank) := by
  have hscale := scale_pos (placesOf rank count)
  have hbelow : decimal rank count (cut rank count) ≤ magnitude rank := decimal_le_magnitude le_rfl
  rcases lt_or_ge q (10 ^ Int.log 10 (magnitude rank)) with hlt | hge
  -- The first digit alone is closer.
  · obtain ⟨c, rfl⟩ : ∃ c, count = c + 1 := ⟨count - 1, by omega⟩
    have hfirst : 10 ^ c ≤ cut rank (c + 1) :=
      Nat.le_floor (by exact_mod_cast (scaled_magnitude_mem hrank c).1)
    have hplaces : Int.log 10 (magnitude rank) + placesOf rank (c + 1) = c := by
      unfold placesOf
      omega
    have hclose : 10 ^ Int.log 10 (magnitude rank) ≤ decimal rank (c + 1) (cut rank (c + 1)) := by
      rw [decimal, le_div_iff₀ hscale, ← zpow_add₀ (by norm_num), hplaces, zpow_natCast]
      exact_mod_cast hfirst
    exact ⟨_, Or.inl rfl, Set.mem_uIcc.mpr (Or.inl ⟨hlt.le.trans hclose, hbelow⟩)⟩
  · obtain ⟨n, rfl⟩ := exists_eq_decimal_of_hasDigits hdigits hge
    rcases Nat.lt_or_ge (cut rank count) n with hgt | hle
    · refine ⟨_, Or.inr rfl, Set.mem_uIcc.mpr (Or.inr ⟨?_, decimal_le_decimal hgt⟩)⟩
      exact (magnitude_lt_decimal le_rfl).le
    · exact ⟨_, Or.inl rfl, Set.mem_uIcc.mpr (Or.inl ⟨decimal_le_decimal hle, hbelow⟩)⟩

theorem exists_isChosen (tie : Tie) (hrank : rank ≠ 0) (hcount : 0 < count)
    (hdigits : HasDigits count q) (h : IsNearest q rank) : ∃ n, IsChosen tie rank count n ∧
      readingBack tie rank count = some (ofPlaces (placesOf rank count) n) ∧
      IsCloser tie rank (decimal rank count n) q := by
  obtain ⟨m, hm, hbetween⟩ := exists_between hrank hcount hdigits
  have hcandidate : IsCandidate rank count m := ⟨hm, h.of_between hbetween⟩
  rcases readingBack_spec tie hrank count with ⟨n, hn, hresult⟩ | ⟨hnone, -⟩
  · exact ⟨n, hn, hresult, (hn.closest m hcandidate).trans (.of_between hbetween)⟩
  · exact absurd hcandidate (hnone m)

theorem IsCandidate.hasDigits (h : IsCandidate rank count n) (hrank : rank ≠ 0)
    (hcount : 0 < count) : HasDigits count (decimal rank count n) := by
  obtain ⟨c, rfl⟩ : ∃ c, count = c + 1 := ⟨count - 1, by omega⟩
  have hcut : cut rank (c + 1) < 10 ^ (c + 1) := by
    have hnonneg : 0 ≤ magnitude rank * 10 ^ placesOf rank (c + 1) :=
      mul_nonneg (magnitude_nonneg rank) (scale_pos _).le
    exact (Nat.floor_lt hnonneg).mpr (by exact_mod_cast (scaled_magnitude_mem hrank c).2)
  have hle : n ≤ 10 ^ (c + 1) := by
    rcases h.next with rfl | rfl <;> omega
  rcases hle.lt_or_eq with hlt | rfl
  · exact ⟨n, -placesOf rank (c + 1), hlt, by rw [decimal, zpow_neg, div_eq_mul_inv]⟩
  · refine ⟨1, (c + 1 : Nat) - placesOf rank (c + 1), Nat.one_lt_pow (by omega) (by decide), ?_⟩
    rw [decimal, zpow_sub₀ (by norm_num), zpow_natCast]
    push_cast
    ring

/-- Decimals of seventeen digits are closer to each other than magnitudes. -/
theorem exists_isCandidate_seventeen (hrank : rank ≠ 0) : ∃ n, IsCandidate rank 17 n := by
  have hscale := scale_pos (placesOf rank 17)
  have hpos := magnitude_pos hrank
  have hunit : 1 / 2 / 10 ^ placesOf rank 17 < magnitude rank / 2 ^ 54 := by
    have hlow := (scaled_magnitude_mem hrank 16).1
    rw [div_lt_div_iff₀ hscale (by positivity)]
    linarith
  rcases le_total (1 / 2) (cutOff rank 17) with hhalf | hhalf
  · refine ⟨cut rank 17 + 1, Or.inr rfl, isNearest_of_abs_sub_lt ?_⟩
    rw [abs_sub_cut_succ]
    refine lt_of_le_of_lt (div_le_div_of_nonneg_right ?_ hscale.le) hunit
    linarith
  · refine ⟨cut rank 17, Or.inl rfl, isNearest_of_abs_sub_lt ?_⟩
    rw [abs_sub_cut]
    exact lt_of_le_of_lt (div_le_div_of_nonneg_right hhalf hscale.le) hunit

theorem findSome?_range_eq_some {α : Type} {f : Nat → Option α} {a : α} {n : Nat}
    (h : (List.range n).findSome? f = some a) : ∃ i, f i = some a ∧ ∀ j < i, f j = none := by
  induction n with
  | zero => contradiction
  | succ n ih =>
    rw [List.range_succ, List.findSome?_append] at h
    cases hfirst : (List.range n).findSome? f with
    | some b =>
      rw [hfirst] at h
      exact ih (hfirst.trans h)
    | none =>
      rw [hfirst] at h
      refine ⟨n, by simpa using h, fun j hj => ?_⟩
      exact List.findSome?_eq_none_iff.mp hfirst j (List.mem_range.mpr hj)

/-- The search ends with the smallest number of digits that reads back. -/
theorem exists_readingBack (tie : Tie) (hrank : rank ≠ 0) : ∃ count, 0 < count ∧
    readingBack tie rank count = some (shortest tie rank) ∧
    ∀ k, 0 < k → k < count → readingBack tie rank k = none := by
  unfold shortest
  rw [if_neg hrank]
  cases hfind : (List.range 17).findSome? fun count => readingBack tie rank (count + 1) with
  | none =>
    have hnone := List.findSome?_eq_none_iff.mp hfind 16 (by decide)
    obtain ⟨n, hn⟩ := exists_isCandidate_seventeen hrank
    rcases readingBack_spec tie hrank 17 with ⟨m, -, hresult⟩ | ⟨hno, -⟩
    · rw [hresult] at hnone
      contradiction
    · exact absurd hn (hno n)
  | some s =>
    obtain ⟨i, hi, hbelow⟩ := findSome?_range_eq_some hfind
    refine ⟨i + 1, Nat.succ_pos i, hi, fun k hpos hlt => ?_⟩
    have hk := hbelow (k - 1) (by omega)
    rwa [Nat.sub_add_cancel hpos] at hk

theorem isShortest_zero (tie : Tie) : IsShortest tie 0 0 := by
  refine ⟨isNearest_zero, 0, ⟨0, 0, Nat.one_pos, by simp⟩, fun p _ => ⟨fun k _ => k.zero_le, ?_⟩⟩
  intro hdigits
  rw [hdigits.eq_zero]
  exact .refl tie 0 0

theorem IsCandidate.pos (h : IsCandidate rank count n) (hrank : rank ≠ 0) : 0 < n := by
  refine Nat.pos_of_ne_zero fun hzero => ?_
  have hnearest := h.nearest
  rw [hzero, decimal, Nat.cast_zero, zero_div] at hnearest
  exact hrank (hnearest.unique isNearest_zero)

theorem isShortest_ofPlaces (hrank : rank ≠ 0) (hcount : 0 < count)
    (hn : IsChosen tie rank count n)
    (hresult : readingBack tie rank count = some (ofPlaces (placesOf rank count) n))
    (hbelow : ∀ k, 0 < k → k < count → readingBack tie rank k = none) :
    IsShortest tie rank (decimal rank count n) := by
  refine ⟨hn.nearest, count, hn.hasDigits hrank hcount, fun p hp => ⟨fun k hk => ?_, fun hk => ?_⟩⟩
  · by_contra hlt
    rcases Nat.eq_zero_or_pos k with rfl | hpos
    · rw [hk.eq_zero] at hp
      exact hrank (hp.unique isNearest_zero)
    · obtain ⟨m, -, hm, -⟩ := exists_isChosen tie hrank hpos hk hp
      rw [hbelow k hpos (by omega)] at hm
      contradiction
  · obtain ⟨m, -, hm, hclose⟩ := exists_isChosen tie hrank hcount hk hp
    have hsame := congrArg value (Option.some.inj (hresult.symm.trans hm))
    rw [value_ofPlaces, value_ofPlaces] at hsame
    rwa [decimal, hsame]

theorem isShortest_shortest (tie : Tie) (rank : Nat) :
    IsShortest tie rank (shortest tie rank).value ∧
      Int.log 10 (shortest tie rank).value = (shortest tie rank).exponent := by
  by_cases hrank : rank = 0
  · subst hrank
    have hvalue : (shortest tie 0).value = 0 := by
      have hzero : (shortest tie 0).value =
          (Nat.ofDigitChars 10 ['0'] 0 : ℚ) * 10 ^ ((0 : ℤ) + 1 - ['0'].length) := rfl
      have hdigit : Nat.ofDigitChars 10 ['0'] 0 = 0 := rfl
      rw [hzero, hdigit, Nat.cast_zero, zero_mul]
    rw [hvalue, Int.log_zero_right]
    exact ⟨isShortest_zero tie, rfl⟩
  · obtain ⟨count, hcount, hresult, hbelow⟩ := exists_readingBack tie hrank
    rcases readingBack_spec tie hrank count with ⟨n, hn, hchosen⟩ | ⟨-, hnone⟩
    · have hs : shortest tie rank = ofPlaces (placesOf rank count) n :=
        Option.some.inj (hresult.symm.trans hchosen)
      rw [hs]
      refine ⟨?_, log_value_ofPlaces _ (hn.pos hrank)⟩
      rw [value_ofPlaces]
      exact isShortest_ofPlaces hrank hcount hn hchosen hbelow
    · rw [hresult] at hnone
      contradiction

end Scientific

end TextTable
