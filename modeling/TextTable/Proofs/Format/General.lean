import TextTable.Proofs.Format.Integer
import TextTable.Proofs.Number.Exact
import TextTable.Proofs.Number.Significant

/-! # General notation

Under the codes of general notation a double is shown as the decimal number that is nearest to it
among those with the significant digits of the precision. The exponent and the decimals come from
two roundings, which agree even if the first one carries into a new digit.
-/

namespace TextTable

open Decimal

namespace FormatSpec

/-- A spec for general notation, without an option that changes the text of the number. -/
structure ShowsGeneral (s : FormatSpec) : Prop where
  code : s.code = some 'g' ∨ s.code = some 'G'
  width : s.width = none
  sign : s.sign = .minus
  noNegativeZero : s.noNegativeZero = false
  grouping : s.grouping = none
  alternate : s.alternate = false

/-- The number of significant digits: at least one, and six without a precision. -/
def significantDigits (s : FormatSpec) : Nat := max (s.precision.getD 6) 1

end FormatSpec

namespace Double

/-- The text `t` denotes the double rounded to `digits` significant digits. It has an exponent for
numbers that are below `10 ^ -4` or have more than `digits` digits in front of the point. -/
structure IsGeneralText (x : Double) (digits : Nat) (t : Text) : Prop where
  value : ∃ r, IsRounded digits |x.toRat| r ∧ read t = some (if x.negative then -r else r) ∧
    ((∃ c ∈ t, isMark c = true) ↔
      x.toRat ≠ 0 ∧ (Int.log 10 r < -4 ∨ (digits : ℤ) ≤ Int.log 10 r))
  sign : t.head? = some '-' ↔ x.negative = true
  mantissa : EndsSignificant (mantissa t)

variable {x : Double} {m e : Text} {r : ℚ} {digits : Nat}

structure IsGeneralMagnitude (q : ℚ) (digits : Nat) (m e : Text) (r : ℚ) : Prop where
  isMagnitude : IsMagnitude m e r
  isRounded : IsRounded digits q r
  exponent : e ≠ [] ↔ q ≠ 0 ∧ (Int.log 10 r < -4 ∨ (digits : ℤ) ≤ Int.log 10 r)
  mantissa : EndsSignificant m

theorem exists_general (x : Double) (precision : Nat) : ∃ m e r,
    x.general precision false = m ++ e ∧ IsGeneralMagnitude |x.toRat| (max precision 1) m e r := by
  unfold general
  extract_lets count s
  have hcount : 0 < count := Nat.lt_of_lt_of_le Nat.one_pos (Nat.le_max_right _ _)
  have hrounds : s.Rounds count (x.units / unitsPerOne) :=
    Scientific.rounds_round x.units unitsPerOne_pos hcount
  have hdigits : IsDigits s.digits :=
    ⟨Scientific.digits_ne_nil_round _ _ hcount, Scientific.isDigit_round _ _ _⟩
  rw [abs_toRat]
  by_cases hpositional : -4 ≤ s.exponent ∧ s.exponent < count
  · simp only [if_pos hpositional, Bool.false_eq_true, if_false]
    have hfixed := isMantissa_fixed x.units unitsPerOne (count - 1 - s.exponent).toNat
    rw [hrounds.fixed_eq unitsPerOne_pos hpositional.2] at hfixed
    obtain ⟨hmagnitude, hends⟩ := isMagnitude_dropZeros hfixed.isMagnitude
    refine ⟨_, _, _, rfl, hmagnitude, hrounds.isRounded, ?_, hends⟩
    rw [hrounds.log_value]
    exact iff_of_false (fun h => h rfl) (by omega)
  · simp only [if_neg hpositional, Bool.false_eq_true, if_false]
    obtain ⟨hmagnitude, hends⟩ := isMagnitude_dropZeros (Scientific.isMagnitude_mantissa hdigits 2)
    refine ⟨_, _, _, rfl, hmagnitude, hrounds.isRounded, ?_, hends⟩
    rw [hrounds.log_value]
    refine iff_of_true (List.cons_ne_nil _ _) ⟨fun hzero => ?_, by omega⟩
    -- Zero has the exponent zero, and is never in scientific notation.
    have hrounded := hrounds.isRounded
    rw [hzero] at hrounded
    have hlog := hrounds.log_value
    rw [hrounded.eq_zero, Int.log_zero_right] at hlog
    omega

theorem IsGeneralMagnitude.map_toUpper {q : ℚ} (h : IsGeneralMagnitude q digits m e r) :
    m.map Char.toUpper = m ∧ IsGeneralMagnitude q digits m (e.map Char.toUpper) r := by
  obtain ⟨hmantissa, hupper⟩ := h.isMagnitude.map_toUpper
  refine ⟨hmantissa, hupper, h.isRounded, ?_, h.mantissa⟩
  rw [ne_eq, List.map_eq_nil_iff]
  exact h.exponent

theorem IsGeneralMagnitude.isGeneralText (h : IsGeneralMagnitude |x.toRat| digits m e r) :
    x.IsGeneralText digits (Sign.minus.text x.negative ++ (m ++ e)) where
  value := by
    refine ⟨r, h.isRounded, h.isMagnitude.read_signed x.negative, ?_⟩
    rw [h.isMagnitude.exists_isMark_iff, h.exponent, ne_eq, abs_eq_zero]
  sign := h.isMagnitude.head?_signed x.negative
  mantissa := by
    rw [h.isMagnitude.mantissa_signed]
    exact h.mantissa.signed x.negative

end Double

namespace FormatSpec

variable {s : FormatSpec} {body : Text}

theorem groupWhole_of_grouping (h : s.grouping = none) (body : Text) :
    s.groupWhole body = body := by
  simp only [groupWhole, group, h, List.takeWhile_append_dropWhile]

theorem ShowsGeneral.format_eq (h : s.ShowsGeneral) {x : Double}
    (hbody : s.doubleBody x = .ok body) :
    s.format (.float x) = .ok (Sign.minus.text x.negative ++ body) := by
  have hfield : s.field (.float x) = .ok {
      lead := Sign.minus.text x.negative
      body := body
      align := s.numericAlign } := by
    refine bind_eq_ok_iff.mpr ⟨body, hbody, ?_⟩
    simp only [h.noNegativeZero, Bool.false_and, Bool.not_false, Bool.and_true, h.sign,
      groupWhole_of_grouping h.grouping]
    rfl
  rw [format, hfield]
  simp only [Except.map, padField_of_width h.width, Field.text]

theorem ShowsGeneral.exists_doubleBody (h : s.ShowsGeneral) (x : Double) : ∃ m e r,
    s.doubleBody x = .ok (m ++ e) ∧
      Double.IsGeneralMagnitude |x.toRat| s.significantDigits m e r := by
  obtain ⟨m, e, r, htext, hmagnitude⟩ := x.exists_general (s.precision.getD 6)
  rcases h.code with hcode | hcode
  · refine ⟨m, e, r, ?_, hmagnitude⟩
    simp only [doubleBody, hcode, h.alternate, htext]
  · obtain ⟨hmantissa, hupper⟩ := hmagnitude.map_toUpper
    refine ⟨m, e.map Char.toUpper, r, ?_, hupper⟩
    simp only [doubleBody, hcode, h.alternate, htext, List.map_append, hmantissa]

end FormatSpec

open FormatSpec

variable {p : Text} {s : FormatSpec}

theorem formatValue_float_isGeneralText (hp : parse p = .ok s) (hs : s.ShowsGeneral) (x : Double) :
    ∃ t, formatValue (.float x) p = .ok t ∧ x.IsGeneralText s.significantDigits t := by
  obtain ⟨m, e, r, hbody, hmagnitude⟩ := hs.exists_doubleBody x
  refine ⟨_, ?_, hmagnitude.isGeneralText⟩
  simp only [formatValue, hp, hs.format_eq hbody]
  rfl

def threeDigits : FormatSpec where
  precision := some 3
  code := some 'G'

/-- The number -999.5, which is half way between two numbers of three digits. -/
def halfWay : Double := ⟨true, 0x408F3C0000000000, by decide⟩

/-- The even neighbour has a digit more. -/
theorem halfWay_isGeneralText :
    parse ".3G".toList = .ok threeDigits ∧ threeDigits.ShowsGeneral ∧
      formatValue (.float halfWay) ".3G".toList = .ok "-1E+03".toList ∧
      halfWay.IsGeneralText 3 "-1E+03".toList := by
  have hp : parse ".3G".toList = .ok threeDigits := rfl
  have hs : threeDigits.ShowsGeneral := ⟨Or.inr rfl, rfl, rfl, rfl, rfl, rfl⟩
  have hgeneral : halfWay.general 3 false = "1e+03".toList := by decide +kernel
  have hbody : threeDigits.doubleBody halfWay =
      .ok ((halfWay.general 3 false).map Char.toUpper) := rfl
  have hshown : formatValue (.float halfWay) ".3G".toList = .ok "-1E+03".toList := by
    rw [hgeneral] at hbody
    simp only [formatValue, hp, hs.format_eq hbody]
    rfl
  obtain ⟨t, ht, htext⟩ := formatValue_float_isGeneralText hp hs halfWay
  obtain rfl := Except.ok.inj (hshown.symm.trans ht)
  exact ⟨hp, hs, hshown, htext⟩

end TextTable
