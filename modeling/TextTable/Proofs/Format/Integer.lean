import TextTable.Proofs.Format.EmptySpec
import TextTable.Proofs.Format.Numeral

/-! # Integers under a format spec

The text of an integer is its sign, the mark of the radix in the alternate form, and its numeral,
which may be in groups. Nothing is lost: the integer can be read from its text.
-/

namespace TextTable

namespace FormatSpec

inductive HasRadix : Option Char → Radix → Prop
  | absent : HasRadix none .decimal
  | decimal : HasRadix (some 'd') .decimal
  | number : HasRadix (some 'n') .decimal
  | binary : HasRadix (some 'b') .binary
  | octal : HasRadix (some 'o') .octal
  | hex : HasRadix (some 'x') .hex
  | upperHex : HasRadix (some 'X') .upperHex

/-- A zero and the type code, in the alternate form of a radix other than ten. -/
def markText (s : FormatSpec) : Text :=
  match s.code with
  | some c => if s.alternate ∧ c ∈ ['b', 'o', 'x', 'X'] then ['0', c] else []
  | none => []

/-- A minus sign, or what the sign option puts in front of an integer that is not negative. -/
def signFor (s : FormatSpec) (n : Int) : Text :=
  if n < 0 then ['-']
  else
    match s.sign with
    | .plus => ['+']
    | .space => [' ']
    | .minus => []

/-- The digits as a spec separates them: decimal digits in groups of three, and others in groups of
four. -/
def IsSeparated (s : FormatSpec) (r : Radix) (digits body : Text) : Prop :=
  match s.grouping with
  | none => body = digits
  | some g => IsGrouped g.char (if r = .decimal then 3 else 4) digits body

def IsIntegerText (s : FormatSpec) (r : Radix) (n : Int) (t : Text) : Prop :=
  ∃ digits body, r.IsNumeral n.natAbs digits ∧ s.IsSeparated r digits body ∧
    t = s.signFor n ++ (s.markText ++ body)

/-- A spec for integers in digits, without a width. Commas stand between decimal digits only. -/
structure ShowsInteger (s : FormatSpec) (r : Radix) : Prop where
  code : HasRadix s.code r
  width : s.width = none
  precision : s.precision = none
  grouping : s.grouping = some .comma → r = .decimal

variable {s : FormatSpec} {r : Radix} {code : Option Char} {p t digits body : Text}

theorem sign_text_eq (s : FormatSpec) (n : Int) : s.sign.text (n < 0) = s.signFor n := by
  unfold signFor Sign.text
  by_cases hn : n < 0 <;> cases s.sign <;> simp [hn]

theorem hasRadix_iff : HasRadix code r ↔ Radix.ofCode? code = some r := by
  constructor
  · rintro (_ | _ | _ | _ | _ | _ | _) <;> rfl
  · unfold Radix.ofCode?
    split <;> rintro ⟨⟩
    · exact .absent
    · exact .decimal
    · exact .number
    · exact .binary
    · exact .octal
    · exact .hex
    · exact .upperHex

theorem HasRadix.markText_eq (h : HasRadix s.code r) :
    s.markText = if s.alternate then r.mark else [] := by
  unfold markText
  cases hcode : s.code with
  | none =>
    rw [hcode] at h
    cases h
    simp [Radix.mark]
  | some c =>
    rw [hcode] at h
    cases h <;> simp [Radix.mark]

theorem integerField_of_radix (hr : Radix.ofCode? s.code = some r) (n : Int) :
    s.integerField n = s.radixField r n := by
  rw [integerField, hr]

theorem HasRadix.integerField_eq (h : HasRadix s.code r) (hp : s.precision = none)
    (hg : s.grouping = some .comma → r = .decimal) (n : Int) : s.integerField n = .ok {
      lead := s.sign.text (n < 0) ++ s.markText
      body := s.group r.groupSize (r.digits n.natAbs)
      align := s.numericAlign } := by
  have hcomma : ¬ (r ≠ .decimal ∧ s.grouping = some .comma) := fun hc => hc.1 (hg hc.2)
  rw [integerField_of_radix (hasRadix_iff.mp h), radixField, hp, if_neg hcomma, h.markText_eq]
  rfl

/-- Only without a precision, and with commas only between decimal digits, is there such a field. -/
theorem HasRadix.of_integerField {f : Field} (h : HasRadix s.code r)
    (hf : s.integerField n = .ok f) :
    s.precision = none ∧ (s.grouping = some .comma → r = .decimal) := by
  rw [integerField_of_radix (hasRadix_iff.mp h), radixField] at hf
  split at hf
  · contradiction
  · next hprecision =>
    split at hf
    · contradiction
    · next hcomma =>
      refine ⟨Option.not_isSome_iff_eq_none.mp hprecision, fun hg => ?_⟩
      by_contra hr
      exact hcomma ⟨hr, hg⟩

theorem isSeparated_group (s : FormatSpec) (r : Radix) (h : digits ≠ []) :
    s.IsSeparated r digits (s.group r.groupSize digits) := by
  unfold IsSeparated group
  cases s.grouping with
  | none => rfl
  | some g =>
    have hsize : r.groupSize = if r = .decimal then 3 else 4 := by cases r <;> rfl
    rw [← hsize]
    exact isGrouped_groupDigits g.char r.groupSize_pos h

theorem IsSeparated.filter_eq (h : s.IsSeparated r digits body)
    (hdigits : ∀ d ∈ digits, d ∈ r.alphabet) : body.filter isNoSeparator = digits := by
  have hmem : ∀ d ∈ digits, d ∈ r.mark ++ r.alphabet := fun d hd =>
    List.mem_append_right _ (hdigits d hd)
  unfold IsSeparated at h
  split at h
  · rw [h, Radix.filter_isNoSeparator hmem]
  · next g _ =>
    exact h.filter_eq (by cases g <;> rfl) fun d hd => Radix.isNoSeparator_of_mem (hmem d hd)

theorem IsIntegerText.readInteger_eq {n : Int} (hcode : HasRadix s.code r)
    (h : s.IsIntegerText r n t) : r.readInteger t = some n := by
  obtain ⟨digits, body, hdigits, hbody, rfl⟩ := h
  rw [hcode.markText_eq, ← sign_text_eq]
  exact hdigits.readInteger_eq (hbody.filter_eq hdigits.mem) s.sign s.alternate

theorem ShowsInteger.exists_format (h : s.ShowsInteger r) (n : Int) :
    ∃ t, s.format (.int n) = .ok t ∧ s.IsIntegerText r n t := by
  have hdigits := r.isNumeral_digits n.natAbs
  refine ⟨_, ?_, r.digits n.natAbs, _, hdigits, s.isSeparated_group r hdigits.ne_nil, rfl⟩
  rw [format, field, h.code.integerField_eq h.precision h.grouping]
  simp only [Except.map, padField_of_width h.width, Field.text, List.append_assoc, sign_text_eq]

end FormatSpec

open FormatSpec

variable {p : Text} {s : FormatSpec} {r : Radix}

/-- A value is shown if its field can be made, and then by the padded field. -/
theorem formatValue_eq_ok_iff (hp : parse p = .ok s) {v : Value} {t : Text} :
    formatValue v p = .ok t ↔ ∃ f, s.field v = .ok f ∧ s.padField f = t := by
  simp only [formatValue, hp, mapError_eq_ok_iff, FormatSpec.format, map_eq_ok_iff]

/-- An upper-case numeral in groups of four, with a sign and a mark. -/
def groupedHex : FormatSpec where
  sign := .plus
  alternate := true
  grouping := some .underscore
  code := some 'X'

end TextTable
