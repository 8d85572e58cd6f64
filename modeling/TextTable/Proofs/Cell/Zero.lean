import Mathlib.Algebra.Group.Nat.Defs
import TextTable.Cell.Format
import TextTable.Proofs.Format.Integer

/-! # The text of zeros

A number gives way to the text for zeros if its own text shows none of the digits 1 to 9. Zero shows
none in any radix, and in base sixteen neither do the numbers with letters and zeros for digits.
-/

namespace TextTable

open FormatSpec

namespace Radix

def HasOneToNine (r : Radix) (n : Nat) : Prop :=
  ∃ k, 0 < n / r.base ^ k % r.base ∧ n / r.base ^ k % r.base < 10

inductive ShowsZero (r : Radix) : Int → Prop
  | zero : ShowsZero r 0
  /-- In base sixteen there are letters for the digits from 10 on. -/
  | letters (n : Int) : r = .hex ∨ r = .upperHex →
      (∀ k, n.natAbs / 16 ^ k % 16 = 0 ∨ 10 ≤ n.natAbs / 16 ^ k % 16) → ShowsZero r n

variable {r : Radix} {n d : Nat}

theorem not_hasOneToNine_zero : ¬ r.HasOneToNine 0 := by
  rintro ⟨k, hpos, -⟩
  rw [Nat.zero_div, Nat.zero_mod] at hpos
  exact absurd hpos (Nat.lt_irrefl 0)

/-- The last digit is the remainder, and the others are those of the quotient. -/
theorem hasOneToNine_iff (r : Radix) (n : Nat) : r.HasOneToNine n ↔
    r.HasOneToNine (n / r.base) ∨ (0 < n % r.base ∧ n % r.base < 10) := by
  have hdiv (k : Nat) : n / r.base ^ (k + 1) = n / r.base / r.base ^ k := by
    rw [Nat.div_div_eq_div_mul, Nat.pow_succ']
  constructor
  · rintro ⟨k, hk⟩
    cases k with
    | zero => exact Or.inr (by rwa [Nat.pow_zero, Nat.div_one] at hk)
    | succ k => exact Or.inl ⟨k, hdiv k ▸ hk⟩
  · rintro (⟨k, hk⟩ | hlast)
    · exact ⟨k + 1, (hdiv k).symm ▸ hk⟩
    · exact ⟨0, by rwa [Nat.pow_zero, Nat.div_one]⟩

theorem isNonzeroDigit_digit (r : Radix) (h : d < r.base) :
    isNonzeroDigit (r.digit d) = true ↔ 0 < d ∧ d < 10 := by
  revert d
  cases r <;> decide

theorem any_isNonzeroDigit_digits (r : Radix) (n : Nat) :
    (r.digits n).any isNonzeroDigit = true ↔ r.HasOneToNine n := by
  induction n using Nat.strongRecOn with
  | ind n ih =>
    rw [hasOneToNine_iff]
    by_cases hlt : n < r.base
    · rw [digits_of_lt hlt, Nat.div_eq_of_lt hlt, Nat.mod_eq_of_lt hlt, List.any_cons, List.any_nil,
        Bool.or_false, isNonzeroDigit_digit r hlt, or_iff_right not_hasOneToNine_zero]
    · have hle : r.base ≤ n := Nat.not_lt.mp hlt
      have hpos : 0 < r.base := Nat.zero_lt_of_lt r.one_lt_base
      have hquotient := ih (n / r.base) (Nat.div_lt_self (by omega) r.one_lt_base)
      rw [digits_of_base_le hle, List.any_append, Bool.or_eq_true, hquotient, List.any_cons,
        List.any_nil, Bool.or_false, isNonzeroDigit_digit r (Nat.mod_lt n hpos)]

theorem hasOneToNine_of_ne_zero (hbase : r.base ≤ 10) (hne : n ≠ 0) : r.HasOneToNine n := by
  induction n using Nat.strongRecOn with
  | ind n ih =>
    have hpos : 0 < r.base := Nat.zero_lt_of_lt r.one_lt_base
    rw [hasOneToNine_iff]
    by_cases hlast : n % r.base = 0
    · have hquotient : n / r.base ≠ 0 := fun hzero => by
        have := Nat.div_add_mod n r.base
        rw [hzero, hlast] at this
        omega
      exact Or.inl (ih _ (Nat.div_lt_self (by omega) r.one_lt_base) hquotient)
    · exact Or.inr ⟨Nat.pos_of_ne_zero hlast, Nat.lt_of_lt_of_le (Nat.mod_lt n hpos) hbase⟩

theorem showsZero_iff (r : Radix) (n : Int) : r.ShowsZero n ↔ ¬ r.HasOneToNine n.natAbs := by
  constructor
  · rintro (_ | ⟨_, hr, hdigits⟩)
    · exact not_hasOneToNine_zero
    · have hbase : r.base = 16 := by rcases hr with rfl | rfl <;> rfl
      rintro ⟨k, hpos, hlt⟩
      rw [hbase] at hpos hlt
      have := hdigits k
      omega
  · intro hnot
    by_cases hn : n = 0
    · exact hn ▸ .zero
    · have hbase : ¬ r.base ≤ 10 := fun hle =>
        hnot (hasOneToNine_of_ne_zero hle (Int.natAbs_ne_zero.mpr hn))
      have hr : r = .hex ∨ r = .upperHex := by
        cases r <;> simp [base] at hbase ⊢
      have hsixteen : r.base = 16 := by rcases hr with rfl | rfl <;> rfl
      refine .letters n hr fun k => ?_
      by_contra hdigit
      exact hnot ⟨k, by rw [hsixteen]; omega⟩

end Radix

theorem Field.any_padBy {p : Char → Bool} {fill : Char} (hfill : p fill = false) (f : Field)
    (n : Nat) : (f.padBy fill n).any p = f.text.any p := by
  unfold padBy
  split <;> simp [text, hfill]

namespace FormatSpec

variable {s : FormatSpec} {r : Radix} {p digits body : Text} {n : Int}

theorem isNonzeroDigit_fillChar (h : s.fill = none) : isNonzeroDigit s.fillChar = false := by
  rw [fillChar, h]
  cases s.zeroPad <;> rfl

theorem IsSeparated.any_isNonzeroDigit (h : s.IsSeparated r digits body)
    (hdigits : ∀ d ∈ digits, d ∈ r.alphabet) :
    body.any isNonzeroDigit = digits.any isNonzeroDigit := by
  have hkeep : (fun c => isNoSeparator c && isNonzeroDigit c) = isNonzeroDigit := by
    funext c
    rw [Bool.and_eq_right_iff_imp]
    intro hc
    have hne {d : Char} (hd : isNonzeroDigit d = false) : c ≠ d := by
      rintro rfl
      exact absurd (hc.symm.trans hd) (by decide)
    simp [isNoSeparator, hne (d := ',') rfl, hne (d := '_') rfl]
  rw [← h.filter_eq hdigits, List.any_filter, hkeep]

/-- A spec that shows some integer in digits shows every integer, and with its own digits only. -/
theorem exists_field_any (hcode : HasRadix s.code r) (hfill : s.fill = none) {m : Int} {f : Field}
    (hf : s.integerField m = .ok f) (n : Int) : ∃ f, s.field (.int n) = .ok f ∧
      ((s.padField f).any isNonzeroDigit = true ↔ r.HasOneToNine n.natAbs) := by
  obtain ⟨hprecision, hgrouping⟩ := hcode.of_integerField hf
  refine ⟨_, hcode.integerField_eq hprecision hgrouping n, ?_⟩
  have hdigits := r.isNumeral_digits n.natAbs
  have hsign : (s.sign.text (n < 0)).any isNonzeroDigit = false := by
    cases s.sign <;> cases decide (n < 0) <;> rfl
  have hmark : s.markText.any isNonzeroDigit = false := by
    rw [hcode.markText_eq]
    cases s.alternate <;> cases r <;> rfl
  have hbody := (s.isSeparated_group r hdigits.ne_nil).any_isNonzeroDigit hdigits.mem
  rw [padField, Field.pad, Field.any_padBy (isNonzeroDigit_fillChar hfill), Field.text,
    List.any_append, List.any_append, hsign, hmark, hbody, ← r.any_isNonzeroDigit_digits]
  rfl

end FormatSpec

namespace CellFormatter

variable {f : CellFormatter} {format : ColumnFormat} {v : Value} {p t z : Text}

theorem format_of_formatValue (hv : v ≠ .null) (hfunction : f.function format = .builtin .format)
    (hspec : f.spec format v = p) (h : formatValue v p = .ok t) (row column : Nat) :
    f.format format row column v = .ok (finish format v t) := by
  have hcall : (f.function format).call v (f.spec format v) = .ok t := by
    rw [hfunction, hspec]
    exact h
  cases v <;> first | contradiction | simp only [CellFormatter.format, hcall]

/-- A column under the default configuration that shows its values under a spec, and zeros by a text
of their own. -/
structure ReplacesZeros (f : CellFormatter) (format : ColumnFormat) (p z : Text) : Prop where
  config : f.config = {}
  function : f.function format = .builtin .format
  spec : format.spec = p
  zeroText : format.zeroText = some z
  parentheses : format.parentheses = false

theorem ReplacesZeros.spec_eq (h : ReplacesZeros f format p z) (n : Int) :
    f.spec format (.int n) = p := by
  unfold CellFormatter.spec
  split
  · next hempty =>
    have hnil : format.spec = [] := List.isEmpty_iff.mp (Bool.and_eq_true_iff.mp hempty).1
    rw [defaultSpec, h.config, ← h.spec, hnil]
  · exact h.spec

/-- An integer is replaced if it shows no digit from 1 to 9. That is only zero, unless it is shown
in base sixteen. -/
theorem ReplacesZeros.format_int_eq (h : ReplacesZeros f format p z) {s : FormatSpec}
    (hp : parse p = .ok s) (hfill : s.fill = none) {r : Radix} (hcode : HasRadix s.code r)
    (haccepted : ∃ m t, formatValue (.int m) p = .ok t) (row column : Nat) (n : Int) :
    ∃ t, formatValue (.int n) p = .ok t ∧
      (r.ShowsZero n → f.format format row column (.int n) = .ok z) ∧
      (¬ r.ShowsZero n → f.format format row column (.int n) = .ok t) := by
  obtain ⟨m, u, hu⟩ := haccepted
  obtain ⟨_, hfield, -⟩ := (formatValue_eq_ok_iff hp).mp hu
  obtain ⟨field, hfield, hany⟩ := exists_field_any hcode hfill hfield n
  have htext : formatValue (.int n) p = .ok (s.padField field) :=
    (formatValue_eq_ok_iff hp).mpr ⟨field, hfield, rfl⟩
  generalize s.padField field = t at hany htext
  have hcell : f.format format row column (.int n) =
      .ok (if t.any isNonzeroDigit then t else z) := by
    rw [format_of_formatValue (v := .int n) (by simp) h.function (h.spec_eq n) htext]
    cases hd : t.any isNonzeroDigit <;>
      simp [finish, Value.isNumeric, h.zeroText, h.parentheses, hd]
  refine ⟨t, htext, fun hzero => ?_, fun hnot => ?_⟩
  · have hd : t.any isNonzeroDigit ≠ true := fun hd => (r.showsZero_iff n).mp hzero (hany.mp hd)
    rw [hcell, if_neg hd]
  · have hd : t.any isNonzeroDigit = true := by
      by_contra hd
      exact hnot ((r.showsZero_iff n).mpr fun hdigit => hd (hany.mpr hdigit))
    rw [hcell, if_pos hd]

def plainCells : CellFormatter where
  config := {}
  defaultFunction := .builtin .format
  handler := none

/-- The sign, the mark of the radix and the padding are no digits from 1 to 9. -/
theorem format_int_paddedHex :
    let format : ColumnFormat := { zeroText := some "nil".toList, spec := "+#010x".toList }
    ReplacesZeros plainCells format "+#010x".toList "nil".toList ∧
      formatValue (.int (-26)) "+#010x".toList = .ok "-0x000001a".toList ∧
      plainCells.format format 0 0 (.int (-26)) = .ok "-0x000001a".toList ∧
      plainCells.format format 1 0 (.int 0) = .ok "nil".toList := by
  intro format
  have hcolumn : ReplacesZeros plainCells format "+#010x".toList "nil".toList :=
    ⟨rfl, rfl, rfl, rfl, rfl⟩
  have hp : parse "+#010x".toList = .ok {
    sign := .plus, alternate := true, zeroPad := true, width := some 10, code := some 'x' } := rfl
  have hshown : formatValue (.int (-26)) "+#010x".toList = .ok "-0x000001a".toList := rfl
  have hcell := hcolumn.format_int_eq hp rfl .hex ⟨_, _, hshown⟩
  refine ⟨hcolumn, hshown, ?_, ?_⟩
  · obtain ⟨t, ht, -, hkept⟩ := hcell 0 0 (-26)
    obtain rfl := Except.ok.inj (hshown.symm.trans ht)
    refine hkept fun hzero => (Radix.showsZero_iff _ _).mp hzero ⟨1, by decide⟩
  · obtain ⟨_, -, hreplaced, -⟩ := hcell 1 0 0
    exact hreplaced .zero

/-- Ten is the letter `a` in base sixteen. -/
theorem format_int_hexLetter :
    formatValue (.int 10) ['x'] = .ok ['a'] ∧ (10 : Int) ≠ 0 ∧
      plainCells.format { zeroText := some ['-'], spec := ['x'] } 0 0 (.int 10) ≠ .ok ['a'] ∧
      plainCells.format { zeroText := some ['-'], spec := ['x'] } 0 0 (.int 10) = .ok ['-'] := by
  refine ⟨rfl, by decide, fun h => ?_, rfl⟩
  exact absurd (Except.ok.inj h) (by decide)

end CellFormatter

end TextTable
