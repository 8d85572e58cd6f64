import Mathlib.Algebra.Group.Nat.Defs
import TextTable.Number.Digits

/-! # Decimal numerals

A number is written without zeros in front, and a numeral that fits a machine word is read as the
number that it denotes. A sum of sizes is a size itself where it fits a machine word.
-/

namespace TextTable

variable {digits : Text} {n : Nat}

theorem toSize_eq_mod (n : Nat) : toSize n = n % 2 ^ 64 := rfl

theorem toSize_le (n : Nat) : toSize n ≤ n := Nat.mod_le ..

theorem toSize_eq_self_iff : toSize n = n ↔ n < 2 ^ 64 := by
  rw [toSize_eq_mod, Nat.mod_eq_iff_lt (by decide)]

theorem readDigits_eq_some_iff : readDigits digits = some n ↔
    digits ≠ [] ∧ Nat.ofDigitChars 10 digits 0 = n ∧ n ≤ maxSize := by
  unfold readDigits
  by_cases h : digits = [] <;> by_cases hn : maxSize < Nat.ofDigitChars 10 digits 0 <;>
    simp [h, hn] <;> grind

theorem readDigits_eq_none_iff : readDigits digits = none ↔
    digits = [] ∨ maxSize < Nat.ofDigitChars 10 digits 0 := by
  unfold readDigits
  by_cases h : digits = [] <;> simp [h]

theorem readDigits_toDigits (h : n ≤ maxSize) : readDigits (Nat.toDigits 10 n) = some n :=
  readDigits_eq_some_iff.mpr ⟨Nat.toDigits_ne_nil, Nat.ofDigitChars_ten_toDigits, h⟩

/-- The number that a text denotes as a size: decimal digits of a number that fits a machine word,
with or without a plus sign in front. -/
def IsSize (text : Text) (n : Nat) : Prop :=
  ∃ digits, (text = digits ∨ text = '+' :: digits) ∧ digits ≠ [] ∧
    (∀ d ∈ digits, d.isDigit = true) ∧ Nat.ofDigitChars 10 digits 0 = n ∧ n ≤ maxSize

theorem ite_all_eq_some_iff :
    (if digits.all Char.isDigit = true then readDigits digits else none) = some n ↔
      digits ≠ [] ∧ (∀ d ∈ digits, d.isDigit = true) ∧ Nat.ofDigitChars 10 digits 0 = n ∧
        n ≤ maxSize := by
  rw [← List.all_eq_true]
  split
  · next h => simp only [readDigits_eq_some_iff, h, true_and]
  · next h => simp [h]

theorem readSize_eq_some_iff {text : Text} : readSize text = some n ↔ IsSize text n := by
  unfold readSize IsSize
  split
  · next rest =>
    rw [ite_all_eq_some_iff]
    constructor
    · exact fun h => ⟨rest, Or.inr rfl, h⟩
    -- A plus sign is no digit.
    · rintro ⟨digits, rfl | h, hne, hdigits, hvalue⟩
      · exact absurd (hdigits '+' List.mem_cons_self) (by decide)
      · obtain rfl := List.tail_eq_of_cons_eq h
        exact ⟨hne, hdigits, hvalue⟩
  · next hplus =>
    rw [ite_all_eq_some_iff]
    constructor
    · exact fun h => ⟨text, Or.inl rfl, h⟩
    · rintro ⟨digits, rfl | h, hdigits⟩
      · exact hdigits
      · exact absurd h (hplus digits)

theorem readSize_eq_none_iff {text : Text} : readSize text = none ↔ ∀ n, ¬ IsSize text n := by
  simp only [← readSize_eq_some_iff, Option.eq_none_iff_forall_ne_some, ne_eq]

theorem isDigit_of_mem_toDigits : ∀ c ∈ Nat.toDigits 10 n, c.isDigit = true :=
  fun _ => Nat.isDigit_of_mem_toDigits (by decide) (by decide)

theorem mem_nonzeroDigits {d : Char} (hd : d.isDigit = true) (h0 : d ≠ '0') :
    d ∈ "123456789".toList := by
  have hdigit : ∀ i ∈ List.range 58, 49 ≤ i → Char.ofNat i ∈ "123456789".toList := by decide
  simp only [Char.isDigit, Bool.and_eq_true, decide_eq_true_eq] at hd
  have hge : 48 ≤ d.toNat := hd.1
  have hlt : d.toNat < 58 := Nat.lt_succ_of_le hd.2
  have hne : d.toNat ≠ 48 := fun h => h0 (Char.toNat_inj.mp h)
  have hmem := hdigit d.toNat (List.mem_range.mpr hlt) (by omega)
  rwa [Char.ofNat_toNat] at hmem

theorem head?_toDigits_ne_zero (h : 0 < n) : (Nat.toDigits 10 n).head? ≠ some '0' := by
  induction n using Nat.strongRecOn with
  | ind n ih =>
    by_cases hlt : n < 10
    · rw [Nat.toDigits_of_lt_base hlt, List.head?_cons, ne_eq, Option.some.injEq,
        Nat.digitChar_eq_zero]
      exact Nat.pos_iff_ne_zero.mp h
    -- The digits in front are those of the quotient.
    · have hge : 10 ≤ n := Nat.not_lt.mp hlt
      have hquotient := ih (n / 10) (Nat.div_lt_self h (by decide)) (Nat.div_pos hge (by decide))
      obtain ⟨d, digits, hd⟩ := List.exists_cons_of_ne_nil (Nat.toDigits_ne_nil (n := n / 10))
      rw [Nat.toDigits_of_base_le (by decide) hge, hd]
      rwa [hd] at hquotient

theorem ofDigitChars_pos {d : Char} (hd : d.isDigit = true) (h0 : d ≠ '0') (digits : Text) :
    0 < Nat.ofDigitChars 10 (d :: digits) 0 := by
  have hvalue : 0 < d.toNat - '0'.toNat := by
    have hge : '0'.toNat ≤ d.toNat := by
      simp only [Char.isDigit, Bool.and_eq_true, decide_eq_true_eq] at hd
      exact hd.1
    have hne : d.toNat ≠ '0'.toNat := fun h => h0 (Char.toNat_inj.mp h)
    omega
  rw [Nat.ofDigitChars_cons, Nat.ofDigitChars_eq_ofDigitChars_zero, Nat.mul_zero, Nat.zero_add]
  exact Nat.add_pos_left (Nat.mul_pos (Nat.pow_pos (by decide)) hvalue) _

end TextTable
