import Mathlib.Tactic.FieldSimp
import Mathlib.Tactic.Ring
import TextTable.Proofs.Cell.Ends

/-! # Reading decimal text

A decimal text is a mantissa, which is digits with at most one point between them, and an exponent
behind a letter. The texts of magnitudes are such texts, and the number that they denote is the one
that their digits and their exponent were chosen for.
-/

namespace TextTable

namespace Decimal

/-- A letter in front of an exponent. -/
def isMark (c : Char) : Bool := c = 'e' || c = 'E'

def mantissa (t : Text) : Text := t.takeWhile fun c => !isMark c

def readMantissa (t : Text) : Option ℚ :=
  let whole := t.takeWhile Char.isDigit
  if whole = [] then none
  else
    match t.dropWhile Char.isDigit with
    | [] => some (Nat.ofDigitChars 10 whole 0)
    | point :: decimals =>
      if point = '.' ∧ decimals ≠ [] ∧ decimals.all Char.isDigit = true then
        some (Nat.ofDigitChars 10 (whole ++ decimals) 0 / 10 ^ decimals.length)
      else none

/-- The exponent behind a mantissa, which is zero if there is none. -/
def readExponent (t : Text) : Option Int :=
  match t with
  | [] => some 0
  | mark :: sign :: digits =>
    if isMark mark = true ∧ digits ≠ [] ∧ digits.all Char.isDigit = true then
      if sign = '+' then some (Nat.ofDigitChars 10 digits 0)
      else if sign = '-' then some (-(Nat.ofDigitChars 10 digits 0 : Int))
      else none
    else none
  | _ => none

def readMagnitude (t : Text) : Option ℚ := do
  let number ← readMantissa (mantissa t)
  let exponent ← readExponent (t.dropWhile fun c => !isMark c)
  return number * 10 ^ exponent

def read (t : Text) : Option ℚ :=
  match t with
  | '-' :: t => (readMagnitude t).map fun q => -q
  | t => readMagnitude t

structure IsDigits (t : Text) : Prop where
  ne_nil : t ≠ []
  isDigit : ∀ c ∈ t, c.isDigit = true

inductive IsMantissa : Text → ℚ → Prop
  | whole {digits : Text} : IsDigits digits → IsMantissa digits (Nat.ofDigitChars 10 digits 0)
  | point {whole decimals : Text} : IsDigits whole → IsDigits decimals →
      IsMantissa (whole ++ '.' :: decimals)
        (Nat.ofDigitChars 10 (whole ++ decimals) 0 / 10 ^ decimals.length)

inductive IsExponent : Text → Int → Prop
  | absent : IsExponent [] 0
  | plus {mark : Char} {digits : Text} : isMark mark = true → IsDigits digits →
      IsExponent (mark :: '+' :: digits) (Nat.ofDigitChars 10 digits 0)
  | minus {mark : Char} {digits : Text} : isMark mark = true → IsDigits digits →
      IsExponent (mark :: '-' :: digits) (-(Nat.ofDigitChars 10 digits 0 : Int))

variable {t m e digits whole decimals : Text} {q : ℚ} {k : Int}

theorem IsMantissa.isPositional (h : IsMantissa m q) : IsPositional m := by
  cases h with
  | whole hdigits => exact .of_isDigit hdigits.isDigit
  | point hwhole hdecimals =>
    exact (IsPositional.of_isDigit hwhole.isDigit).append
      (IsPositional.of_isDigit hdecimals.isDigit).cons_point

theorem IsMantissa.readMantissa_eq (h : IsMantissa m q) : readMantissa m = some q := by
  cases h with
  | whole hdigits =>
    have htake : m.takeWhile Char.isDigit = m := List.takeWhile_eq_self_iff.mpr hdigits.isDigit
    have hdrop : m.dropWhile Char.isDigit = [] := List.dropWhile_eq_nil_iff.mpr hdigits.isDigit
    simp only [readMantissa, htake, hdrop, if_neg hdigits.ne_nil]
  | @point whole decimals hwhole hdecimals =>
    have htake : (whole ++ '.' :: decimals).takeWhile Char.isDigit = whole := by
      rw [List.takeWhile_append_of_pos hwhole.isDigit, List.takeWhile_cons_of_neg (by decide),
        List.append_nil]
    have hdrop : (whole ++ '.' :: decimals).dropWhile Char.isDigit = '.' :: decimals := by
      rw [List.dropWhile_append_of_pos hwhole.isDigit, List.dropWhile_cons_of_neg (by decide)]
    have hcond : '.' = '.' ∧ decimals ≠ [] ∧ decimals.all Char.isDigit = true :=
      ⟨rfl, hdecimals.ne_nil, List.all_eq_true.mpr hdecimals.isDigit⟩
    rw [readMantissa, htake, hdrop]
    exact (if_neg hwhole.ne_nil).trans (if_pos hcond)

theorem IsExponent.readExponent_eq (h : IsExponent e k) : readExponent e = some k := by
  cases h with
  | absent => rfl
  | plus hmark hdigits =>
    simp only [readExponent, hmark, hdigits.ne_nil, List.all_eq_true.mpr hdigits.isDigit, ne_eq,
      not_false_eq_true, and_self, if_true]
  | minus hmark hdigits =>
    simp [readExponent, hmark, hdigits.ne_nil, List.all_eq_true.mpr hdigits.isDigit]

theorem isMark_eq_false_of_isPositional (h : IsPositional m) {c : Char} (hc : c ∈ m) :
    isMark c = false := by
  rcases h c hc with hdigit | rfl
  · have hne {d : Char} (hd : d.isDigit = false) : c ≠ d := by
      rintro rfl
      exact absurd (hdigit.symm.trans hd) (by decide)
    simp [isMark, hne (d := 'e') rfl, hne (d := 'E') rfl]
  · rfl

theorem mantissa_append (h : IsPositional m) (he : IsExponent e k) : mantissa (m ++ e) = m := by
  have hall : ∀ c ∈ m, (!isMark c) = true := fun c hc => by
    rw [isMark_eq_false_of_isPositional h hc, Bool.not_false]
  rw [mantissa, List.takeWhile_append_of_pos hall]
  cases he with
  | absent => rw [List.takeWhile_nil, List.append_nil]
  | plus hmark _ | minus hmark _ =>
    rw [List.takeWhile_cons_of_neg (by simp [hmark]), List.append_nil]

theorem dropWhile_append_exponent (h : IsPositional m) (he : IsExponent e k) :
    (m ++ e).dropWhile (fun c => !isMark c) = e := by
  have hsplit := List.takeWhile_append_dropWhile (p := fun c => !isMark c) (l := m ++ e)
  rw [← mantissa, mantissa_append h he] at hsplit
  exact List.append_cancel_left hsplit

inductive IsMagnitude : Text → Text → ℚ → Prop
  | mk {m e : Text} {v : ℚ} {k : Int} : IsMantissa m v → IsExponent e k →
      IsMagnitude m e (v * 10 ^ k)

theorem IsMantissa.isMagnitude (h : IsMantissa m q) : IsMagnitude m [] q := by
  have hvalue : q = q * 10 ^ (0 : Int) := by rw [zpow_zero, mul_one]
  rw [hvalue]
  exact .mk h .absent

theorem IsMagnitude.readMagnitude_eq (h : IsMagnitude m e q) :
    readMagnitude (m ++ e) = some q := by
  cases h with
  | mk hm he =>
    rw [readMagnitude, mantissa_append hm.isPositional he,
      dropWhile_append_exponent hm.isPositional he, hm.readMantissa_eq, he.readExponent_eq]
    rfl

theorem IsMantissa.head?_append (h : IsMantissa m q) (e : Text) :
    ∃ c ∈ (m ++ e).head?, c.isDigit = true := by
  cases h with
  | whole hdigits =>
    obtain ⟨c, rest, rfl⟩ := List.exists_cons_of_ne_nil hdigits.ne_nil
    exact ⟨c, rfl, hdigits.isDigit c List.mem_cons_self⟩
  | point hwhole _ =>
    obtain ⟨c, rest, rfl⟩ := List.exists_cons_of_ne_nil hwhole.ne_nil
    exact ⟨c, rfl, hwhole.isDigit c List.mem_cons_self⟩

theorem IsMagnitude.head?_append (h : IsMagnitude m e q) :
    ∃ c ∈ (m ++ e).head?, c.isDigit = true := by
  cases h with
  | mk hm _ => exact hm.head?_append e

/-- Behind its sign a number starts with a digit, so that the sign can be told. -/
theorem IsMagnitude.head?_signed (h : IsMagnitude m e q) (negative : Bool) :
    (Sign.minus.text negative ++ (m ++ e)).head? = some '-' ↔ negative = true := by
  obtain ⟨c, hc, hdigit⟩ := h.head?_append
  cases negative with
  | true => exact iff_of_true rfl rfl
  | false =>
    have hhead : (Sign.minus.text false ++ (m ++ e)).head? = some c := hc
    rw [hhead]
    refine iff_of_false (fun heq => ?_) nofun
    rw [Option.some.inj heq] at hdigit
    exact absurd hdigit (by decide)

theorem IsMagnitude.read_signed (h : IsMagnitude m e q) (negative : Bool) :
    read (Sign.minus.text negative ++ (m ++ e)) = some (if negative then -q else q) := by
  cases negative with
  | true =>
    change (readMagnitude (m ++ e)).map (fun q => -q) = _
    rw [h.readMagnitude_eq]
    rfl
  | false =>
    have hsign := h.head?_signed false
    change read (m ++ e) = some q
    unfold read
    split
    · next rest heq =>
      rw [heq] at hsign
      exact absurd (hsign.mp rfl) (by decide)
    · exact h.readMagnitude_eq

theorem isMark_eq_false_of_mem_sign {negative : Bool} {c : Char}
    (hc : c ∈ Sign.minus.text negative) : isMark c = false := by
  cases negative with
  | true => exact List.mem_singleton.mp hc ▸ rfl
  | false => exact absurd hc List.not_mem_nil

theorem IsMagnitude.mantissa_signed (h : IsMagnitude m e q) (negative : Bool) :
    mantissa (Sign.minus.text negative ++ (m ++ e)) = Sign.minus.text negative ++ m := by
  have hsign : ∀ c ∈ Sign.minus.text negative, (!isMark c) = true := fun c hc => by
    rw [isMark_eq_false_of_mem_sign hc, Bool.not_false]
  cases h with
  | mk hm he =>
    rw [mantissa, List.takeWhile_append_of_pos hsign]
    exact congrArg _ (mantissa_append hm.isPositional he)

theorem IsMagnitude.mem_signed_iff (h : IsMagnitude m e q) (negative : Bool) {c : Char}
    (hmark : isMark c = true) : c ∈ Sign.minus.text negative ++ (m ++ e) ↔ c ∈ e := by
  have hnot (hc : isMark c = false) : False := absurd (hmark.symm.trans hc) (by decide)
  cases h with
  | mk hm he =>
    rw [List.mem_append, List.mem_append]
    constructor
    · rintro (hsign | hmem | hmem)
      · exact (hnot (isMark_eq_false_of_mem_sign hsign)).elim
      · exact (hnot (isMark_eq_false_of_isPositional hm.isPositional hmem)).elim
      · exact hmem
    · exact fun hmem => Or.inr (Or.inr hmem)

theorem IsMagnitude.exists_isMark_iff (h : IsMagnitude m e q) (negative : Bool) :
    (∃ c ∈ Sign.minus.text negative ++ (m ++ e), isMark c = true) ↔ e ≠ [] := by
  constructor
  · rintro ⟨c, hc, hmark⟩
    exact List.ne_nil_of_mem ((h.mem_signed_iff negative hmark).mp hc)
  · intro hne
    cases h with
    | mk _ he =>
      cases he with
      | absent => exact absurd rfl hne
      | plus hmark _ => exact ⟨_, by simp, hmark⟩
      | minus hmark _ => exact ⟨_, by simp, hmark⟩

theorem toUpper_of_lt {c : Char} (h : c.toNat < 97) : c.toUpper = c := by
  unfold Char.toUpper
  split
  · next hlower =>
    have hge : 97 ≤ c.toNat := hlower.1
    omega
  · rfl

theorem map_toUpper_of_isPositional (h : IsPositional m) : m.map Char.toUpper = m := by
  have hsame : ∀ c ∈ m, c.toUpper = id c := fun c hc => by
    rcases h c hc with hdigit | rfl
    · have hle : c.toNat ≤ 57 := of_decide_eq_true (Bool.and_eq_true_iff.mp hdigit).2
      exact toUpper_of_lt (by omega)
    · rfl
  rw [List.map_congr_left hsame, List.map_id]

theorem isMark_toUpper {c : Char} (h : isMark c = true) : isMark c.toUpper = true := by
  simp only [isMark, Bool.or_eq_true, decide_eq_true_eq] at h
  rcases h with rfl | rfl <;> rfl

theorem IsExponent.map_toUpper (h : IsExponent e k) : IsExponent (e.map Char.toUpper) k := by
  have hsame {digits : Text} (hdigits : IsDigits digits) : digits.map Char.toUpper = digits :=
    map_toUpper_of_isPositional (.of_isDigit hdigits.isDigit)
  cases h with
  | absent => exact .absent
  | plus hmark hdigits =>
    rw [List.map_cons, List.map_cons, hsame hdigits]
    exact .plus (isMark_toUpper hmark) hdigits
  | minus hmark hdigits =>
    rw [List.map_cons, List.map_cons, hsame hdigits]
    exact .minus (isMark_toUpper hmark) hdigits

theorem IsMagnitude.map_toUpper (h : IsMagnitude m e q) :
    m.map Char.toUpper = m ∧ IsMagnitude m (e.map Char.toUpper) q := by
  cases h with
  | mk hm he => exact ⟨map_toUpper_of_isPositional hm.isPositional, .mk hm he.map_toUpper⟩

theorem isDigits_toDigits (n : Nat) : IsDigits (Nat.toDigits 10 n) :=
  ⟨Nat.toDigits_ne_nil, isDigit_of_mem_toDigits⟩

theorem isDigits_paddedDigits (count n : Nat) : IsDigits (paddedDigits count n) where
  ne_nil := List.append_ne_nil_of_right_ne_nil _ Nat.toDigits_ne_nil
  isDigit := isDigit_paddedDigits count n

theorem IsDigits.append_zeros (h : IsDigits digits) (n : Nat) :
    IsDigits (digits ++ List.replicate n '0') where
  ne_nil := List.append_ne_nil_of_left_ne_nil h.ne_nil _
  isDigit := List.forall_mem_append.mpr ⟨h.isDigit, isDigit_of_mem_replicate⟩

theorem ofDigitChars_append_zeros (digits : Text) (n : Nat) :
    Nat.ofDigitChars 10 (digits ++ List.replicate n '0') 0 =
      10 ^ n * Nat.ofDigitChars 10 digits 0 := by
  rw [Nat.ofDigitChars_append, Nat.ofDigitChars_replicate_zero]

theorem ofDigitChars_zeros_append (n : Nat) (digits : Text) :
    Nat.ofDigitChars 10 (List.replicate n '0' ++ digits) 0 = Nat.ofDigitChars 10 digits 0 := by
  rw [Nat.ofDigitChars_append, Nat.ofDigitChars_replicate_zero, Nat.mul_zero]

theorem ofDigitChars_paddedDigits (count n : Nat) :
    Nat.ofDigitChars 10 (paddedDigits count n) 0 = n := by
  rw [paddedDigits, ofDigitChars_zeros_append, Nat.ofDigitChars_ten_toDigits]

theorem IsDigits.isMantissa_cut (h : IsDigits digits) {n : Nat} (hpos : 0 < n)
    (hlt : n < digits.length) : IsMantissa (digits.take n ++ '.' :: digits.drop n)
      (Nat.ofDigitChars 10 digits 0 / 10 ^ (digits.length - n)) := by
  have hwhole : IsDigits (digits.take n) := by
    refine ⟨fun hnil => ?_, fun c hc => h.isDigit c (List.take_subset _ _ hc)⟩
    rcases List.take_eq_nil_iff.mp hnil with hzero | hzero
    · omega
    · exact h.ne_nil hzero
  have hdecimals : IsDigits (digits.drop n) := by
    refine ⟨fun hnil => ?_, fun c hc => h.isDigit c (List.drop_subset _ _ hc)⟩
    exact absurd (List.drop_eq_nil_iff.mp hnil) (by omega)
  have hcut := IsMantissa.point hwhole hdecimals
  rwa [List.take_append_drop, List.length_drop] at hcut

theorem isMantissa_fixed (num den places : Nat) : IsMantissa (fixed num den places)
    (roundDiv (num * Nat.pow 10 places) den / 10 ^ places) := by
  unfold fixed
  extract_lets digits whole
  have hdigits : IsDigits digits := isDigits_paddedDigits _ _
  have hvalue : Nat.ofDigitChars 10 digits 0 = roundDiv (num * Nat.pow 10 places) den :=
    ofDigitChars_paddedDigits _ _
  have hlt : places < digits.length := lt_length_paddedDigits places _
  rw [← hvalue]
  split
  · next hplaces =>
    have hwhole : whole = digits := by
      simp only [whole, hplaces, Nat.sub_zero, List.take_length]
    rw [hwhole, hplaces, pow_zero, div_one]
    exact .whole hdigits
  · next hplaces =>
    have hcut := hdigits.isMantissa_cut (n := digits.length - places) (by omega) (by omega)
    rwa [Nat.sub_sub_self hlt.le] at hcut

theorem point_mem_withPoint (t : Text) : '.' ∈ withPoint t := by
  unfold withPoint
  split
  · assumption
  · simp

theorem isMantissa_withPoint (h : IsDigits digits) :
    IsMantissa (withPoint digits) (Nat.ofDigitChars 10 digits 0) := by
  have hpoint : '.' ∉ digits := fun hmem => absurd (h.isDigit '.' hmem) (by decide)
  have hvalue : (Nat.ofDigitChars 10 digits 0 : ℚ) =
      Nat.ofDigitChars 10 (digits ++ ['0']) 0 / 10 ^ ['0'].length := by
    have hzero := ofDigitChars_append_zeros digits 1
    rw [List.replicate_one, pow_one] at hzero
    rw [hzero, List.length_singleton, pow_one]
    push_cast
    field_simp
  rw [withPoint, if_neg hpoint, hvalue]
  exact .point h ⟨List.cons_ne_nil _ _, List.forall_mem_singleton.mpr rfl⟩

theorem isExponent_exponentText (count : Nat) (exponent : Int) :
    IsExponent (exponentText count exponent) exponent := by
  have hdigits := isDigits_paddedDigits count exponent.natAbs
  have hvalue := ofDigitChars_paddedDigits count exponent.natAbs
  unfold exponentText
  split
  · next hneg =>
    have hminus : IsExponent ('e' :: '-' :: paddedDigits count exponent.natAbs) _ :=
      .minus rfl hdigits
    rwa [hvalue, ← Int.eq_neg_natAbs_of_nonpos (by omega)] at hminus
  · next hnonneg =>
    have hplus : IsExponent ('e' :: '+' :: paddedDigits count exponent.natAbs) _ :=
      .plus rfl hdigits
    rwa [hvalue, Int.natAbs_of_nonneg (by omega)] at hplus

end Decimal

namespace Scientific

open Decimal

def value (s : Scientific) : ℚ :=
  Nat.ofDigitChars 10 s.digits 0 * 10 ^ (s.exponent + 1 - s.digits.length)

variable {s : Scientific}

theorem isMantissa_mantissa (h : IsDigits s.digits) : IsMantissa s.mantissa
    (Nat.ofDigitChars 10 s.digits 0 / 10 ^ (s.digits.length - 1)) := by
  unfold mantissa
  split
  · next hnil => exact absurd hnil h.ne_nil
  · next d hd =>
    rw [hd] at h ⊢
    have hone : (10 : ℚ) ^ ([d].length - 1) = 1 := pow_zero 10
    rw [hone, div_one]
    exact .whole h
  · next d rest hne hd =>
    rw [hd] at h ⊢
    have hrest : rest ≠ [] := fun hnil => hne (by rw [hnil])
    exact h.isMantissa_cut Nat.one_pos (by simpa using List.length_pos_of_ne_nil hrest)

theorem exists_dropWhile_append_zeros (digits : Text) : ∃ n,
    (digits.reverse.dropWhile (· = '0')).reverse ++ List.replicate n '0' = digits := by
  have hzeros : (digits.reverse.takeWhile (· = '0')).reverse =
      List.replicate (digits.reverse.takeWhile (· = '0')).length '0' := by
    refine List.eq_replicate_iff.mpr ⟨List.length_reverse, fun c hc => ?_⟩
    have hzero := List.mem_takeWhile_imp (p := fun c => c = '0') (List.mem_reverse.mp hc)
    exact of_decide_eq_true hzero
  refine ⟨(digits.reverse.takeWhile (· = '0')).length, ?_⟩
  rw [← hzeros, ← List.reverse_append, List.takeWhile_append_dropWhile, List.reverse_reverse]

theorem value_append_zeros (digits : Text) (e : Int) (n : Nat) :
    value ⟨digits ++ List.replicate n '0', e⟩ = value ⟨digits, e⟩ := by
  have hexp : e + 1 - (digits ++ List.replicate n '0').length + n = e + 1 - digits.length := by
    rw [List.length_append, List.length_replicate]
    omega
  unfold value
  dsimp only
  rw [← hexp, zpow_add₀ (by norm_num), zpow_natCast, ofDigitChars_append_zeros]
  push_cast
  ring

theorem isMagnitude_mantissa (h : IsDigits s.digits) (count : Nat) :
    IsMagnitude s.mantissa (exponentText count s.exponent) s.value := by
  have hmagnitude :=
    IsMagnitude.mk (isMantissa_mantissa h) (isExponent_exponentText count s.exponent)
  have hlength : 0 < s.digits.length := List.length_pos_of_ne_nil h.ne_nil
  have hvalue : s.value =
      Nat.ofDigitChars 10 s.digits 0 / 10 ^ (s.digits.length - 1) * 10 ^ s.exponent := by
    have hexp : s.exponent + 1 - s.digits.length = s.exponent - (s.digits.length - 1 : Nat) := by
      omega
    rw [value, hexp, zpow_sub₀ (by norm_num), zpow_natCast]
    ring
  rwa [hvalue]

theorem isMantissa_positional (h : IsDigits s.digits) :
    IsMantissa (withPoint s.positional) s.value := by
  have hlength : 0 < s.digits.length := List.length_pos_of_ne_nil h.ne_nil
  unfold positional
  split
  · next hneg =>
    obtain ⟨zeros, hzeros⟩ : ∃ n, n = (-s.exponent).toNat - 1 := ⟨_, rfl⟩
    have hdecimals : IsDigits (List.replicate zeros '0' ++ s.digits) :=
      ⟨List.append_ne_nil_of_right_ne_nil _ h.ne_nil,
        List.forall_mem_append.mpr ⟨isDigit_of_mem_replicate, h.isDigit⟩⟩
    have hzero : IsDigits ['0'] := ⟨List.cons_ne_nil _ _, List.forall_mem_singleton.mpr rfl⟩
    have hvalue : s.value =
        Nat.ofDigitChars 10 (['0'] ++ (List.replicate zeros '0' ++ s.digits)) 0 /
          10 ^ (List.replicate zeros '0' ++ s.digits).length := by
      have hexp : s.exponent + 1 - s.digits.length = -(zeros + s.digits.length : Nat) := by omega
      have hdigits : ['0'] ++ (List.replicate zeros '0' ++ s.digits) =
          List.replicate (zeros + 1) '0' ++ s.digits := rfl
      rw [hdigits, ofDigitChars_zeros_append, List.length_append, List.length_replicate, value,
        hexp, zpow_neg, zpow_natCast, div_eq_mul_inv]
    have hpoint : '.' ∈
        '0' :: '.' :: List.replicate ((-s.exponent).toNat - 1) '0' ++ s.digits := by
      simp
    rw [withPoint, if_pos hpoint, ← hzeros, hvalue]
    exact .point hzero hdecimals
  · next hnonneg =>
    obtain ⟨whole, hwhole⟩ : ∃ n, n = s.exponent.toNat + 1 := ⟨_, rfl⟩
    rw [← hwhole]
    dsimp only
    split
    · next hle =>
      have hexp : s.exponent + 1 - s.digits.length = (whole - s.digits.length : Nat) := by omega
      have hvalue : s.value =
          Nat.ofDigitChars 10 (s.digits ++ List.replicate (whole - s.digits.length) '0') 0 := by
        rw [ofDigitChars_append_zeros, value, hexp, zpow_natCast]
        push_cast
        ring
      rw [hvalue]
      exact isMantissa_withPoint (h.append_zeros _)
    · next hlt =>
      have hzeros : whole - s.digits.length = 0 := by omega
      have hexp : s.exponent + 1 - s.digits.length = -(s.digits.length - whole : Nat) := by omega
      have hvalue : s.value =
          Nat.ofDigitChars 10 s.digits 0 / 10 ^ (s.digits.length - whole) := by
        rw [value, hexp, zpow_neg, zpow_natCast, div_eq_mul_inv]
      have hpoint : '.' ∈ s.digits.take whole ++ '.' :: s.digits.drop whole := by simp
      rw [hzeros, List.replicate_zero, List.append_nil, withPoint, if_pos hpoint, hvalue]
      exact h.isMantissa_cut (by omega) (by omega)

end Scientific

namespace Double

open Decimal

variable {m e whole : Text} {q : ℚ}

theorem exists_append_zeros (digits : Text) : ∃ kept n,
    kept ++ List.replicate n '0' = digits ∧ ∀ c ∈ kept.getLast?, c ≠ '0' := by
  obtain ⟨n, hn⟩ := Scientific.exists_dropWhile_append_zeros digits
  refine ⟨_, n, hn, ?_⟩
  rw [List.getLast?_reverse]
  rintro c hc rfl
  have hnot := List.head?_dropWhile_not (· = '0') digits.reverse
  rw [hc] at hnot
  exact absurd hnot (by decide)

theorem dropZeros_point_zeros (h : IsDigits whole) (n : Nat) :
    dropZeros (whole ++ '.' :: List.replicate n '0') = whole := by
  have hpoint : '.' ∈ whole ++ '.' :: List.replicate n '0' := by simp
  obtain ⟨c, rest, hlast⟩ := List.exists_cons_of_ne_nil (List.reverse_ne_nil_iff.mpr h.ne_nil)
  have hc : c ≠ '.' := by
    rintro rfl
    exact absurd (h.isDigit '.' (List.mem_reverse.mp (hlast ▸ List.mem_cons_self))) (by decide)
  have hwhole : (c :: rest).reverse = whole := List.reverse_eq_iff.mpr hlast.symm
  rw [dropZeros, if_pos hpoint, List.reverse_append, List.reverse_cons, List.reverse_replicate,
    List.append_assoc, List.dropWhile_append_of_pos (by simp)]
  simpa [hlast, hc] using hwhole

theorem dropZeros_point_append {kept : Text} {c : Char} (hzero : c ≠ '0') (hpoint : c ≠ '.')
    (n : Nat) : dropZeros (whole ++ '.' :: (kept ++ [c] ++ List.replicate n '0')) =
      whole ++ '.' :: (kept ++ [c]) := by
  have hmem : '.' ∈ whole ++ '.' :: (kept ++ [c] ++ List.replicate n '0') := by simp
  have hreverse : (whole ++ '.' :: (kept ++ [c] ++ List.replicate n '0')).reverse =
      List.replicate n '0' ++ (whole ++ '.' :: (kept ++ [c])).reverse := by simp
  rw [dropZeros, if_pos hmem, hreverse, List.dropWhile_append_of_pos (by simp)]
  simp [hzero, hpoint]

/-- The mantissa is whole, or its last decimal is no zero. -/
def EndsSignificant (m : Text) : Prop := '.' ∈ m → ∀ c ∈ m.getLast?, c ≠ '0' ∧ c ≠ '.'

theorem EndsSignificant.signed (h : EndsSignificant m) (negative : Bool) :
    EndsSignificant (Sign.minus.text negative ++ m) := by
  intro hmem
  have hpoint : '.' ∈ m := by
    rcases List.mem_append.mp hmem with hsign | hpoint
    · cases negative <;> simp [Sign.text] at hsign
    · exact hpoint
  rw [List.getLast?_append_of_ne_nil _ (List.ne_nil_of_mem hpoint)]
  exact h hpoint

theorem isMantissa_dropZeros (h : IsMantissa m q) :
    IsMantissa (dropZeros m) q ∧ EndsSignificant (dropZeros m) := by
  have hwhole {digits : Text} (hdigits : IsDigits digits) : '.' ∉ digits := fun hmem =>
    absurd (hdigits.isDigit '.' hmem) (by decide)
  cases h with
  | whole hdigits =>
    rw [dropZeros, if_neg (hwhole hdigits)]
    exact ⟨.whole hdigits, fun hmem => absurd hmem (hwhole hdigits)⟩
  | @point whole decimals hw hdecimals =>
    obtain ⟨kept, n, rfl, hlast⟩ := exists_append_zeros decimals
    rcases List.eq_nil_or_concat' kept with rfl | ⟨kept, c, rfl⟩
    · have hvalue : (Nat.ofDigitChars 10 (whole ++ ([] ++ List.replicate n '0')) 0 : ℚ) /
          10 ^ ([] ++ List.replicate n '0').length = Nat.ofDigitChars 10 whole 0 := by
        rw [List.nil_append, ofDigitChars_append_zeros, List.length_replicate]
        push_cast
        field_simp
      rw [hvalue, List.nil_append, dropZeros_point_zeros hw]
      exact ⟨.whole hw, fun hmem => absurd hmem (hwhole hw)⟩
    · have hzero : c ≠ '0' := hlast c (by simp)
      have hkept : IsDigits (kept ++ [c]) :=
        ⟨by simp, fun d hd => hdecimals.isDigit d (List.mem_append_left _ hd)⟩
      have hpoint : c ≠ '.' := by
        rintro rfl
        exact absurd (hkept.isDigit '.' (by simp)) (by decide)
      have hvalue : (Nat.ofDigitChars 10 (whole ++ (kept ++ [c] ++ List.replicate n '0')) 0 : ℚ) /
          10 ^ (kept ++ [c] ++ List.replicate n '0').length =
            Nat.ofDigitChars 10 (whole ++ (kept ++ [c])) 0 / 10 ^ (kept ++ [c]).length := by
        rw [← List.append_assoc, ofDigitChars_append_zeros, List.length_append,
          List.length_replicate, pow_add]
        push_cast
        field_simp
      rw [hvalue, dropZeros_point_append hzero hpoint]
      refine ⟨.point hw hkept, fun _ d hd => ?_⟩
      have hend : (whole ++ '.' :: (kept ++ [c])).getLast? = some c := by
        rw [← List.cons_append, ← List.append_assoc]
        exact List.getLast?_concat
      obtain rfl : c = d := Option.some.inj (hend.symm.trans hd)
      exact ⟨hzero, hpoint⟩

theorem isMagnitude_dropZeros (h : IsMagnitude m e q) :
    IsMagnitude (dropZeros m) e q ∧ EndsSignificant (dropZeros m) := by
  cases h with
  | mk hm he =>
    obtain ⟨hm, hends⟩ := isMantissa_dropZeros hm
    exact ⟨.mk hm he, hends⟩

end Double

end TextTable
