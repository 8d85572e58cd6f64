import Mathlib.Algebra.Group.Int.Defs
import TextTable.Proofs.Cell.Ends
import TextTable.Proofs.Cell.Zero
import TextTable.Proofs.Format.Padding

/-! # Parentheses keep digits aligned

A negative number in parentheses ends with the parenthesis where the positive one ends with a space.
Only a number that ends with a point has the parenthesis before its end.
-/

namespace TextTable

open FormatSpec

namespace Double

def negate (x : Double) : Double := { x with negative := true }

theorem mul_pow_lt {n : Nat} (h : n ≤ 2 ^ 63) (k : Nat) : n * Nat.pow 2 k < 2 ^ (64 + k) :=
  calc n * 2 ^ k ≤ 2 ^ 63 * 2 ^ k := Nat.mul_le_mul_right _ h
    _ < 2 ^ 64 * 2 ^ k := Nat.mul_lt_mul_of_pos_right (by decide) (Nat.two_pow_pos k)
    _ = 2 ^ (64 + k) := (Nat.pow_add 2 64 k).symm

theorem nearestRank_lt {n : Nat} (h : n ≤ 2 ^ 63) : nearestRank n 1 < 0x7FF0000000000000 := by
  obtain ⟨k, hk, hunits⟩ : ∃ k, k = 1074 ∧ unitsPerOne = Nat.pow 2 k := by
    refine ⟨1074, rfl, ?_⟩
    unfold unitsPerOne
    rfl
  have hscaled : n * unitsPerOne < 2 ^ (64 + k) := hunits ▸ mul_pow_lt h k
  simp only [nearestRank, Nat.div_one, Nat.one_mul]
  generalize n * unitsPerOne = scaled at hscaled
  have hlog : scaled.log2 < 64 + k := by
    rcases Nat.eq_zero_or_pos scaled with rfl | hpos
    · rw [Nat.log2_zero]
      omega
    · exact (Nat.log2_lt (Nat.ne_of_gt hpos)).mpr hscaled
  have hbits : scaled < Nat.pow 2 (scaled.log2 - 52) * 2 ^ 53 := by
    have hsum := Nat.pow_add 2 (scaled.log2 - 52) 53
    have hle : 2 ^ (scaled.log2 + 1) ≤ 2 ^ (scaled.log2 - 52 + 53) :=
      Nat.pow_le_pow_right (by decide) (by omega)
    exact Nat.lt_of_lt_of_le Nat.lt_log2_self (hsum ▸ hle)
  have hquotient : scaled / Nat.pow 2 (scaled.log2 - 52) < 2 ^ 53 := Nat.div_lt_of_lt_mul hbits
  have hround := roundDiv_cases scaled (Nat.pow 2 (scaled.log2 - 52))
  unfold binade
  omega

theorem exists_ofInt {n : Int} (hpos : 0 < n) (h : n ≤ 2 ^ 63) :
    ∃ x : Double, x.negative = false ∧ ofInt n = .finite x ∧ ofInt (-n) = .finite x.negate := by
  have hrank := nearestRank_lt (n := n.natAbs) (by omega)
  refine ⟨⟨false, _, hrank⟩, rfl, ?_, ?_⟩
  · rw [ofInt, round, dif_pos hrank, decide_eq_false (by omega)]
  · have hsame : (-n).natAbs = n.natAbs := Int.natAbs_neg n
    rw [ofInt, hsame, round, dif_pos hrank, decide_eq_true (by omega)]
    rfl

theorem fixed_scaleUp_negate (x : Double) (k places : Nat) (alternate : Bool) :
    (x.negate.scaleUp k).fixed places alternate = (x.scaleUp k).fixed places alternate := by
  have hunits : x.negate.units = x.units := rfl
  unfold scaleUp round
  rw [hunits]
  dsimp only
  split <;> rfl

theorem doubleBody_negate (s : FormatSpec) (x : Double) :
    s.doubleBody x.negate = s.doubleBody x := by
  simp only [doubleBody, fixed_scaleUp_negate]
  rfl

end Double

/-- A positive number and its negative, which both fit a cell. -/
inductive Opposite : Value → Value → Prop
  | int (n : Int) : 0 < n → n ≤ 2 ^ 63 → Opposite (.int n) (.int (-n))
  | float (x : Double) : x.negative = false → x.isZero = false →
      Opposite (.float x) (.float x.negate)

variable {v w : Value} {front number point t : Text}

theorem Opposite.isNumeric (h : Opposite v w) : v.isNumeric = true ∧ w.isNumeric = true := by
  cases h <;> exact ⟨rfl, rfl⟩

theorem Opposite.ne_null (h : Opposite v w) : v ≠ .null ∧ w ≠ .null := by
  cases h <;> simp

theorem Opposite.isNegative (h : Opposite v w) : v.isNegative = false ∧ w.isNegative = true := by
  cases h with
  | int n hpos _ => simp only [Value.isNegative, decide_eq_false_iff_not, decide_eq_true_eq]; omega
  | float x hsign hzero =>
    have hnegate : x.negate.isZero = x.isZero := rfl
    have htrue : x.negate.negative = true := rfl
    simp [Value.isNegative, Double.isNegative, hsign, hnegate, htrue, hzero]

namespace FormatSpec

variable {s : FormatSpec} {f : Field}

/-- The field of a positive number or of its negative: the same number behind their signs. -/
def signedField (s : FormatSpec) (number : Text) (negative : Bool) : Field where
  lead := s.sign.text negative ++ s.markText
  body := number ++ s.trailingPoint
  align := s.numericAlign

theorem endsNumber_trailingPoint (s : FormatSpec) :
    ∀ c ∈ s.trailingPoint, endsNumber c = false := by
  unfold trailingPoint
  split
  · exact List.forall_mem_singleton.mpr rfl
  · exact List.forall_mem_nil _

theorem exists_signedField_float {x : Double} (hx : x.negative = false)
    (hzero : s.noNegativeZero = false) (hf : s.floatField (.finite x) = .ok f) :
    ∃ number, HasEnds number ∧ s.floatField (.finite x) = .ok (s.signedField number false) ∧
      s.floatField (.finite x.negate) = .ok (s.signedField number true) := by
  obtain ⟨body, hbody, -⟩ := bind_eq_ok_iff.mp (by rwa [floatField] at hf)
  obtain ⟨number, hends, rfl⟩ := hasEnds_doubleBody hbody
  have hmark : s.markText = [] := (isFloatCode_of_doubleBody hbody).markText_eq
  have hgroup : s.groupWhole (number ++ s.trailingPoint) =
      s.groupWhole number ++ s.trailingPoint := by
    unfold trailingPoint
    split
    · exact groupWhole_append_point s number
    · rw [List.append_nil, List.append_nil]
  have hfield (y : Double) (hy : s.doubleBody y = .ok (number ++ s.trailingPoint)) :
      s.floatField (.finite y) = .ok (s.signedField (s.groupWhole number) y.negative) := by
    rw [signedField, hmark, List.append_nil, ← hgroup]
    refine bind_eq_ok_iff.mpr ⟨_, hy, ?_⟩
    simp only [hzero, Bool.false_and, Bool.not_false, Bool.and_true]
    rfl
  have hnegate := (Double.doubleBody_negate s x).trans hbody
  exact ⟨_, hends.groupWhole s, hx ▸ hfield x hbody, hfield x.negate hnegate⟩

theorem integerField_eq_floatField {n : Int} (hradix : Radix.ofCode? s.code = none)
    (hcode : s.code ≠ some 'c') (hf : s.integerField n = .ok f) (m : Int) :
    s.integerField m = s.floatField (Double.ofInt m) := by
  unfold integerField at hf ⊢
  rw [hradix] at hf ⊢
  dsimp only at hf ⊢
  split at hf
  · next hc => exact absurd hc hcode
  · next code _ _ =>
    split at hf
    · next hmem => exact if_pos hmem
    · contradiction
  · next hnone =>
    rw [hnone] at hradix
    contradiction

theorem exists_signedField (h : Opposite v w) (hcode : s.code ≠ some 'c')
    (hzero : s.noNegativeZero = false) (hf : s.field v = .ok f) :
    ∃ number, HasEnds number ∧ s.field v = .ok (s.signedField number false) ∧
      s.field w = .ok (s.signedField number true) := by
  cases h with
  | float x hx _ => exact exists_signedField_float hx hzero hf
  | int n hpos hle =>
    have hf : s.integerField n = .ok f := hf
    cases hradix : Radix.ofCode? s.code with
    | none =>
      have hfloat := integerField_eq_floatField hradix hcode hf
      obtain ⟨x, hx, hn, hneg⟩ := Double.exists_ofInt hpos hle
      have hsigned := exists_signedField_float hx hzero (by rw [← hn, ← hfloat]; exact hf)
      rwa [← hn, ← hneg, ← hfloat, ← hfloat] at hsigned
    | some r =>
      have hr := hasRadix_iff.mpr hradix
      obtain ⟨hprecision, hgrouping⟩ := hr.of_integerField hf
      have hfield := hr.integerField_eq hprecision hgrouping
      have hsigned (negative : Bool) :
          s.signedField (s.group r.groupSize (r.digits n.natAbs)) negative = {
            lead := s.sign.text negative ++ s.markText
            body := s.group r.groupSize (r.digits n.natAbs)
            align := s.numericAlign } := by
        rw [signedField, hr.trailingPoint_eq, List.append_nil]
      refine ⟨_, (HasEnds.radixDigits r n.natAbs).group s r.groupSize, (hfield n).trans ?_,
        (hfield (-n)).trans ?_⟩
      · rw [hsigned, decide_eq_false (by omega)]
      · rw [hsigned, Int.natAbs_neg, decide_eq_true (by omega)]

theorem exists_padField
    (halign : s.align = none ∨ s.align = some .right ∨ s.align = some .afterSign)
    (hf : f.align = s.numericAlign) :
    ∃ front, s.padField f = front ++ f.body ∧ f.lead ⊆ front := by
  have hcases : f.align = .right ∨ f.align = .afterSign := by
    rw [hf, numericAlign]
    rcases halign with h | h | h <;> rw [h]
    · cases s.zeroPad <;> simp
    · exact Or.inl rfl
    · exact Or.inr rfl
  rw [padField, Field.pad]
  generalize s.width.getD 0 - f.text.length = n
  rcases hcases with h | h
  · refine ⟨List.replicate n s.fillChar ++ f.lead, ?_, List.subset_append_right _ _⟩
    simp [Field.padBy, h, Field.text]
  · refine ⟨f.lead ++ List.replicate n s.fillChar, ?_, List.subset_append_left _ _⟩
    simp [Field.padBy, h]

end FormatSpec

/-- A minus sign before a number is found before it, whatever stands there. -/
theorem exists_splitMinus (hminus : '-' ∈ front) (hnumber : StartsNumber number) :
    ∃ before after, front = before ++ '-' :: after ∧
      splitMinus (front ++ number) = some (before, after ++ number) := by
  obtain ⟨c, hc, hstarts⟩ := hnumber
  obtain ⟨rest, rfl⟩ : ∃ rest, number = c :: rest := by
    cases number with
    | nil => contradiction
    | cons d rest => exact ⟨rest, by rw [Option.some.inj hc]⟩
  have hstop : (!c.isAlphanum) = false := by simp [hstarts]
  unfold splitMinus
  rw [takeWhile_append_cons hstop, dropWhile_append_cons hstop]
  dsimp only
  split
  · next hlast =>
    obtain ⟨before, hbefore⟩ := List.getLast?_eq_some_iff.mp (by simpa using hlast)
    have hfront := List.takeWhile_append_dropWhile (p := (!·.isAlphanum)) (l := front)
    rw [hbefore, List.append_assoc] at hfront
    refine ⟨before, front.dropWhile (!·.isAlphanum), hfront.symm, ?_⟩
    rw [hbefore, List.dropLast_concat]
  · obtain ⟨before, after, hfront, hnot⟩ := List.eq_append_cons_of_mem hminus
    refine ⟨before, after, hfront, Text.cutAt_eq_some_iff.mpr ⟨?_, hnot⟩⟩
    rw [hfront, List.append_assoc, List.cons_append]

/-- What stands behind the last letter, digit or percent sign is padding. -/
theorem splitNumber_append (hnumber : EndsNumber t) (hpoint : ∀ c ∈ point, endsNumber c = false) :
    splitNumber (t ++ point) = (t, point) := by
  obtain ⟨c, hc, hends⟩ := hnumber
  obtain ⟨rest, rfl⟩ := List.getLast?_eq_some_iff.mp hc
  have hany : (rest ++ [c] ++ point).any endsNumber = true :=
    List.any_eq_true.mpr ⟨c, by simp, hends⟩
  have hdrop : (rest ++ [c] ++ point).reverse.dropWhile (fun c => !endsNumber c) =
      (rest ++ [c]).reverse := by
    rw [List.reverse_append, List.dropWhile_append_of_pos (by simpa using hpoint),
      List.reverse_append, List.reverse_singleton, List.singleton_append,
      List.dropWhile_cons_of_neg (by simp [hends])]
  rw [splitNumber, if_pos hany, hdrop, List.reverse_reverse]
  simp

theorem exists_parenthesize (hminus : '-' ∈ front) (hnumber : HasEnds number)
    (hpoint : ∀ c ∈ point, endsNumber c = false) :
    ∃ before after, front = before ++ '-' :: after ∧
      parenthesize (front ++ (number ++ point)) =
        before ++ '(' :: (after ++ number ++ ')' :: point) := by
  obtain ⟨before, after, hfront, hsplit⟩ :=
    exists_splitMinus hminus (hnumber.starts.append point)
  refine ⟨before, after, hfront, ?_⟩
  rw [parenthesize, hsplit]
  dsimp only
  rw [← List.append_assoc, splitNumber_append (hnumber.ends.append after) hpoint]
  simp

namespace CellFormatter

variable {f : CellFormatter} {format : ColumnFormat} {p : Text} {s : FormatSpec}

/-- A column that shows its values under a spec, and negative numbers in parentheses. -/
structure Parenthesizes (f : CellFormatter) (format : ColumnFormat) (p : Text) : Prop where
  function : f.function format = .builtin .format
  spec : format.spec = p
  ne_nil : p ≠ []
  zeroText : format.zeroText = none
  parentheses : format.parentheses = true

theorem Parenthesizes.spec_eq (h : Parenthesizes f format p) (v : Value) :
    f.spec format v = p := by
  have hempty : format.spec.isEmpty = false := by
    rw [h.spec]
    exact List.isEmpty_eq_false_iff.mpr h.ne_nil
  rw [CellFormatter.spec, hempty, Bool.false_and, h.spec]
  rfl

theorem Parenthesizes.finish_eq (h : Parenthesizes f format p) (hv : v.isNumeric = true)
    (t : Text) : finish format v t = if v.isNegative then parenthesize t else t ++ [' '] := by
  simp [finish, h.zeroText, h.parentheses, hv]

/-- The number stands before the last character in both cells. Only a number that ends with a point
has the point behind the parenthesis. -/
theorem Parenthesizes.format_opposite (h : Parenthesizes f format p) (hp : parse p = .ok s)
    (hcode : s.code ≠ some 'c') (hzero : s.noNegativeZero = false)
    (halign : s.align = none ∨ s.align = some .right ∨ s.align = some .afterSign)
    (hvw : Opposite v w) (haccepted : ∃ t, formatValue v p = .ok t)
    (row column row' column' : Nat) :
    ∃ number front before after,
      { s with width := none }.format v =
        .ok (s.sign.text false ++ (s.markText ++ (number ++ s.trailingPoint))) ∧
      formatValue v p = .ok (front ++ (number ++ s.trailingPoint)) ∧
      f.format format row column v = .ok (front ++ (number ++ s.trailingPoint) ++ [' ']) ∧
      formatValue w p = .ok (before ++ '-' :: (after ++ (number ++ s.trailingPoint))) ∧
      f.format format row' column' w =
        .ok (before ++ '(' :: (after ++ number ++ ')' :: s.trailingPoint)) := by
  have hpadded {u : Value} {f : Field} (hu : s.field u = .ok f) :
      formatValue u p = .ok (s.padField f) := (formatValue_eq_ok_iff hp).mpr ⟨f, hu, rfl⟩
  obtain ⟨t, ht⟩ := haccepted
  obtain ⟨field, hfield, -⟩ := (formatValue_eq_ok_iff hp).mp ht
  obtain ⟨number, hends, hv, hw⟩ := exists_signedField hvw hcode hzero hfield
  obtain ⟨front, hfront, -⟩ := exists_padField halign (f := s.signedField number false) rfl
  obtain ⟨front', hfront', hlead⟩ := exists_padField halign (f := s.signedField number true) rfl
  obtain ⟨before, after, hsplit, hcell⟩ :=
    exists_parenthesize (hlead List.mem_cons_self) hends s.endsNumber_trailingPoint
  obtain ⟨hvNumeric, hwNumeric⟩ := hvw.isNumeric
  obtain ⟨hvNegative, hwNegative⟩ := hvw.isNegative
  obtain ⟨hvNull, hwNull⟩ := hvw.ne_null
  refine ⟨number, front, before, after, ?_, ?_, ?_, ?_, ?_⟩
  · rw [FormatSpec.format, field_withoutWidth, hv]
    simp only [Except.map, padField_of_width (s := { s with width := none }) rfl]
    simp [Field.text, signedField]
  · rw [hpadded hv, hfront]
    rfl
  · rw [format_of_formatValue hvNull h.function (h.spec_eq v) (hpadded hv),
      h.finish_eq hvNumeric, hvNegative, hfront]
    rfl
  · rw [hpadded hw, hfront', hsplit]
    simp [signedField]
  · rw [format_of_formatValue hwNull h.function (h.spec_eq w) (hpadded hw),
      h.finish_eq hwNumeric, hwNegative, hfront', if_pos rfl]
    exact congrArg Except.ok hcell

/-- The digits of both cells end right before the last character, whatever stands between them and
the signs. -/
theorem format_opposite_filledHex :
    let format : ColumnFormat := { parentheses := true, spec := "*=#12_x".toList }
    Parenthesizes plainCells format "*=#12_x".toList ∧
      Opposite (.int 48879) (.int (-48879)) ∧
      plainCells.format format 0 0 (.int 48879) = .ok "0x******beef ".toList ∧
      plainCells.format format 1 0 (.int (-48879)) = .ok "(0x*****beef)".toList ∧
      ∃ number front before after,
        "0x******beef ".toList = front ++ number ++ [' '] ∧
        "-0x*****beef".toList = before ++ '-' :: (after ++ number) ∧
        "(0x*****beef)".toList = before ++ '(' :: (after ++ number ++ [')']) := by
  intro format
  have hcolumn : Parenthesizes plainCells format "*=#12_x".toList :=
    ⟨rfl, rfl, by decide, rfl, rfl⟩
  have hopposite : Opposite (.int 48879) (.int (-48879)) := .int 48879 (by decide) (by decide)
  have hp : parse "*=#12_x".toList = .ok filledHex := rfl
  have hplain : formatValue (.int (-48879)) "*=#12_x".toList = .ok "-0x*****beef".toList := rfl
  have hv : plainCells.format format 0 0 (.int 48879) = .ok "0x******beef ".toList := rfl
  have hw : plainCells.format format 1 0 (.int (-48879)) = .ok "(0x*****beef)".toList := rfl
  refine ⟨hcolumn, hopposite, hv, hw, ?_⟩
  obtain ⟨number, front, before, after, -, -, hcell, hshown, hcell'⟩ :=
    hcolumn.format_opposite hp (by decide) rfl (Or.inr (Or.inr rfl)) hopposite ⟨_, rfl⟩ 0 0 1 0
  have hpoint : filledHex.trailingPoint = [] := by decide
  rw [hpoint, List.append_nil] at hcell hshown
  rw [hpoint] at hcell'
  exact ⟨number, front, before, after, Except.ok.inj (hv.symm.trans hcell),
    Except.ok.inj (hplain.symm.trans hshown), Except.ok.inj (hw.symm.trans hcell')⟩

/-- The parenthesis stands before the point of a number that ends with it. -/
theorem format_opposite_trailingPoint :
    formatValue (.int 5) "#.0f".toList = .ok "5.".toList ∧
      formatValue (.int (-5)) "#.0f".toList = .ok "-5.".toList ∧
      plainCells.format { parentheses := true, spec := "#.0f".toList } 0 0 (.int (-5)) =
        .ok "(5).".toList ∧
      ¬ ∃ before after : Text,
        "(5).".toList = before ++ '(' :: (after ++ "5.".toList ++ [')']) := by
  refine ⟨by decide +kernel, by decide +kernel, by decide +kernel, ?_⟩
  rintro ⟨before, after, heq⟩
  have hlast := congrArg List.getLast? heq
  simp [List.getLast?_cons] at hlast

end CellFormatter

end TextTable
