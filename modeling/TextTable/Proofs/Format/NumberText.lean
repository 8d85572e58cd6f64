import TextTable.Proofs.Format.EmptySpec
import TextTable.Proofs.Number.Shortest
import TextTable.Proofs.Number.ToDouble

/-! # Numbers under the empty spec

Without a spec an integer is shown by its digits and a double by the shortest decimal that reads
back as it. A double always shows a point or an exponent, so that it cannot be taken for an integer,
and no two numbers have the same text.
-/

namespace TextTable

open Decimal

/-- The text is read as the double: the number that it denotes is nearest to the double, and both
have the same sign. -/
structure ReadsAs (t : Text) (x : Double) : Prop where
  nearest : ∃ q, read t = some q ∧ Double.IsNearest |q| x.rank
  sign : t.head? = some '-' ↔ x.negative = true

/-- The text of a double is that of its shortest decimal. However the number is written with a
coefficient and an exponent, it is rounded to the double. -/
structure IsFloatText (x : Double) (t : Text) : Prop where
  mark : '.' ∈ t ∨ 'e' ∈ t
  value : ∃ q, IsShortest .up x.rank q ∧ read t = some (if x.negative then -q else q) ∧
    ('e' ∉ t ↔ x.isZero = true ∨ -4 ≤ Int.log 10 q ∧ Int.log 10 q ≤ 15)
  readsAs : ∀ y, ReadsAs t y ↔ y = x
  rounded : ∀ (n : Nat) (e : ℤ),
    read t = some (if x.negative then -(n * 10 ^ e : ℚ) else n * 10 ^ e) →
      Double.ofDecimal x.negative n e = .finite x

variable {x y : Double} {t m e : Text} {q : ℚ} {n : Int}

theorem ReadsAs.unique (hx : ReadsAs t x) (hy : ReadsAs t y) : x = y := by
  obtain ⟨q, hq, hxnear⟩ := hx.nearest
  obtain ⟨p, hp, hynear⟩ := hy.nearest
  obtain rfl : q = p := Option.some.inj (hq.symm.trans hp)
  have hrank : x.rank = y.rank := hxnear.unique hynear
  have hsign : x.negative = y.negative := Bool.eq_iff_iff.mpr (hx.sign.symm.trans hy.sign)
  cases x
  cases y
  cases hrank
  cases hsign
  rfl

namespace Double

structure IsPlain (x : Double) (m e : Text) (q : ℚ) : Prop where
  isMagnitude : IsMagnitude m e q
  isShortest : IsShortest .up x.rank q
  mark : '.' ∈ m ∨ 'e' ∈ e
  exponent : 'e' ∉ e ↔ x.isZero = true ∨ -4 ≤ Int.log 10 q ∧ Int.log 10 q ≤ 15

theorem exists_plain (x : Double) : ∃ m e q, x.plain = m ++ e ∧ x.IsPlain m e q := by
  have hpositional {m : Text} {q : ℚ} (hm : IsMantissa m q) (hpoint : '.' ∈ m)
      (hq : IsShortest .up x.rank q)
      (hplain : x.isZero = true ∨ -4 ≤ Int.log 10 q ∧ Int.log 10 q ≤ 15) :
      x.IsPlain m [] q :=
    ⟨hm.isMagnitude, hq, Or.inl hpoint, iff_of_true List.not_mem_nil hplain⟩
  unfold plain
  split
  · next hzero =>
    have hrank : x.rank = 0 := eq_of_beq hzero
    have hdigit : IsDigits ['0'] := ⟨List.cons_ne_nil _ _, List.forall_mem_singleton.mpr rfl⟩
    have hvalue : (Nat.ofDigitChars 10 ['0', '0'] 0 : ℚ) / 10 ^ ['0'].length = 0 := by
      have hnone : Nat.ofDigitChars 10 ['0', '0'] 0 = 0 := rfl
      rw [hnone, Nat.cast_zero, zero_div]
    have hmantissa : IsMantissa ['0', '.', '0'] 0 := hvalue ▸ .point hdigit hdigit
    refine ⟨_, [], 0, (List.append_nil _).symm, hpositional hmantissa (by simp) ?_ (Or.inl hzero)⟩
    rw [hrank]
    exact Scientific.isShortest_zero .up
  · next hzero =>
    extract_lets s
    obtain ⟨hshortest, hlog⟩ := Scientific.isShortest_shortest .up x.rank
    change IsShortest .up x.rank s.value at hshortest
    change Int.log 10 s.value = s.exponent at hlog
    have hrank : x.rank ≠ 0 := fun h => hzero (beq_iff_eq.mpr h)
    have hdigits : IsDigits s.digits :=
      ⟨Scientific.digits_ne_nil_shortest .up x.rank, Scientific.isDigit_shortest .up x.rank⟩
    split
    · next hexponent =>
      refine ⟨_, [], s.value, (List.append_nil _).symm, hpositional
        (Scientific.isMantissa_positional hdigits) (point_mem_withPoint _) hshortest (Or.inr ?_)⟩
      rw [hlog]
      omega
    · next hexponent =>
      have hmark : 'e' ∈ exponentText 2 s.exponent := List.mem_cons_self
      refine ⟨_, _, s.value, rfl, Scientific.isMagnitude_mantissa hdigits 2, hshortest,
        Or.inr hmark, iff_of_false (fun h => h hmark) ?_⟩
      rw [hlog]
      rintro (h | h)
      · exact hzero h
      · omega

theorem IsPlain.isFloatText (h : x.IsPlain m e q) :
    IsFloatText x (Sign.minus.text x.negative ++ (m ++ e)) := by
  have hread := h.isMagnitude.read_signed x.negative
  have hreads : ReadsAs (Sign.minus.text x.negative ++ (m ++ e)) x := by
    refine ⟨⟨_, hread, ?_⟩, h.isMagnitude.head?_signed x.negative⟩
    have habs : |if x.negative = true then -q else q| = q := by
      split
      · rw [abs_neg, abs_of_nonneg h.isShortest.nonneg]
      · exact abs_of_nonneg h.isShortest.nonneg
    rw [habs]
    exact h.isShortest.nearest
  refine ⟨?_, ⟨q, h.isShortest, hread, ?_⟩, fun y => ⟨fun hy => hy.unique hreads, ?_⟩, ?_⟩
  · rcases h.mark with hmark | hmark
    · exact Or.inl (by simp [hmark])
    · exact Or.inr (by simp [hmark])
  · rw [h.isMagnitude.mem_signed_iff x.negative rfl]
    exact h.exponent
  · rintro rfl
    exact hreads
  · intro n k hn
    have hvalue := Option.some.inj (hread.symm.trans hn)
    have hq : q = n * 10 ^ k := by
      split at hvalue
      · exact neg_injective hvalue
      · exact hvalue
    rw [ofDecimal_eq_finite_iff, ← hq]
    exact ⟨rfl, h.isShortest.nearest⟩

end Double

theorem Value.plainText_float (x : Double) :
    (Value.float x).plainText = Sign.minus.text x.negative ++ x.plain := by
  cases h : x.negative <;> simp [Value.plainText, h, Sign.text]

theorem isFloatText_plainText (x : Double) : IsFloatText x (Value.float x).plainText := by
  obtain ⟨m, e, q, htext, hplain⟩ := x.exists_plain
  rw [Value.plainText_float, htext]
  exact hplain.isFloatText

theorem isMagnitude_toDigits (n : Nat) : IsMagnitude (Nat.toDigits 10 n) [] n := by
  have hwhole := (IsMantissa.whole (isDigits_toDigits n)).isMagnitude
  rwa [Nat.ofDigitChars_ten_toDigits] at hwhole

theorem intText_eq (n : Int) :
    intText n = Sign.minus.text (n < 0) ++ (Nat.toDigits 10 n.natAbs ++ []) := by
  by_cases h : n < 0 <;> simp [intText, Sign.text, h]

theorem read_intText (n : Int) : read (intText n) = some (n : ℚ) := by
  have hvalue : (if decide (n < 0) = true then -(n.natAbs : ℚ) else n.natAbs) = n := by
    rw [Nat.cast_natAbs]
    split
    · next h => rw [abs_of_neg (of_decide_eq_true h), Int.cast_neg, neg_neg]
    · next h => rw [abs_of_nonneg (Int.not_lt.mp fun hneg => h (decide_eq_true hneg))]
  rw [intText_eq, (isMagnitude_toDigits n.natAbs).read_signed, hvalue]

theorem not_mem_intText (n : Int) : '.' ∉ intText n ∧ 'e' ∉ intText n := by
  rw [intText_eq]
  constructor
  · intro hmem
    rcases List.mem_append.mp hmem with hsign | hdigits
    · cases h : decide (n < 0) <;> simp [Sign.text, h] at hsign
    · rw [List.append_nil] at hdigits
      exact absurd (isDigit_of_mem_toDigits '.' hdigits) (by decide)
  · rw [(isMagnitude_toDigits n.natAbs).mem_signed_iff _ rfl]
    exact List.not_mem_nil

theorem plainText_injective {v w : Value} (hv : v.isNumeric = true) (hw : w.isNumeric = true)
    (h : v.plainText = w.plainText) : v = w := by
  have hmixed (n : Int) (x : Double) : intText n ≠ (Value.float x).plainText := by
    intro heq
    have hmark := (isFloatText_plainText x).mark
    rw [← heq] at hmark
    exact hmark.elim (not_mem_intText n).1 (not_mem_intText n).2
  cases v <;> try contradiction
  all_goals cases w <;> try contradiction
  case int.int m n =>
    have hread := congrArg read h
    change read (intText m) = read (intText n) at hread
    rw [read_intText, read_intText] at hread
    rw [Int.cast_injective (Option.some.inj hread)]
  case int.float n x => exact absurd h (hmixed n x)
  case float.int x n => exact absurd h.symm (hmixed n x)
  case float.float x y =>
    have hx := ((isFloatText_plainText x).readsAs x).mpr rfl
    rw [h] at hx
    rw [((isFloatText_plainText y).readsAs x).mp hx]

/-- Under the empty spec every double has a text of its own, which is not that of an integer. -/
theorem formatValue_number_faithful :
    (∀ x : Double, ∃ t, formatValue (.float x) [] = .ok t ∧ IsFloatText x t) ∧
    (∀ n : Int, ∃ t, formatValue (.int n) [] = .ok t ∧ read t = some (n : ℚ)) ∧
    ∀ v w : Value, v.isNumeric = true → w.isNumeric = true →
      formatValue v [] = formatValue w [] → v = w := by
  refine ⟨fun x => ⟨_, formatValue_nil _, isFloatText_plainText x⟩,
    fun n => ⟨_, formatValue_nil _, read_intText n⟩, fun v w hv hw h => ?_⟩
  rw [formatValue_nil, formatValue_nil] at h
  exact plainText_injective hv hw (Except.ok.inj h)

/-- The smallest double that is shown with an exponent though it is an integer. -/
def tenToSixteen : Double := ⟨false, 0x4341C37937E08000, by decide⟩

/-- The double has an exponent, and the integer does not. -/
theorem tenToSixteen_faithful :
    formatValue (.float tenToSixteen) [] = .ok "1e+16".toList ∧
      formatValue (.int (10 ^ 16)) [] = .ok "10000000000000000".toList ∧
      IsFloatText tenToSixteen "1e+16".toList ∧
      formatValue (.float tenToSixteen) [] ≠ formatValue (.int (10 ^ 16)) [] := by
  obtain ⟨hfloat, -, hinjective⟩ := formatValue_number_faithful
  have hplain : tenToSixteen.plain = "1e+16".toList := by decide +kernel
  have hshown : formatValue (.float tenToSixteen) [] = .ok "1e+16".toList := by
    rw [formatValue_nil, Value.plainText_float, hplain]
    rfl
  obtain ⟨t, ht, htext⟩ := hfloat tenToSixteen
  obtain rfl := Except.ok.inj (hshown.symm.trans ht)
  refine ⟨hshown, rfl, htext, fun h => ?_⟩
  exact nomatch hinjective (.float tenToSixteen) (.int (10 ^ 16)) rfl rfl h

end TextTable
