import TextTable.Proofs.Text.Ascii

/-! # Line breaks inside of a text

A line break takes a column of the text in which it stands, but none on its own. So a text with a
line break may be cut to a number of columns and still take more.
-/

namespace TextTable

namespace Text

/-- No character of the text takes part in a sequence or a ligature. -/
def IsLow (t : Text) : Prop := ∀ c ∈ t, c.toNat ≤ 0xA0

variable {c : Char} {t : Text}

theorem IsLow.cons_iff : IsLow (c :: t) ↔ c.toNat ≤ 0xA0 ∧ IsLow t := by simp [IsLow]

theorem extend_of_low (hc : c.toNat ≤ 0xA0) (next : Context) :
    0 ≤ (next.extend c).1 ∧ (next.extend c).2.selector = none := by
  unfold Context.extend
  rw [if_pos hc]
  split
  · exact ⟨by decide, rfl⟩
  · split <;> exact ⟨by decide, rfl⟩

/-- A text of low characters has a width, and no selector stands in front of it. -/
theorem measure_of_isLow (h : IsLow t) : 0 ≤ (measure t).1 ∧ (measure t).2.selector = none := by
  induction t with
  | nil => exact ⟨by decide, rfl⟩
  | cons c t ih =>
    obtain ⟨hc, ht⟩ := IsLow.cons_iff.mp h
    obtain ⟨hw, hs⟩ := ih ht
    obtain ⟨hw', hs'⟩ := extend_of_low hc (measure t).2.context
    rw [measure_cons, Following.extend, hs]
    exact ⟨Int.add_nonneg hw' hw, hs'⟩

theorem displayWidth_cons_of_low (hc : c.toNat ≤ 0xA0) (ht : IsLow t) :
    (displayWidth (c :: t) : Int) =
      ((measure t).2.context.extend c).1 + displayWidth t := by
  obtain ⟨hw, hs⟩ := measure_of_isLow ht
  obtain ⟨hw', -⟩ := extend_of_low hc (measure t).2.context
  simp only [displayWidth, measure_cons, Following.extend, hs]
  omega

theorem displayWidth_le_cons (hc : c.toNat ≤ 0xA0) (ht : IsLow t) :
    displayWidth t ≤ displayWidth (c :: t) := by
  have := displayWidth_cons_of_low hc ht
  have := (extend_of_low hc (measure t).2.context).1
  omega

/-- Every low character but the carriage return takes a column of its text. -/
theorem displayWidth_cons (hc : c.toNat ≤ 0xA0) (hr : c ≠ '\r') (ht : IsLow t) :
    displayWidth (c :: t) = displayWidth t + 1 := by
  have h := displayWidth_cons_of_low hc ht
  have he : ((measure t).2.context.extend c).1 = 1 := by
    simp only [Context.extend, hc, hr, if_true, decide_false, Bool.false_and, Bool.false_eq_true,
      if_false]
    split <;> rfl
  omega

theorem low_of_isPrintableAscii (hc : isPrintableAscii c = true) :
    c.toNat ≤ 0xA0 ∧ c ≠ '\r' := by
  refine ⟨?_, by rintro rfl; exact absurd hc (by decide)⟩
  simp only [isPrintableAscii, Bool.and_eq_true, decide_eq_true_eq] at hc
  omega

theorem isLow_of_isAsciiBlock (h : isAsciiBlock t = true) : IsLow t := by
  fun_induction isAsciiBlock t with
  | case1 => simp [IsLow]
  | case2 rest ih => exact IsLow.cons_iff.mpr ⟨by decide, ih h⟩
  | case3 rest ih =>
    exact IsLow.cons_iff.mpr ⟨by decide, IsLow.cons_iff.mpr ⟨by decide, ih h⟩⟩
  | case4 c rest _ _ ih =>
    obtain ⟨hc, hr⟩ := Bool.and_eq_true_iff.mp h
    exact IsLow.cons_iff.mpr ⟨(low_of_isPrintableAscii hc).1, ih hr⟩

theorem isLow_truncateToWidth (h : isAsciiBlock t = true) (width : Nat) :
    IsLow (t.truncateToWidth width) := by
  intro c hc
  have hcut := truncateToWidth_prefix t width
  exact isLow_of_isAsciiBlock h c (hcut.subset hc)

/-- A text with line breaks can be cut to some number of columns and take more than that. -/
theorem exists_lt_displayWidth_truncateToWidth (h : isAsciiBlock t = true) (hn : ¬ IsAscii t) :
    ∃ width, width < displayWidth (t.truncateToWidth width) := by
  fun_induction isAsciiBlock t with
  | case1 => exact absurd IsAscii.nil hn
  | case2 rest ih =>
    -- A line break has no width of its own, so it stays in a text cut to no columns.
    refine ⟨0, ?_⟩
    change 0 < displayWidth ('\n' :: truncateToWidth rest 0)
    rw [displayWidth_cons (by decide) (by decide) (isLow_truncateToWidth h 0)]
    exact Nat.succ_pos _
  | case3 rest ih =>
    refine ⟨0, ?_⟩
    change 0 < displayWidth ('\r' :: '\n' :: truncateToWidth rest 0)
    have hl := isLow_truncateToWidth h 0
    refine Nat.lt_of_lt_of_le ?_
      (displayWidth_le_cons (by decide) (IsLow.cons_iff.mpr ⟨by decide, hl⟩))
    rw [displayWidth_cons (by decide) (by decide) hl]
    exact Nat.succ_pos _
  | case4 c rest _ _ ih =>
    obtain ⟨hc, hr⟩ := Bool.and_eq_true_iff.mp h
    obtain ⟨width, hw⟩ := ih hr fun ha => hn (IsAscii.cons_iff.mpr ⟨hc, ha⟩)
    obtain ⟨hlow, hcr⟩ := low_of_isPrintableAscii hc
    refine ⟨width + 1, ?_⟩
    rw [truncateToWidth, charWidth_of_isPrintableAscii hc, if_pos (Nat.le_add_left 1 width),
      Nat.add_sub_cancel, displayWidth_cons hlow hcr (isLow_truncateToWidth hr width)]
    omega

end Text

end TextTable
