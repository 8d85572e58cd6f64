import TextTable.Proofs.Format.SpecPart

/-! # Format specs and their texts

A spec that is written is read back, with or without a minus sign. The spec of a text is read back
from its own text too, unless the text has a width that does not fit a machine word: that width is
dropped, and the type code behind it moves to where a flag or an alignment is looked for.
-/

namespace TextTable

namespace FormatSpec

variable {s : FormatSpec} {t rest : Text} {flag : Char} {b : Bool}

def codeText (s : FormatSpec) : Text := s.code.toList

def precisionText (s : FormatSpec) : Text :=
  (s.precision.map fun p => '.' :: Nat.toDigits 10 p).getD [] ++ s.codeText

def groupingText (s : FormatSpec) : Text :=
  (s.grouping.map Grouping.char).toList ++ s.precisionText

def widthText (s : FormatSpec) : Text :=
  (s.width.map (Nat.toDigits 10)).getD [] ++ s.groupingText

def zeroText (s : FormatSpec) : Text := (if s.zeroPad then ['0'] else []) ++ s.widthText

def alternateText (s : FormatSpec) : Text := (if s.alternate then ['#'] else []) ++ s.zeroText

def flagsText (s : FormatSpec) : Text :=
  (if s.noNegativeZero then ['z'] else []) ++ s.alternateText

/-- The text of a spec in which `sign` takes the place of the sign option. -/
def textWith (sign : Text) (s : FormatSpec) : Text :=
  s.fill.toList ++ (s.align.map FieldAlign.char).toList ++ (sign ++ s.flagsText)

theorem textWith_sign (s : FormatSpec) : s.textWith [s.sign.char] = s.toText := by
  simp [textWith, flagsText, alternateText, zeroText, widthText, groupingText, precisionText,
    codeText, toText]

structure IsWellFormed (s : FormatSpec) : Prop where
  fill : s.fill.isSome → s.align.isSome
  width : ∀ n ∈ s.width, 1 ≤ n ∧ n ≤ maxSize
  precision : ∀ n ∈ s.precision, n ≤ maxSize
  code : ∀ c ∈ s.code, c ∈ "bcdoxXneEfFgG%s".toList

structure IsReadable (s : FormatSpec) : Prop where
  fill : s.align = none → s.fill = none
  width_le : ∀ n ∈ s.width, n ≤ maxSize
  width_pos : s.zeroPad = false → ∀ n ∈ s.width, 0 < n
  precision_le : ∀ n ∈ s.precision, n ≤ maxSize
  code_precision : s.precision.isSome → s.codeText.Avoids Char.isDigit
  code_point : s.precision = none → s.codeText.Avoids (· = '.')
  code_width : s.grouping = none → s.precision = none → s.codeText.Avoids Char.isDigit
  code_grouping : s.grouping = none → s.precision = none →
    s.codeText.Avoids fun c => (Grouping.ofChar? c).isSome

/-- The type code stands right behind the front of the spec and is taken for a part of it. -/
def MisreadsCode (s : FormatSpec) : Prop :=
  s.alternate = false ∧ s.zeroPad = false ∧ s.width = none ∧ s.grouping = none ∧
    s.precision = none ∧ (s.code = some '#' ∨ s.noNegativeZero = false ∧
      (s.code = some 'z' ∨ s.align = none ∧ ∃ a, s.code = some (FieldAlign.char a)))

section Avoids

variable {p : Char → Bool}

theorem avoids_codeText_iff : s.codeText.Avoids p ↔ ∀ c ∈ s.code, p c = false := by
  have hhead : s.codeText.head? = s.code := by
    unfold codeText
    cases s.code <;> rfl
  rw [Text.Avoids, hhead]

theorem avoids_append (ht : t.Avoids p) (hr : t = [] → rest.Avoids p) : (t ++ rest).Avoids p := by
  cases t with
  | nil => exact hr rfl
  | cons c t => exact ht

theorem avoids_of_forall_mem (h : ∀ c ∈ t, p c = false) : t.Avoids p :=
  fun c hc => h c (List.mem_of_mem_head? hc)

theorem avoids_flag (hflag : p flag = false) (h : b = false → rest.Avoids p) :
    Text.Avoids ((if b then [flag] else []) ++ rest) p := by
  cases b with
  | false => exact h rfl
  | true => exact fun c hc => Option.some.inj hc ▸ hflag

theorem avoids_precisionText (hpoint : p '.' = false)
    (h : s.precision = none → s.codeText.Avoids p) : s.precisionText.Avoids p := by
  unfold precisionText
  cases hp : s.precision with
  | none => exact h hp
  | some n => exact fun c hc => Option.some.inj hc ▸ hpoint

theorem avoids_groupingText (hgroup : ∀ g, p (Grouping.char g) = false)
    (h : s.grouping = none → s.precisionText.Avoids p) : s.groupingText.Avoids p := by
  unfold groupingText
  cases hg : s.grouping with
  | none => exact h hg
  | some g => exact fun c hc => Option.some.inj hc ▸ hgroup g

theorem avoids_widthText (hdigit : ∀ c, c.isDigit = true → p c = false)
    (h : s.width = none → s.groupingText.Avoids p) : s.widthText.Avoids p := by
  unfold widthText
  cases hw : s.width with
  | none => exact h hw
  | some n =>
    refine avoids_append (avoids_of_forall_mem ?_) fun hnil => absurd hnil Nat.toDigits_ne_nil
    exact fun c hc => hdigit c (isDigit_of_mem_toDigits c hc)

def isNumberChar (c : Char) : Bool := c.isDigit || c = '.' || c = ',' || c = '_'

theorem isNumberChar_char (g : Grouping) : isNumberChar g.char = true := by cases g <;> rfl

theorem isNumberChar_of_isDigit {c : Char} (h : c.isDigit = true) : isNumberChar c = true := by
  simp [isNumberChar, h]

/-- Of what follows the flags, only a type code that nothing precedes can be taken for one. -/
theorem avoids_zeroText (hnumber : ∀ c, isNumberChar c = true → p c = false)
    (h : s.zeroPad = false → s.width = none → s.grouping = none → s.precision = none →
      ∀ c ∈ s.code, p c = false) : s.zeroText.Avoids p := by
  refine avoids_flag (hnumber '0' rfl) fun hz => ?_
  refine avoids_widthText (fun c hc => hnumber c (isNumberChar_of_isDigit hc)) fun hw => ?_
  refine avoids_groupingText (fun g => hnumber _ (isNumberChar_char g)) fun hg => ?_
  refine avoids_precisionText (hnumber '.' rfl) fun hp => ?_
  exact avoids_codeText_iff.mpr (h hz hw hg hp)

end Avoids

theorem decide_eq_of_isNumberChar {d : Char} (hd : isNumberChar d = false) (c : Char)
    (hc : isNumberChar c = true) : decide (c = d) = false := by
  refine decide_eq_false ?_
  rintro rfl
  rw [hd] at hc
  contradiction

theorem isAlignChar_of_isNumberChar (c : Char) (hc : isNumberChar c = true) :
    isAlignChar c = false := by
  rw [isAlignChar_eq_false_iff]
  unfold FieldAlign.ofChar?
  split <;> first | rfl | (revert hc; decide)

theorem isSome_ofChar?_of_isNumberChar (c : Char) (hc : isNumberChar c = true) :
    (Sign.ofChar? c).isSome = false := by
  unfold Sign.ofChar?
  split <;> first | rfl | (revert hc; decide)

theorem avoids_alternateText (hcode : ¬ s.MisreadsCode) (hn : s.noNegativeZero = false) :
    s.alternateText.Avoids (· = 'z') := by
  refine avoids_flag rfl fun ha => ?_
  refine avoids_zeroText (decide_eq_of_isNumberChar rfl) fun hz hw hg hp c hc => ?_
  refine decide_eq_false ?_
  rintro rfl
  exact hcode ⟨ha, hz, hw, hg, hp, Or.inr ⟨hn, Or.inl hc⟩⟩

theorem avoids_zeroText_alternate (hcode : ¬ s.MisreadsCode) (ha : s.alternate = false) :
    s.zeroText.Avoids (· = '#') := by
  refine avoids_zeroText (decide_eq_of_isNumberChar rfl) fun hz hw hg hp c hc => ?_
  refine decide_eq_false ?_
  rintro rfl
  exact hcode ⟨ha, hz, hw, hg, hp, Or.inl hc⟩

theorem avoids_flagsText (hcode : ¬ s.MisreadsCode) (halign : s.align = none) :
    s.flagsText.Avoids isAlignChar := by
  refine avoids_flag rfl fun hn => avoids_flag rfl fun ha => ?_
  refine avoids_zeroText isAlignChar_of_isNumberChar fun hz hw hg hp c hc => ?_
  rw [isAlignChar_eq_false_iff, Option.eq_none_iff_forall_not_mem]
  intro a hmem
  obtain rfl := FieldAlign.ofChar?_eq_some_iff.mp hmem
  exact hcode ⟨ha, hz, hw, hg, hp, Or.inr ⟨hn, Or.inr ⟨halign, a, hc⟩⟩⟩

namespace IsReadable

variable (h : s.IsReadable)

include h

theorem avoids_groupingText_digit : s.groupingText.Avoids Char.isDigit :=
  avoids_groupingText (by intro g; cases g <;> rfl) fun hg =>
    avoids_precisionText rfl (h.code_width hg)

theorem avoids_widthText_zero (hz : s.zeroPad = false) : s.widthText.Avoids (· = '0') := by
  unfold widthText
  cases hw : s.width with
  | none =>
    intro c hc
    refine decide_eq_false ?_
    rintro rfl
    exact absurd (h.avoids_groupingText_digit '0' hc) (by decide)
  | some n =>
    refine avoids_append (fun c hc => ?_) fun hnil => absurd hnil Nat.toDigits_ne_nil
    refine decide_eq_false ?_
    rintro rfl
    exact head?_toDigits_ne_zero (h.width_pos hz n hw) hc

theorem takeNumber_widthText : takeNumber s.widthText = (s.width, s.groupingText) := by
  have hstop := h.avoids_groupingText_digit
  unfold widthText
  cases hw : s.width with
  | none =>
    have hnil : IsNumeral [] s.groupingText := ⟨List.forall_mem_nil _, hstop⟩
    exact takeNumber_append hnil
  | some n =>
    have hdigits : IsNumeral (Nat.toDigits 10 n) s.groupingText := ⟨isDigit_of_mem_toDigits, hstop⟩
    have htake := takeNumber_append hdigits
    rwa [readDigits_toDigits (h.width_le n hw)] at htake

theorem takeGrouping_groupingText : takeGrouping s.groupingText = (s.grouping, s.precisionText) :=
  takeGrouping_eq_iff.mpr ⟨rfl, fun hg => avoids_precisionText rfl (h.code_grouping hg)⟩

theorem takePrecision_precisionText :
    takePrecision s.precisionText = .ok (s.precision, s.codeText) := by
  unfold precisionText
  cases hp : s.precision with
  | none => exact takePrecision_of_avoids (h.code_point hp)
  | some n =>
    exact takePrecision_point ⟨isDigit_of_mem_toDigits, h.code_precision (by simp [hp])⟩
      (readDigits_toDigits (h.precision_le n hp))

theorem parse_textWith {sign : Text}
    (halign : takeAlign (s.textWith sign) = (s.fill, s.align, sign ++ s.flagsText))
    (hsign : takeSign (sign ++ s.flagsText) = (s.sign, s.flagsText))
    (hcode : ¬ s.MisreadsCode) : parse (s.textWith sign) = .ok s :=
  parse_eq_ok_iff.mpr ⟨_, _, _, _, _, _, _, _, halign, hsign,
    takeFlag_eq_iff.mpr ⟨rfl, avoids_alternateText hcode⟩,
    takeFlag_eq_iff.mpr ⟨rfl, avoids_zeroText_alternate hcode⟩,
    takeFlag_eq_iff.mpr ⟨rfl, h.avoids_widthText_zero⟩, h.takeNumber_widthText,
    h.takeGrouping_groupingText, h.takePrecision_precisionText, takeCode_eq_ok_iff.mpr rfl⟩

theorem parse_toText (hcode : ¬ s.MisreadsCode) : parse s.toText = .ok s := by
  rw [← textWith_sign]
  refine h.parse_textWith (takeAlign_eq_iff.mpr ⟨rfl, fun _ c hc => ?_, fun halign => ?_⟩)
    (takeSign_char s.sign) hcode
  · cases hc
    cases s.sign <;> rfl
  · exact ⟨h.fill halign, avoids_flagsText hcode halign⟩

end IsReadable

namespace IsWellFormed

variable (h : s.IsWellFormed)

include h

theorem avoids_codeText {p : Char → Bool} (hp : "bcdoxXneEfFgG%s".toList.all (!p ·) = true) :
    s.codeText.Avoids p := by
  rw [avoids_codeText_iff]
  intro c hc
  simpa using List.all_eq_true.mp hp c (h.code c hc)

theorem isReadable : s.IsReadable where
  fill halign := by
    have := h.fill
    simp_all
  width_le n hn := (h.width n hn).2
  width_pos _ n hn := (h.width n hn).1
  precision_le := h.precision
  code_precision _ := h.avoids_codeText (by decide)
  code_point _ := h.avoids_codeText (by decide)
  code_width _ _ := h.avoids_codeText (by decide)
  code_grouping _ _ := h.avoids_codeText (by decide)

theorem not_misreadsCode : ¬ s.MisreadsCode := by
  rintro ⟨-, -, -, -, -, hc | ⟨-, hc | ⟨-, a, hc⟩⟩⟩
  · exact absurd (h.code _ hc) (by decide)
  · exact absurd (h.code _ hc) (by decide)
  · have hmem := h.code _ hc
    cases a <;> exact absurd hmem (by decide)

theorem forall_mem_flagsText {p : Char → Bool} (hnumber : ∀ c, isNumberChar c = true → p c = false)
    (hp : "z#bcdoxXneEfFgG%s".toList.all (!p ·) = true) : ∀ c ∈ s.flagsText, p c = false := by
  intro c hc
  have hother : ∀ c ∈ "z#bcdoxXneEfFgG%s".toList, p c = false := by
    simpa only [List.all_eq_true, Bool.not_eq_true'] using hp
  have hflag {flag : Char} {b : Bool} (hf : p flag = false)
      (hmem : c ∈ if b then [flag] else []) : p c = false := by
    cases b with
    | false => contradiction
    | true => exact List.mem_singleton.mp hmem ▸ hf
  simp only [flagsText, alternateText, zeroText, widthText, groupingText, precisionText, codeText,
    List.mem_append] at hc
  rcases hc with hc | hc | hc | hc | hc | hc | hc
  · exact hflag (hother 'z' (by decide)) hc
  · exact hflag (hother '#' (by decide)) hc
  · exact hflag (hnumber '0' rfl) hc
  · cases hw : s.width with
    | none => simp [hw] at hc
    | some n =>
      rw [hw] at hc
      exact hnumber c (isNumberChar_of_isDigit (isDigit_of_mem_toDigits c hc))
  · cases hg : s.grouping with
    | none => simp [hg] at hc
    | some g =>
      obtain rfl : c = g.char := by simpa [hg] using hc
      exact hnumber _ (isNumberChar_char g)
  · cases hp : s.precision with
    | none => simp [hp] at hc
    | some n =>
      rw [hp] at hc
      rcases List.mem_cons.mp hc with rfl | hc
      · exact hnumber '.' rfl
      · exact hnumber c (isNumberChar_of_isDigit (isDigit_of_mem_toDigits c hc))
  · have hmem := h.code c (by simpa using hc)
    exact hother c (List.mem_cons_of_mem _ (List.mem_cons_of_mem _ hmem))

theorem parse_unsigned (hsign : s.sign = .minus) : parse (s.textWith []) = .ok s := by
  have halign : ∀ c ∈ s.flagsText, isAlignChar c = false :=
    h.forall_mem_flagsText isAlignChar_of_isNumberChar (by decide)
  refine h.isReadable.parse_textWith (takeAlign_eq_iff.mpr ⟨rfl, fun _ => ?_, fun hnone => ?_⟩) ?_
    h.not_misreadsCode
  · exact avoids_of_forall_mem halign
  · refine ⟨h.isReadable.fill hnone, avoids_of_forall_mem fun c hc => ?_⟩
    exact halign c (List.mem_of_mem_tail hc)
  · rw [hsign]
    refine takeSign_of_avoids (avoids_of_forall_mem ?_)
    exact h.forall_mem_flagsText isSome_ofChar?_of_isNumberChar (by decide)

end IsWellFormed

theorem isReadable_of_parse (h : parse t = .ok s) : s.IsReadable := by
  obtain ⟨t₁, t₂, t₃, t₄, t₅, t₆, t₇, t₈, h₁, -, -, -, h₅, h₆, h₇, h₈, h₉⟩ := parse_eq_ok_iff.mp h
  obtain ⟨-, hzero⟩ := takeFlag_eq_iff.mp h₅
  obtain ⟨digits, rfl, hwidth, hread⟩ := takeNumber_eq_iff.mp h₆
  obtain ⟨rfl, hgrouping⟩ := takeGrouping_eq_iff.mp h₇
  obtain rfl : t₈ = s.codeText := takeCode_eq_ok_iff.mp h₉
  have hprecision := takePrecision_eq_ok_iff.mp h₈
  constructor
  · exact fun halign => ((takeAlign_eq_iff.mp h₁).2.2 halign).1
  · intro n hn
    exact (readDigits_eq_some_iff.mp (hread.trans hn)).2.2
  · intro hz n hn
    -- The number has a first digit, which is no zero because the flag would have taken it.
    obtain ⟨hne, rfl, -⟩ := readDigits_eq_some_iff.mp (hread.trans hn)
    obtain ⟨d, digits, rfl⟩ := List.exists_cons_of_ne_nil hne
    have hd : d ≠ '0' := by simpa using hzero hz d rfl
    exact ofDigitChars_pos (hwidth.isDigit d List.mem_cons_self) hd digits
  · intro n hn
    rcases hprecision with ⟨hnone, -⟩ | ⟨digits, m, hm, -, -, hread⟩
    · cases hn.symm.trans hnone
    · cases hn.symm.trans hm
      exact (readDigits_eq_some_iff.mp hread).2.2
  · intro hsome
    rcases hprecision with ⟨hnone, -⟩ | ⟨digits, m, -, -, hnumeral, -⟩
    · simp [hnone] at hsome
    · exact hnumeral.stop
  · intro hnone
    rcases hprecision with ⟨-, -, havoid⟩ | ⟨digits, m, hm, -⟩
    · exact havoid
    · cases hnone.symm.trans hm
  · intro hg hnone
    rcases hprecision with ⟨-, rfl, -⟩ | ⟨digits, m, hm, -⟩
    · simpa [hg] using hwidth.stop
    · cases hnone.symm.trans hm
  · intro hg hnone
    rcases hprecision with ⟨-, rfl, -⟩ | ⟨digits, m, hm, -⟩
    · exact hgrouping hg
    · cases hnone.symm.trans hm

theorem avoids_of_parse_toText (h : parse s.toText = .ok s) :
    (s.align = none → s.flagsText.Avoids isAlignChar) ∧
      (s.noNegativeZero = false → s.alternateText.Avoids (· = 'z')) ∧
      (s.alternate = false → s.zeroText.Avoids (· = '#')) := by
  rw [← textWith_sign] at h
  obtain ⟨t₁, t₂, t₃, t₄, -, -, -, -, h₁, h₂, h₃, h₄, -⟩ := parse_eq_ok_iff.mp h
  obtain ⟨heq, -, halign⟩ := takeAlign_eq_iff.mp h₁
  obtain rfl := List.append_cancel_left heq
  obtain rfl := (Prod.mk.inj ((takeSign_char s.sign).symm.trans h₂)).2
  obtain ⟨rfl, hz⟩ := takeFlag_append h₃
  exact ⟨fun hnone => (halign hnone).2, hz, (takeFlag_append h₄).2⟩

theorem parse_toText_ne (h : s.MisreadsCode) : parse s.toText ≠ .ok s := by
  intro hparse
  obtain ⟨halign, hz, halt⟩ := avoids_of_parse_toText hparse
  obtain ⟨ha, hzero, hw, hg, hp, hcode⟩ := h
  have htext : s.alternateText = s.codeText ∧ s.zeroText = s.codeText := by
    simp [alternateText, zeroText, widthText, groupingText, precisionText, ha, hzero, hw, hg, hp]
  rcases hcode with hcode | ⟨hn, hcode | ⟨hnone, a, hcode⟩⟩
  · rw [htext.2, avoids_codeText_iff] at halt
    simpa using halt ha '#' hcode
  · rw [htext.1, avoids_codeText_iff] at hz
    simpa using hz hn 'z' hcode
  · rw [flagsText, hn, htext.1] at halign
    simpa using avoids_codeText_iff.mp (halign hnone) a.char hcode

/-- Only a width that does not fit separates a type code from the front of a text and not from the
front of its spec. -/
theorem exists_of_misreadsCode (h : parse t = .ok s) (hcode : s.MisreadsCode) :
    ∃ digits, digits <:+: t ∧ (∀ c ∈ digits, c.isDigit = true) ∧
      maxSize < Nat.ofDigitChars 10 digits 0 := by
  obtain ⟨t₁, t₂, t₃, t₄, t₅, t₆, t₇, t₈, h₁, h₂, h₃, h₄, h₅, h₆, h₇, h₈, h₉⟩ :=
    parse_eq_ok_iff.mp h
  obtain ⟨ha, hzero, hw, hg, hp, hcode⟩ := hcode
  obtain ⟨rfl, hfirst, hsecond⟩ := takeAlign_eq_iff.mp h₁
  obtain ⟨rfl, hz⟩ := takeFlag_eq_iff.mp h₃
  obtain ⟨rfl, halt⟩ := takeFlag_eq_iff.mp h₄
  obtain ⟨rfl, -⟩ := takeFlag_eq_iff.mp h₅
  obtain ⟨digits, rfl, hnumeral, hread⟩ := takeNumber_eq_iff.mp (hw ▸ h₆)
  have hrest : t₆ = s.codeText := by
    obtain rfl : t₈ = s.codeText := takeCode_eq_ok_iff.mp h₉
    rcases takePrecision_eq_ok_iff.mp (hp ▸ h₈) with ⟨-, rfl, -⟩ | ⟨_, _, hsome, -⟩
    · exact (takeGrouping_eq_iff.mp (hg ▸ h₇)).1
    · contradiction
  rw [hrest, ha, hzero] at halt hz h₂
  have hsign := takeSign_cases h₂
  refine ⟨digits, ?_, hnumeral.isDigit, (readDigits_eq_none_iff.mp hread).resolve_left ?_⟩
  · have hinfix : digits <:+: (if s.noNegativeZero then ['z'] else []) ++ (digits ++ s.codeText) :=
      ⟨_, _, List.append_assoc ..⟩
    have hback : digits <:+: t₁ := by
      rcases hsign with rfl | ⟨c, rfl⟩
      · exact hinfix
      · exact hinfix.trans (List.suffix_cons c _).isInfix
    exact hback.trans (List.suffix_append _ _).isInfix
  · -- Without digits, the type code would have been read as a flag or an alignment.
    rintro rfl
    rcases hcode with hcode | ⟨hn, hcode | ⟨hnone, a, hcode⟩⟩
    · simpa using avoids_codeText_iff.mp (halt rfl) '#' hcode
    · simpa using avoids_codeText_iff.mp (hz hn) 'z' hcode
    · obtain ⟨hfill, hsecond⟩ := hsecond hnone
      have hfirst := hfirst hfill
      rw [hn] at hsign
      have hc : s.codeText.Avoids isAlignChar := by
        rcases hsign with rfl | ⟨c, rfl⟩
        · exact hfirst
        · exact hsecond
      simpa using avoids_codeText_iff.mp hc a.char hcode

/-- A spec is read back from its text, with or without a minus sign. The spec of a text is read back
unless its type code is misread, and then the text has a number that does not fit. -/
theorem parse_toText_iff (s : FormatSpec) (t : Text) :
    (s.IsWellFormed → parse s.toText = .ok s ∧
      (s.sign = .minus → parse (s.textWith []) = .ok s)) ∧
    (parse t = .ok s → (parse s.toText = .ok s ↔ ¬ s.MisreadsCode) ∧
      (s.MisreadsCode → ∃ digits, digits <:+: t ∧ (∀ c ∈ digits, c.isDigit = true) ∧
        maxSize < Nat.ofDigitChars 10 digits 0)) := by
  constructor
  · intro h
    exact ⟨h.isReadable.parse_toText h.not_misreadsCode, h.parse_unsigned⟩
  · intro h
    refine ⟨⟨fun hparse hcode => parse_toText_ne hcode hparse, ?_⟩, exists_of_misreadsCode h⟩
    exact (isReadable_of_parse h).parse_toText

def fullSpec : FormatSpec where
  fill := some '<'
  align := some .center
  noNegativeZero := true
  alternate := true
  zeroPad := true
  width := some 12
  grouping := some .comma
  precision := some 3
  code := some 'f'

theorem fullSpec_parse_toText :
    (parse "<^-z#012,.3f".toList = .ok fullSpec ∧ parse "<^z#012,.3f".toList = .ok fullSpec) ∧
      (∃ s : FormatSpec, parse "<0012.05f".toList = .ok s ∧ s.toText = "<-012.5f".toList ∧
        parse s.toText = .ok s) ∧
      ∃ digits, digits <:+: "99999999999999999999z".toList ∧ (∀ c ∈ digits, c.isDigit = true) ∧
        maxSize < Nat.ofDigitChars 10 digits 0 := by
  refine ⟨?_, ?_, ?_⟩
  · have h : fullSpec.IsWellFormed := ⟨fun _ => rfl, by decide, by decide, by rintro _ ⟨⟩; decide⟩
    exact ((parse_toText_iff fullSpec []).1 h).imp_right fun hsign => hsign rfl
  · let s : FormatSpec :=
      { align := some .left, zeroPad := true, width := some 12, precision := some 5,
        code := some 'f' }
    have hs : parse "<0012.05f".toList = .ok s := rfl
    exact ⟨s, hs, rfl, ((parse_toText_iff s _).2 hs).1.mpr fun h => nomatch h.2.1⟩
  · have hs : parse "99999999999999999999z".toList = .ok { code := some 'z' } := rfl
    exact ((parse_toText_iff _ _).2 hs).2 ⟨rfl, rfl, rfl, rfl, rfl, Or.inr ⟨rfl, Or.inl rfl⟩⟩

/-- The width is dropped, and the type code becomes a flag. -/
theorem parse_toText_droppedWidth :
    ∃ s s' : FormatSpec, parse "99999999999999999999z".toList = .ok s ∧
      s.toText = "-z".toList ∧ parse s.toText = .ok s' ∧ s ≠ s' :=
  ⟨{ code := some 'z' }, { noNegativeZero := true }, rfl, rfl, rfl, by decide⟩

end FormatSpec

end TextTable
