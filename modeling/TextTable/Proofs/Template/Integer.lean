import TextTable.Proofs.Format.Integer
import TextTable.Proofs.Number.Exact
import TextTable.Proofs.Template.Conversion

/-! # Integers under percent templates

A conversion of integers shows the integer part of a number in a radix. That of a float is kept
within 128 bits, so that larger floats are shown as the last integer in that range. A precision is
the least number of digits, and the width the least number of characters, if they fit a machine
word.
-/

namespace TextTable

namespace Percent

inductive HasRadix : Char → Radix → Prop
  | d : HasRadix 'd' .decimal
  | i : HasRadix 'i' .decimal
  | u : HasRadix 'u' .decimal
  | o : HasRadix 'o' .octal
  | x : HasRadix 'x' .hex
  | X : HasRadix 'X' .upperHex

/-- The integer that is shown of a number: its integer part, or the nearest one that fits 128 bits
for a float whose integer part does not. -/
inductive HasPart : Value → Int → Prop
  | int (n : Int) : HasPart (.int n) n
  | float (x : Double) : -integerRange ≤ truncation x.toRat → truncation x.toRat < integerRange →
      HasPart (.float x) (truncation x.toRat)
  | below (x : Double) : truncation x.toRat < -integerRange → HasPart (.float x) (-integerRange)
  | above (x : Double) : integerRange ≤ truncation x.toRat →
      HasPart (.float x) (integerRange - 1)

variable {code : Char} {r : Radix} {v : Value} {m : Int}

def Conversion.integerSpec (c : Conversion) : FormatSpec :=
  { c.spec with code := some (if c.code ∈ ['i', 'u'] then 'd' else c.code) }

theorem HasRadix.mem (h : HasRadix code r) : code ∈ ['d', 'i', 'u', 'o', 'x', 'X'] := by
  cases h <;> decide

theorem HasRadix.isCode (h : HasRadix code r) : NumberConversion.isCode code = true := by
  cases h <;> rfl

theorem HasRadix.integerSpec {c : Conversion} (h : HasRadix c.code r) :
    FormatSpec.HasRadix c.integerSpec.code r := by
  obtain ⟨key, flags, width, precision, code⟩ := c
  cases h
  · exact .decimal
  · exact .decimal
  · exact .decimal
  · exact .octal
  · exact .hex
  · exact .upperHex

theorem HasPart.integerArgument_eq (h : HasPart v m) : integerArgument code v = .ok m := by
  have hpos : 0 < integerRange := by decide
  cases h with
  | int n => rfl
  | float x hge hlt =>
    rw [integerArgument, x.truncate_eq, min_eq_right (by omega), max_eq_right hge]
  | below x hlt =>
    rw [integerArgument, x.truncate_eq, min_eq_right (by omega), max_eq_left (by omega)]
  | above x hge =>
    rw [integerArgument, x.truncate_eq, min_eq_left (by omega), max_eq_right (by omega)]

theorem HasRadix.expand_eq {c : Conversion} (h : HasRadix c.code r) (hv : HasPart v m) :
    c.expand v = integerConversion c.integerSpec m := by
  have hcode := h.mem
  simp only [List.mem_cons, List.not_mem_nil, or_false] at hcode
  rcases hcode with hcode | hcode | hcode | hcode | hcode | hcode <;>
    simp [Conversion.expand, Conversion.integerSpec, hcode, hv.integerArgument_eq, bind,
      Except.bind]

namespace NumberConversion

def signFor (c : NumberConversion) (n : Int) : Text :=
  if n < 0 then ['-'] else if '+' ∈ c.flags then ['+'] else if ' ' ∈ c.flags then [' '] else []

def markText (c : NumberConversion) : Text :=
  if '#' ∈ c.flags ∧ c.code ∈ ['o', 'x', 'X'] then ['0', c.code] else []

variable {c : NumberConversion}

theorem sign_text_integerSpec (c : NumberConversion) (n : Int) :
    c.conversion.integerSpec.sign.text (n < 0) = c.signFor n := by
  by_cases hn : n < 0 <;> by_cases hplus : '+' ∈ c.flags <;> by_cases hspace : ' ' ∈ c.flags <;>
    simp [Conversion.integerSpec, conversion, Conversion.spec, Flags.ofText, Sign.text, signFor, hn,
      hplus, hspace]

theorem markText_integerSpec (h : HasRadix c.code r) :
    c.conversion.integerSpec.markText = c.markText := by
  have hcode : HasRadix c.conversion.code r := h
  have halternate : c.conversion.integerSpec.alternate = decide ('#' ∈ c.flags) := rfl
  rw [hcode.integerSpec.markText_eq, halternate, markText]
  obtain ⟨flags, width, precision, code⟩ := c
  dsimp only at h ⊢
  cases h <;> simp [Radix.mark]

theorem integerField_integerSpec (h : HasRadix c.code r) (n : Int) :
    { c.conversion.integerSpec with precision := none }.integerField n = .ok {
      lead := c.signFor n ++ c.markText
      body := r.digits n.natAbs
      align := c.conversion.integerSpec.numericAlign } := by
  have hcode : HasRadix c.conversion.code r := h
  have hspec : FormatSpec.HasRadix { c.conversion.integerSpec with precision := none }.code r :=
    hcode.integerSpec
  rw [hspec.integerField_eq rfl nofun, ← markText_integerSpec h, ← sign_text_integerSpec]
  rfl

end NumberConversion

theorem exists_hasPart {q : ℚ} (h : v.toRat? = some q) : ∃ m, HasPart v m ∧
    (m = truncation q ↔ (∃ n, v = .int n) ∨
      -integerRange ≤ truncation q ∧ truncation q < integerRange) := by
  cases v with
  | int n =>
    obtain rfl := Option.some.inj h
    exact ⟨n, .int n, iff_of_true (truncation_intCast n).symm (Or.inl ⟨n, rfl⟩)⟩
  | float x =>
    obtain rfl := Option.some.inj h
    by_cases hlow : truncation x.toRat < -integerRange
    · refine ⟨_, .below x hlow, iff_of_false (by omega) ?_⟩
      rintro (⟨n, ⟨⟩⟩ | ⟨hge, -⟩)
      omega
    by_cases hhigh : integerRange ≤ truncation x.toRat
    · refine ⟨_, .above x hhigh, iff_of_false (by omega) ?_⟩
      rintro (⟨n, ⟨⟩⟩ | ⟨-, hlt⟩)
      omega
    have hfits := And.intro (Int.not_lt.mp hlow) (Int.not_le.mp hhigh)
    exact ⟨_, .float x hfits.1 hfits.2, iff_of_true rfl (Or.inr hfits)⟩
  | _ => contradiction

theorem HasPart.exists_call (hv : HasPart v m) (hcode : HasRadix code r) :
    ∃ t, Builtin.pformat.call v ['%', code] = .ok t ∧ r.IsSigned m t := by
  let c : NumberConversion := ⟨[], none, none, code⟩
  have hread : c.IsReadable := ⟨List.forall_mem_nil _, nofun, nofun, hcode.isCode⟩
  have hargs : arguments v = [v] ∧ v.fields? = none := by cases hv <;> exact ⟨rfl, rfl⟩
  have hcall : Builtin.pformat.call v ['%', code] = integerConversion c.conversion.integerSpec m :=
    (hread.expand_toTemplate hargs.1 hargs.2).trans (hcode.expand_eq (c := c.conversion) hv)
  have hfield := NumberConversion.integerField_integerSpec (c := c) hcode m
  refine ⟨_, hcall.trans (congrArg (Except.map _) hfield), r.digits m.natAbs,
    r.isNumeral_digits m.natAbs, ?_⟩
  rw [FormatSpec.padField_of_width rfl]
  simp [Field.text, NumberConversion.signFor, NumberConversion.markText, c]

/-- Every finite number is shown, and the text is the numeral of its integer part for every integer,
and for a float exactly if its integer part fits 128 bits. -/
theorem call_isSigned_truncation_iff (hcode : HasRadix code r) {q : ℚ} (hv : v.toRat? = some q) :
    ∃ m t, HasPart v m ∧ Builtin.pformat.call v ['%', code] = .ok t ∧ r.IsSigned m t ∧
      (r.IsSigned (truncation q) t ↔ (∃ n, v = .int n) ∨
        -integerRange ≤ truncation q ∧ truncation q < integerRange) := by
  obtain ⟨m, hm, hiff⟩ := exists_hasPart hv
  obtain ⟨t, ht, hsigned⟩ := hm.exists_call hcode
  refine ⟨m, t, hm, ht, hsigned, ?_⟩
  rw [← hiff]
  constructor
  · intro htrunc
    exact Option.some.inj (hsigned.readInteger_eq.symm.trans htrunc.readInteger_eq)
  · rintro rfl
    exact hsigned

def smallFloat : Double := ⟨true, 4643210863975260488, by decide⟩

theorem smallFloat_call : Double.ofDecimal true 25599 (-2) = .finite smallFloat ∧
    Builtin.pformat.call (.float smallFloat) "%x".toList = .ok "-ff".toList ∧
    Radix.hex.IsSigned (truncation smallFloat.toRat) "-ff".toList := by
  obtain ⟨m, t, -, hcall, -, hiff⟩ := call_isSigned_truncation_iff .x (v := .float smallFloat) rfl
  have hpart : truncation smallFloat.toRat = -255 := by
    rw [← Double.truncate_eq]
    decide +kernel
  have hshown : Builtin.pformat.call (.float smallFloat) "%x".toList = .ok "-ff".toList := by
    decide +kernel
  obtain rfl : t = "-ff".toList := Except.ok.inj (hcall.symm.trans hshown)
  refine ⟨by decide +kernel, hshown, hiff.mpr (Or.inr ?_)⟩
  rw [hpart]
  decide

def largeFloat : Double := ⟨false, 5190260616003865117, by decide⟩

/-- The largest integer of 128 bits is shown for a number that is larger. -/
theorem largeFloat_call : Double.ofDecimal false 1 39 = .finite largeFloat ∧
    truncation largeFloat.toRat = 999999999999999939709166371603178586112 ∧
    Builtin.pformat.call (.float largeFloat) "%d".toList =
      .ok "170141183460469231731687303715884105727".toList ∧
    ¬ Radix.decimal.IsSigned (truncation largeFloat.toRat)
      "170141183460469231731687303715884105727".toList := by
  have hpart : truncation largeFloat.toRat = 999999999999999939709166371603178586112 := by
    rw [← Double.truncate_eq]
    decide +kernel
  have hlarge : integerRange ≤ truncation largeFloat.toRat := by
    rw [hpart]
    decide
  have hshown : Builtin.pformat.call (.float largeFloat) "%d".toList =
      .ok "170141183460469231731687303715884105727".toList := by decide +kernel
  obtain ⟨t, ht, hsigned⟩ := (HasPart.above largeFloat hlarge).exists_call .d
  obtain rfl := Except.ok.inj (hshown.symm.trans ht)
  refine ⟨by decide +kernel, hpart, hshown, fun h => ?_⟩
  have heq : integerRange - 1 = truncation largeFloat.toRat :=
    Option.some.inj (hsigned.readInteger_eq.symm.trans h.readInteger_eq)
  omega

/-- The count that a number is read as: zero if the number does not fit a machine word. -/
def wordOrZero (n : Nat) : Nat := if n ≤ maxSize then n else 0

theorem readDigits_getD (digits : Text) :
    (readDigits digits).getD 0 = wordOrZero (Nat.ofDigitChars 10 digits 0) := by
  unfold wordOrZero
  cases hread : readDigits digits with
  | some n =>
    obtain ⟨-, rfl, hle⟩ := readDigits_eq_some_iff.mp hread
    rw [if_pos hle, Option.getD_some]
  | none =>
    rcases readDigits_eq_none_iff.mp hread with rfl | hlt
    · rfl
    · rw [if_neg (Nat.not_le.mpr hlt), Option.getD_none]

/-- Digits are no signs and take one byte each. -/
theorem withMinDigits_eq {n : Nat} {f : Field} (h : r.IsNumeral n f.body) (count : Nat) :
    withMinDigits count f = f.lead ++ (List.replicate (count - f.body.length) '0' ++ f.body) := by
  have hsigns : f.body.takeWhile (fun c => c = '-' || c = '+' || c = ' ') = [] := by
    refine List.takeWhile_eq_nil_iff.mpr fun hpos => ?_
    have hmem := List.mem_append_right r.mark (h.mem _ (List.getElem_mem hpos))
    exact ne_true_of_eq_false (Radix.isSignChar_of_mem hmem)
  simp only [withMinDigits, hsigns, List.length_nil, List.drop_zero, List.append_nil,
    Radix.byteSize_eq_length h.mem, List.append_assoc]

theorem integerConversion_eq_ok {s : FormatSpec} {count : Nat} {n : Int} {f : Field}
    (hp : s.precision = some count) (hf : { s with precision := none }.integerField n = .ok f) :
    integerConversion s n = .ok (Field.pad {
      lead := []
      body := withMinDigits count f
      align := if s.align = some .left then .left else .right } ' ' s.width) := by
  rw [integerConversion, hp]
  simp only [hf]
  rfl

namespace NumberConversion

/-- The least number of digits. A point without a number asks for none. -/
def minDigits (c : NumberConversion) : Nat := Nat.ofDigitChars 10 (c.precision.getD []) 0

def minWidth (c : NumberConversion) : Nat := c.width.getD 0

/-- The text with spaces up to a width, on the left without a left flag. -/
def padSpaces (c : NumberConversion) (width : Nat) (t : Text) : Text :=
  if '-' ∈ c.flags then t ++ List.replicate (width - t.length) ' '
  else List.replicate (width - t.length) ' ' ++ t

/-- A conversion of integers with a precision, any flags and any width. -/
structure HasMinDigits (c : NumberConversion) (r : Radix) : Prop where
  flags : ∀ f ∈ c.flags, f ∈ ['-', '+', ' ', '#', '0']
  width : ∀ n ∈ c.width, 1 ≤ n
  precision : ∃ digits, c.precision = some digits ∧ ∀ d ∈ digits, d.isDigit = true
  code : HasRadix c.code r

variable {c : NumberConversion}

theorem readWidth_getD (c : NumberConversion) : c.readWidth.getD 0 = wordOrZero c.minWidth := by
  rw [readWidth, readDigits_getD, minWidth]
  cases c.width with
  | none => rfl
  | some n => simp [Nat.ofDigitChars_ten_toDigits]

theorem readPrecision_eq {digits : Text} (h : c.precision = some digits) :
    c.readPrecision = some (wordOrZero c.minDigits) := by
  rw [readPrecision, minDigits, h, Option.map_some, Option.getD_some, readDigits_getD]

theorem pad_eq (c : NumberConversion) (t : Text) :
    Field.pad {
      lead := []
      body := t
      align := if c.conversion.integerSpec.align = some .left then .left else .right } ' '
      c.conversion.integerSpec.width = c.padSpaces (wordOrZero c.minWidth) t := by
  have hwidth : c.conversion.integerSpec.width = c.readWidth := rfl
  rw [Field.pad, hwidth, readWidth_getD, padSpaces]
  by_cases hleft : '-' ∈ c.flags
  · simp [Conversion.integerSpec, conversion, Conversion.spec, Flags.ofText, Field.padBy,
      Field.text, hleft]
  · by_cases hzero : '0' ∈ c.flags <;>
      simp [Conversion.integerSpec, conversion, Conversion.spec, Flags.ofText, Field.padBy,
        Field.text, hleft, hzero]

theorem length_padSpaces (c : NumberConversion) (width : Nat) (t : Text) :
    (c.padSpaces width t).length = max width t.length := by
  unfold padSpaces
  split <;> simp <;> omega

theorem count_padSpaces (c : NumberConversion) (width : Nat) (t : Text) :
    (c.padSpaces width t).count '0' = t.count '0' := by
  unfold padSpaces
  split <;> simp [List.count_replicate]

/-- The text of an integer with zeros between the mark of the radix and the digits. -/
def zeroPadded (c : NumberConversion) (n : Int) (zeros : Nat) (digits : Text) : Text :=
  c.signFor n ++ (c.markText ++ (List.replicate zeros '0' ++ digits))

theorem count_zeroPadded (c : NumberConversion) (n : Int) (zeros : Nat) (digits : Text) :
    (c.zeroPadded n zeros digits).count '0' = zeros + (c.zeroPadded n 0 digits).count '0' := by
  simp only [zeroPadded, List.count_append, List.count_replicate_self, List.replicate_zero,
    List.count_nil]
  omega

theorem HasMinDigits.isReadable (h : c.HasMinDigits r) : c.IsReadable := by
  obtain ⟨digits, hprecision, hdigits⟩ := h.precision
  refine ⟨fun f hf => isFlag_of_mem (h.flags f hf), h.width, ?_, h.code.isCode⟩
  rw [hprecision]
  rintro _ ⟨⟩
  exact hdigits

theorem HasMinDigits.call_eq (h : c.HasMinDigits r) (n : Int) :
    Builtin.pformat.call (.int n) c.toTemplate = .ok (c.padSpaces (wordOrZero c.minWidth)
      (c.zeroPadded n (wordOrZero c.minDigits - (r.digits n.natAbs).length)
        (r.digits n.natAbs))) := by
  obtain ⟨written, hprecision, -⟩ := h.precision
  have hcall : Builtin.pformat.call (.int n) c.toTemplate =
      integerConversion c.conversion.integerSpec n :=
    (h.isReadable.expand_toTemplate rfl rfl).trans (h.code.expand_eq (c := c.conversion) (.int n))
  rw [hcall, integerConversion_eq_ok (readPrecision_eq hprecision)
    (integerField_integerSpec h.code n), withMinDigits_eq (r.isNumeral_digits n.natAbs), pad_eq,
    List.append_assoc, zeroPadded]

theorem wordOrZero_sub_eq_iff {m k : Nat} : wordOrZero m - k = m - k ↔ m ≤ maxSize ∨ m ≤ k := by
  unfold wordOrZero
  split <;> omega

/-- A precision only adds zeros between the mark of the radix and the digits, and the padding is
spaces whether or not there is a zero flag. This is so exactly if the precision and the width fit
a machine word, unless they ask for no more than there is. -/
theorem call_int_eq_iff_fits (h : c.HasMinDigits r) (n : Int) :
    ∃ digits zeros body, r.IsNumeral n.natAbs digits ∧
      zeros = List.replicate (c.minDigits - digits.length) '0' ∧
      body = c.signFor n ++ (c.markText ++ (zeros ++ digits)) ∧
      (∃ t, Builtin.pformat.call (.int n) c.toTemplate = .ok t) ∧
      (Builtin.pformat.call (.int n) c.toTemplate = .ok (c.padSpaces c.minWidth body) ↔
        (c.minDigits ≤ maxSize ∨ c.minDigits ≤ digits.length) ∧
          (c.minWidth ≤ maxSize ∨ c.minWidth ≤ body.length)) ∧
      c.minDigits ≤ (zeros ++ digits).length ∧ r.value (zeros ++ digits) = n.natAbs := by
  have hdigits := r.isNumeral_digits n.natAbs
  have hcall := h.call_eq n
  generalize r.digits n.natAbs = digits at hdigits hcall
  refine ⟨digits, _, _, hdigits, rfl, rfl, ⟨_, hcall⟩, ?_, ?_, ?_⟩
  · rw [hcall, Except.ok.injEq, ← zeroPadded]
    constructor
    · intro heq
      -- The padding has no zeros, so the texts have the same number of them.
      have hzeros := congrArg (List.count '0') heq
      rw [count_padSpaces, count_padSpaces, count_zeroPadded,
        count_zeroPadded c n (c.minDigits - _), Nat.add_right_cancel_iff] at hzeros
      refine ⟨wordOrZero_sub_eq_iff.mp hzeros, wordOrZero_sub_eq_iff.mp ?_⟩
      have hlength := congrArg List.length heq
      rw [hzeros, length_padSpaces, length_padSpaces] at hlength
      omega
    · rintro ⟨hd, hw⟩
      rw [wordOrZero_sub_eq_iff.mpr hd, padSpaces, padSpaces, wordOrZero_sub_eq_iff.mpr hw]
  · rw [List.length_append, List.length_replicate]
    omega
  · rw [Radix.value_replicate_append, hdigits.value_eq]

def spacedHex : NumberConversion where
  flags := ['+', ' ', '#', '0']
  width := some 12
  precision := some ['4']
  code := 'x'

theorem spacedHex_call : spacedHex.HasMinDigits .hex ∧
    Builtin.pformat.call (.int (-255)) "%+ #012.4x".toList = .ok "     -0x00ff".toList ∧
    ∃ digits, Radix.hex.IsNumeral 255 digits ∧ "     -0x00ff".toList = spacedHex.padSpaces 12
      (['-'] ++ (['0', 'x'] ++ (List.replicate (4 - digits.length) '0' ++ digits))) := by
  have hhas : spacedHex.HasMinDigits .hex := by
    refine ⟨by simp [spacedHex], ?_, ⟨['4'], rfl, List.forall_mem_singleton.mpr rfl⟩, .x⟩
    rintro _ ⟨⟩
    decide
  have htemplate : spacedHex.toTemplate = "%+ #012.4x".toList := by decide +kernel
  have hsign : spacedHex.signFor (-255) = ['-'] := rfl
  have hmark : spacedHex.markText = ['0', 'x'] := by decide
  have hmin : spacedHex.minDigits = 4 := by decide +kernel
  have hwidth : spacedHex.minWidth = 12 := rfl
  have hshown : Builtin.pformat.call (.int (-255)) "%+ #012.4x".toList =
      .ok "     -0x00ff".toList := by decide +kernel
  obtain ⟨digits, _, _, hdigits, rfl, rfl, -, hiff, -, -⟩ := call_int_eq_iff_fits hhas (-255)
  have hcall := hiff.mpr ⟨.inl (by rw [hmin]; decide), .inl (by rw [hwidth]; decide)⟩
  rw [htemplate, hsign, hmark, hmin, hwidth, hshown] at hcall
  exact ⟨hhas, hshown, digits, hdigits, Except.ok.inj hcall⟩

/-- A precision that does not fit a machine word. -/
def largeMinDigits : NumberConversion where
  flags := []
  width := none
  precision := some "99999999999999999999".toList
  code := 'd'

/-- A number that does not fit asks for no digits. -/
theorem largeMinDigits_call : largeMinDigits.HasMinDigits .decimal ∧
    largeMinDigits.toTemplate = "%.99999999999999999999d".toList ∧
    Builtin.pformat.call (.int 7) "%.99999999999999999999d".toList = .ok ['7'] ∧
    largeMinDigits.minDigits = 99999999999999999999 ∧
    ¬ largeMinDigits.minDigits ≤ (['7'] : Text).length := by
  have hhas : largeMinDigits.HasMinDigits .decimal :=
    ⟨List.forall_mem_nil _, nofun, ⟨_, rfl, List.all_eq_true.mp (by decide)⟩, .d⟩
  have hmin : largeMinDigits.minDigits = 99999999999999999999 := by decide +kernel
  have htemplate : largeMinDigits.toTemplate = "%.99999999999999999999d".toList := by decide +kernel
  refine ⟨hhas, htemplate, ?_, hmin, by rw [hmin]; decide⟩
  rw [← htemplate, hhas.call_eq]
  decide +kernel

end NumberConversion

end Percent

end TextTable
