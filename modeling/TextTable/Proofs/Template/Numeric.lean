import TextTable.Proofs.Format.Integer
import TextTable.Proofs.Template.Conversion

/-! # Numbers under percent templates and format specs

A conversion shows a number as the format spec with the same options does, although the two
represent zero padding differently. They part only at a precision that does not fit a machine word:
the conversion takes it for zero, and the spec is refused.
-/

namespace TextTable

namespace FormatSpec

variable {s : FormatSpec} {v : Value} {c : Char} {fill : Option Char} {align : Option FieldAlign}

/-- A spec with a type code of floats for a number, or one with a type code of integers and no
precision for an integer. -/
inductive ShowsNumber (s : FormatSpec) : Value → Prop
  | float (v : Value) (c : Char) : v.isNumeric = true → s.code = some c →
      c ∈ ['e', 'E', 'f', 'F', 'g', 'G'] → ShowsNumber s v
  | integer (n : Int) (c : Char) : s.code = some c → c ∈ ['d', 'o', 'x', 'X'] →
      s.precision = none → s.grouping = none → ShowsNumber s (.int n)

theorem integerField_of_floatCode (hs : s.code = some c)
    (hc : c ∈ ['e', 'E', 'f', 'F', 'g', 'G']) (n : Int) :
    s.integerField n = s.floatField (Double.ofInt n) := by
  simp only [List.mem_cons, List.not_mem_nil, or_false] at hc
  rcases hc with rfl | rfl | rfl | rfl | rfl | rfl <;> simp [integerField, hs, Radix.ofCode?]

theorem exists_radix (hs : s.code = some c) (hc : c ∈ ['d', 'o', 'x', 'X']) :
    ∃ r, Radix.ofCode? s.code = some r := by
  have hradix : ['d', 'o', 'x', 'X'].all (fun c => (Radix.ofCode? (some c)).isSome) = true := by
    decide
  rw [hs]
  exact Option.isSome_iff_exists.mp (List.all_eq_true.mp hradix c hc)

theorem field_of_floatCode (hv : v.isNumeric = true) (hs : s.code = some c)
    (hc : c ∈ ['e', 'E', 'f', 'F', 'g', 'G']) :
    ∃ x, v.toDouble? = some x ∧ s.field v = s.floatField x := by
  cases v with
  | int n => exact ⟨_, rfl, integerField_of_floatCode hs hc n⟩
  | float x => exact ⟨_, rfl, rfl⟩
  | _ => contradiction

theorem exists_floatField (hs : s.code = some c) (hc : c ∈ ['e', 'E', 'f', 'F', 'g', 'G'])
    (x : Rounded) : ∃ f, s.floatField x = .ok f := by
  have hbody (x : Double) : ∃ body, s.doubleBody x = .ok body := by
    simp only [List.mem_cons, List.not_mem_nil, or_false] at hc
    rcases hc with rfl | rfl | rfl | rfl | rfl | rfl <;> simp [doubleBody, hs]
  cases x with
  | finite x =>
    obtain ⟨body, hbody⟩ := hbody x
    exact ⟨_, bind_eq_ok_iff.mpr ⟨body, hbody, rfl⟩⟩
  | infinite _ => exact ⟨_, rfl⟩

theorem ShowsNumber.exists_field (h : s.ShowsNumber v) : ∃ f, s.field v = .ok f := by
  cases h with
  | float v c hv hs hc =>
    obtain ⟨x, -, hx⟩ := field_of_floatCode hv hs hc
    rw [hx]
    exact exists_floatField hs hc x
  | integer n c hs hc hp hg =>
    obtain ⟨r, hr⟩ := exists_radix hs hc
    have hfield : ∃ f, s.radixField r n = .ok f := by simp [radixField, hp, hg]
    rwa [← integerField_of_radix hr] at hfield

theorem floatField_withAlign (h : { s with fill, align }.numericAlign = s.numericAlign)
    (x : Rounded) : { s with fill, align }.floatField x = s.floatField x := by
  unfold floatField
  rw [h]
  rfl

theorem radixField_withAlign (h : { s with fill, align }.numericAlign = s.numericAlign) (r : Radix)
    (n : Int) : { s with fill, align }.radixField r n = s.radixField r n := by
  unfold radixField
  rw [h]
  rfl

/-- The field depends on the alignment that results for numbers, and not on how it is given. -/
theorem ShowsNumber.field_withAlign (h : s.ShowsNumber v)
    (halign : { s with fill, align }.numericAlign = s.numericAlign) :
    { s with fill, align }.field v = s.field v := by
  cases h with
  | float v c hv hs hc =>
    obtain ⟨x, hx, hfield⟩ := field_of_floatCode hv hs hc
    obtain ⟨x', hx', hfield'⟩ := field_of_floatCode (s := { s with fill, align }) hv hs hc
    obtain rfl := Option.some.inj (hx'.symm.trans hx)
    rw [hfield, hfield', floatField_withAlign halign]
  | integer n c hs hc hp hg =>
    obtain ⟨r, hr⟩ := exists_radix hs hc
    calc { s with fill, align }.integerField n
      _ = { s with fill, align }.radixField r n :=
        integerField_of_radix (s := { s with fill, align }) hr n
      _ = s.radixField r n := radixField_withAlign halign r n
      _ = s.integerField n := (integerField_of_radix hr n).symm

/-- Two specs that differ in how they ask for zero padding show the same text of a number. -/
theorem ShowsNumber.format_withAlign (h : s.ShowsNumber v)
    (halign : { s with fill, align }.numericAlign = s.numericAlign)
    (hfill : { s with fill, align }.fillChar = s.fillChar) :
    { s with fill, align }.format v = s.format v := by
  have hpad : { s with fill, align }.padField = s.padField := by
    unfold padField
    rw [hfill]
  rw [format, format, h.field_withAlign halign, hpad]

end FormatSpec

namespace Percent

namespace NumberConversion

def zeroText (c : NumberConversion) : Text :=
  (if '0' ∈ c.flags ∧ '-' ∉ c.flags then ['0'] else []) ++ c.widthText

def alternateText (c : NumberConversion) : Text :=
  (if '#' ∈ c.flags then ['#'] else []) ++ c.zeroText

def signText (c : NumberConversion) : Text :=
  (if '+' ∈ c.flags then ['+'] else if ' ' ∈ c.flags then [' '] else []) ++ c.alternateText

def toSpec (c : NumberConversion) : Text :=
  (if '-' ∈ c.flags then ['<'] else if '0' ∈ c.flags then [] else ['>']) ++ c.signText

/-- Every number has the codes of floats, and an integer also those of integers. -/
structure IsFor (c : NumberConversion) (v : Value) : Prop where
  flags : ∀ f ∈ c.flags, f ∈ ['-', '+', ' ', '#', '0']
  width : ∀ n ∈ c.width, 1 ≤ n
  precision : ∀ digits ∈ c.precision, digits ≠ [] ∧ ∀ d ∈ digits, d.isDigit = true
  code : c.code ∈ ['e', 'E', 'f', 'F', 'g', 'G'] ∧ v.isNumeric = true ∨
    c.code ∈ ['d', 'o', 'x', 'X'] ∧ c.precision = none ∧ ∃ n, v = .int n

/-- The precision fits a machine word. -/
def Fits (c : NumberConversion) : Prop :=
  ∀ digits ∈ c.precision, Nat.ofDigitChars 10 digits 0 ≤ maxSize

variable {c : NumberConversion} {v : Value} {p : Char → Bool}

/-- The codes of numbers. -/
def codes : Text := "eEfFgGdoxX".toList

theorem IsFor.code_eq_false (h : c.IsFor v) (hp : codes.all (!p ·) = true) : p c.code = false := by
  have hfloat : ['e', 'E', 'f', 'F', 'g', 'G'] <+: codes := ⟨['d', 'o', 'x', 'X'], rfl⟩
  have hinteger : ['d', 'o', 'x', 'X'] <:+ codes := ⟨['e', 'E', 'f', 'F', 'g', 'G'], rfl⟩
  have hmem : c.code ∈ codes := by
    rcases h.code with ⟨hc, -⟩ | ⟨hc, -⟩
    · exact hfloat.mem hc
    · exact hinteger.mem hc
  simpa using List.all_eq_true.mp hp _ hmem

theorem IsFor.avoids_code (h : c.IsFor v) (hp : codes.all (!p ·) = true) :
    Text.Avoids [c.code] p :=
  fun _ hd => Option.some.inj hd ▸ h.code_eq_false hp

theorem IsFor.avoids_widthText (h : c.IsFor v)
    (hp : ("123456789.".toList ++ codes).all (!p ·) = true) : c.widthText.Avoids p := by
  obtain ⟨hstart, hcodes⟩ := Bool.and_eq_true_iff.mp (List.all_append.symm.trans hp)
  exact NumberConversion.avoids_widthText h.width hstart (h.code_eq_false hcodes)

theorem IsFor.isReadable (h : c.IsFor v) : c.IsReadable := by
  refine ⟨fun f hf => isFlag_of_mem (h.flags f hf), h.width,
    fun digits hd => (h.precision digits hd).2, ?_⟩
  simpa using h.code_eq_false (p := (!isCode ·)) (by decide)

def spec (c : NumberConversion) : FormatSpec where
  align := if '-' ∈ c.flags then some .left else if '0' ∈ c.flags then none else some .right
  sign := if '+' ∈ c.flags then .plus else if ' ' ∈ c.flags then .space else .minus
  alternate := '#' ∈ c.flags
  zeroPad := '0' ∈ c.flags ∧ '-' ∉ c.flags
  width := c.readWidth
  precision := c.readPrecision
  code := some c.code

theorem IsFor.takePrecision_spec (h : c.IsFor v) (hfit : c.Fits) :
    FormatSpec.takePrecision c.precisionText = .ok (c.readPrecision, [c.code]) := by
  unfold precisionText readPrecision
  cases hprec : c.precision with
  | none => exact FormatSpec.takePrecision_of_avoids (h.avoids_code (by decide))
  | some digits =>
    have hread : readDigits digits = some (Nat.ofDigitChars 10 digits 0) :=
      readDigits_eq_some_iff.mpr ⟨(h.precision digits hprec).1, rfl, hfit digits hprec⟩
    simp only [Option.map_some, hread, Option.getD_some]
    exact FormatSpec.takePrecision_point (h.isReadable.isNumeral hprec) hread

theorem IsFor.takePrecision_of_not_fits (h : c.IsFor v) (hfit : ¬ c.Fits) :
    FormatSpec.takePrecision c.precisionText = .error .missingPrecision := by
  obtain ⟨digits, hmem, hlarge⟩ : ∃ digits ∈ c.precision,
      maxSize < Nat.ofDigitChars 10 digits 0 := by simpa [Fits] using hfit
  have hprec : c.precision = some digits := hmem
  have hread : readDigits digits = none := readDigits_eq_none_iff.mpr (Or.inr hlarge)
  have hflag : FormatSpec.takeFlag '.' ('.' :: (digits ++ [c.code])) =
    (true, digits ++ [c.code]) := rfl
  simp only [precisionText, hprec, Option.map_some, Option.getD_some, List.cons_append,
    FormatSpec.takePrecision, hflag, FormatSpec.takeNumber_append (h.isReadable.isNumeral hmem),
    hread]

theorem IsFor.avoids_zeroText (h : c.IsFor v) (hzero : p '0' = false)
    (hp : ("123456789.".toList ++ codes).all (!p ·) = true) : c.zeroText.Avoids p := by
  unfold zeroText
  split
  · exact fun d hd => Option.some.inj hd ▸ hzero
  · exact h.avoids_widthText hp

theorem IsFor.avoids_alternateText (h : c.IsFor v) (hmark : p '#' = false) (hzero : p '0' = false)
    (hp : ("123456789.".toList ++ codes).all (!p ·) = true) : c.alternateText.Avoids p := by
  unfold alternateText
  split
  · exact fun d hd => Option.some.inj hd ▸ hmark
  · exact h.avoids_zeroText hzero hp

theorem IsFor.avoids_signText (h : c.IsFor v) : c.signText.Avoids isAlignChar := by
  have hrest : c.alternateText.Avoids isAlignChar :=
    h.avoids_alternateText rfl rfl (by decide)
  unfold signText
  split
  · exact fun d hd => Option.some.inj hd ▸ rfl
  · split
    · exact fun d hd => Option.some.inj hd ▸ rfl
    · exact hrest

/-- The second character is no alignment either, since a zero stands behind the other flags. -/
theorem IsFor.avoids_tail_signText (h : c.IsFor v) (hzero : '0' ∈ c.flags) (hleft : '-' ∉ c.flags) :
    Text.Avoids c.signText.tail isAlignChar := by
  have hrest : c.alternateText.Avoids isAlignChar :=
    h.avoids_alternateText rfl rfl (by decide)
  have htail : Text.Avoids c.alternateText.tail isAlignChar := by
    unfold alternateText
    split
    · exact h.avoids_zeroText rfl (by decide)
    · rw [zeroText, if_pos ⟨hzero, hleft⟩]
      exact h.avoids_widthText (by decide)
  unfold signText
  split
  · exact hrest
  · split
    · exact hrest
    · exact htail

theorem IsFor.takeAlign_toSpec (h : c.IsFor v) :
    FormatSpec.takeAlign c.toSpec = (none, c.spec.align, c.signText) := by
  refine FormatSpec.takeAlign_eq_iff.mpr ⟨?_, fun _ => h.avoids_signText, fun halign => ⟨rfl, ?_⟩⟩
  · simp only [toSpec, spec]
    split
    · rfl
    · split <;> rfl
  · simp only [spec] at halign
    split at halign
    · contradiction
    · next hleft =>
      split at halign
      · next hzero => exact h.avoids_tail_signText hzero hleft
      · contradiction

theorem IsFor.takeSign_signText (h : c.IsFor v) :
    FormatSpec.takeSign c.signText = (c.spec.sign, c.alternateText) := by
  unfold signText spec
  split
  · exact FormatSpec.takeSign_char .plus
  · split
    · exact FormatSpec.takeSign_char .space
    · exact FormatSpec.takeSign_of_avoids (h.avoids_alternateText rfl rfl (by decide))

theorem IsFor.takeFlag_z (h : c.IsFor v) :
    FormatSpec.takeFlag 'z' c.alternateText = (false, c.alternateText) :=
  FormatSpec.takeFlag_eq_iff.mpr ⟨rfl, fun _ => h.avoids_alternateText rfl rfl (by decide)⟩

theorem IsFor.takeFlag_mark (h : c.IsFor v) :
    FormatSpec.takeFlag '#' c.alternateText = (c.spec.alternate, c.zeroText) :=
  FormatSpec.takeFlag_eq_iff.mpr
    ⟨by simp [alternateText, spec], fun _ => h.avoids_zeroText rfl (by decide)⟩

theorem IsFor.takeFlag_zero (h : c.IsFor v) :
    FormatSpec.takeFlag '0' c.zeroText = (c.spec.zeroPad, c.widthText) :=
  FormatSpec.takeFlag_eq_iff.mpr
    ⟨by simp [zeroText, spec], fun _ => h.avoids_widthText (by decide)⟩

theorem IsFor.takeGrouping_precisionText (h : c.IsFor v) :
    FormatSpec.takeGrouping c.precisionText = (none, c.precisionText) :=
  FormatSpec.takeGrouping_of_avoids
    (avoids_precisionText rfl (h.code_eq_false (p := fun d => (Grouping.ofChar? d).isSome)
      (by decide)))

theorem IsFor.parse_toSpec (h : c.IsFor v) (hfit : c.Fits) :
    FormatSpec.parse c.toSpec = .ok c.spec :=
  FormatSpec.parse_eq_ok_iff.mpr ⟨_, _, _, _, _, _, _, _, h.takeAlign_toSpec, h.takeSign_signText,
    h.takeFlag_z, h.takeFlag_mark, h.takeFlag_zero,
    h.isReadable.takeNumber_widthText, h.takeGrouping_precisionText, h.takePrecision_spec hfit, rfl⟩

theorem IsFor.parse_toSpec_of_not_fits (h : c.IsFor v) (hfit : ¬ c.Fits) :
    FormatSpec.parse c.toSpec = .error .missingPrecision := by
  simp only [FormatSpec.parse, h.takeAlign_toSpec, h.takeSign_signText, h.takeFlag_z,
    h.takeFlag_mark, h.takeFlag_zero, h.isReadable.takeNumber_widthText,
    h.takeGrouping_precisionText, h.takePrecision_of_not_fits hfit, bind, Except.bind]

theorem IsFor.showsNumber (h : c.IsFor v) : c.spec.ShowsNumber v := by
  rcases h.code with ⟨hc, hv⟩ | ⟨hc, hp, n, rfl⟩
  · exact .float v c.code hv rfl hc
  · exact .integer n c.code rfl hc (by simp [spec, readPrecision, hp]) rfl

/-- The spec of a conversion gives the fill and the alignment of zero padding, and the other spec
has only the flag. -/
theorem IsFor.format_conversion (h : c.IsFor v) :
    { c.conversion.spec with code := some c.code }.format v = c.spec.format v := by
  have hspec : { c.conversion.spec with code := some c.code } =
      { c.spec with fill := c.conversion.spec.fill, align := c.conversion.spec.align } := by
    simp [conversion, Conversion.spec, Flags.ofText, spec]
  rw [hspec]
  apply h.showsNumber.format_withAlign
  · by_cases hleft : '-' ∈ c.flags <;> by_cases hzero : '0' ∈ c.flags <;>
      simp [FormatSpec.numericAlign, conversion, Conversion.spec, Flags.ofText, spec, hleft, hzero]
  · by_cases hleft : '-' ∈ c.flags <;> by_cases hzero : '0' ∈ c.flags <;>
      simp [FormatSpec.fillChar, conversion, Conversion.spec, Flags.ofText, spec, hleft, hzero]

theorem IsFor.expand_conversion (h : c.IsFor v) : c.conversion.expand v = c.spec.format v := by
  rw [← h.format_conversion, FormatSpec.format]
  rcases h.code with ⟨hc, hv⟩ | ⟨hc, hp, n, rfl⟩
  · have hcode : c.conversion.code = c.code := rfl
    obtain ⟨x, hx, hfield⟩ := FormatSpec.field_of_floatCode
      (s := { c.conversion.spec with code := some c.code }) hv rfl hc
    rw [hfield]
    simp only [List.mem_cons, List.not_mem_nil, or_false] at hc
    rcases hc with hc | hc | hc | hc | hc | hc <;>
      simp [Conversion.expand, hcode, hc, hx]
  · have hcode : c.conversion.code = c.code := rfl
    have hprec : c.conversion.spec.precision = none := by
      simp [conversion, Conversion.spec, readPrecision, hp]
    simp only [List.mem_cons, List.not_mem_nil, or_false] at hc
    rcases hc with hc | hc | hc | hc <;>
      simp [Conversion.expand, hcode, hc, integerArgument, integerConversion, hprec,
        FormatSpec.field, bind, Except.bind]

theorem IsFor.isNumeric (h : c.IsFor v) : v.isNumeric = true := by
  rcases h.code with ⟨-, hv⟩ | ⟨-, -, n, rfl⟩
  · exact hv
  · rfl

theorem IsFor.expand_toTemplate (h : c.IsFor v) {arg : Value} (harg : arg ∈ [v, .array [v]]) :
    expand c.toTemplate arg = c.spec.format v := by
  have hargs : arguments arg = [v] ∧ arg.fields? = none := by
    have hv := h.isNumeric
    simp only [List.mem_cons, List.not_mem_nil, or_false] at harg
    rcases harg with harg | rfl
    · rw [harg]
      cases v <;> first | contradiction | exact ⟨rfl, rfl⟩
    · exact ⟨rfl, rfl⟩
  rw [h.isReadable.expand_toTemplate hargs.1 hargs.2, h.expand_conversion]

/-- A number is never refused under a conversion, and the spec with the same options shows the same
text of it exactly if the precision fits a machine word. -/
theorem call_eq_iff_fits (c : NumberConversion) (v : Value) (h : c.IsFor v) :
    ∀ arg ∈ [v, .array [v]], (∃ t, Builtin.pformat.call arg c.toTemplate = .ok t) ∧
      (Builtin.pformat.call arg c.toTemplate = formatValue v c.toSpec ↔ c.Fits) := by
  intro arg harg
  obtain ⟨f, hf⟩ := h.showsNumber.exists_field
  have hformat : c.spec.format v = .ok (c.spec.padField f) := by
    rw [FormatSpec.format, hf]
    rfl
  have hcall : Builtin.pformat.call arg c.toTemplate = .ok (c.spec.padField f) :=
    (h.expand_toTemplate harg).trans hformat
  refine ⟨⟨_, hcall⟩, ?_⟩
  rw [hcall, formatValue]
  constructor
  · intro heq
    by_contra hfit
    rw [h.parse_toSpec_of_not_fits hfit] at heq
    contradiction
  · intro hfit
    rw [h.parse_toSpec hfit]
    simp only [hformat]
    rfl

/-- Repeated flags, of which the left flag rules out the zero flag. -/
def signedFloat : NumberConversion where
  flags := ['0', '+', ' ', '-', '+']
  width := some 12
  precision := some ['0', '3']
  code := 'e'

theorem signedFloat_call :
    Builtin.pformat.call (.array [.int 7]) "%0+ -+12.03e".toList =
      formatValue (.int 7) "<+12.03e".toList ∧
    ∃ t, Builtin.pformat.call (.array [.int 7]) "%0+ -+12.03e".toList = .ok t := by
  have hfor : signedFloat.IsFor (.int 7) := by
    refine ⟨by simp [signedFloat], ?_, ?_, Or.inl ⟨by decide, rfl⟩⟩
    · rintro n ⟨⟩
      decide
    · rintro digits ⟨⟩
      simp
  obtain ⟨hok, hiff⟩ := call_eq_iff_fits signedFloat (.int 7) hfor (.array [.int 7]) (by simp)
  refine ⟨hiff.mpr ?_, hok⟩
  rintro digits ⟨⟩
  decide

/-- The precision does not fit a machine word. -/
def largePrecision : NumberConversion where
  flags := []
  width := none
  precision := some (List.replicate 20 '9')
  code := 'f'

/-- The conversion shows no decimals, and the spec is refused. -/
theorem largePrecision_call :
    Builtin.pformat.call (.int 5) "%.99999999999999999999f".toList = .ok "5".toList ∧
      formatValue (.int 5) ">.99999999999999999999f".toList =
        .error (.invalidSpec ">.99999999999999999999f".toList .missingPrecision) := by
  have hfor : largePrecision.IsFor (.int 5) := by
    refine ⟨List.forall_mem_nil _, nofun, ?_, Or.inl ⟨by decide, rfl⟩⟩
    rintro digits ⟨⟩
    refine ⟨by decide, fun d hd => ?_⟩
    rw [List.eq_of_mem_replicate hd]
    decide
  constructor
  · exact (hfor.expand_toTemplate List.mem_cons_self).trans (by decide +kernel)
  · rfl

end NumberConversion

end Percent

end TextTable
