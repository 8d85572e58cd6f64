import Mathlib.Data.Bool.AllAny
import TextTable.Proofs.Format.SpecText
import TextTable.Proofs.Template.Percent

/-! # Written conversions

A conversion is written as its flags, a width, a precision, length modifiers and a code. It is read
up to the code, and what stands behind the code is left for the rest of the template.
-/

namespace TextTable.Percent

/-- The characters that do not end a conversion: options, and the marks that a percent sign in front
makes special. All letters but three end one. -/
def innerChars : Text := "-+ #0123456789.hlL(%".toList

structure WrittenConversion where
  /-- The flags, in any order and with repetitions. -/
  flags : Text
  /-- The width, which is written without zeros in front. -/
  width : Option Nat
  /-- The digits behind the point. -/
  precision : Option Text
  modifiers : Text
  code : Char
  isFlag : ∀ f ∈ flags, isFlag f = true
  width_pos : ∀ n ∈ width, 1 ≤ n
  isDigit : ∀ digits ∈ precision, ∀ d ∈ digits, d.isDigit = true
  isModifier : ∀ m ∈ modifiers, isModifier m = true
  code_not_mem : code ∉ innerChars

/-- A numeral does not start with a zero. -/
theorem avoids_toDigits {p : Char → Bool} {n : Nat} (h : 1 ≤ n)
    (hdigit : "123456789".toList.all (!p ·) = true) {rest : Text} :
    Text.Avoids (Nat.toDigits 10 n ++ rest) p := by
  apply FormatSpec.avoids_append
  · intro d hd
    have hd' : d.isDigit = true := isDigit_of_mem_toDigits d (List.mem_of_mem_head? hd)
    have hne : d ≠ '0' := by
      rintro rfl
      exact head?_toDigits_ne_zero h hd
    simpa using List.all_eq_true.mp hdigit d (mem_nonzeroDigits hd' hne)
  · exact fun hnil => absurd hnil Nat.toDigits_ne_nil

namespace WrittenConversion

variable (c : WrittenConversion)

/-- The text from the modifiers on, with what stands behind the conversion. -/
def codeText (rest : Text) : Text := c.modifiers ++ c.code :: rest

def precisionText (rest : Text) : Text :=
  (c.precision.map ('.' :: ·)).getD [] ++ c.codeText rest

def widthText (rest : Text) : Text :=
  (c.width.map (Nat.toDigits 10)).getD [] ++ c.precisionText rest

def toText : Text := '%' :: (c.flags ++ c.widthText [])

/-- What the text is read as. A width that does not fit a machine word is dropped, and such a
precision becomes zero. -/
def conversion : Conversion where
  key := none
  flags := .ofText c.flags
  width := readDigits ((c.width.map (Nat.toDigits 10)).getD [])
  precision := c.precision.map fun digits => (readDigits digits).getD 0
  code := c.code

variable {c} {p : Char → Bool} {rest : Text}

theorem toText_append : c.toText ++ rest = '%' :: (c.flags ++ c.widthText rest) := by
  simp [toText, widthText, precisionText, codeText]

theorem code_eq_false (hp : ∀ d, p d = true → d ∈ innerChars) : p c.code = false :=
  Bool.eq_false_iff.mpr fun h => c.code_not_mem (hp _ h)

theorem avoids_codeText (hmodifier : "hlL".toList.all (!p ·) = true) (hcode : p c.code = false) :
    (c.codeText rest).Avoids p := by
  apply FormatSpec.avoids_append
  · intro d hd
    have hmem : d ∈ "hlL".toList := by
      simpa [Percent.isModifier, or_assoc] using c.isModifier d (List.mem_of_mem_head? hd)
    simpa using List.all_eq_true.mp hmodifier d hmem
  · exact fun _ d hd => Option.some.inj hd ▸ hcode

theorem avoids_precisionText (hpoint : p '.' = false)
    (hmodifier : "hlL".toList.all (!p ·) = true) (hcode : p c.code = false) :
    (c.precisionText rest).Avoids p := by
  unfold precisionText
  cases c.precision with
  | none => exact avoids_codeText hmodifier hcode
  | some digits => exact fun d hd => Option.some.inj hd ▸ hpoint

theorem avoids_widthText (hdigit : "123456789".toList.all (!p ·) = true) (hpoint : p '.' = false)
    (hmodifier : "hlL".toList.all (!p ·) = true) (hcode : p c.code = false) :
    (c.widthText rest).Avoids p := by
  unfold widthText
  cases hw : c.width with
  | none => exact avoids_precisionText hpoint hmodifier hcode
  | some n => exact avoids_toDigits (c.width_pos n hw) hdigit

theorem isFlag_code : Percent.isFlag c.code = false := by
  apply c.code_eq_false
  intro d hd
  simp only [Percent.isFlag, Bool.or_eq_true, decide_eq_true_eq] at hd
  rcases hd with (((rfl | rfl) | rfl) | rfl) | rfl <;> decide

theorem isModifier_code : Percent.isModifier c.code = false := by
  apply c.code_eq_false
  intro d hd
  simp only [Percent.isModifier, Bool.or_eq_true, decide_eq_true_eq] at hd
  rcases hd with (rfl | rfl) | rfl <;> decide

theorem isDigit_code : c.code.isDigit = false := by
  apply c.code_eq_false
  intro d hd
  by_cases h0 : d = '0'
  · rw [h0]
    decide
  · have hsub : ∀ d ∈ "123456789".toList, d ∈ innerChars := List.all_iff_forall_prop.mp (by decide)
    exact hsub d (mem_nonzeroDigits hd h0)

theorem code_ne {mark : Char} (h : mark ∈ innerChars) : c.code ≠ mark :=
  fun heq => c.code_not_mem (heq ▸ h)

/-- No text after a percent sign starts with a mark that would be read in another way there. -/
theorem avoids_mark {mark : Char} (h : mark = '%' ∨ mark = '(') :
    Text.Avoids (c.flags ++ c.widthText rest) (· = mark) := by
  apply FormatSpec.avoids_append
  · intro d hd
    refine decide_eq_false ?_
    rintro rfl
    have hflag := c.isFlag d (List.mem_of_mem_head? hd)
    rcases h with rfl | rfl <;> contradiction
  · intro _
    rcases h with rfl | rfl <;>
      exact avoids_widthText (by decide) rfl (by decide) (decide_eq_false (c.code_ne (by decide)))

theorem takeKey_eq :
    takeKey (c.flags ++ c.widthText rest) = .ok (none, c.flags ++ c.widthText rest) := by
  have havoid : Text.Avoids (c.flags ++ c.widthText rest) (· = '(') := avoids_mark (Or.inr rfl)
  unfold takeKey
  split
  · next hnil => rw [hnil]
  · next d rest' heq =>
    rw [heq] at havoid ⊢
    rw [if_neg (of_decide_eq_false (havoid d rfl))]

theorem takeNumber_widthText : FormatSpec.takeNumber (c.widthText rest) =
    (c.conversion.width, c.precisionText rest) := by
  apply FormatSpec.takeNumber_append
  constructor
  · intro d hd
    cases hw : c.width with
    | none => simp [hw] at hd
    | some n => exact isDigit_of_mem_toDigits d (by simpa [hw] using hd)
  · exact avoids_precisionText rfl (by decide) c.isDigit_code

theorem takePrecision_precisionText : takePrecision (c.precisionText rest) =
    (c.conversion.precision, c.codeText rest) := by
  unfold precisionText conversion
  cases hprecision : c.precision with
  | none =>
    have hflag : FormatSpec.takeFlag '.' (c.codeText rest) = (false, c.codeText rest) :=
      FormatSpec.takeFlag_eq_iff.mpr
        ⟨rfl, fun _ => avoids_codeText (by decide) (decide_eq_false (c.code_ne (by decide)))⟩
    simp only [Option.map_none, Option.getD_none, List.nil_append, takePrecision, hflag]
  | some digits =>
    have hflag : FormatSpec.takeFlag '.' ('.' :: (digits ++ c.codeText rest)) =
      (true, digits ++ c.codeText rest) := rfl
    have hnumeral : IsNumeral digits (c.codeText rest) :=
      ⟨c.isDigit digits hprecision, avoids_codeText (by decide) c.isDigit_code⟩
    simp only [Option.map_some, Option.getD_some, List.cons_append, takePrecision, hflag,
      FormatSpec.takeNumber_append hnumeral]

theorem takeConversion_eq :
    takeConversion (c.flags ++ c.widthText rest) = .ok (c.conversion, rest) := by
  have hflags : (c.widthText rest).takeWhile Percent.isFlag = [] ∧
      (c.widthText rest).dropWhile Percent.isFlag = c.widthText rest := by
    have havoid : (c.widthText rest).Avoids Percent.isFlag :=
      avoids_widthText (by decide) rfl (by decide) c.isFlag_code
    revert havoid
    cases c.widthText rest with
    | nil => exact fun _ => ⟨rfl, rfl⟩
    | cons d rest =>
      intro havoid
      simp [havoid d rfl]
  have hmodifiers : (c.codeText rest).dropWhile Percent.isModifier = c.code :: rest := by
    rw [codeText, List.dropWhile_append_of_pos c.isModifier]
    simp [c.isModifier_code]
  simp only [takeConversion, takeKey_eq, bind, Except.bind, List.takeWhile_append_of_pos c.isFlag,
    List.dropWhile_append_of_pos c.isFlag, hflags, List.append_nil, takeNumber_widthText,
    takePrecision_precisionText, hmodifiers]
  rfl

theorem scan_toText (c : WrittenConversion) (rest : Text) :
    scan (c.toText ++ rest) = (scan rest).prepend [.conversion c.conversion] := by
  rw [toText_append]
  exact scan_conversion takeConversion_eq (avoids_mark (Or.inl rfl))

end WrittenConversion

end TextTable.Percent
