import TextTable.Function.Builtin
import TextTable.Proofs.Template.Written

/-! # Conversions as templates

A percent template can be a single conversion. Its text is read part by part, as the conversion that
it was written for, and it shows its only argument.
-/

namespace TextTable

namespace Percent

structure NumberConversion where
  /-- The flags, in any order and with repetitions. -/
  flags : Text
  width : Option Nat
  /-- The digits of the precision. -/
  precision : Option Text
  code : Char

namespace NumberConversion

def precisionText (c : NumberConversion) : Text := (c.precision.map ('.' :: ·)).getD [] ++ [c.code]

def widthText (c : NumberConversion) : Text :=
  (c.width.map (Nat.toDigits 10)).getD [] ++ c.precisionText

def toTemplate (c : NumberConversion) : Text := '%' :: (c.flags ++ c.widthText)

/-- The width that is read. One that does not fit a machine word is dropped. -/
def readWidth (c : NumberConversion) : Option Nat :=
  readDigits ((c.width.map (Nat.toDigits 10)).getD [])

/-- The precision that a conversion has. One that does not fit a machine word becomes zero. -/
def readPrecision (c : NumberConversion) : Option Nat :=
  c.precision.map fun digits => (readDigits digits).getD 0

def conversion (c : NumberConversion) : Conversion where
  key := none
  flags := .ofText c.flags
  width := c.readWidth
  precision := c.readPrecision
  code := c.code

/-- A character that ends a conversion, since it is no part of anything in front of the code. -/
def isCode (c : Char) : Bool := c.isAlpha && !isModifier c

/-- The parts of the template are told apart by their characters. A zero in front of the width would
be a flag. -/
structure IsReadable (c : NumberConversion) : Prop where
  flags : ∀ f ∈ c.flags, isFlag f = true
  width : ∀ n ∈ c.width, 1 ≤ n
  precision : ∀ digits ∈ c.precision, ∀ d ∈ digits, d.isDigit = true
  code : isCode c.code = true

variable {c : NumberConversion} {v : Value} {p : Char → Bool}

theorem isFlag_of_mem {f : Char} (h : f ∈ ['-', '+', ' ', '#', '0']) : isFlag f = true := by
  have hall : ['-', '+', ' ', '#', '0'].all isFlag = true := by decide
  exact List.all_eq_true.mp hall f h

theorem avoids_precisionText (hpoint : p '.' = false) (hcode : p c.code = false) :
    c.precisionText.Avoids p := by
  unfold precisionText
  cases c.precision with
  | none => exact fun d hd => Option.some.inj hd ▸ hcode
  | some digits => exact fun d hd => Option.some.inj hd ▸ hpoint

/-- A width does not start with a zero, so no flag can stand in front of what follows the flags. -/
theorem avoids_widthText (hwidth : ∀ n ∈ c.width, 1 ≤ n)
    (hstart : "123456789.".toList.all (!p ·) = true) (hcode : p c.code = false) :
    c.widthText.Avoids p := by
  have happend : "123456789.".toList = "123456789".toList ++ ['.'] := rfl
  rw [happend, List.all_append, Bool.and_eq_true] at hstart
  unfold widthText
  cases hw : c.width with
  | none => exact avoids_precisionText (by simpa using hstart.2) hcode
  | some n => exact avoids_toDigits (hwidth n hw) hstart.1

namespace IsReadable

theorem isDigit_code (h : c.IsReadable) : c.code.isDigit = false := by
  have halpha := (Bool.and_eq_true_iff.mp h.code).1
  exact Identifier.isDigit_eq_false (by rw [halpha, Bool.true_or])

theorem takeNumber_widthText (h : c.IsReadable) :
    FormatSpec.takeNumber c.widthText = (c.readWidth, c.precisionText) := by
  refine FormatSpec.takeNumber_append ⟨fun d hd => ?_, ?_⟩
  · cases hw : c.width with
    | none => simp [hw] at hd
    | some n => exact isDigit_of_mem_toDigits d (by simpa [hw] using hd)
  · exact avoids_precisionText rfl h.isDigit_code

theorem isNumeral (h : c.IsReadable) {digits : Text} (hmem : digits ∈ c.precision) :
    IsNumeral digits [c.code] :=
  ⟨h.precision digits hmem, fun _ hd => Option.some.inj hd ▸ h.isDigit_code⟩

theorem code_not_mem (h : c.IsReadable) : c.code ∉ innerChars := by
  intro hmem
  have hinner : ∀ d ∈ innerChars, isCode d = false := List.all_iff_forall_prop.mp (by decide)
  exact Bool.noConfusion (h.code.symm.trans (hinner _ hmem))

def written (h : c.IsReadable) : WrittenConversion where
  flags := c.flags
  width := c.width
  precision := c.precision
  modifiers := []
  code := c.code
  isFlag := h.flags
  width_pos := h.width
  isDigit := h.precision
  isModifier := List.forall_mem_nil _
  code_not_mem := h.code_not_mem

theorem scan_toTemplate (h : c.IsReadable) :
    scan c.toTemplate = ⟨[.conversion c.conversion], none⟩ := by
  have hscan := h.written.scan_toText []
  rw [List.append_nil, scan] at hscan
  exact hscan

theorem expand_toTemplate (h : c.IsReadable) {arg : Value} (hargs : arguments arg = [v])
    (hfields : arg.fields? = none) : expand c.toTemplate arg = c.conversion.expand v := by
  have hselect : c.conversion.select none [v] = .ok (v, []) := rfl
  rw [expand, h.scan_toTemplate]
  simp only [hargs, hfields, expandParts, hselect, bind, Except.bind]
  cases c.conversion.expand v with
  | error e => rfl
  | ok t => simp [templateError, pure, Except.pure]

end IsReadable

end NumberConversion

end Percent

end TextTable
