import TextTable.Proofs.Except
import TextTable.Template.Scan

/-! # The empty spec

Under the empty spec a value is shown by the text that it has inside of a template.
-/

namespace TextTable

namespace FormatSpec

theorem parse_nil : parse [] = .ok {} := rfl

theorem padField_of_width {s : FormatSpec} (h : s.width = none) (f : Field) :
    s.padField f = f.text := by
  cases halign : f.align <;> simp [padField, Field.pad, Field.padBy, Field.text, h, halign]

@[simp] theorem padField_default (f : Field) : padField {} f = f.text := padField_of_width rfl f

theorem textField_default (t : Text) :
    textField {} t = .ok { lead := [], body := t, align := .left } := rfl

theorem integerField_default (n : Int) : integerField {} n =
    .ok { lead := Sign.minus.text (n < 0), body := Nat.toDigits 10 n.natAbs, align := .right } := by
  simp [integerField, Radix.ofCode?, radixField, group, Radix.digits, Radix.base, numericAlign]

theorem groupWhole_default (body : Text) : groupWhole {} body = body :=
  List.takeWhile_append_dropWhile

theorem floatField_default (x : Double) : floatField {} (.finite x) =
    .ok { lead := Sign.minus.text x.negative, body := x.plain, align := .right } := by
  have hbody : doubleBody {} x = .ok x.plain := rfl
  rw [floatField, hbody]
  simp only [bind, Except.bind, groupWhole_default, Bool.false_and, Bool.not_false, Bool.and_true]
  rfl

end FormatSpec

open FormatSpec

theorem formatValue_nil (v : Value) : formatValue v [] = .ok v.plainText := by
  have hfield : ∃ f, field {} v = .ok f ∧ f.text = v.plainText := by
    cases v with
    | null => exact ⟨_, textField_default _, rfl⟩
    | bool b => cases b <;> exact ⟨_, textField_default _, rfl⟩
    | int n =>
      refine ⟨_, integerField_default n, ?_⟩
      change Sign.minus.text (n < 0) ++ Nat.toDigits 10 n.natAbs = intText n
      by_cases h : n < 0 <;> simp [Sign.text, intText, h]
    | float x =>
      refine ⟨_, floatField_default x, ?_⟩
      cases h : x.negative <;> simp [Field.text, Sign.text, Value.plainText, h]
    | string t => exact ⟨_, textField_default t, rfl⟩
    | array items => exact ⟨_, textField_default _, rfl⟩
    | object fields => exact ⟨_, textField_default _, rfl⟩
  obtain ⟨f, hf, ht⟩ := hfield
  rw [formatValue, parse_nil]
  simp only [format, hf, Except.map, padField_default, ht]
  rfl

end TextTable
