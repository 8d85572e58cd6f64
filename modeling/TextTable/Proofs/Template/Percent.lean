import TextTable.Proofs.Format.SpecPart
import TextTable.Proofs.Template.Mapping
import TextTable.Template.Percent

/-! # Mapping templates with percent signs

A mapping template with percent signs is scanned into its parts, with a conversion for every key.
-/

namespace TextTable.Percent

theorem scan_literal (t rest : Text) :
    scan (doubled (· = '%') t ++ rest) = (scan rest).prepend (t.map .literal) := by
  induction t with
  | nil => rfl
  | cons c t ih =>
    rw [doubled_cons]
    by_cases hc : c = '%'
    · subst hc
      simp [scan, ih, Scan.prepend, Scan.cons]
    · simp [scan, ih, Scan.prepend, Scan.cons, hc]

theorem scan_conversion {t after : Text} {c : Conversion} (h : takeConversion t = .ok (c, after))
    (hpercent : t.Avoids (· = '%')) :
    scan ('%' :: t) = (scan after).prepend [.conversion c] := by
  rw [scan, if_pos rfl]
  · split
    · next heq =>
      rw [h] at heq
      cases heq
      rfl
    · next heq =>
      rw [h] at heq
      contradiction
  · intro rest _ heq
    simpa using hpercent '%' (by rw [heq]; rfl)

def keyConversion (k : Identifier) : Conversion where
  key := some k.text
  flags := .ofText []
  width := none
  precision := none
  code := 's'

theorem takeConversion_key (k : Identifier) (rest : Text) :
    takeConversion ('(' :: (k.text ++ ')' :: 's' :: rest)) = .ok (keyConversion k, rest) := by
  have hcut : Text.cutAt ')' (k.text ++ ')' :: 's' :: rest) = some (k.text, 's' :: rest) :=
    Text.cutAt_eq_some_iff.mpr ⟨rfl, fun h => k.ne_of_mem h (by decide) rfl⟩
  have hkey : takeKey ('(' :: (k.text ++ ')' :: 's' :: rest)) = .ok (some k.text, 's' :: rest) := by
    rw [takeKey, if_pos rfl, hcut]
  rw [takeConversion, hkey]
  rfl

theorem scan_key (k : Identifier) (rest : Text) :
    scan ('%' :: '(' :: k.text ++ ')' :: 's' :: rest) =
      (scan rest).prepend [.conversion (keyConversion k)] :=
  scan_conversion (takeConversion_key k rest) fun _ hd => Option.some.inj hd ▸ rfl

def partsOf : MappingPart → List Part
  | .literal t => t.map .literal
  | .key k => [.conversion (keyConversion k)]

theorem scan_part (p : MappingPart) (rest : Text) :
    scan (p.toPercent ++ rest) = (scan rest).prepend (partsOf p) := by
  cases p with
  | literal t => exact scan_literal t rest
  | key k =>
    rw [MappingPart.toPercent, List.append_assoc]
    exact scan_key k rest

theorem scan_toPercent (parts : List MappingPart) :
    scan (parts.flatMap MappingPart.toPercent) = ⟨parts.flatMap partsOf, none⟩ := by
  induction parts with
  | nil => rw [List.flatMap_nil, scan]; rfl
  | cons p parts ih => rw [List.flatMap_cons, scan_part, ih]; rfl

variable {fields : Dict Value} {left : List Value} {rest : List Part}

theorem expand_keyConversion (k : Identifier) (v : Value) :
    (keyConversion k).expand v = .ok v.plainText := by
  have htext (t : Text) : textConversion (keyConversion k).spec t = .ok t := by
    simp [textConversion, keyConversion, Conversion.spec, Flags.ofText, FormatSpec.textField,
      Except.map, FormatSpec.padField, Field.pad, Field.padBy, Field.text]
  exact htext v.plainText

theorem expandParts_literal (keywords : Option (Dict Value)) (t : Text) :
    expandParts keywords left (t.map .literal ++ rest) =
      (expandParts keywords left rest).map fun (more, left) => (t ++ more, left) := by
  induction t with
  | nil => cases h : expandParts keywords left rest <;> simp [h, Except.map]
  | cons c t ih =>
    rw [List.map_cons, List.cons_append, expandParts, ih]
    cases expandParts keywords left rest <;> rfl

theorem expandParts_key (k : Identifier) :
    expandParts (some fields) left (.conversion (keyConversion k) :: rest) =
      match fields.get? k.text with
      | some v =>
        (expandParts (some fields) left rest).map fun (more, left) => (v.plainText ++ more, left)
      | none => .error (.missingKey k.text) := by
  have hselect : (keyConversion k).select (some fields) left =
      match fields.get? k.text with
      | some v => .ok (v, left)
      | none => .error (.missingKey k.text) := rfl
  rw [expandParts, hselect]
  cases fields.get? k.text with
  | none => rfl
  | some v =>
    simp only [bind, Except.bind, expand_keyConversion]
    cases expandParts (some fields) left rest <;> rfl

theorem expandParts_partsOf (fields : Dict Value) (left : List Value) (parts : List MappingPart) :
    expandParts (some fields) left (parts.flatMap partsOf) =
      (fillMapping fields parts).map (·, left) := by
  induction parts with
  | nil => rfl
  | cons p parts ih =>
    rw [List.flatMap_cons]
    cases p with
    | literal t =>
      rw [partsOf, expandParts_literal, ih, fillMapping_literal]
      cases fillMapping fields parts <;> rfl
    | key k =>
      rw [partsOf, List.singleton_append, expandParts_key, ih, fillMapping_key]
      cases fields.get? k.text with
      | none => rfl
      | some v => cases fillMapping fields parts <;> rfl

theorem expand_toPercent (fields : Dict Value) (parts : List MappingPart) :
    expand (parts.flatMap MappingPart.toPercent) (.object fields) = fillMapping fields parts := by
  rw [expand, scan_toPercent]
  dsimp only
  rw [Value.fields?, expandParts_partsOf]
  cases fillMapping fields parts <;> rfl

end TextTable.Percent
