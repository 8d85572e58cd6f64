import TextTable.Proofs.Format.EmptySpec
import TextTable.Proofs.Template.Field
import TextTable.Proofs.Template.Mapping

/-! # Mapping templates in braces

A mapping template in braces is scanned into its parts, with a replacement for every key.
-/

namespace TextTable.Brace

theorem isPlain_of_mem (k : Identifier) {c : Char} (hc : c ∈ k.text) : IsPlain c := by
  refine ⟨?_, ?_, ?_, ?_, ?_, ?_, ?_⟩ <;> exact k.ne_of_mem hc (by decide)

theorem readSize_identifier (k : Identifier) : readSize k.text = none := by
  obtain ⟨c, rest, ht, hc, -⟩ := k.exists_cons
  have hdigit := Identifier.isDigit_eq_false hc
  have hplus : c ≠ '+' := k.ne_of_mem (ht ▸ List.mem_cons_self) (by decide)
  rw [ht]
  simp [readSize, hplus, hdigit]

def keyField (k : Identifier) : Replacement where
  argument := .keyword k.text
  path := .done
  conversion := none
  spec := []

theorem ofText_identifier (k : Identifier) : Replacement.ofText k.text = keyField k := by
  have hplain : IsNameOf k.text (.ofName k.text) [] := isNameOf_plain fun _ => isPlain_of_mem k
  have hsplit : splitName 0 k.text = (k.text, []) := by
    simpa [splitName] using hplain.isInName []
  have hne : k.text.isEmpty = false := by
    obtain ⟨c, rest, ht, -⟩ := k.exists_cons
    rw [ht]
    rfl
  have hname : Argument.ofName k.text = .keyword k.text := by
    simp [Argument.ofName, hne, readSize_identifier]
  rw [Replacement.ofText, hsplit]
  simp only [splitConversion, hplain.argument, hplain.path, hname]
  rfl

theorem scan_literal (t rest : Text) :
    scan (doubled (fun c => c = '{' || c = '}') t ++ rest) =
      (scan rest).prepend (t.map .literal) := by
  induction t with
  | nil => rfl
  | cons c t ih =>
    rw [doubled_cons]
    by_cases ho : c = '{'
    · subst ho
      simp [scan, ih, Scan.prepend, Scan.cons]
    by_cases hc : c = '}'
    · subst hc
      simp [scan, ih, Scan.prepend, Scan.cons]
    simp [scan, ih, Scan.prepend, Scan.cons, ho, hc]

theorem scan_key (k : Identifier) (rest : Text) :
    scan ('{' :: k.text ++ '}' :: rest) = (scan rest).prepend [.replacement (keyField k)] := by
  have hplain : IsNameOf k.text (.ofName k.text) [] := isNameOf_plain fun _ => isPlain_of_mem k
  rw [scan_field hplain.inner, if_pos hplain.balanced, ofText_identifier]
  rfl

def partsOf : MappingPart → List Part
  | .literal t => t.map .literal
  | .key k => [.replacement (keyField k)]

theorem scan_part (p : MappingPart) (rest : Text) :
    scan (p.toBrace ++ rest) = (scan rest).prepend (partsOf p) := by
  cases p with
  | literal t => exact scan_literal t rest
  | key k =>
    rw [MappingPart.toBrace, List.append_assoc]
    exact scan_key k rest

theorem scan_toBrace (parts : List MappingPart) :
    scan (parts.flatMap MappingPart.toBrace) = ⟨parts.flatMap partsOf, none⟩ := by
  induction parts with
  | nil => rfl
  | cons p parts ih => rw [List.flatMap_cons, scan_part, ih]; rfl

variable {fields : Dict Value} {template : Text} {numbering : Numbering} {rest : List Part}

theorem expandParts_literal (args : Arguments) (t : Text) :
    expandParts template args numbering (t.map .literal ++ rest) =
      (expandParts template args numbering rest).map (t ++ ·) := by
  induction t with
  | nil => cases h : expandParts template args numbering rest <;> simp [h, Except.map]
  | cons c t ih =>
    rw [List.map_cons, List.cons_append, expandParts, ih]
    cases expandParts template args numbering rest <;> rfl

theorem expandParts_key (k : Identifier) :
    expandParts template { keywords := fields } numbering (.replacement (keyField k) :: rest) =
      match fields.get? k.text with
      | some v =>
        (expandParts template { keywords := fields } numbering rest).map (v.plainText ++ ·)
      | none => .error (.missingKey k.text) := by
  have hselect : (Arguments.select { keywords := fields } numbering (keyField k).argument) =
      match fields.get? k.text with
      | some v => .ok (v, numbering)
      | none => .error (.missingKey k.text) := rfl
  rw [expandParts, hselect]
  cases fields.get? k.text with
  | none => rfl
  | some v =>
    have hexpand : (keyField k).expand template v = .ok v.plainText := formatValue_nil v
    simp only [Except.mapError, bind, Except.bind, hexpand]
    cases expandParts template { keywords := fields } numbering rest <;> rfl

theorem expandParts_partsOf (fields : Dict Value) (parts : List MappingPart) :
    expandParts template { keywords := fields } numbering (parts.flatMap partsOf) =
      fillMapping fields parts := by
  induction parts with
  | nil => rfl
  | cons p parts ih =>
    rw [List.flatMap_cons]
    cases p with
    | literal t => rw [partsOf, expandParts_literal, ih, fillMapping_literal]
    | key k =>
      rw [partsOf, List.singleton_append, expandParts_key, ih]
      exact (fillMapping_key k).symm

theorem expand_toBrace (fields : Dict Value) (parts : List MappingPart) :
    expand (parts.flatMap MappingPart.toBrace) { keywords := fields } =
      fillMapping fields parts := by
  rw [expand, scan_toBrace]
  dsimp only
  rw [expandParts_partsOf]
  cases fillMapping fields parts <;> rfl

end TextTable.Brace
