import TextTable.Proofs.Template.Mapping
import TextTable.Template.Dollar

/-! # Mapping templates with dollar signs

A mapping template with dollar signs is scanned into its parts. A name ends where its brace closes,
so nothing that comes after it is taken for a part of the name.
-/

namespace TextTable.Dollar

theorem isNameStart_of_identifier {c : Char} (h : (c.isAlpha || c = '_') = true) :
    isNameStart c = true := by
  rcases Bool.or_eq_true_iff.mp h with h | h <;> simp_all [isNameStart]

theorem isNameChar_of_mem (k : Identifier) {c : Char} (hc : c ∈ k.text) : isNameChar c = true := by
  have h := k.isWord hc
  simp only [Char.isAlphanum, Bool.or_eq_true, decide_eq_true_eq] at h
  rcases h with (h | h) | h <;> simp [isNameChar, isNameStart, h]

theorem takeName_identifier (k : Identifier) (rest : Text) :
    takeName (k.text ++ '}' :: rest) = some (k.text, '}' :: rest) := by
  obtain ⟨c, name, ht, hc, -⟩ := k.exists_cons
  have hname : ∀ d ∈ name, isNameChar d = true := fun d hd =>
    isNameChar_of_mem k (ht ▸ List.mem_cons_of_mem _ hd)
  have hclose : ¬ isNameChar '}' = true := by decide
  rw [ht, List.cons_append, takeName, if_pos (isNameStart_of_identifier hc),
    List.takeWhile_append_of_pos hname, List.dropWhile_append_of_pos hname,
    List.takeWhile_cons_of_neg hclose, List.dropWhile_cons_of_neg hclose, List.append_nil]

variable {size : Nat}

theorem scan_literal (t rest : Text) :
    scan size (doubled (· = '$') t ++ rest) = (scan size rest).prepend (t.map .literal) := by
  induction t with
  | nil => rfl
  | cons c t ih =>
    rw [doubled_cons]
    by_cases hc : c = '$'
    · subst hc
      simp [scan, takePlaceholder, ih, Scan.prepend, Scan.cons]
    · simp [scan, ih, Scan.prepend, Scan.cons, hc]

theorem takePlaceholder_key (k : Identifier) (rest : Text) :
    takePlaceholder ('{' :: (k.text ++ '}' :: rest)) = some (.key k.text, rest) := by
  rw [takePlaceholder, if_neg (by decide), if_pos rfl, takeName_identifier]
  rfl

theorem scan_key (k : Identifier) (rest : Text) :
    scan size ('$' :: '{' :: k.text ++ '}' :: rest) = (scan size rest).prepend [.key k.text] := by
  rw [List.cons_append, List.cons_append, scan, if_pos rfl]
  split
  · next h =>
    rw [takePlaceholder_key] at h
    cases h
    rfl
  · next h =>
    rw [takePlaceholder_key] at h
    contradiction

def partsOf : MappingPart → List Part
  | .literal t => t.map .literal
  | .key k => [.key k.text]

theorem scan_part (p : MappingPart) (rest : Text) :
    scan size (p.toDollar ++ rest) = (scan size rest).prepend (partsOf p) := by
  cases p with
  | literal t => exact scan_literal t rest
  | key k =>
    rw [MappingPart.toDollar, List.append_assoc]
    exact scan_key k rest

theorem scan_toDollar (parts : List MappingPart) :
    scan size (parts.flatMap MappingPart.toDollar) = ⟨parts.flatMap partsOf, none⟩ := by
  induction parts with
  | nil => rw [List.flatMap_nil, scan]; rfl
  | cons p parts ih => rw [List.flatMap_cons, scan_part, ih]; rfl

variable {fields : Dict Value} {rest : List Part}

theorem expandParts_literal (t : Text) : expandParts fields (t.map .literal ++ rest) =
    (expandParts fields rest).map (t ++ ·) := by
  induction t with
  | nil => cases h : expandParts fields rest <;> simp [h, Except.map]
  | cons c t ih =>
    rw [List.map_cons, List.cons_append, expandParts, ih]
    cases expandParts fields rest <;> rfl

theorem expandParts_partsOf (fields : Dict Value) (parts : List MappingPart) :
    expandParts fields (parts.flatMap partsOf) = fillMapping fields parts := by
  induction parts with
  | nil => rfl
  | cons p parts ih =>
    rw [List.flatMap_cons]
    cases p with
    | literal t => rw [partsOf, expandParts_literal, ih, fillMapping_literal]
    | key k =>
      rw [partsOf, List.singleton_append, expandParts, ih]
      exact (fillMapping_key k).symm

theorem expand_toDollar (fields : Dict Value) (parts : List MappingPart) :
    expand (parts.flatMap MappingPart.toDollar) fields = fillMapping fields parts := by
  rw [expand, scan_toDollar]
  dsimp only
  rw [expandParts_partsOf]
  cases fillMapping fields parts <;> rfl

end TextTable.Dollar
