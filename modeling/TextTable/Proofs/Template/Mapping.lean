import Mathlib.Data.List.TakeWhile
import TextTable.Function.Builtin

/-! # Mapping templates

A mapping template is a sequence of texts and keys. It can be written in three notations, which
escape different characters and mark a key in different ways.
-/

namespace TextTable

def isIdentifier : Text → Bool
  | [] => false
  | c :: rest => (c.isAlpha || c = '_') && rest.all fun c => c.isAlphanum || c = '_'

structure Identifier where
  text : Text
  isIdentifier : isIdentifier text = true

inductive MappingPart where
  | literal (t : Text)
  | key (k : Identifier)

def doubled (escapes : Char → Bool) (t : Text) : Text :=
  t.flatMap fun c => if escapes c then [c, c] else [c]

namespace MappingPart

def toBrace : MappingPart → Text
  | .literal t => doubled (fun c => c = '{' || c = '}') t
  | .key k => '{' :: k.text ++ ['}']

def toPercent : MappingPart → Text
  | .literal t => doubled (· = '%') t
  | .key k => '%' :: '(' :: k.text ++ [')', 's']

def toDollar : MappingPart → Text
  | .literal t => doubled (· = '$') t
  | .key k => '$' :: '{' :: k.text ++ ['}']

def missingKey? (fields : Dict Value) : MappingPart → Option Text
  | .literal _ => none
  | .key k => if (fields.get? k.text).isSome then none else some k.text

def shown (fields : Dict Value) : MappingPart → Text
  | .literal t => t
  | .key k => ((fields.get? k.text).map Value.plainText).getD []

end MappingPart

/-- The text of a mapping template: literals as they are, and the texts of the values of keys. The
first missing key is an error. -/
def fillMapping (fields : Dict Value) (parts : List MappingPart) : Except FormatError Text :=
  match parts.findSome? (MappingPart.missingKey? fields) with
  | some key => .error (.missingKey key)
  | none => .ok (parts.flatMap (MappingPart.shown fields))

theorem doubled_cons (escapes : Char → Bool) (c : Char) (t : Text) :
    doubled escapes (c :: t) = (if escapes c then [c, c] else [c]) ++ doubled escapes t := rfl

def Scan.prepend {α : Type} (parts : List α) (s : Scan α) : Scan α :=
  ⟨parts ++ s.parts, s.fault⟩

variable {fields : Dict Value} {parts : List MappingPart}

theorem fillMapping_literal (t : Text) :
    fillMapping fields (.literal t :: parts) = (fillMapping fields parts).map (t ++ ·) := by
  simp only [fillMapping, List.findSome?_cons, MappingPart.missingKey?]
  cases parts.findSome? (MappingPart.missingKey? fields) <;> rfl

theorem fillMapping_key (k : Identifier) : fillMapping fields (.key k :: parts) =
    match fields.get? k.text with
    | some v => (fillMapping fields parts).map (v.plainText ++ ·)
    | none => .error (.missingKey k.text) := by
  simp only [fillMapping, List.findSome?_cons, MappingPart.missingKey?, List.flatMap_cons,
    MappingPart.shown]
  cases fields.get? k.text with
  | none => rfl
  | some v =>
    simp only [Option.isSome_some, if_true, Option.map_some, Option.getD_some]
    cases parts.findSome? (MappingPart.missingKey? fields) <;> rfl

namespace Identifier

variable (k : Identifier)

theorem exists_cons : ∃ c rest, k.text = c :: rest ∧ (c.isAlpha || c = '_') = true ∧
    ∀ c ∈ rest, (c.isAlphanum || c = '_') = true := by
  have h := k.isIdentifier
  unfold TextTable.isIdentifier at h
  split at h
  · contradiction
  · next c rest ht =>
    obtain ⟨hc, hrest⟩ := Bool.and_eq_true_iff.mp h
    exact ⟨c, rest, ht, hc, List.all_eq_true.mp hrest⟩

theorem isDigit_eq_false {c : Char} (h : (c.isAlpha || c = '_') = true) : c.isDigit = false := by
  refine Bool.eq_false_iff.mpr fun hd => ?_
  obtain ⟨-, hd⟩ := Char.isDigit_iff_toNat.mp hd
  rcases Bool.or_eq_true_iff.mp h with h | h
  · rcases Bool.or_eq_true_iff.mp h with h | h
    · have hA := UInt32.le_iff_toNat_le.mp (of_decide_eq_true h).1
      exact absurd (Nat.le_trans hA hd) (by decide)
    · have ha := UInt32.le_iff_toNat_le.mp (of_decide_eq_true (Bool.and_eq_true_iff.mp h).1)
      exact absurd (Nat.le_trans ha hd) (by decide)
  · rw [of_decide_eq_true h] at hd
    exact absurd hd (by decide)

theorem isWord {c : Char} (hc : c ∈ k.text) : (c.isAlphanum || c = '_') = true := by
  obtain ⟨d, rest, ht, hd, hrest⟩ := k.exists_cons
  rcases List.mem_cons.mp (ht ▸ hc) with rfl | hc
  · rcases Bool.or_eq_true_iff.mp hd with h | h <;> simp [Char.isAlphanum, h]
  · exact hrest c hc

theorem ne_of_mem {c d : Char} (hc : c ∈ k.text) (hd : (d.isAlphanum || d = '_') = false) :
    c ≠ d := by
  rintro rfl
  rw [k.isWord hc] at hd
  contradiction

end Identifier

end TextTable
