import Mathlib.Tactic.SplitIfs
import TextTable.Proofs.Except
import TextTable.Format.Field

/-! # Refused values

A value is refused under a format spec for a fault of the spec, or for a type code that does not
apply to the value. No other error comes of a format spec.
-/

namespace TextTable

/-- A fault that a format spec can have. The others are faults of templates. -/
def SpecFault.isOfSpec : SpecFault → Bool
  | .missingPrecision | .trailingText | .integerPrecision | .radixGrouping _ _ | .characterRange _
  | .textSign | .textAlternate | .textGrouping | .textAfterSign => true
  | _ => false

inductive FormatError.IsRefusal : FormatError → Prop
  | fault {spec : Text} {fault : SpecFault} : fault.isOfSpec = true →
      IsRefusal (.invalidSpec spec fault)
  | code {code : Char} {type : ValueType} : IsRefusal (.typeMismatch code type)

open FormatError (IsRefusal)

variable {s : FormatSpec} {e : FormatError}

namespace FormatSpec

theorem isRefusal_radixField {r : Radix} {n : Int} (h : s.radixField r n = .error e) :
    e.IsRefusal := by
  unfold radixField at h
  split at h
  · cases h
    exact .fault rfl
  · split at h <;> cases h
    exact .fault rfl

theorem isRefusal_characterField {n : Int} (h : s.characterField n = .error e) : e.IsRefusal := by
  unfold characterField at h
  split at h <;> cases h
  exact .fault rfl

theorem isRefusal_doubleBody {x : Double} (h : s.doubleBody x = .error e) : e.IsRefusal := by
  unfold doubleBody at h
  split at h
  · split at h <;> cases h
  · split at h <;> cases h
    exact .code

theorem isRefusal_floatField {x : Rounded} (h : s.floatField x = .error e) : e.IsRefusal := by
  unfold floatField at h
  cases x with
  | infinite negative => cases h
  | finite x =>
    rcases bind_eq_error_iff.mp h with hbody | ⟨body, -, h⟩
    · exact isRefusal_doubleBody hbody
    · cases h

theorem isRefusal_integerField {n : Int} (h : s.integerField n = .error e) : e.IsRefusal := by
  unfold integerField at h
  split at h
  · exact isRefusal_radixField h
  · split at h
    · exact isRefusal_characterField h
    · split at h
      · exact isRefusal_floatField h
      · cases h
        exact .code
    · exact isRefusal_radixField h

theorem isRefusal_textField {t : Text} (h : s.textField t = .error e) : e.IsRefusal := by
  unfold textField at h
  split at h
  · split_ifs at h <;> cases h <;> exact .fault rfl
  · split_ifs at h <;> cases h <;> exact .fault rfl
  · cases h
    exact .code

theorem isRefusal_field {v : Value} (h : s.field v = .error e) : e.IsRefusal := by
  cases v with
  | null => exact isRefusal_textField h
  | bool b =>
    simp only [field] at h
    split at h
    · exact isRefusal_textField h
    · exact isRefusal_textField h
    · exact isRefusal_integerField h
  | int n => exact isRefusal_integerField (n := n) h
  | float x => exact isRefusal_floatField (x := .finite x) h
  | string t => exact isRefusal_textField (t := t) h
  | array items => exact isRefusal_textField (t := (Value.array items).toJson) h
  | object fields => exact isRefusal_textField (t := (Value.object fields).toJson) h

theorem isOfSpec_takePrecision {t : Text} {fault : SpecFault}
    (h : takePrecision t = .error fault) : fault.isOfSpec = true := by
  unfold takePrecision at h
  split at h
  · cases h
  · split at h <;> cases h
    rfl

theorem isOfSpec_takeCode {t : Text} {fault : SpecFault} (h : takeCode t = .error fault) :
    fault.isOfSpec = true := by
  unfold takeCode at h
  split at h <;> cases h
  rfl

theorem isOfSpec_parse {t : Text} {fault : SpecFault} (h : parse t = .error fault) :
    fault.isOfSpec = true := by
  unfold parse at h
  rcases bind_eq_error_iff.mp h with hprecision | ⟨⟨p, rest⟩, -, h⟩
  · exact isOfSpec_takePrecision hprecision
  · rcases bind_eq_error_iff.mp h with hcode | ⟨code, -, h⟩
    · exact isOfSpec_takeCode hcode
    · cases h

end FormatSpec

theorem FormatError.IsRefusal.withSpec (h : e.IsRefusal) (spec : Text) :
    (e.withSpec spec).IsRefusal := by
  cases h with
  | @fault t fault h => cases t <;> exact .fault h
  | code => exact .code

theorem isRefusal_formatValue {v : Value} {spec : Text} (h : formatValue v spec = .error e) :
    e.IsRefusal := by
  unfold formatValue at h
  split at h
  · next hparse =>
    cases h
    exact .fault (FormatSpec.isOfSpec_parse hparse)
  · obtain ⟨e', hformat, rfl⟩ := mapError_eq_error_iff.mp h
    exact (FormatSpec.isRefusal_field (map_eq_error_iff.mp hformat)).withSpec spec

end TextTable
