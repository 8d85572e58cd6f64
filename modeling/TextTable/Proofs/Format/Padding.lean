import TextTable.Proofs.Format.Integer
import TextTable.Proofs.Format.Magnitude

/-! # Padding

The width of a spec only inserts fill characters into the text that the spec gives without it. It
never cuts a text and never changes whether a value can be shown.
-/

namespace TextTable

def FormatError.withoutSpec : FormatError → FormatError
  | .invalidSpec _ fault => .invalidSpec [] fault
  | e => e

namespace FormatSpec

/-- The value is shown as a number, as a truth value is under a type code of numbers. -/
def asNumber (s : FormatSpec) : Value → Bool
  | .int _ | .float _ => true
  | .bool _ => s.code ≠ none ∧ s.code ≠ some 's'
  | _ => false

/-- Where the padding goes. Without an alignment in the spec, numbers are padded in front, with the
zero flag after the sign, and texts at the end. -/
def alignFor (s : FormatSpec) (v : Value) : FieldAlign :=
  s.align.getD (if s.asNumber v then if s.zeroPad then .afterSign else .right else .left)

/-- The sign and the mark of the radix in front of the digits of a number, of which a character has
none. -/
inductive HasLead (s : FormatSpec) : Text → Text → Prop
  | character (t : Text) : s.code = some 'c' → HasLead s [] t
  | number (sign digits : Text) : s.code ≠ some 'c' → sign ∈ [[], ['-'], ['+'], [' ']] →
      digits.Avoids isSignChar → HasLead s (sign ++ s.markText) digits

/-- `n` fill characters inserted into a text. In the middle the smaller half goes in front. -/
inductive Inserts (s : FormatSpec) (fill : Char) (n : Nat) : FieldAlign → Text → Text → Prop
  | left (t : Text) : Inserts s fill n .left t (t ++ List.replicate n fill)
  | right (t : Text) : Inserts s fill n .right t (List.replicate n fill ++ t)
  | center (t : Text) : Inserts s fill n .center t
      (List.replicate (n / 2) fill ++ t ++ List.replicate (n - n / 2) fill)
  | afterSign (lead digits : Text) : s.HasLead lead digits →
      Inserts s fill n .afterSign (lead ++ digits) (lead ++ List.replicate n fill ++ digits)

inductive Widens (s : FormatSpec) (v : Value) :
    Except FormatError Text → Except FormatError Text → Prop
  | error (e₀ e : FormatError) : e₀.withoutSpec = e.withoutSpec → Widens s v (.error e₀) (.error e)
  | ok (t₀ t : Text) :
      s.Inserts (s.fill.getD (if s.zeroPad then '0' else ' ')) (s.width.getD 0 - t₀.length)
        (s.alignFor v) t₀ t →
      t.length = max (s.width.getD 0) t₀.length → Widens s v (.ok t₀) (.ok t)

/-- What is known of the field of a value that is shown as a number or as a text. -/
inductive IsFieldOf (s : FormatSpec) : Bool → Field → Prop
  | text (f : Field) : f.lead = [] → f.align = s.align.getD .left → s.align ≠ some .afterSign →
      IsFieldOf s false f
  | character (f : Field) : s.code = some 'c' → f.lead = [] → f.align = s.align.getD .right →
      IsFieldOf s true f
  | number (f : Field) : s.HasLead f.lead f.body → f.align = s.numericAlign → IsFieldOf s true f

variable {s : FormatSpec} {v : Value} {f : Field} {t : Text}

theorem Inserts.of_padBy (fill : Char) (n : Nat)
    (h : f.align = .afterSign → s.HasLead f.lead f.body) :
    s.Inserts fill n f.align f.text (f.padBy fill n) := by
  unfold Field.padBy
  split
  · next halign => exact halign ▸ .left f.text
  · next halign => exact halign ▸ .right f.text
  · next halign => exact halign ▸ .center f.text
  · next halign => exact halign ▸ .afterSign f.lead f.body (h halign)

theorem isFieldOf_text (h : s.textField t = .ok f) : s.IsFieldOf false f := by
  unfold textField at h
  split at h
  case h_3 => contradiction
  all_goals
    split_ifs at h with _ _ _ halign
    cases h
    exact .text _ rfl rfl halign

theorem isFieldOf_character {n : Int} (hcode : s.code = some 'c')
    (h : s.characterField n = .ok f) : s.IsFieldOf true f := by
  unfold characterField at h
  split at h
  · cases h
    exact .character _ hcode rfl rfl
  · contradiction

theorem sign_text_mem (sign : Sign) (negative : Bool) :
    sign.text negative ∈ [[], ['-'], ['+'], [' ']] := by
  cases sign <;> cases negative <;> decide

theorem HasRadix.code_ne {r : Radix} (h : HasRadix s.code r) : s.code ≠ some 'c' := by
  intro hcode
  rw [hcode] at h
  cases h

theorem isFieldOf_radix {r : Radix} {n : Int} (hcode : HasRadix s.code r)
    (h : s.radixField r n = .ok f) : s.IsFieldOf true f := by
  unfold radixField at h
  split at h
  · contradiction
  split at h
  · contradiction
  cases h
  refine .number _ ?_ rfl
  dsimp only
  rw [← hcode.markText_eq]
  refine .number _ _ hcode.code_ne (sign_text_mem _ _) fun c hc => ?_
  rw [head?_group] at hc
  have hmem := (r.isNumeral_digits n.natAbs).mem c (List.mem_of_mem_head? hc)
  exact Radix.isSignChar_of_mem (List.mem_append_right _ hmem)

/-- The type code is none of characters or of a radix other than ten. -/
def IsFloatCode (s : FormatSpec) : Prop := ∀ c ∈ s.code, c ∉ ['c', 'b', 'o', 'x', 'X']

theorem IsFloatCode.markText_eq (h : s.IsFloatCode) : s.markText = [] := by
  unfold markText
  split
  · next c hc =>
    refine if_neg fun hmem => h c hc (List.mem_cons_of_mem _ hmem.2)
  · rfl

theorem isFloatCode_of_doubleBody {x : Double} {body : Text} (h : s.doubleBody x = .ok body) :
    s.IsFloatCode := by
  intro c hc hmem
  simp only [List.mem_cons, List.not_mem_nil, or_false] at hmem
  rcases hmem with rfl | rfl | rfl | rfl | rfl <;>
  · rw [doubleBody, show s.code = some _ from hc] at h
    contradiction

theorem isFieldOf_float {x : Rounded} (hcode : s.IsFloatCode) (h : s.floatField x = .ok f) :
    s.IsFieldOf true f := by
  have hfield {negative : Bool} {body : Text} (hbody : body.Avoids isSignChar) : s.IsFieldOf true {
      lead := s.sign.text negative
      body := s.groupWhole body
      align := s.numericAlign } := by
    have hlead := HasLead.number (s := s) _ (s.groupWhole body)
      (fun hc => hcode 'c' hc (by decide)) (sign_text_mem s.sign negative)
      (by rwa [Text.Avoids, head?_groupWhole])
    rw [hcode.markText_eq, List.append_nil] at hlead
    exact .number _ hlead rfl
  unfold floatField at h
  cases x with
  | finite x =>
    obtain ⟨body, hbody, heq⟩ := bind_eq_ok_iff.mp h
    cases heq
    exact hfield (avoids_doubleBody hbody)
  | infinite _ =>
    cases h
    exact hfield fun _ hc => Option.some.inj hc ▸ rfl

theorem isFieldOf_integer {n : Int} (h : s.integerField n = .ok f) : s.IsFieldOf true f := by
  unfold integerField at h
  split at h
  · next r hr => exact isFieldOf_radix (hasRadix_iff.mpr hr) h
  · next hr =>
    split at h
    · next hcode => exact isFieldOf_character hcode h
    · next code _ hcode =>
      split at h
      · next hmem =>
        have hnone : ∀ c ∈ ['e', 'E', 'f', 'F', 'g', 'G', '%'], c ∉ ['c', 'b', 'o', 'x', 'X'] := by
          simp
        refine isFieldOf_float (fun c hc => ?_) h
        obtain rfl : code = c := Option.some.inj (hcode.symm.trans hc)
        exact hnone code hmem
      · contradiction
    · next hcode =>
      rw [hcode] at hr
      contradiction

theorem isFieldOf_field (h : s.field v = .ok f) : s.IsFieldOf (s.asNumber v) f := by
  cases v with
  | null => exact isFieldOf_text h
  | bool b =>
    have hnumber : s.asNumber (.bool b) = decide (s.code ≠ none ∧ s.code ≠ some 's') := rfl
    unfold field at h
    dsimp only at h
    split at h
    · next hcode =>
      rw [hnumber, hcode]
      exact isFieldOf_text h
    · next hcode =>
      rw [hnumber, hcode]
      exact isFieldOf_text h
    · next code hs hcode =>
      have hne : code ≠ 's' := hs
      have htrue : s.asNumber (.bool b) = true := by simp [hnumber, hcode, hne]
      rw [htrue]
      exact isFieldOf_integer h
  | int n => exact isFieldOf_integer h
  | float x =>
    have hfloat : s.floatField (.finite x) = .ok f := h
    obtain ⟨body, hbody, -⟩ := bind_eq_ok_iff.mp (by rwa [floatField] at hfloat)
    exact isFieldOf_float (isFloatCode_of_doubleBody hbody) hfloat
  | string t => exact isFieldOf_text h
  | array items => exact isFieldOf_text h
  | object fields => exact isFieldOf_text h

theorem floatField_withoutWidth (s : FormatSpec) (x : Rounded) :
    { s with width := none }.floatField x = s.floatField x := by
  unfold floatField
  rfl

theorem integerField_withoutWidth (s : FormatSpec) (n : Int) :
    { s with width := none }.integerField n = s.integerField n := by
  have hradix (r : Radix) : { s with width := none }.radixField r n = s.radixField r n := rfl
  have hcharacter : { s with width := none }.characterField n = s.characterField n := rfl
  simp only [integerField, hradix, hcharacter, floatField_withoutWidth]

theorem field_withoutWidth (s : FormatSpec) (v : Value) :
    { s with width := none }.field v = s.field v := by
  have htext (t : Text) : { s with width := none }.textField t = s.textField t := rfl
  cases v <;> simp only [field, htext, floatField_withoutWidth, integerField_withoutWidth]

theorem IsFieldOf.inserts_padBy (h : s.IsFieldOf (s.asNumber v) f) (fill : Char) (n : Nat) :
    s.Inserts fill n (s.alignFor v) f.text (f.padBy fill n) := by
  generalize hv : s.asNumber v = number at h
  cases h with
  | text _ hlead halign hne =>
    have hfor : s.alignFor v = f.align := by simp [alignFor, hv, halign]
    rw [hfor]
    refine .of_padBy fill n fun hafter => ?_
    rw [halign] at hafter
    cases hs : s.align with
    | none =>
      rw [hs] at hafter
      contradiction
    | some a =>
      rw [hs] at hafter
      exact absurd (hs.trans (congrArg some hafter)) hne
  -- A character has no sign, so that padding after the sign is padding in front.
  | character _ hcode hlead halign =>
    have hcharacter : s.HasLead f.lead f.body := hlead ▸ .character f.body hcode
    by_cases hfor : s.alignFor v = f.align
    · rw [hfor]
      exact .of_padBy fill n fun _ => hcharacter
    · have hfront : f.align = .right ∧ s.alignFor v = .afterSign := by
        cases hs : s.align <;> cases hz : s.zeroPad <;> simp_all [alignFor]
      have hpad : f.padBy fill n = f.lead ++ List.replicate n fill ++ f.body := by
        simp [Field.padBy, Field.text, hfront.1, hlead]
      rw [hfront.2, hpad]
      exact .afterSign f.lead f.body hcharacter
  | number _ hlead halign =>
    have hfor : s.alignFor v = f.align := by simp [alignFor, numericAlign, hv, halign]
    rw [hfor]
    exact .of_padBy fill n fun _ => hlead

theorem withoutSpec_withSpec (p : Text) (e : FormatError) :
    (e.withSpec p).withoutSpec = e.withoutSpec := by
  unfold FormatError.withSpec
  split <;> rfl

theorem format_widens (s : FormatSpec) (v : Value) :
    s.Widens v ({ s with width := none }.format v) (s.format v) := by
  rw [format, format, field_withoutWidth]
  cases hf : s.field v with
  | error e => exact .error e e rfl
  | ok f =>
    simp only [Except.map, padField_of_width (s := { s with width := none }) rfl]
    exact .ok _ _ ((isFieldOf_field hf).inserts_padBy _ _) (f.length_pad _ _)

theorem Widens.mapError {x₀ x : Except FormatError Text} {g₀ g : FormatError → FormatError}
    (h : s.Widens v x₀ x) (h₀ : ∀ e, (g₀ e).withoutSpec = e.withoutSpec)
    (h₁ : ∀ e, (g e).withoutSpec = e.withoutSpec) :
    s.Widens v (x₀.mapError g₀) (x.mapError g) := by
  cases h with
  | error e₀ e h => exact .error _ _ ((h₀ e₀).trans (h.trans (h₁ e).symm))
  | ok t₀ t h hlength => exact .ok t₀ t h hlength

end FormatSpec

open FormatSpec

/-- The width of a spec only pads. A value is refused with or without it and for the same reason,
and otherwise the width inserts the fill characters that are missing. -/
theorem formatValue_widens (v : Value) (p : Text) (s : FormatSpec) (hp : parse p = .ok s) :
    s.Widens v ({ s with width := none }.format v) (formatValue v p) ∧
    ∀ p₀, parse p₀ = .ok { s with width := none } →
      s.Widens v (formatValue v p₀) (formatValue v p) := by
  have hshown {p : Text} {s : FormatSpec} (hp : parse p = .ok s) :
      formatValue v p = (s.format v).mapError (FormatError.withSpec p) := by
    simp only [formatValue, hp]
  have hwidens := format_widens s v
  constructor
  · rw [hshown hp]
    have hsame : ({ s with width := none }.format v).mapError id =
      { s with width := none }.format v := by cases { s with width := none }.format v <;> rfl
    rw [← hsame]
    exact hwidens.mapError (fun _ => rfl) (withoutSpec_withSpec p)
  · intro p₀ hp₀
    rw [hshown hp, hshown hp₀]
    exact hwidens.mapError (withoutSpec_withSpec p₀) (withoutSpec_withSpec p)

/-- A width, a fill, and padding after the sign and the mark of the radix. -/
def filledHex : FormatSpec where
  fill := some '*'
  align := some .afterSign
  alternate := true
  width := some 12
  grouping := some .underscore
  code := some 'x'

theorem filledHex_widens :
    parse "*=#12_x".toList = .ok filledHex ∧
      parse "*=#_x".toList = .ok { filledHex with width := none } ∧
      formatValue (.int (-48879)) "*=#_x".toList = .ok "-0xbeef".toList ∧
      formatValue (.int (-48879)) "*=#12_x".toList = .ok "-0x*****beef".toList ∧
      filledHex.Widens (.int (-48879)) (.ok "-0xbeef".toList) (.ok "-0x*****beef".toList) := by
  have hp : parse "*=#12_x".toList = .ok filledHex := rfl
  have hp₀ : parse "*=#_x".toList = .ok { filledHex with width := none } := rfl
  have ht₀ : formatValue (.int (-48879)) "*=#_x".toList = .ok "-0xbeef".toList := rfl
  have ht : formatValue (.int (-48879)) "*=#12_x".toList = .ok "-0x*****beef".toList := rfl
  have hwidens := (formatValue_widens (.int (-48879)) "*=#12_x".toList filledHex hp).2 _ hp₀
  rw [ht₀, ht] at hwidens
  exact ⟨hp, hp₀, ht₀, ht, hwidens⟩

end TextTable
