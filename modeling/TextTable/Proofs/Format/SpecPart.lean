import Mathlib.Data.List.TakeWhile
import TextTable.Format.Spec
import TextTable.Proofs.Except
import TextTable.Proofs.Number.Digits

/-! # The parts of a format spec

Each part of a spec is taken from the front of a text. A part that is absent is one that the text
does not start with, and so a text is read in one way only.
-/

namespace TextTable

def Text.Avoids (t : Text) (p : Char → Bool) : Prop := ∀ c ∈ t.head?, p c = false

structure IsNumeral (digits rest : Text) : Prop where
  isDigit : ∀ c ∈ digits, c.isDigit = true
  stop : rest.Avoids Char.isDigit

theorem FieldAlign.ofChar?_eq_some_iff {c : Char} {a : FieldAlign} :
    ofChar? c = some a ↔ c = a.char := by
  constructor
  · unfold ofChar?
    split <;> rintro ⟨⟩ <;> rfl
  · rintro rfl
    exact ofChar?_char a

@[simp] theorem Grouping.ofChar?_char (g : Grouping) : ofChar? g.char = some g := by
  cases g <;> rfl

theorem Grouping.ofChar?_eq_some_iff {c : Char} {g : Grouping} :
    ofChar? c = some g ↔ c = g.char := by
  constructor
  · unfold ofChar?
    split <;> rintro ⟨⟩ <;> rfl
  · rintro rfl
    exact ofChar?_char g

def isAlignChar (c : Char) : Bool := (FieldAlign.ofChar? c).isSome

@[simp] theorem isAlignChar_char (a : FieldAlign) : isAlignChar a.char = true := by
  simp [isAlignChar]

theorem isAlignChar_eq_false_iff {c : Char} :
    isAlignChar c = false ↔ FieldAlign.ofChar? c = none := by
  simp [isAlignChar]

namespace FormatSpec

variable {s : FormatSpec} {t rest digits : Text} {flag : Char} {b : Bool}

/-- A character before an alignment character is a fill, so without a fill none may follow. -/
theorem takeAlign_eq_iff {fill : Option Char} {align : Option FieldAlign} :
    takeAlign t = (fill, align, rest) ↔
      t = fill.toList ++ (align.map FieldAlign.char).toList ++ rest ∧
        (fill = none → rest.Avoids isAlignChar) ∧
        (align = none → fill = none ∧ Text.Avoids rest.tail isAlignChar) := by
  constructor
  · intro h
    unfold takeAlign at h
    split at h
    · cases h
      simp [Text.Avoids]
    · next c =>
      split at h
      · next a ha =>
        cases h
        obtain rfl := FieldAlign.ofChar?_eq_some_iff.mp ha
        simp [Text.Avoids]
      · next hc =>
        cases h
        simp [Text.Avoids, isAlignChar, hc]
    · next c d t =>
      split at h
      · next a ha =>
        cases h
        obtain rfl := FieldAlign.ofChar?_eq_some_iff.mp ha
        simp
      · next hd =>
        split at h
        · next a ha =>
          cases h
          obtain rfl := FieldAlign.ofChar?_eq_some_iff.mp ha
          simp [Text.Avoids, isAlignChar, hd]
        · next hc =>
          cases h
          simp [Text.Avoids, isAlignChar, hc, hd]
  · rintro ⟨rfl, hfirst, hsecond⟩
    cases align with
    | some a =>
      cases fill with
      | some c => simp [takeAlign]
      | none =>
        cases rest with
        | nil => simp [takeAlign]
        | cons c rest =>
          have hc : FieldAlign.ofChar? c = none := isAlignChar_eq_false_iff.mp (hfirst rfl c rfl)
          simp [takeAlign, hc]
    | none =>
      obtain ⟨rfl, hnext⟩ := hsecond rfl
      rcases rest with _ | ⟨c, _ | ⟨d, rest⟩⟩
      · rfl
      · have hc : FieldAlign.ofChar? c = none := isAlignChar_eq_false_iff.mp (hfirst rfl c rfl)
        simp [takeAlign, hc]
      · have hc : FieldAlign.ofChar? c = none := isAlignChar_eq_false_iff.mp (hfirst rfl c rfl)
        have hd : FieldAlign.ofChar? d = none := isAlignChar_eq_false_iff.mp (hnext d rfl)
        simp [takeAlign, hc, hd]

theorem takeSign_char (sign : Sign) : takeSign (sign.char :: rest) = (sign, rest) := by
  simp [takeSign]

theorem takeSign_of_avoids (h : t.Avoids fun c => (Sign.ofChar? c).isSome) :
    takeSign t = (.minus, t) := by
  cases t with
  | nil => rfl
  | cons c t =>
    have hc : Sign.ofChar? c = none := by simpa using h c rfl
    simp [takeSign, hc]

theorem takeSign_cases {sign : Sign} (h : takeSign t = (sign, rest)) :
    t = rest ∨ ∃ c, t = c :: rest := by
  unfold takeSign at h
  split at h
  · cases h
    exact Or.inl rfl
  · split at h <;> cases h
    · exact Or.inr ⟨_, rfl⟩
    · exact Or.inl rfl

theorem takeFlag_eq_iff : takeFlag flag t = (b, rest) ↔
    t = (if b then [flag] else []) ++ rest ∧ (b = false → rest.Avoids (· = flag)) := by
  cases t with
  | nil => cases b <;> simp [takeFlag, Text.Avoids, eq_comm]; grind
  | cons c t =>
    by_cases h : c = flag <;> cases b <;> simp [takeFlag, Text.Avoids, h] <;> grind

theorem takeFlag_append (h : takeFlag flag ((if b then [flag] else []) ++ t) = (b, rest)) :
    rest = t ∧ (b = false → t.Avoids (· = flag)) := by
  obtain ⟨heq, havoid⟩ := takeFlag_eq_iff.mp h
  obtain rfl := List.append_cancel_left heq
  exact ⟨rfl, havoid⟩

theorem takeNumber_append (h : IsNumeral digits rest) :
    takeNumber (digits ++ rest) = (readDigits digits, rest) := by
  have hstop : rest.takeWhile Char.isDigit = [] ∧ rest.dropWhile Char.isDigit = rest := by
    cases rest with
    | nil => exact ⟨rfl, rfl⟩
    | cons c rest => simp [h.stop c rfl]
  rw [takeNumber, List.takeWhile_append_of_pos h.isDigit, List.dropWhile_append_of_pos h.isDigit,
    hstop.1, hstop.2, List.append_nil]

theorem exists_isNumeral (t : Text) :
    ∃ digits rest, t = digits ++ rest ∧ IsNumeral digits rest := by
  refine ⟨t.takeWhile Char.isDigit, t.dropWhile Char.isDigit, ?_, ?_, ?_⟩
  · exact List.takeWhile_append_dropWhile.symm
  · exact fun c hc => (List.mem_takeWhile_imp hc)
  · intro c hc
    have h := List.head?_dropWhile_not Char.isDigit t
    rwa [hc] at h

theorem takeNumber_eq_iff {n : Option Nat} : takeNumber t = (n, rest) ↔
    ∃ digits, t = digits ++ rest ∧ IsNumeral digits rest ∧ readDigits digits = n := by
  constructor
  · intro h
    obtain ⟨digits, rest', rfl, hd⟩ := exists_isNumeral t
    rw [takeNumber_append hd] at h
    cases h
    exact ⟨digits, rfl, hd, rfl⟩
  · rintro ⟨digits, rfl, hd, rfl⟩
    exact takeNumber_append hd

theorem takeGrouping_char (g : Grouping) : takeGrouping (g.char :: rest) = (some g, rest) := by
  simp [takeGrouping]

theorem takeGrouping_of_avoids (h : t.Avoids fun c => (Grouping.ofChar? c).isSome) :
    takeGrouping t = (none, t) := by
  cases t with
  | nil => rfl
  | cons c t =>
    have hc : Grouping.ofChar? c = none := by simpa using h c rfl
    simp [takeGrouping, hc]

theorem takeGrouping_eq_iff {g : Option Grouping} : takeGrouping t = (g, rest) ↔
    t = (g.map Grouping.char).toList ++ rest ∧
      (g = none → rest.Avoids fun c => (Grouping.ofChar? c).isSome) := by
  constructor
  · intro h
    cases t with
    | nil =>
      cases h
      refine ⟨rfl, fun _ c hc => ?_⟩
      cases hc
    | cons c t =>
      cases hc : Grouping.ofChar? c with
      | none =>
        simp only [takeGrouping, hc] at h
        cases h
        refine ⟨rfl, fun _ c' hc' => ?_⟩
        cases hc'
        simp [hc]
      | some g' =>
        simp only [takeGrouping, hc] at h
        cases h
        obtain rfl := Grouping.ofChar?_eq_some_iff.mp hc
        refine ⟨rfl, fun h => ?_⟩
        cases h
  · rintro ⟨rfl, h⟩
    cases g with
    | none => exact takeGrouping_of_avoids (h rfl)
    | some g => exact takeGrouping_char g

theorem takePrecision_of_avoids (h : t.Avoids (· = '.')) : takePrecision t = .ok (none, t) := by
  have hf : takeFlag '.' t = (false, t) := takeFlag_eq_iff.mpr ⟨rfl, fun _ => h⟩
  rw [takePrecision, hf]

theorem takePrecision_point {n : Nat} (h : IsNumeral digits rest)
    (hn : readDigits digits = some n) :
    takePrecision ('.' :: (digits ++ rest)) = .ok (some n, rest) := by
  have hf : takeFlag '.' ('.' :: (digits ++ rest)) = (true, digits ++ rest) := rfl
  rw [takePrecision, hf]
  simp only [takeNumber_append h, hn]

theorem takePrecision_eq_ok_iff {p : Option Nat} : takePrecision t = .ok (p, rest) ↔
    (p = none ∧ t = rest ∧ rest.Avoids (· = '.')) ∨
      ∃ digits n, p = some n ∧ t = '.' :: (digits ++ rest) ∧ IsNumeral digits rest ∧
        readDigits digits = some n := by
  constructor
  · intro h
    rcases hf : takeFlag '.' t with ⟨_ | _, t'⟩
    · obtain ⟨rfl, havoid⟩ := takeFlag_eq_iff.mp hf
      rw [takePrecision, hf] at h
      cases h
      exact Or.inl ⟨rfl, rfl, havoid rfl⟩
    · obtain ⟨rfl, -⟩ := takeFlag_eq_iff.mp hf
      obtain ⟨digits, rest', rfl, hd⟩ := exists_isNumeral t'
      rw [takePrecision, hf] at h
      cases hn : readDigits digits with
      | none => simp [takeNumber_append hd, hn] at h
      | some n =>
        simp only [takeNumber_append hd, hn] at h
        cases h
        exact Or.inr ⟨digits, n, rfl, rfl, hd, hn⟩
  · rintro (⟨rfl, rfl, h⟩ | ⟨digits, n, rfl, rfl, h, hn⟩)
    · exact takePrecision_of_avoids h
    · exact takePrecision_point h hn

theorem takeCode_eq_ok_iff {code : Option Char} : takeCode t = .ok code ↔ t = code.toList := by
  unfold takeCode
  split <;> cases code <;> simp_all [eq_comm]

theorem parse_eq_ok_iff : parse t = .ok s ↔
    ∃ t₁ t₂ t₃ t₄ t₅ t₆ t₇ t₈, takeAlign t = (s.fill, s.align, t₁) ∧ takeSign t₁ = (s.sign, t₂) ∧
      takeFlag 'z' t₂ = (s.noNegativeZero, t₃) ∧ takeFlag '#' t₃ = (s.alternate, t₄) ∧
      takeFlag '0' t₄ = (s.zeroPad, t₅) ∧ takeNumber t₅ = (s.width, t₆) ∧
      takeGrouping t₆ = (s.grouping, t₇) ∧ takePrecision t₇ = .ok (s.precision, t₈) ∧
      takeCode t₈ = .ok s.code := by
  constructor
  · intro h
    rcases h₁ : takeAlign t with ⟨fill, align, t₁⟩
    rcases h₂ : takeSign t₁ with ⟨sign, t₂⟩
    rcases h₃ : takeFlag 'z' t₂ with ⟨noNegativeZero, t₃⟩
    rcases h₄ : takeFlag '#' t₃ with ⟨alternate, t₄⟩
    rcases h₅ : takeFlag '0' t₄ with ⟨zeroPad, t₅⟩
    rcases h₆ : takeNumber t₅ with ⟨width, t₆⟩
    rcases h₇ : takeGrouping t₆ with ⟨grouping, t₇⟩
    simp only [parse, h₁, h₂, h₃, h₄, h₅, h₆, h₇, bind_eq_ok_iff] at h
    obtain ⟨⟨p, t₈⟩, h₈, code, h₉, ⟨⟩⟩ := h
    exact ⟨_, _, _, _, _, _, _, t₈, rfl, h₂, h₃, h₄, h₅, h₆, h₇, h₈, h₉⟩
  · rintro ⟨t₁, t₂, t₃, t₄, t₅, t₆, t₇, t₈, h₁, h₂, h₃, h₄, h₅, h₆, h₇, h₈, h₉⟩
    simp only [parse, h₁, h₂, h₃, h₄, h₅, h₆, h₇, bind_eq_ok_iff]
    exact ⟨_, h₈, _, h₉, rfl⟩

end FormatSpec

end TextTable
