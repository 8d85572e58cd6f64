import TextTable.Function.Builtin
import TextTable.Proofs.Except
import TextTable.Proofs.Template.Written

/-! # Arguments of percent templates

Every conversion without a key takes the next argument. A template takes all arguments, each of them
once and in order, or it fails.
-/

namespace TextTable.Percent

inductive TemplatePart where
  | literal (t : Text)
  | conversion (c : WrittenConversion)

namespace TemplatePart

def toText : TemplatePart → Text
  | .literal t => doubled (· = '%') t
  | .conversion c => c.toText

def scanned : TemplatePart → List Part
  | .literal t => t.map .literal
  | .conversion c => [.conversion c.conversion]

end TemplatePart

def templateText (parts : List TemplatePart) : Text := parts.flatMap TemplatePart.toText

def conversions : List TemplatePart → List WrittenConversion
  | [] => []
  | .literal _ :: parts => conversions parts
  | .conversion c :: parts => c :: conversions parts

def supplied (parts : List TemplatePart) (items : List Value) : List (WrittenConversion × Value) :=
  (conversions parts).zip items

def filled : List TemplatePart → List Text → Text
  | .literal t :: parts, texts => t ++ filled parts texts
  | .conversion _ :: parts, t :: texts => t ++ filled parts texts
  | _, _ => []

variable {parts : List TemplatePart} {items : List Value} {keywords : Option (Dict Value)}

@[simp] theorem conversions_literal (t : Text) :
    conversions (.literal t :: parts) = conversions parts := rfl

@[simp] theorem conversions_conversion (c : WrittenConversion) :
    conversions (.conversion c :: parts) = c :: conversions parts := rfl

@[simp] theorem supplied_literal (t : Text) :
    supplied (.literal t :: parts) items = supplied parts items := rfl

@[simp] theorem supplied_conversion (c : WrittenConversion) (v : Value) :
    supplied (.conversion c :: parts) (v :: items) = (c, v) :: supplied parts items := rfl

theorem scan_templateText (parts : List TemplatePart) (rest : Text) :
    scan (templateText parts ++ rest) =
      (scan rest).prepend (parts.flatMap TemplatePart.scanned) := by
  induction parts with
  | nil => rfl
  | cons p parts ih =>
    have hpart (rest : Text) : scan (p.toText ++ rest) = (scan rest).prepend p.scanned := by
      cases p with
      | literal t => exact scan_literal t rest
      | conversion c => exact c.scan_toText rest
    rw [templateText, List.flatMap_cons, List.append_assoc, hpart, ← templateText, ih]
    simp [Scan.prepend]

/-- A conversion with a parenthesis in front is read with a key, if it is read at all. -/
theorem exists_key_of_takeConversion {rest after : Text} {c : Conversion}
    (h : takeConversion ('(' :: rest) = .ok (c, after)) : ∃ key, c.key = some key := by
  obtain ⟨⟨key, t⟩, hkey, h⟩ := bind_eq_ok_iff.mp h
  rw [takeKey, if_pos rfl] at hkey
  cases hcut : Text.cutAt ')' rest with
  | none => simp [hcut] at hkey
  | some cut =>
    rw [hcut] at hkey
    cases hkey
    dsimp only at h
    split at h
    · contradiction
    · cases h
      exact ⟨cut.1, rfl⟩

theorem scan_paren_cases (rest : Text) :
    (∃ fault, scan ('%' :: '(' :: rest) = .stop fault) ∨
      ∃ c s, (∃ key, c.key = some key) ∧ scan ('%' :: '(' :: rest) = .cons (.conversion c) s := by
  cases h : takeConversion ('(' :: rest) with
  | ok r =>
    refine Or.inr ⟨r.1, scan r.2, exists_key_of_takeConversion h, ?_⟩
    exact scan_conversion h fun _ hd => Option.some.inj hd ▸ rfl
  | error fault =>
    refine Or.inl ⟨fault, ?_⟩
    rw [scan, if_pos rfl]
    · split <;> simp_all
    · simp

theorem expandParts_none_ne_ok {ps : List Part} {c : Conversion} {key : Text}
    (hmem : .conversion c ∈ ps) (hkey : c.key = some key) (left : List Value)
    (r : Text × List Value) : expandParts none left ps ≠ .ok r := by
  induction ps generalizing left r with
  | nil => contradiction
  | cons p ps ih =>
    intro h
    cases p with
    | literal d =>
      obtain ⟨r', h, -⟩ := map_eq_ok_iff.mp h
      have hmem : .conversion c ∈ ps := by simpa using hmem
      exact ih hmem left r' h
    | conversion d =>
      obtain ⟨⟨v, left'⟩, hselect, h⟩ := bind_eq_ok_iff.mp h
      obtain ⟨t, -, h⟩ := bind_eq_ok_iff.mp h
      obtain ⟨r', h, -⟩ := bind_eq_ok_iff.mp h
      rcases List.mem_cons.mp hmem with heq | hmem
      · cases heq
        simp [Conversion.select, hkey] at hselect
      · exact ih hmem left' r' h

theorem expandParts_conversion (c : WrittenConversion) (v : Value) (left : List Value)
    (rest : List Part) :
    expandParts keywords (v :: left) (.conversion c.conversion :: rest) =
      c.conversion.expand v >>= fun t =>
        (expandParts keywords left rest).map fun (more, left) => (t ++ more, left) := by
  have hselect : c.conversion.select keywords (v :: left) = .ok (v, left) := rfl
  rw [expandParts, hselect]
  simp only [bind, Except.bind]
  cases c.conversion.expand v with
  | error e => rfl
  | ok t => cases expandParts keywords left rest <;> rfl

/-- The conversions take the arguments from the front. What they cannot show is reported before
that the arguments do not suffice. -/
theorem expandParts_scanned (parts : List TemplatePart) (items : List Value) :
    expandParts keywords items (parts.flatMap TemplatePart.scanned) =
      (supplied parts items).mapM (fun p => p.1.conversion.expand p.2) >>= fun texts =>
        if (conversions parts).length ≤ items.length then
          .ok (filled parts texts, items.drop (conversions parts).length)
        else .error (.arguments .tooFew) := by
  induction parts generalizing items with
  | nil => rfl
  | cons p parts ih =>
    rw [List.flatMap_cons]
    cases p with
    | literal t =>
      rw [TemplatePart.scanned, expandParts_literal, ih, supplied_literal, conversions_literal]
      cases (supplied parts items).mapM fun p => p.1.conversion.expand p.2 with
      | error e => rfl
      | ok texts =>
        by_cases hle : (conversions parts).length ≤ items.length <;>
          simp [bind, Except.bind, Except.map, hle, filled]
    | conversion c =>
      cases items with
      | nil => rfl
      | cons v items =>
        rw [TemplatePart.scanned, List.singleton_append, expandParts_conversion, ih,
          supplied_conversion, List.mapM_cons, conversions_conversion]
        cases c.conversion.expand v with
        | error e => rfl
        | ok t =>
          cases (supplied parts items).mapM fun p => p.1.conversion.expand p.2 with
          | error e => rfl
          | ok texts =>
            by_cases hle : (conversions parts).length ≤ items.length <;>
              simp [bind, Except.bind, Except.map, pure, Except.pure, hle, filled]

theorem expand_templateText (parts : List TemplatePart) (items : List Value) :
    expand (templateText parts) (.array items) =
      (supplied parts items).mapM (fun p => p.1.conversion.expand p.2) >>= fun texts =>
        if (conversions parts).length = items.length then .ok (filled parts texts)
        else .error (.arguments
          (if (conversions parts).length < items.length then .tooMany else .tooFew)) := by
  have hscan : scan (templateText parts) = ⟨parts.flatMap TemplatePart.scanned, none⟩ := by
    simpa [scan, Scan.prepend, Scan.done] using scan_templateText parts []
  rw [expand, hscan]
  dsimp only
  rw [arguments, expandParts_scanned]
  cases (supplied parts items).mapM fun p => p.1.conversion.expand p.2 with
  | error e => rfl
  | ok texts =>
    have hempty : (items.drop (conversions parts).length).isEmpty =
        decide (items.length ≤ (conversions parts).length) := by
      rw [Bool.eq_iff_iff, List.isEmpty_iff, List.drop_eq_nil_iff, decide_eq_true_iff]
    rcases Nat.lt_trichotomy (conversions parts).length items.length with hlt | heq | hgt
    · simp [bind, Except.bind, hlt.le, hlt.ne, hlt, hempty, templateError, Value.fields?]
    · simp [bind, Except.bind, heq, templateError, Value.fields?, pure, Except.pure]
    · simp [bind, Except.bind, hgt.not_ge, hgt.ne', hgt.le]

/-- A value that is neither an array nor an object is its own only argument. -/
theorem expand_singleton {v : Value} (hfields : v.fields? = none)
    (harray : ∀ items, v ≠ .array items) (template : Text) :
    expand template v = expand template (.array [v]) := by
  cases v with
  | array items => exact absurd rfl (harray items)
  | object fields => contradiction
  | _ => rfl

theorem expand_paren_ne_ok {v : Value} (hfields : v.fields? = none) (parts : List TemplatePart)
    (rest t : Text) : expand (templateText parts ++ '%' :: '(' :: rest) v ≠ .ok t := by
  intro h
  obtain ⟨r, hparts, h⟩ := bind_eq_ok_iff.mp h
  obtain ⟨⟨⟩, hfault, -⟩ := bind_eq_ok_iff.mp h
  rw [scan_templateText] at hparts hfault
  rcases scan_paren_cases rest with ⟨fault, hscan⟩ | ⟨c, s, ⟨key, hkey⟩, hscan⟩
  · rw [hscan] at hfault
    contradiction
  · rw [hscan, hfields] at hparts
    exact expandParts_none_ne_ok (by simp [Scan.prepend, Scan.cons]) hkey _ r hparts

/-- Conversions and arguments are matched one to one. -/
theorem call_templateText (parts : List TemplatePart) (items : List Value) :
    (∀ t, Builtin.pformat.call (.array items) (templateText parts) = .ok t ↔
      (conversions parts).length = items.length ∧
        ∃ texts, List.Forall₂ (fun p s => p.1.conversion.expand p.2 = .ok s)
          (supplied parts items) texts ∧ t = filled parts texts) ∧
    ((∀ p ∈ supplied parts items, ∃ s, p.1.conversion.expand p.2 = .ok s) →
      (conversions parts).length ≠ items.length →
        Builtin.pformat.call (.array items) (templateText parts) = .error (.arguments
          (if (conversions parts).length < items.length then .tooMany else .tooFew))) ∧
    (∀ v spec, v.fields? = none → (∀ items, v ≠ .array items) →
      Builtin.pformat.call v spec = Builtin.pformat.call (.array [v]) spec) ∧
    ∀ v rest, v.fields? = none →
      ∀ t, Builtin.pformat.call v (templateText parts ++ '%' :: '(' :: rest) ≠ .ok t := by
  have hcall := expand_templateText parts items
  refine ⟨fun t => ?_, fun hok hne => ?_, ?_, ?_⟩
  · rw [Builtin.call, hcall, bind_eq_ok_iff]
    simp only [mapM_eq_ok_iff]
    constructor
    · rintro ⟨texts, htexts, h⟩
      split at h
      · next heq => exact ⟨heq, texts, htexts, (Except.ok.inj h).symm⟩
      · contradiction
    · rintro ⟨heq, texts, htexts, rfl⟩
      exact ⟨texts, htexts, if_pos heq⟩
  · obtain ⟨texts, htexts⟩ := exists_mapM_eq_ok_iff.mpr hok
    rw [Builtin.call, hcall, htexts]
    exact if_neg hne
  · exact fun v spec hfields harray => expand_singleton hfields harray spec
  · exact fun v rest hfields t => expand_paren_ne_ok hfields parts rest t

/-- A number with its sign and a cut text, both with length modifiers, before literals that could go
on with either conversion. -/
def signedPair : List TemplatePart :=
  [.conversion {
      flags := "+0".toList
      width := some 5
      precision := none
      modifiers := "h".toList
      code := 'd'
      isFlag := by simp [isFlag]
      width_pos := by simp
      isDigit := by simp
      isModifier := by simp [isModifier]
      code_not_mem := by decide },
    .literal "1%".toList,
    .conversion {
      flags := "-".toList
      width := some 4
      precision := some "2".toList
      modifiers := "ll".toList
      code := 's'
      isFlag := by simp [isFlag]
      width_pos := by simp
      isDigit := by simp
      isModifier := by simp [isModifier]
      code_not_mem := by decide },
    .literal "h".toList]

theorem signedPair_call :
    templateText signedPair = "%+05hd1%%%-4.2llsh".toList ∧
    Builtin.pformat.call (.array [.int 7, .string "abc".toList]) (templateText signedPair) =
      .ok "+00071%ab  h".toList ∧
    Builtin.pformat.call (.int 7) (templateText signedPair) = .error (.arguments .tooFew) ∧
    ∀ t, Builtin.pformat.call (.int 7) (templateText signedPair ++ "%(a)s".toList) ≠ .ok t := by
  have hpair := (call_templateText signedPair [.int 7, .string "abc".toList]).1
  obtain ⟨-, hfew, halone, hkeyed⟩ := call_templateText signedPair [.int 7]
  refine ⟨rfl, (hpair _).mpr ?_, ?_, hkeyed (.int 7) _ rfl⟩
  · exact ⟨rfl, ["+0007".toList, "ab  ".toList], .cons rfl (.cons rfl .nil), rfl⟩
  · rw [halone (.int 7) _ rfl (by simp)]
    exact hfew (List.forall_mem_cons.mpr ⟨⟨"+0007".toList, rfl⟩, List.forall_mem_nil _⟩) (by decide)

end TextTable.Percent
