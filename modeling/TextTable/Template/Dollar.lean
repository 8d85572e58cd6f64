import TextTable.Template.Scan

/-! # Dollar templates

In a dollar template `$name` and `${name}` stand for the text of the field `name` of an object, and
`$$` stands for a dollar sign.
-/

namespace TextTable.Dollar

/-- A part of a template. -/
inductive Part where
  | literal (c : Char)
  | key (name : Text)
  deriving DecidableEq, Repr

/-- A character that starts a name: an underscore or a letter that is equal to one of `a` to `z`
when case is ignored. -/
def isNameStart (c : Char) : Bool := c = '_' || c.isAlpha || c = '\u017F' || c = '\u212A'

/-- A character of a name. -/
def isNameChar (c : Char) : Bool := isNameStart c || c.isDigit

/-- The name in front of a text, and the rest. -/
def takeName (t : Text) : Option (Text × Text) :=
  match t with
  | [] => none
  | c :: rest =>
    if isNameStart c then some (c :: rest.takeWhile isNameChar, rest.dropWhile isNameChar) else none

/-- The part after a dollar sign, and the rest. -/
def takePlaceholder (t : Text) : Option (Part × Text) :=
  match t with
  | [] => none
  | c :: rest =>
    if c = '$' then some (.literal '$', rest)
    else if c = '{' then
      match takeName rest with
      | some (name, '}' :: after) => some (.key name, after)
      | _ => none
    else (takeName (c :: rest)).map fun (name, after) => (.key name, after)

theorem length_takeName {t name rest : Text} (h : takeName t = some (name, rest)) :
    rest.length < t.length := by
  unfold takeName at h
  split at h
  · simp at h
  · split at h
    · obtain ⟨_, rfl⟩ := Prod.mk.inj (Option.some.inj h)
      exact Nat.lt_succ_of_le (List.dropWhile_suffix _).length_le
    · simp at h

theorem length_takePlaceholder {t rest : Text} {p : Part} (h : takePlaceholder t = some (p, rest)) :
    rest.length < t.length := by
  unfold takePlaceholder at h
  split at h
  · simp at h
  · split at h
    · obtain ⟨_, rfl⟩ := Prod.mk.inj (Option.some.inj h)
      simp
    · split at h
      · split at h
        · next hn =>
          obtain ⟨_, rfl⟩ := Prod.mk.inj (Option.some.inj h)
          have := length_takeName hn
          simp only [List.length_cons] at this ⊢
          omega
        · simp at h
      · obtain ⟨⟨name, after⟩, hn, he⟩ := Option.map_eq_some_iff.mp h
        obtain ⟨_, rfl⟩ := Prod.mk.inj he
        exact length_takeName hn

/-- The parts of the end of a template of `size` bytes. A fault is found at the dollar sign. -/
def scan (size : Nat) : Text → Scan Part
  | [] => .done
  | c :: rest =>
    if c = '$' then
      match _h : takePlaceholder rest with
      | some (p, after) => .cons p (scan size after)
      | none => .stop (.placeholder (size - Text.byteSize (c :: rest)))
    else .cons (.literal c) (scan size rest)
termination_by t => t.length
decreasing_by
  · have := length_takePlaceholder _h
    simp
    omega
  · simp

/-- The text of the parts of a template. -/
def expandParts (fields : Dict Value) : List Part → Except FormatError Text
  | [] => .ok []
  | .literal c :: rest => (expandParts fields rest).map (c :: ·)
  | .key name :: rest =>
    match fields.get? name with
    | some v => (expandParts fields rest).map (v.plainText ++ ·)
    | none => .error (.missingKey name)

/-- The text of a template with the fields of an object. -/
def expand (template : Text) (fields : Dict Value) : Except FormatError Text := do
  let s := scan (Text.byteSize template) template
  let t ← expandParts fields s.parts
  templateError template s.fault
  return t

end TextTable.Dollar
