import TextTable.Proofs.Number.Digits
import TextTable.Proofs.Template.Field

/-! # Paths in brace templates

A path in a field leads from the argument to one of its parts, or fails at the first accessor that
leads nowhere. A field is read as the path that it was written for, whatever its keys are.
-/

namespace TextTable.Brace

def Accessor.key : Accessor → Text
  | .attribute key => key
  | .element key => key

/-- Points lead into objects, and brackets into objects and arrays. An index past the end of an
array is reported as a number, and all else as the key. -/
inductive Accessor.Gives : Value → Accessor → Except FormatError Value → Prop
  | field {fields : List (Text × Value)} {w : Value} (a : Accessor) :
      Dict.get? fields a.key = some w → Gives (.object fields) a (.ok w)
  | noField {fields : List (Text × Value)} (a : Accessor) : Dict.get? fields a.key = none →
      Gives (.object fields) a (.error (.missingKey a.key))
  | item {items : List Value} {key : Text} {i : Nat} {w : Value} : IsSize key i →
      items[i]? = some w → Gives (.array items) (.element key) (.ok w)
  | outOfRange {items : List Value} {key : Text} {i : Nat} : IsSize key i → items.length ≤ i →
      Gives (.array items) (.element key) (.error (.index i))
  | noIndex {items : List Value} {key : Text} : (∀ i, ¬ IsSize key i) →
      Gives (.array items) (.element key) (.error (.missingKey key))
  | noObject {v : Value} {key : Text} : v.fields? = none →
      Gives v (.attribute key) (.error (.missingKey key))
  | noContainer {v : Value} {key : Text} : v.fields? = none → (∀ items, v ≠ .array items) →
      Gives v (.element key) (.error (.missingKey key))

/-- The accessors of a path are followed up to the first one that leads nowhere. -/
inductive LeadsTo : Value → List Accessor → Except FormatError Value → Prop
  | here (v : Value) : LeadsTo v [] (.ok v)
  | step {v w : Value} {a : Accessor} {path : List Accessor} {r : Except FormatError Value} :
      a.Gives v (.ok w) → LeadsTo w path r → LeadsTo v (a :: path) r
  | miss {v : Value} {a : Accessor} {path : List Accessor} {e : FormatError} :
      a.Gives v (.error e) → LeadsTo v (a :: path) (.error e)

variable {v : Value} {a : Accessor} {path : List Accessor} {r : Except FormatError Value}
  {spec : Text}

theorem Accessor.Gives.get_eq (h : a.Gives v r) : a.get v = r := by
  cases h with
  | field a h => cases a <;> simp_all [get, Accessor.key, Value.fields?]
  | noField a h => cases a <;> simp_all [get, Accessor.key, Value.fields?]
  | item hsize h => simp only [get, readSize_eq_some_iff.mpr hsize, h]
  | outOfRange hsize h =>
    simp only [get, readSize_eq_some_iff.mpr hsize, List.getElem?_eq_none h]
  | noIndex h => simp only [get, readSize_eq_none_iff.mpr h]
  | noObject h => simp only [get, h, Option.bind_none]
  | noContainer hfields hitems =>
    cases v with
    | array items => exact absurd rfl (hitems items)
    | object fields => contradiction
    | _ => rfl

theorem Accessor.exists_gives (a : Accessor) (v : Value) : ∃ r, a.Gives v r := by
  cases v with
  | object fields =>
    cases h : Dict.get? fields a.key with
    | none => exact ⟨_, .noField a h⟩
    | some w => exact ⟨_, .field a h⟩
  | array items =>
    rcases a with key | key
    · exact ⟨_, .noObject rfl⟩
    · by_cases h : ∃ i, IsSize key i
      · obtain ⟨i, hi⟩ := h
        cases hitem : items[i]? with
        | none => exact ⟨_, .outOfRange hi (List.getElem?_eq_none_iff.mp hitem)⟩
        | some w => exact ⟨_, .item hi hitem⟩
      · exact ⟨_, .noIndex (not_exists.mp h)⟩
  | _ =>
    rcases a with key | key
    · exact ⟨_, .noObject rfl⟩
    · exact ⟨_, .noContainer rfl nofun⟩

theorem Accessor.gives_iff : a.Gives v r ↔ a.get v = r := by
  constructor
  · exact Gives.get_eq
  · rintro rfl
    obtain ⟨r, h⟩ := a.exists_gives v
    rwa [h.get_eq]

theorem leadsTo_iff : LeadsTo v path r ↔ follow v path = r := by
  constructor
  · intro h
    induction h with
    | here v => rfl
    | step hstep _ ih => rw [follow, hstep.get_eq]; exact ih
    | miss h => rw [follow, h.get_eq]; rfl
  · rintro rfl
    induction path generalizing v with
    | nil => exact .here v
    | cons a path ih =>
      rw [follow]
      cases hget : a.get v with
      | error e => exact .miss (Accessor.gives_iff.mpr hget)
      | ok w => exact .step (Accessor.gives_iff.mpr hget) ih

def Accessor.toText : Accessor → Text
  | .attribute key => '.' :: key
  | .element key => '[' :: key ++ [']']

/-- The accessor is read from its text. Between brackets a key may hold the characters that end a
name or a key elsewhere. -/
def Accessor.IsWritable : Accessor → Prop
  | .attribute key => ∀ c ∈ key, IsPlain c
  | .element key => ∀ c ∈ key, IsNoBracket c

instance : (a : Accessor) → Decidable a.IsWritable
  | .attribute key => decidable_of_iff (key.all (IsPlain ·) = true) List.all_iff_forall_prop
  | .element key => decidable_of_iff (key.all (IsNoBracket ·) = true) List.all_iff_forall_prop

def pathText (path : List Accessor) : Text := path.flatMap Accessor.toText

theorem pathText_cons (a : Accessor) (path : List Accessor) :
    pathText (a :: path) = a.toText ++ pathText path := rfl

namespace Accessor.IsWritable

theorem isNoBracket (h : a.IsWritable) : ∀ c ∈ a.key, IsNoBracket c := by
  rcases a with key | key
  · exact fun c hc => (h c hc).isNoBracket
  · exact h

theorem isInName (h : a.IsWritable) : IsInName a.toText := by
  intro rest
  rcases a with key | key
  · have hkey := isInName_of_isPlain h rest
    simp [toText, splitName, hkey]
  -- The depth is one up to the closing bracket.
  · have hinner : ∀ c ∈ key, c ≠ '[' ∧ c ≠ ']' ∧ ((1 : Int) = 0 → c ≠ '!' ∧ c ≠ ':') :=
      fun c hc => ⟨(h c hc).2.2.1, (h c hc).2.2.2, fun h => absurd h (by decide)⟩
    simp [toText, splitName, splitName_append 1 hinner]

theorem inner (h : a.IsWritable) : ∀ c ∈ a.toText, c ≠ '{' ∧ c ≠ '}' := by
  have hkey : ∀ c ∈ a.key, c ≠ '{' ∧ c ≠ '}' := fun c hc => (h.isNoBracket c hc).isNoBrace
  rcases a with key | key
  · exact List.forall_mem_cons.mpr ⟨by decide, hkey⟩
  · refine List.forall_mem_append.mpr ⟨List.forall_mem_cons.mpr ⟨by decide, hkey⟩, ?_⟩
    exact List.forall_mem_singleton.mpr (by decide)

theorem balanced (h : a.IsWritable) : a.toText.count '[' = a.toText.count ']' := by
  have hkey : a.key.count '[' = a.key.count ']' := count_eq_of_isNoBracket h.isNoBracket
  rcases a with key | key <;> simpa [toText, Accessor.key] using hkey

end Accessor.IsWritable

theorem scanAttribute_append {key : Text} (h : ∀ c ∈ key, IsPlain c) (front rest : Text) :
    scanAttribute front (key ++ rest) = scanAttribute (front ++ key) rest := by
  induction key generalizing front with
  | nil => simp
  | cons c key ih =>
    obtain ⟨⟨-, -, ho, -, -, -, hdot⟩, hkey⟩ := List.forall_mem_cons.mp h
    rw [List.cons_append, scanAttribute, if_neg hdot, if_neg ho, ih hkey]
    simp

theorem scanElement_append {key : Text} (h : ∀ c ∈ key, c ≠ ']') (front rest : Text) :
    scanElement front (key ++ ']' :: rest) = .cons (.element (front ++ key)) (scanPath rest) := by
  induction key generalizing front with
  | nil => simp [scanElement]
  | cons c key ih =>
    obtain ⟨hc, hkey⟩ := List.forall_mem_cons.mp h
    rw [List.cons_append, scanElement, if_neg hc, ih hkey]
    simp

theorem scanAttribute_pathText (key : Text) (path : List Accessor) :
    scanAttribute key (pathText path) = .cons (.attribute key) (scanPath (pathText path)) := by
  cases path with
  | nil => simp [pathText, scanAttribute, scanPath]
  | cons a path =>
    rcases a with key' | key' <;>
      simp [pathText_cons, Accessor.toText, scanAttribute, scanPath]

theorem scanPath_pathText (h : ∀ a ∈ path, a.IsWritable) :
    scanPath (pathText path) = ⟨path, none⟩ := by
  induction path with
  | nil => simp [pathText, scanPath, Scan.done]
  | cons a path ih =>
    obtain ⟨ha, hpath⟩ := List.forall_mem_cons.mp h
    rcases a with key | key
    · simp [pathText_cons, Accessor.toText, scanPath, scanAttribute_append ha,
        scanAttribute_pathText, ih hpath, Scan.cons]
    · simp [pathText_cons, Accessor.toText, scanPath,
        scanElement_append fun c hc => (ha c hc).2.2.2, ih hpath, Scan.cons]

theorem isInName_pathText (h : ∀ a ∈ path, a.IsWritable) : IsInName (pathText path) := by
  induction path with
  | nil => exact isInName_nil
  | cons a path ih =>
    obtain ⟨ha, hpath⟩ := List.forall_mem_cons.mp h
    exact ha.isInName.append (ih hpath)

theorem balanced_pathText (h : ∀ a ∈ path, a.IsWritable) :
    (pathText path).count '[' = (pathText path).count ']' := by
  induction path with
  | nil => rfl
  | cons a path ih =>
    obtain ⟨ha, hpath⟩ := List.forall_mem_cons.mp h
    rw [pathText_cons, List.count_append, List.count_append, ha.balanced, ih hpath]

theorem isNameOf_pathText (h : ∀ a ∈ path, a.IsWritable) :
    IsNameOf (pathText path) .next path := by
  -- A path starts with an accessor, so no argument is named in front of it.
  have hstart : (pathText path).takeWhile (fun c => !startsAccessor c) = [] ∧
      (pathText path).dropWhile (fun c => !startsAccessor c) = pathText path := by
    cases path with
    | nil => exact ⟨rfl, rfl⟩
    | cons a path => rcases a with key | key <;> exact ⟨rfl, rfl⟩
  constructor
  · exact isInName_pathText h
  · intro c hc
    obtain ⟨a, ha, hc⟩ := List.mem_flatMap.mp hc
    exact (h a ha).inner c hc
  · exact balanced_pathText h
  · rw [hstart.1]
    rfl
  · rw [hstart.2, scanPath_pathText h]

theorem call_pathText (v : Value) (hpath : ∀ a ∈ path, a.IsWritable)
    (hspec : ∀ c ∈ spec, IsNoBracket c) :
    Builtin.sformat.call v ('{' :: (pathText path ++ ':' :: spec) ++ ['}']) =
      follow v path >>= (formatValue · spec) := by
  apply (isNameOf_pathText hpath).expand_eq
  · exact fun c hc => (hspec c hc).isNoBrace
  · exact count_eq_of_isNoBracket hspec

/-- A path leads to one part of the value or fails in one way, and the field shows that part under
the spec, or fails in the same way. -/
theorem call_leadsTo (v : Value) (path : List Accessor) (spec : Text)
    (hpath : ∀ a ∈ path, a.IsWritable) (hspec : ∀ c ∈ spec, IsNoBracket c) :
    (∃! r, LeadsTo v path r) ∧ ∀ r, LeadsTo v path r →
      Builtin.sformat.call v ('{' :: (pathText path ++ ':' :: spec) ++ ['}']) =
        r >>= (formatValue · spec) := by
  constructor
  · refine ⟨follow v path, leadsTo_iff.mpr rfl, ?_⟩
    intro r h
    exact (leadsTo_iff.mp h).symm
  · intro r h
    rw [call_pathText v hpath hspec, leadsTo_iff.mp h]

def nested : Value :=
  .object [("a".toList, .array [.null, .object [(".!:".toList, .string "hi".toList)]])]

theorem nested_leadsTo :
    LeadsTo nested [.attribute "a".toList, .element "+1".toList, .element ".!:".toList]
      (.ok (.string "hi".toList)) ∧
    Builtin.sformat.call nested "\x7b.a[+1][.!:]:>4\x7d".toList = .ok "  hi".toList := by
  have hleads : LeadsTo nested [.attribute "a".toList, .element "+1".toList, .element ".!:".toList]
      (.ok (.string "hi".toList)) := leadsTo_iff.mpr rfl
  have hspec : ∀ c ∈ ">4".toList, IsNoBracket c := List.all_iff_forall_prop.mp (by decide)
  have hcall := (call_leadsTo nested _ _ (List.all_iff_forall_prop.mp (by decide)) hspec).2 _ hleads
  exact ⟨hleads, hcall.trans rfl⟩

def shownAt (fields : Dict Value) (key spec : Text) : Except FormatError Text :=
  match fields.get? key with
  | some v => formatValue v spec
  | none => .error (.missingKey key)

variable {fields : Dict Value} {key : Text} {i : Nat}

theorem shownAt_ne_index : shownAt fields key spec ≠ .error (.index i) := by
  unfold shownAt
  split
  · intro h
    cases isRefusal_formatValue h
  · nofun

theorem call_element (hkey : ∀ c ∈ key, IsNoBracket c) (hspec : ∀ c ∈ spec, IsNoBracket c) :
    Builtin.sformat.call (.object fields) ('{' :: '[' :: (key ++ ']' :: ':' :: spec) ++ ['}']) =
      shownAt fields key spec := by
  have hwritable : ∀ a ∈ [Accessor.element key], a.IsWritable :=
    List.forall_mem_singleton.mpr hkey
  have hcall := call_pathText (.object fields) hwritable hspec
  have htext : pathText [.element key] ++ ':' :: spec = '[' :: (key ++ ']' :: ':' :: spec) := by
    simp [pathText, Accessor.toText]
  rw [htext] at hcall
  rw [hcall, follow, Accessor.get, shownAt]
  cases Dict.get? fields key <;> rfl

theorem call_name (hne : key ≠ []) (hkey : ∀ c ∈ key, IsPlain c)
    (hspec : ∀ c ∈ spec, IsNoBracket c) :
    Builtin.mformat.call (.object fields) ('{' :: (key ++ ':' :: spec) ++ ['}']) =
      match readSize key with
      | some i => .error (.index i)
      | none => shownAt fields key spec := by
  have hcall : Builtin.mformat.call (.object fields) ('{' :: (key ++ ':' :: spec) ++ ['}']) = _ :=
    (isNameOf_plain hkey).expand_eq (fun c hc => (hspec c hc).isNoBrace)
      (count_eq_of_isNoBracket hspec) { keywords := fields }
  rw [hcall]
  cases hread : readSize key with
  | some i =>
    have hname : Argument.ofName key = .position i := by simp [Argument.ofName, hne, hread]
    rw [hname]
    rfl
  | none =>
    have hname : Argument.ofName key = .keyword key := by simp [Argument.ofName, hne, hread]
    rw [hname]
    simp only [Arguments.select, shownAt]
    cases fields.get? key <;> rfl

/-- Between brackets every key of an object is reached. As a name a key is reached exactly if it
does not read as a size, since such a name stands for a position, and an object gives no
positions. -/
theorem call_name_eq_iff (fields : Dict Value) (key spec : Text) (hne : key ≠ [])
    (hkey : ∀ c ∈ key, IsPlain c) (hspec : ∀ c ∈ spec, IsNoBracket c) :
    Builtin.sformat.call (.object fields) ('{' :: '[' :: (key ++ ']' :: ':' :: spec) ++ ['}']) =
        shownAt fields key spec ∧
      (Builtin.mformat.call (.object fields) ('{' :: (key ++ ':' :: spec) ++ ['}']) =
        shownAt fields key spec ↔ ∀ i, ¬ IsSize key i) ∧
      ∀ i, IsSize key i →
        Builtin.mformat.call (.object fields) ('{' :: (key ++ ':' :: spec) ++ ['}']) =
          .error (.index i) := by
  rw [call_element (fun c hc => (hkey c hc).isNoBracket) hspec, call_name hne hkey hspec,
    ← readSize_eq_none_iff]
  refine ⟨rfl, ?_, ?_⟩
  · cases readSize key with
    | some i => simpa using Ne.symm shownAt_ne_index
    | none => simp
  · intro i h
    rw [readSize_eq_some_iff.mpr h]

/-- A key that no identifier is, though no size. -/
theorem spacedKey_call :
    Builtin.mformat.call (.object [("unit price".toList, .int 5)])
      "\x7bunit price:>4\x7d".toList = .ok "   5".toList ∧
    Builtin.sformat.call (.object [("unit price".toList, .int 5)])
      "\x7b[unit price]:>4\x7d".toList = .ok "   5".toList := by
  have hkey : ∀ c ∈ "unit price".toList, IsPlain c := List.all_iff_forall_prop.mp (by decide)
  have hspec : ∀ c ∈ ">4".toList, IsNoBracket c := List.all_iff_forall_prop.mp (by decide)
  obtain ⟨helement, hname, -⟩ :=
    call_name_eq_iff [("unit price".toList, .int 5)] _ _ (by decide) hkey hspec
  have hsize : ∀ i, ¬ IsSize "unit price".toList i := readSize_eq_none_iff.mp rfl
  exact ⟨(hname.mpr hsize).trans rfl, helement.trans rfl⟩

/-- A year is a key of the object, but as a name it is a position. -/
theorem yearKey_call :
    Builtin.mformat.call (.object [("2024".toList, .int 5)]) "\x7b2024:\x7d".toList =
      .error (.index 2024) ∧
    Builtin.sformat.call (.object [("2024".toList, .int 5)]) "\x7b[2024]:\x7d".toList =
      .ok "5".toList := by
  constructor
  · decide +kernel
  · decide +kernel

end TextTable.Brace
