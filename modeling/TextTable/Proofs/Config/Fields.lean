import TextTable.Config.Json
import TextTable.Proofs.Value.RoundTrip

/-! # Configurations and their fields

A configuration is read back from its fields in any order, and a field that is left out has its
default. A field with another name is refused, whatever else there is.
-/

namespace TextTable

namespace Dict

variable {α : Type} {d d' : Dict α} {key : Text} {e : α}

theorem get?_eq_some_iff (h : (d.map Prod.fst).Nodup) : d.get? key = some e ↔ (key, e) ∈ d := by
  induction d with
  | nil => simp
  | cons a d ih =>
    obtain ⟨k, e'⟩ := a
    obtain ⟨hk, hd⟩ := List.nodup_cons.mp h
    rw [get?_cons, List.mem_cons]
    split
    · next heq =>
      subst heq
      have hnot : (key, e) ∉ d := fun hmem => hk (List.mem_map.mpr ⟨_, hmem, rfl⟩)
      simp [hnot, eq_comm]
    · next hne => simp [ih hd, hne]

theorem get?_perm (h : d.Perm d') (hn : (d'.map Prod.fst).Nodup) (key : Text) :
    d.get? key = d'.get? key := by
  have hd : (d.map Prod.fst).Nodup := (h.map Prod.fst).nodup_iff.mpr hn
  ext e
  rw [get?_eq_some_iff hd, get?_eq_some_iff hn, h.mem_iff]

theorem get?_filter (keep : Text → Bool) (key : Text) :
    get? (d.filter (keep ·.1)) key = if keep key then d.get? key else none := by
  induction d with
  | nil => simp
  | cons a d ih =>
    obtain ⟨k, e⟩ := a
    rw [List.filter_cons, get?_cons]
    by_cases hkey : key = k
    · subst hkey
      cases hk : keep key <;> simp [hk, get?_cons, ih]
    · cases hk : keep k <;> simp [hkey, get?_cons, ih]

end Dict

namespace FieldReader

theorem json_policy_toValue (e : ErrorPolicy) : json.policy e.toValue = some e := by
  cases e <;> rfl

theorem json_valign_toValue (v : VAlign) : json.valign v.toValue = some v := by
  cases v <;> rfl

theorem json_size_int {n : Nat} (h : n ≤ maxSize) : json.size (.int n) = some n := by
  have hfits : (0 : Int) ≤ n ∧ (n : Int) ≤ maxSize := ⟨Int.natCast_nonneg n, Int.ofNat_le.mpr h⟩
  exact if_pos hfits

theorem json_optional_text (t : Option Text) :
    json.optional json.text ((t.map Value.string).getD .null) = some t := by
  cases t <;> rfl

theorem json_optional_size {n : Option Nat} (h : ∀ m ∈ n, m ≤ maxSize) :
    json.optional json.size ((n.map fun m => Value.int m).getD .null) = some n := by
  cases n with
  | none => rfl
  | some m =>
    have hsize : (json.size (.int m)).map some = some (some m) := by
      rw [json_size_int (h m rfl)]
      rfl
    exact hsize

end FieldReader

namespace Config

structure SizesFit (c : Config) : Prop where
  maxCellHeight : ∀ n ∈ c.maxCellHeight, n ≤ maxSize
  hmargin : c.hmargin ≤ maxSize
  vmargin : c.vmargin ≤ maxSize

/-- The configuration with the defaults in place of the fields that are not kept. -/
def keeping (keep : Text → Bool) (c : Config) : Config :=
  let pick {β : Type} (name : String) (field : Config → β) : β :=
    if keep name.toList then field c else field {}
  { defaultFunction := pick "default_function" defaultFunction
    onCellError := pick "on_cell_error" onCellError
    floatSpec := pick "float_spec" floatSpec
    intSpec := pick "int_spec" intSpec
    noneText := pick "none_text" noneText
    separator := pick "separator" separator
    separatedGuidelines := pick "separated_guidelines" separatedGuidelines
    guidelines := pick "guidelines" guidelines
    moreMarker := pick "more_marker" moreMarker
    alignChars := pick "align_chars" alignChars
    wrapChar := pick "wrap_char" wrapChar
    optionDelimiters := pick "option_delimiters" optionDelimiters
    headingVAlign := pick "heading_valign" headingVAlign
    cellVAlign := pick "cell_valign" cellVAlign
    maxCellHeight := pick "max_cell_height" maxCellHeight
    borderChars := pick "border_chars" borderChars
    hmargin := pick "hmargin" hmargin
    vmargin := pick "vmargin" vmargin
    indent := pick "indent" indent }

variable {c : Config} {keep : Text → Bool} {fields : List (Text × Value)}

theorem keeping_all (c : Config) : c.keeping (fun _ => true) = c := rfl

theorem map_fst_toFields (c : Config) : c.toFields.map Prod.fst = fieldNames := rfl

theorem nodup_fieldNames : fieldNames.Nodup := by decide

section Reading

variable (h : fields.Perm (c.toFields.filter (keep ·.1)))

include h

theorem nodup_of_perm : (fields.map Prod.fst).Nodup := by
  have hsublist : ((c.toFields.filter (keep ·.1)).map Prod.fst).Sublist fieldNames :=
    map_fst_toFields c ▸ List.filter_sublist.map Prod.fst
  exact (h.map Prod.fst).nodup_iff.mpr (nodup_fieldNames.sublist hsublist)

theorem mem_fieldNames_of_perm : ∀ name ∈ fields.map Prod.fst, name ∈ fieldNames := by
  intro name hname
  obtain ⟨p, hp, rfl⟩ := List.mem_map.mp hname
  rw [← map_fst_toFields c]
  exact List.mem_map_of_mem (List.mem_of_mem_filter (h.mem_iff.mp hp))

/-- A field that is kept has the value that was written, and any other field its present value. -/
theorem readField_eq {β : Type} {name : String} {v : Value} {read : Value → Option β}
    {x present : β} (hv : Dict.get? c.toFields name.toList = some v) (hread : read v = some x) :
    readField fields name read present = some (if keep name.toList then x else present) := by
  have hn : ((c.toFields.filter (keep ·.1)).map Prod.fst).Nodup :=
    (h.map Prod.fst).nodup_iff.mp (nodup_of_perm h)
  rw [readField, Dict.get?_perm h hn, Dict.get?_filter, hv]
  cases keep name.toList with
  | true => exact hread
  | false => rfl

theorem readFields_eq (hsize : c.SizesFit) :
    readFields .json {} fields = some (c.keeping keep) := by
  have hnames : ¬ (!((fields.map Prod.fst).all (· ∈ fieldNames) && (fields.map Prod.fst).Nodup)) =
      true := by
    rw [Bool.not_eq_true', Bool.not_eq_false, Bool.and_eq_true, List.all_eq_true]
    exact ⟨fun name hname => decide_eq_true (mem_fieldNames_of_perm h name hname),
      decide_eq_true (nodup_of_perm h)⟩
  have step {β : Type} {x : Option β} {a : β} {f : β → Option Config} {r : Option Config}
      (hx : x = some a) (hf : f a = r) : (x >>= f) = r := by rw [hx]; exact hf
  unfold readFields
  refine (if_neg hnames).trans ?_
  refine step (readField_eq h rfl (FieldReader.json_optional_text _)) ?_
  refine step (readField_eq h rfl (FieldReader.json_policy_toValue _)) ?_
  refine step (readField_eq h rfl rfl) ?_
  refine step (readField_eq h rfl rfl) ?_
  refine step (readField_eq h rfl rfl) ?_
  refine step (readField_eq h rfl rfl) ?_
  refine step (readField_eq h rfl rfl) ?_
  refine step (readField_eq h rfl rfl) ?_
  refine step (readField_eq h rfl rfl) ?_
  refine step (readField_eq h rfl rfl) ?_
  refine step (readField_eq h rfl rfl) ?_
  refine step (readField_eq h rfl rfl) ?_
  refine step (readField_eq h rfl (FieldReader.json_valign_toValue _)) ?_
  refine step (readField_eq h rfl (FieldReader.json_valign_toValue _)) ?_
  refine step (readField_eq h rfl (FieldReader.json_optional_size hsize.maxCellHeight)) ?_
  refine step (readField_eq h rfl rfl) ?_
  refine step (readField_eq h rfl (FieldReader.json_size_int hsize.hmargin)) ?_
  refine step (readField_eq h rfl (FieldReader.json_size_int hsize.vmargin)) ?_
  refine step (readField_eq h rfl rfl) ?_
  rfl

end Reading

theorem readFields_eq_none {α : Type} {reader : FieldReader α} {config : Config}
    {fields : List (Text × α)} {key : Text} (hmem : key ∈ fields.map Prod.fst)
    (hkey : key ∉ fieldNames) : readFields reader config fields = none := by
  have hnames : (!((fields.map Prod.fst).all (· ∈ fieldNames) && (fields.map Prod.fst).Nodup)) =
      true := by
    rw [Bool.not_eq_true', Bool.and_eq_false_iff, List.all_eq_false]
    exact Or.inl ⟨key, hmem, by simpa using hkey⟩
  unfold readFields
  simp only [hnames, if_true]
  rfl

theorem isExact_valign (v : VAlign) : v.toValue.IsExact := by cases v <;> exact .string _

theorem isExact_policy (e : ErrorPolicy) : e.toValue.IsExact := by
  cases e with
  | substitute text => exact .object _ (by simpa using .string text)
  | _ => exact .string _

theorem isExact_size {n : Nat} (h : n ≤ maxSize) : (Value.int n).IsExact :=
  .int _ ⟨by omega, by omega⟩

theorem isExact_of_mem_toFields (hsize : c.SizesFit) : ∀ p ∈ c.toFields, p.2.IsExact := by
  have hfunction : ((c.defaultFunction.map Value.string).getD .null).IsExact := by
    cases c.defaultFunction with
    | none => exact .null
    | some t => exact .string t
  have hheight : ((c.maxCellHeight.map fun n => Value.int n).getD .null).IsExact := by
    cases hh : c.maxCellHeight with
    | none => exact .null
    | some n => exact isExact_size (hsize.maxCellHeight n hh)
  simp only [toFields, List.forall_mem_cons, hfunction, hheight, isExact_valign, isExact_policy,
    isExact_size hsize.hmargin, isExact_size hsize.vmargin, Value.IsExact.string,
    Value.IsExact.bool, true_and]
  exact List.forall_mem_nil _

theorem ofJson?_toJson_object (hsize : c.SizesFit)
    (h : fields.Perm (c.toFields.filter (keep ·.1))) :
    Value.ofJson? (Value.object fields).toJson = some (.object fields) := by
  refine Value.IsExact.ofJson?_toJson (.object fields fun p hp => ?_)
  exact isExact_of_mem_toFields hsize p (List.mem_of_mem_filter (h.mem_iff.mp hp))

theorem ofJson_eq_checked (hsize : c.SizesFit) (h : fields.Perm (c.toFields.filter (keep ·.1)))
    {t : Text} (ht : Value.ofJson? t = some (.object fields)) :
    ofJson t = (c.keeping keep).validate.map fun _ => c.keeping keep := by
  have hread : (Value.ofJson? t).bind ofValue? = some (c.keeping keep) := by
    rw [ht]
    exact readFields_eq h hsize
  rw [ofJson, hread, checked]
  cases (c.keeping keep).validate <;> rfl

/-- The fields of a configuration are read in any order. Fields that are left out have their
defaults, and the result is checked as a whole. With any other field there is no configuration. -/
theorem ofJson_fields (c : Config) (hsize : c.SizesFit) :
    (c.validate = .ok () → ∀ fields t, fields.Perm c.toFields →
      Value.ofJson? t = some (.object fields) → ofJson t = .ok c) ∧
    (∀ keep fields, fields.Perm (c.toFields.filter (keep ·.1)) →
      Value.ofJson? (Value.object fields).toJson = some (.object fields) ∧
      ∀ t, Value.ofJson? t = some (.object fields) →
        ofJson t = (c.keeping keep).validate.map fun _ => c.keeping keep) ∧
    ∀ key fields t, key ∈ fields.map Prod.fst → key ∉ fieldNames →
      Value.ofJson? t = some (.object fields) → ofJson t = .error .parse := by
  refine ⟨fun hvalid fields t h ht => ?_, fun keep fields h => ?_, ?_⟩
  · have hall : c.toFields.filter (fun _ => true) = c.toFields := List.filter_true _
    have hperm : fields.Perm (c.toFields.filter fun _ => true) := hall ▸ h
    have hread : ofJson t =
        (c.keeping fun _ => true).validate.map fun _ => c.keeping fun _ => true :=
      ofJson_eq_checked hsize hperm ht
    rw [keeping_all, hvalid] at hread
    exact hread
  · exact ⟨ofJson?_toJson_object hsize h, fun t ht => ofJson_eq_checked hsize h ht⟩
  · intro key fields t hmem hkey ht
    have hread : (Value.ofJson? t).bind ofValue? = none := by
      rw [ht]
      exact readFields_eq_none hmem hkey
    rw [ofJson, hread]
    rfl

/-- An opening delimiter that is an alignment character by default. -/
def angled : Config where
  onCellError := .substitute ['?']
  alignChars := "abc".toList
  optionDelimiters := "<;)".toList
  maxCellHeight := some 2

def angledPart : List (Text × Value) :=
  [("option_delimiters".toList, .string "<;)".toList),
    ("on_cell_error".toList, .object [("substitute".toList, .string ['?'])])]

theorem angledPart_perm : angledPart.Perm (angled.toFields.filter fun p =>
    decide (p.1 ∈ ["option_delimiters".toList, "on_cell_error".toList])) := by
  have hfilter : (angled.toFields.filter fun p =>
      decide (p.1 ∈ ["option_delimiters".toList, "on_cell_error".toList])) =
        angledPart.reverse := rfl
  rw [hfilter]
  exact angledPart.reverse_perm.symm

theorem angled_ofJson :
    ofJson angled.toValue.toJson = .ok angled ∧
      ofJson ("\x7b\"option_delimiters\":\"<;)\",".toList ++
        "\"on_cell_error\":\x7b\"substitute\":\"?\"\x7d\x7d".toList) =
          .error (.delimiterIsAlignChar '<') ∧
      ofJson "\x7b\"wrap\":true\x7d".toList = .error .parse := by
  have hsize : angled.SizesFit := ⟨by rintro _ ⟨⟩; decide, by decide, by decide⟩
  obtain ⟨hwhole, hpart, hunknown⟩ := ofJson_fields angled hsize
  have hall : angled.toFields.filter (fun _ => true) = angled.toFields := List.filter_true _
  refine ⟨?_, ?_, ?_⟩
  · have hperm : angled.toFields.Perm (angled.toFields.filter fun _ => true) := hall ▸ .refl _
    exact hwhole rfl _ _ (.refl _) (hpart (fun _ => true) _ hperm).1
  · obtain ⟨htext, hread⟩ := hpart (· ∈ ["option_delimiters".toList, "on_cell_error".toList]) _
      angledPart_perm
    exact hread _ htext
  · have hexact : (Value.object [("wrap".toList, .bool true)]).IsExact :=
      .object _ (by simpa using Value.IsExact.bool true)
    exact hunknown "wrap".toList _ _ List.mem_cons_self (by decide) hexact.ofJson?_toJson

end Config

end TextTable
