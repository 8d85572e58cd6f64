import Mathlib.Data.List.TakeDrop
import TextTable.Proofs.Format.SpecPart
import TextTable.Value.Reader

/-! # Reading JSON text back

The compact text of a value is read as that value, for values without floats. Every reader takes the
text of its part and leaves the rest.
-/

namespace TextTable

namespace Json

variable {t rest digits : Text} {c : Char} {n fuel : Nat}

theorem hexDigit?_digitChar : ∀ n < 16, hexDigit? (Nat.digitChar n) = some n := by decide

theorem readString_cons (hquote : c ≠ '"') (hslash : c ≠ '\\') (hprint : ¬ c.toNat < 0x20)
    (rest : Text) :
    readString (c :: rest) = (readString rest).map fun (t, after) => (c :: t, after) := by
  rw [readString.eq_def]
  split
  · contradiction
  · next heq => exact absurd (List.cons.inj heq).1 hquote
  · next heq => exact absurd (List.cons.inj heq).1 hslash
  · next heq => exact absurd (List.cons.inj heq).1 hslash
  · next heq =>
    obtain ⟨rfl, rfl⟩ := List.cons.inj heq
    rw [if_neg hprint]

theorem readString_escapedChar (c : Char) (rest : Text) :
    readString (escapedChar c ++ rest) =
      (readString rest).map fun (t, after) => (c :: t, after) := by
  unfold escapedChar
  split
  · simp [readString, unescape?]
  · simp [readString, unescape?]
  · simp [readString, unescape?]
  · simp [readString, unescape?]
  · simp [readString, unescape?]
  · simp [readString, unescape?]
  · simp [readString, unescape?]
  · split
    · next hlt =>
      have hhex : hexNumber? '0' '0' (Nat.digitChar (c.toNat / 16)) (Nat.digitChar (c.toNat % 16)) =
          some c.toNat := by
        have hhigh := hexDigit?_digitChar (c.toNat / 16) (by omega)
        have hlow := hexDigit?_digitChar (c.toNat % 16) (by omega)
        have hzero : hexDigit? '0' = some 0 := rfl
        simp only [hexNumber?, hhigh, hlow, hzero, Option.bind_eq_bind, Option.bind_some]
        exact congrArg some (by omega)
      have hchar : Char.ofNat c.toNat = c := Char.ofNat_toNat c
      have hhigh : ¬ 0xD800 ≤ c.toNat := by omega
      have hlow : ¬ 0xDC00 ≤ c.toNat := by omega
      simp [readString, hhex, hhigh, hlow, hchar]
    · next hquote hslash _ _ _ _ _ hprint => exact readString_cons hquote hslash hprint rest

/-- A string ends at the first quote that is not escaped. -/
theorem readString_quoted (t rest : Text) :
    readString (t.flatMap escapedChar ++ '"' :: rest) = some (t, rest) := by
  induction t with
  | nil => simp [readString]
  | cons c t ih =>
    rw [List.flatMap_cons, List.append_assoc, readString_escapedChar, ih]
    rfl

def continuesNumber (c : Char) : Bool := c.isDigit || c = '.' || c = 'e' || c = 'E'

theorem takeDigits_append (hdigits : ∀ d ∈ digits, d.isDigit = true)
    (hrest : rest.Avoids continuesNumber) : takeDigits (digits ++ rest) = (digits, rest) := by
  have hstop : rest.takeWhile Char.isDigit = [] ∧ rest.dropWhile Char.isDigit = rest := by
    cases rest with
    | nil => exact ⟨rfl, rfl⟩
    | cons c rest =>
      have hc := hrest c rfl
      simp only [continuesNumber, Bool.or_eq_false_iff] at hc
      simp [hc.1.1.1]
  rw [takeDigits, List.span_eq_takeWhile_dropWhile, List.takeWhile_append_of_pos hdigits,
    List.dropWhile_append_of_pos hdigits, hstop.1, hstop.2, List.append_nil]

theorem readFraction_of_avoids (h : rest.Avoids continuesNumber) :
    readFraction rest = some ([], rest) := by
  cases rest with
  | nil => rfl
  | cons c rest =>
    have hc : c ≠ '.' := by
      rintro rfl
      exact absurd (h '.' rfl) (by decide)
    rw [readFraction.eq_def]
    split
    · next heq => exact absurd (List.cons.inj heq).1 hc
    · rfl

theorem readExponent_of_avoids (h : rest.Avoids continuesNumber) :
    readExponent rest = some (none, rest) := by
  cases rest with
  | nil => rfl
  | cons c rest =>
    have hc : ¬ (c = 'e' ∨ c = 'E') := by
      rintro (rfl | rfl)
      · exact absurd (h 'e' rfl) (by decide)
      · exact absurd (h 'E' rfl) (by decide)
    simp only [readExponent, Bool.or_eq_true, decide_eq_true_eq, if_neg hc]

/-- The integers that are written with digits and read back as integers. -/
def IsInt64 (n : Int) : Prop := -(maxSize / 2 + 1 : Nat) ≤ n ∧ n ≤ maxSize

theorem wholeOk_toDigits (m : Nat) : ((Nat.toDigits 10 m).isEmpty ||
    (decide ((Nat.toDigits 10 m).head? = some '0') && decide (1 < (Nat.toDigits 10 m).length))) =
      false := by
  cases m with
  | zero => decide
  | succ m =>
    have hhead : (Nat.toDigits 10 (m + 1)).head? ≠ some '0' := head?_toDigits_ne_zero m.succ_pos
    have hne : (Nat.toDigits 10 (m + 1)) ≠ [] := Nat.toDigits_ne_nil
    simp [hhead, hne]

theorem readNumber_signed (negative : Bool) (m : Nat) (h : rest.Avoids continuesNumber) :
    readNumber ((if negative then ['-'] else []) ++ (Nat.toDigits 10 m ++ rest)) =
      (integer negative (Nat.toDigits 10 m)).map (·, rest) := by
  have hdigits : ∀ after, Nat.toDigits 10 m ++ rest ≠ '-' :: after := by
    intro after heq
    have hfirst : ∀ d ∈ (Nat.toDigits 10 m ++ rest).head?, d.isDigit = true := by
      rw [List.head?_append_of_ne_nil _ Nat.toDigits_ne_nil]
      exact fun d hd => isDigit_of_mem_toDigits d (List.mem_of_mem_head? hd)
    exact absurd (hfirst '-' (heq ▸ rfl)) (by decide)
  unfold readNumber
  split
  next sign digits heq =>
    obtain ⟨rfl, rfl⟩ : sign = negative ∧ digits = Nat.toDigits 10 m ++ rest := by
      cases negative with
      | true =>
        cases heq
        exact ⟨rfl, rfl⟩
      | false =>
        split at heq
        · next _ hminus => exact absurd hminus (hdigits _)
        · cases heq
          exact ⟨rfl, rfl⟩
    simp only [takeDigits_append isDigit_of_mem_toDigits h, wholeOk_toDigits,
      readFraction_of_avoids h, readExponent_of_avoids h, Bool.false_eq_true, if_false,
      Option.bind_eq_bind, Option.bind_some, List.isEmpty_nil, Option.isNone_none, Bool.and_self,
      if_true]
    cases integer sign (Nat.toDigits 10 m) <;> rfl

theorem integer_natAbs {n : Int} (hn : IsInt64 n) :
    integer (n < 0) (Nat.toDigits 10 n.natAbs) = some (.int n) := by
  obtain ⟨hlow, hhigh⟩ := hn
  rw [integer, Nat.ofDigitChars_ten_toDigits]
  by_cases hneg : n < 0
  · have hfits : 0 < n.natAbs ∧ n.natAbs ≤ maxSize / 2 + 1 := by omega
    simp only [hneg, hfits, decide_true, Bool.and_self, if_true]
    exact congrArg (some ∘ Value.int) (by omega)
  · have hfits : n.natAbs ≤ maxSize := by omega
    simp only [hneg, hfits, decide_false, Bool.false_eq_true, if_false, if_true]
    exact congrArg (some ∘ Value.int) (by omega)

theorem readNumber_intText {n : Int} (hn : IsInt64 n) (h : rest.Avoids continuesNumber) :
    readNumber (intText n ++ rest) = some (.int n, rest) := by
  have htext : intText n ++ rest =
      (if decide (n < 0) then ['-'] else []) ++ (Nat.toDigits 10 n.natAbs ++ rest) := by
    by_cases hneg : n < 0 <;> simp [intText, hneg]
  rw [htext, readNumber_signed _ _ h, integer_natAbs hn]
  rfl

theorem skipSpace_cons (h : isSpace c = false) (t : Text) : skipSpace (c :: t) = c :: t :=
  List.dropWhile_cons_of_neg (by rw [h]; exact Bool.false_ne_true)

end Json

namespace Value

open Json

/-- The values that their compact text gives back: there are no floats, and all integers are of 64
bits. -/
inductive IsExact : Value → Prop
  | null : IsExact .null
  | bool (b : Bool) : IsExact (.bool b)
  | int (n : Int) : IsInt64 n → IsExact (.int n)
  | string (t : Text) : IsExact (.string t)
  | array (items : List Value) : (∀ v ∈ items, IsExact v) → IsExact (.array items)
  | object (fields : List (Text × Value)) : (∀ p ∈ fields, IsExact p.2) → IsExact (.object fields)

structure ReadsBack (v : Value) : Prop where
  start : ∃ c t, v.toJson = c :: t ∧ isSpace c = false ∧ c ≠ ']'
  readValue_eq : ∀ fuel rest, v.toJson.length ≤ fuel → Text.Avoids rest continuesNumber →
    readValue fuel (v.toJson ++ rest) = some (v, rest)

variable {v : Value} {c : Char} {t rest : Text} {fuel : Nat}

theorem ReadsBack.of_cons (htext : v.toJson = c :: t) (hspace : isSpace c = false) (hc : c ≠ ']')
    (hread : ∀ fuel rest, t.length ≤ fuel → Text.Avoids rest continuesNumber →
      readValue (fuel + 1) (c :: (t ++ rest)) = some (v, rest)) : v.ReadsBack := by
  refine ⟨⟨c, t, htext, hspace, hc⟩, fun fuel rest hfuel hrest => ?_⟩
  rw [htext] at hfuel ⊢
  obtain _ | fuel := fuel
  · simp at hfuel
  · exact hread fuel rest (Nat.le_of_succ_le_succ hfuel) hrest

theorem readItems_itemsToJson {items : List Value} (h : ∀ v ∈ items, v.ReadsBack)
    (hne : items ≠ []) (hfuel : (itemsToJson items).length ≤ fuel) :
    readItems fuel (itemsToJson items ++ rest) = some (items, rest) := by
  induction items generalizing fuel with
  | nil => contradiction
  | cons v items ih =>
    obtain ⟨hv, hitems⟩ := List.forall_mem_cons.mp h
    cases items with
    | nil =>
      obtain _ | fuel := fuel
      · simp [itemsToJson] at hfuel
      · have hread := hv.readValue_eq fuel (']' :: rest) (by simpa [itemsToJson] using hfuel)
          (by rintro _ ⟨⟩; decide)
        rw [itemsToJson, List.append_assoc, List.singleton_append, readItems, hread]
        rfl
    | cons w items =>
      obtain _ | fuel := fuel
      · simp [itemsToJson] at hfuel
      · rw [itemsToJson] at hfuel ⊢
        · simp only [List.length_append, List.length_cons] at hfuel
          have hread := hv.readValue_eq fuel (',' :: (itemsToJson (w :: items) ++ rest)) (by omega)
            (by rintro _ ⟨⟩; decide)
          have hmore :
              readItems fuel (itemsToJson (w :: items) ++ rest) = some (w :: items, rest) :=
            ih hitems (List.cons_ne_nil w items) (by omega)
          rw [List.append_assoc, List.cons_append, readItems, hread]
          simp only [Option.bind_eq_bind, Option.bind_some,
            skipSpace_cons (c := ',') (by decide), hmore]
          rfl
        all_goals simp

theorem readFields_fieldsToJson {fields : List (Text × Value)} (h : ∀ p ∈ fields, p.2.ReadsBack)
    (hne : fields ≠ []) (hfuel : (fieldsToJson fields).length ≤ fuel) :
    readFields fuel (fieldsToJson fields ++ rest) = some (fields, rest) := by
  induction fields generalizing fuel with
  | nil => contradiction
  | cons p fields ih =>
    obtain ⟨key, v⟩ := p
    obtain ⟨hv, hfields⟩ : v.ReadsBack ∧ ∀ p ∈ fields, p.2.ReadsBack := List.forall_mem_cons.mp h
    cases fields with
    | nil =>
      obtain _ | fuel := fuel
      · simp [fieldsToJson] at hfuel
      · simp only [fieldsToJson, quoted, List.length_append, List.length_cons] at hfuel
        have hread := hv.readValue_eq fuel ('}' :: rest) (by omega) (by rintro _ ⟨⟩; decide)
        simp only [fieldsToJson, quoted, List.append_assoc, List.cons_append, List.nil_append,
          readFields, skipSpace_cons (c := '"') (by decide), readString_quoted,
          skipSpace_cons (c := ':') (by decide), Option.bind_eq_bind, Option.bind_some, hread]
        rfl
    | cons q fields =>
      obtain _ | fuel := fuel
      · simp [fieldsToJson] at hfuel
      · rw [fieldsToJson] at hfuel ⊢
        · simp only [quoted, List.length_append, List.length_cons] at hfuel
          have hread := hv.readValue_eq fuel (',' :: (fieldsToJson (q :: fields) ++ rest))
            (by omega) (by rintro _ ⟨⟩; decide)
          have hmore : readFields fuel (fieldsToJson (q :: fields) ++ rest) =
              some (q :: fields, rest) := ih hfields (List.cons_ne_nil q fields) (by omega)
          simp only [quoted, List.append_assoc, List.cons_append, List.nil_append, readFields,
            skipSpace_cons (c := '"') (by decide), readString_quoted,
            skipSpace_cons (c := ':') (by decide), Option.bind_eq_bind, Option.bind_some, hread,
            skipSpace_cons (c := ',') (by decide), hmore]
          rfl
        all_goals simp

theorem readsBack_int {n : Int} (hn : IsInt64 n) : (Value.int n).ReadsBack := by
  obtain ⟨c, t, htext, hc⟩ : ∃ c t, intText n = c :: t ∧ (c = '-' ∨ c.isDigit = true) := by
    unfold intText
    split
    · exact ⟨'-', _, rfl, Or.inl rfl⟩
    · obtain ⟨d, digits, hd⟩ := List.exists_cons_of_ne_nil (Nat.toDigits_ne_nil (n := n.natAbs))
      exact ⟨d, digits, hd, Or.inr (isDigit_of_mem_toDigits d (hd ▸ List.mem_cons_self))⟩
  have hother {d : Char} (hd : d ≠ '-' ∧ d.isDigit = false) : c ≠ d := by
    rintro rfl
    rcases hc with hc | hc
    · exact hd.1 hc
    · exact Bool.false_ne_true (hd.2.symm.trans hc)
  have hspace : isSpace c = false := by
    simp [isSpace, hother (d := ' ') (by decide), hother (d := '\t') (by decide),
      hother (d := '\n') (by decide), hother (d := '\r') (by decide)]
  refine .of_cons htext hspace (hother (by decide)) fun fuel rest _ hrest => ?_
  have hread := readNumber_intText hn hrest
  rw [htext, List.cons_append] at hread
  rw [readValue, skipSpace_cons hspace]
  simp only [hother (d := '"') (by decide), hother (d := '[') (by decide),
    hother (d := '{') (by decide), hother (d := 'n') (by decide), hother (d := 't') (by decide),
    hother (d := 'f') (by decide), if_false, hread]

/-- The text of an item does not start with the bracket that would close the array. -/
theorem exists_itemsToJson (items : List Value) (h : v.ReadsBack) :
    ∃ c t, itemsToJson (v :: items) = c :: t ∧ isSpace c = false ∧ c ≠ ']' := by
  obtain ⟨c, t, htext, hc⟩ := h.start
  cases items with
  | nil => exact ⟨c, t ++ [']'], by rw [itemsToJson, htext]; rfl, hc⟩
  | cons w items =>
    refine ⟨c, t ++ ',' :: itemsToJson (w :: items), ?_, hc⟩
    rw [itemsToJson, htext]
    · rfl
    · simp

theorem readsBack_array {items : List Value} (h : ∀ v ∈ items, v.ReadsBack) :
    (Value.array items).ReadsBack := by
  refine .of_cons rfl (by decide) (by decide) fun fuel rest hfuel _ => ?_
  cases items with
  | nil => rfl
  | cons v items =>
    have hread : readItems fuel (itemsToJson (v :: items) ++ rest) = some (v :: items, rest) :=
      readItems_itemsToJson h (List.cons_ne_nil v items) hfuel
    obtain ⟨c, t, htext, hspace, hc⟩ := exists_itemsToJson items (List.forall_mem_cons.mp h).1
    rw [htext, List.cons_append] at hread ⊢
    rw [readValue, skipSpace_cons (c := '[') (by decide)]
    simp only [skipSpace_cons hspace, hread, Char.reduceEq, if_false, if_true]
    split
    · next heq => exact absurd (List.cons.inj heq).1 hc
    · rfl

theorem readsBack_object {fields : List (Text × Value)} (h : ∀ p ∈ fields, p.2.ReadsBack) :
    (Value.object fields).ReadsBack := by
  refine .of_cons rfl (by decide) (by decide) fun fuel rest hfuel _ => ?_
  cases fields with
  | nil => rfl
  | cons p fields =>
    have hread : readFields fuel (fieldsToJson (p :: fields) ++ rest) = some (p :: fields, rest) :=
      readFields_fieldsToJson h (List.cons_ne_nil p fields) hfuel
    obtain ⟨t, htext⟩ : ∃ t, fieldsToJson (p :: fields) = '"' :: t := by
      cases fields <;> exact ⟨_, rfl⟩
    rw [htext, List.cons_append] at hread ⊢
    rw [readValue, skipSpace_cons (c := '{') (by decide)]
    simp only [skipSpace_cons (c := '"') (by decide), hread, Char.reduceEq, if_false, if_true]
    rfl

/-- Every value without floats and with integers of 64 bits is read back. -/
theorem IsExact.readsBack (h : v.IsExact) : v.ReadsBack := by
  induction h with
  | null => exact .of_cons rfl (by decide) (by decide) fun _ _ _ _ => rfl
  | bool b =>
    cases b with
    | false => exact .of_cons rfl (by decide) (by decide) fun _ _ _ _ => rfl
    | true => exact .of_cons rfl (by decide) (by decide) fun _ _ _ _ => rfl
  | int n hn => exact readsBack_int hn
  | string t =>
    refine .of_cons rfl (by decide) (by decide) fun fuel rest _ _ => ?_
    simp [readValue, skipSpace_cons, isSpace, readString_quoted]
  | array items _ ih => exact readsBack_array ih
  | object fields _ ih => exact readsBack_object ih

theorem IsExact.ofJson?_toJson (h : v.IsExact) : ofJson? v.toJson = some v := by
  have hread := h.readsBack.readValue_eq (2 * v.toJson.length + 1) [] (by omega)
    (by simp [Text.Avoids])
  rw [List.append_nil] at hread
  rw [ofJson?, hread]
  rfl

end Value

end TextTable
