import Mathlib.Data.List.Basic
import TextTable.Format.Field

/-! # Numerals

In every radix a number is written with the digits that denote it and no zero in front. Numerals are
also written in groups of digits, and are read with or without groups, a sign and the mark of their
radix.
-/

namespace TextTable

namespace Radix

def alphabet : Radix → Text
  | .decimal => "0123456789".toList
  | .binary => "01".toList
  | .octal => "01234567".toList
  | .hex => "0123456789abcdef".toList
  | .upperHex => "0123456789ABCDEF".toList

def value (r : Radix) (digits : Text) : Nat :=
  digits.foldl (fun n d => n * r.alphabet.length + r.alphabet.idxOf d) 0

/-- The digits that denote a number, without a zero in front unless it is the only one. -/
structure IsNumeral (r : Radix) (n : Nat) (digits : Text) : Prop where
  ne_nil : digits ≠ []
  mem : ∀ d ∈ digits, d ∈ r.alphabet
  value_eq : r.value digits = n
  minimal : digits.head? = some '0' → digits = ['0']

/-- The numeral of an integer, with a minus sign in front if the integer is negative. -/
def IsSigned (r : Radix) (m : Int) (t : Text) : Prop :=
  ∃ digits, r.IsNumeral m.natAbs digits ∧ t = (if m < 0 then ['-'] else []) ++ digits

variable {r : Radix} {n d : Nat} {digits : Text}

@[simp] theorem length_alphabet (r : Radix) : r.alphabet.length = r.base := by cases r <;> rfl

theorem one_lt_base (r : Radix) : 1 < r.base := by cases r <;> decide

theorem groupSize_pos (r : Radix) : 0 < r.groupSize := by cases r <;> decide

theorem value_append_singleton (digits : Text) (d : Char) :
    r.value (digits ++ [d]) = r.value digits * r.base + r.alphabet.idxOf d := by
  rw [value, List.foldl_append, length_alphabet]
  simp [value]

theorem value_replicate_append (k : Nat) (digits : Text) :
    r.value (List.replicate k '0' ++ digits) = r.value digits := by
  have hzero : r.alphabet.idxOf '0' = 0 := by cases r <;> rfl
  induction k with
  | zero => rfl
  | succ k ih =>
    rw [← ih, List.replicate_succ, List.cons_append, value, List.foldl_cons, hzero, Nat.zero_mul]
    rfl

theorem utf8Size_of_mem {d : Char} (h : d ∈ r.alphabet) : d.utf8Size = 1 := by
  have hall : r.alphabet.all (·.utf8Size = 1) = true := by cases r <;> decide
  simpa using List.all_eq_true.mp hall d h

theorem byteSize_eq_length (h : ∀ d ∈ digits, d ∈ r.alphabet) :
    Text.byteSize digits = digits.length := by
  induction digits with
  | nil => rfl
  | cons d digits ih =>
    obtain ⟨hd, hdigits⟩ := List.forall_mem_cons.mp h
    rw [Text.byteSize, utf8Size_of_mem hd, ih hdigits, List.length_cons, Nat.add_comm]

def digit (r : Radix) (d : Nat) : Char :=
  if r = .upperHex then d.digitChar.toUpper else d.digitChar

theorem digit_spec (r : Radix) (h : d < r.base) : r.digit d ∈ r.alphabet ∧
    r.alphabet.idxOf (r.digit d) = d ∧ (r.digit d = '0' ↔ d = 0) := by
  revert d
  cases r <;> decide

theorem digits_of_lt (h : n < r.base) : r.digits n = [r.digit n] := by
  rw [digits, Nat.toDigits_of_lt_base h, digit]
  split <;> rfl

theorem digits_of_base_le (h : r.base ≤ n) :
    r.digits n = r.digits (n / r.base) ++ [r.digit (n % r.base)] := by
  rw [digits, digits, Nat.toDigits_of_base_le r.one_lt_base h, digit]
  split <;> simp

theorem isNumeral_digits (r : Radix) (n : Nat) : r.IsNumeral n (r.digits n) := by
  induction n using Nat.strongRecOn with
  | ind n ih =>
    by_cases hlt : n < r.base
    · obtain ⟨hmem, hidx, hzero⟩ := digit_spec r hlt
      rw [digits_of_lt hlt]
      refine ⟨List.cons_ne_nil _ _, by simpa using hmem, ?_, ?_⟩
      · simp [value, hidx]
      · intro hhead
        rw [Option.some.inj hhead]
    -- The digits in front are the numeral of the quotient.
    · have hle : r.base ≤ n := Nat.not_lt.mp hlt
      have hpos : 0 < r.base := Nat.zero_lt_of_lt r.one_lt_base
      have hquotient := ih (n / r.base) (Nat.div_lt_self (by omega) r.one_lt_base)
      obtain ⟨hmem, hidx, -⟩ := digit_spec r (Nat.mod_lt n hpos)
      rw [digits_of_base_le hle]
      refine ⟨by simp, ?_, ?_, ?_⟩
      · intro d hd
        rcases List.mem_append.mp hd with hd | hd
        · exact hquotient.mem d hd
        · rwa [List.mem_singleton.mp hd]
      · rw [value_append_singleton, hquotient.value_eq, hidx]
        exact Nat.div_add_mod' n r.base
      · rw [List.head?_append_of_ne_nil _ hquotient.ne_nil]
        intro hhead
        have hzero : n / r.base = 0 := by
          rw [← hquotient.value_eq, hquotient.minimal hhead]
          cases r <;> rfl
        exact absurd (Nat.div_pos hle hpos) (by omega)

end Radix

/-- The digits in groups of `size` with `sep` between them. Only the first group may be shorter. -/
def IsGrouped (sep : Char) (size : Nat) (digits t : Text) : Prop :=
  ∃ (first : Text) (groups : List Text), first ≠ [] ∧ first.length ≤ size ∧
    (∀ g ∈ groups, g.length = size) ∧ digits = first ++ groups.flatten ∧
    t = first ++ groups.flatMap (sep :: ·)

variable {sep : Char} {size : Nat} {digits t : Text}

theorem length_flatten_of_forall {groups : List Text} (h : ∀ g ∈ groups, g.length = size) :
    groups.flatten.length = groups.length * size := by
  induction groups with
  | nil => simp
  | cons g groups ih =>
    obtain ⟨hg, hgroups⟩ := List.forall_mem_cons.mp h
    rw [List.flatten_cons, List.length_append, hg, ih hgroups, List.length_cons, Nat.succ_mul,
      Nat.add_comm]

/-- A digit in front either goes into the first group or, if that is complete, starts a new one. -/
theorem isGrouped_groupDigits (sep : Char) (hsize : 0 < size) (hne : digits ≠ []) :
    IsGrouped sep size digits (groupDigits sep size digits) := by
  fun_induction groupDigits sep size digits with
  | case1 => contradiction
  | case2 d => exact ⟨[d], [], List.cons_ne_nil _ _, hsize, by simp, rfl, rfl⟩
  | case3 d rest hrest hmod ih =>
    obtain ⟨first, groups, hfirst, hle, hgroups, hdigits, ht⟩ := ih hrest
    have hlength : first.length = size := by
      have hpos : 0 < first.length := List.length_pos_iff.mpr hfirst
      rw [hdigits, List.length_append, length_flatten_of_forall hgroups,
        Nat.add_mul_mod_self_right] at hmod
      have hlt : ¬ first.length < size := fun hlt => by
        rw [Nat.mod_eq_of_lt hlt] at hmod
        omega
      omega
    refine ⟨[d], first :: groups, List.cons_ne_nil _ _, hsize, ?_, ?_, ?_⟩
    · exact List.forall_mem_cons.mpr ⟨hlength, hgroups⟩
    · rw [hdigits]
      rfl
    · rw [ht]
      rfl
  | case4 d rest hrest hmod ih =>
    obtain ⟨first, groups, hfirst, hle, hgroups, hdigits, ht⟩ := ih hrest
    have hlength : first.length ≠ size := by
      intro heq
      rw [hdigits, List.length_append, length_flatten_of_forall hgroups,
        Nat.add_mul_mod_self_right, heq, Nat.mod_self] at hmod
      exact hmod rfl
    refine ⟨d :: first, groups, List.cons_ne_nil _ _, ?_, hgroups, ?_, ?_⟩
    · rw [List.length_cons]
      omega
    · rw [hdigits]
      rfl
    · rw [ht]
      rfl

theorem filter_flatMap_cons {p : Char → Bool} (hsep : p sep = false) (groups : List Text) :
    (groups.flatMap (sep :: ·)).filter p = groups.flatten.filter p := by
  induction groups with
  | nil => rfl
  | cons g groups ih =>
    rw [List.flatMap_cons, List.filter_append, ih, List.filter_cons_of_neg (by simp [hsep]),
      List.flatten_cons, List.filter_append]

theorem IsGrouped.filter_eq {p : Char → Bool} (h : IsGrouped sep size digits t)
    (hsep : p sep = false) (hdigits : ∀ d ∈ digits, p d = true) : t.filter p = digits := by
  obtain ⟨first, groups, -, -, -, rfl, rfl⟩ := h
  rw [List.filter_append, filter_flatMap_cons hsep, ← List.filter_append]
  exact List.filter_eq_self.mpr hdigits

def isSignChar (c : Char) : Bool := c = '-' || c = '+' || c = ' '

/-- A character that does not separate groups of digits. -/
def isNoSeparator (c : Char) : Bool := c ≠ ',' && c ≠ '_'

namespace Radix

/-- The number that a text of digits denotes, with or without the mark of the radix in front. -/
def readMagnitude (r : Radix) (t : Text) : Option Nat :=
  let digits := if r.mark <+: t then t.drop r.mark.length else t
  if digits ≠ [] ∧ digits.all (· ∈ r.alphabet) then some (r.value digits) else none

/-- The integer that a text denotes: a sign, the mark of the radix and digits, any of them in
groups. -/
def readInteger (r : Radix) (t : Text) : Option Int :=
  let magnitude := r.readMagnitude ((t.filter isNoSeparator).dropWhile isSignChar)
  magnitude.map fun n : Nat => if t.head? = some '-' then -(n : Int) else n

variable {r : Radix} {n : Nat}

theorem isNoSeparator_of_mem {d : Char} (h : d ∈ r.mark ++ r.alphabet) :
    isNoSeparator d = true := by
  have hall : (r.mark ++ r.alphabet).all isNoSeparator = true := by cases r <;> decide
  exact List.all_eq_true.mp hall d h

theorem filter_isNoSeparator {t : Text} (h : ∀ d ∈ t, d ∈ r.mark ++ r.alphabet) :
    t.filter isNoSeparator = t :=
  List.filter_eq_self.mpr fun d hd => isNoSeparator_of_mem (h d hd)

theorem isSignChar_of_mem {d : Char} (h : d ∈ r.mark ++ r.alphabet) : isSignChar d = false := by
  have hall : (r.mark ++ r.alphabet).all (!isSignChar ·) = true := by cases r <;> decide
  simpa using List.all_eq_true.mp hall d h

theorem exists_mem_mark (h : r.mark ≠ []) : ∃ c ∈ r.mark, c ∉ r.alphabet := by
  cases r with
  | decimal => exact absurd rfl h
  | binary => exact ⟨'b', by decide, by decide⟩
  | octal => exact ⟨'o', by decide, by decide⟩
  | hex => exact ⟨'x', by decide, by decide⟩
  | upperHex => exact ⟨'X', by decide, by decide⟩

theorem IsNumeral.readMagnitude_eq (h : r.IsNumeral n digits) (marked : Bool) :
    r.readMagnitude ((if marked then r.mark else []) ++ digits) = some n := by
  have hrest : (if r.mark <+: (if marked then r.mark else []) ++ digits then
      ((if marked then r.mark else []) ++ digits).drop r.mark.length
      else (if marked then r.mark else []) ++ digits) = digits := by
    cases marked with
    | true => simp
    | false =>
      by_cases hmark : r.mark = []
      · simp [hmark]
      · obtain ⟨c, hc, hnot⟩ := exists_mem_mark hmark
        exact if_neg fun hstart => hnot (h.mem c (hstart.mem hc))
  have hmem : digits.all (· ∈ r.alphabet) = true :=
    List.all_eq_true.mpr fun d hd => decide_eq_true (h.mem d hd)
  rw [readMagnitude, hrest]
  exact (if_pos ⟨h.ne_nil, hmem⟩).trans (congrArg some h.value_eq)

/-- A sign is told apart from a text without minus signs whose first character is no sign. -/
theorem readInteger_append {t : Text} (hminus : '-' ∉ t)
    (hstop : (t.filter isNoSeparator).dropWhile isSignChar = t.filter isNoSeparator) (sign : Sign)
    (negative : Bool) : r.readInteger (sign.text negative ++ t) =
      (r.readMagnitude (t.filter isNoSeparator)).map
        fun n : Nat => if negative then -(n : Int) else n := by
  have hsign : (sign.text negative).filter isNoSeparator = sign.text negative ∧
      (sign.text negative).dropWhile isSignChar = [] := by
    cases sign <;> cases negative <;> decide
  have hhead : (sign.text negative ++ t).head? = some '-' ↔ negative = true := by
    have hhead : t.head? ≠ some '-' := fun h => hminus (List.mem_of_mem_head? h)
    cases negative with
    | true => simp [Sign.text]
    | false => cases sign <;> simp [Sign.text, hhead]
  have hdrop : (sign.text negative ++ t.filter isNoSeparator).dropWhile isSignChar =
      t.filter isNoSeparator := by
    rw [List.dropWhile_append, hsign.2]
    exact hstop
  rw [readInteger, List.filter_append, hsign.1, hdrop]
  simp only [hhead]

theorem IsNumeral.readInteger_eq {n : Int} {body : Text} (h : r.IsNumeral n.natAbs digits)
    (hbody : body.filter isNoSeparator = digits) (sign : Sign) (marked : Bool) :
    r.readInteger (sign.text (n < 0) ++ ((if marked then r.mark else []) ++ body)) = some n := by
  have hmem : ∀ d ∈ (if marked then r.mark else []) ++ digits, d ∈ r.mark ++ r.alphabet := by
    refine List.forall_mem_append.mpr ⟨fun d hd => List.mem_append_left _ ?_,
      fun d hd => List.mem_append_right _ (h.mem d hd)⟩
    cases marked with
    | true => exact hd
    | false => contradiction
  have hfilter : ((if marked then r.mark else []) ++ body).filter isNoSeparator =
      (if marked then r.mark else []) ++ digits := by
    rw [List.filter_append, hbody, filter_isNoSeparator fun d hd => hmem d (by simp [hd])]
  have hminus : '-' ∉ (if marked then r.mark else []) ++ body := by
    intro hd
    have hd : '-' ∈ (if marked then r.mark else []) ++ digits :=
      hfilter ▸ List.mem_filter.mpr ⟨hd, rfl⟩
    exact absurd (isSignChar_of_mem (hmem '-' hd)) (by decide)
  have hstop : ((if marked then r.mark else []) ++ digits).dropWhile isSignChar =
      (if marked then r.mark else []) ++ digits := by
    cases hcons : (if marked then r.mark else []) ++ digits with
    | nil => rfl
    | cons d rest =>
      have hd := isSignChar_of_mem (hmem d (hcons ▸ List.mem_cons_self))
      exact List.dropWhile_cons_of_neg (by simp [hd])
  rw [readInteger_append hminus (by rw [hfilter]; exact hstop), hfilter, h.readMagnitude_eq,
    Option.map_some]
  congr 1
  by_cases hneg : n < 0
  · simp only [hneg, decide_true, if_true]
    omega
  · simp only [hneg, decide_false, Bool.false_eq_true, if_false]
    omega

theorem IsSigned.readInteger_eq {m : Int} {t : Text} (h : r.IsSigned m t) :
    r.readInteger t = some m := by
  obtain ⟨digits, hdigits, rfl⟩ := h
  have hbody : digits.filter isNoSeparator = digits :=
    filter_isNoSeparator fun d hd => List.mem_append_right _ (hdigits.mem d hd)
  simpa [Sign.text] using hdigits.readInteger_eq hbody .minus false

end Radix

end TextTable
