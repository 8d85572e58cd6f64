import TextTable.Cell.Format
import TextTable.Proofs.Format.Integer
import TextTable.Proofs.Format.Magnitude

/-! # The ends of magnitudes

The text of a magnitude starts with a letter or a digit, and ends with one or with a percent sign.
Only a magnitude that keeps its point without decimals ends with the point.
-/

namespace TextTable

def StartsNumber (t : Text) : Prop := ∃ c ∈ t.head?, c.isAlphanum = true

def EndsNumber (t : Text) : Prop := ∃ c ∈ t.getLast?, endsNumber c = true

/-- Where a number starts and ends in such a text is seen from its characters. -/
structure HasEnds (t : Text) : Prop where
  starts : StartsNumber t
  ends : EndsNumber t

variable {t rest digits : Text} {c : Char}

theorem StartsNumber.append (h : StartsNumber t) (rest : Text) : StartsNumber (t ++ rest) := by
  obtain ⟨c, hc, hcond⟩ := h
  exact ⟨c, List.mem_head?_append_of_mem_head? hc, hcond⟩

theorem EndsNumber.append (h : EndsNumber rest) (t : Text) : EndsNumber (t ++ rest) := by
  obtain ⟨c, hc, hcond⟩ := h
  exact ⟨c, List.mem_getLast?_append_of_mem_getLast? hc, hcond⟩

theorem HasEnds.append (ht : HasEnds t) (hrest : HasEnds rest) : HasEnds (t ++ rest) :=
  ⟨ht.starts.append rest, hrest.ends.append t⟩

theorem endsNumber_of_isAlphanum (h : c.isAlphanum = true) : endsNumber c = true := by
  rw [endsNumber, h, Bool.true_or]

theorem isAlphanum_of_isDigit (h : c.isDigit = true) : c.isAlphanum = true := by
  rw [Char.isAlphanum, h, Bool.or_true]

theorem HasEnds.of_isAlphanum (hne : t ≠ []) (h : ∀ c ∈ t, c.isAlphanum = true) : HasEnds t where
  starts := ⟨t.head hne, List.head?_eq_some_head hne, h _ (List.head_mem hne)⟩
  ends := ⟨t.getLast hne, List.getLast?_eq_some_getLast hne,
    endsNumber_of_isAlphanum (h _ (List.getLast_mem hne))⟩

theorem HasEnds.of_isDigit (hne : t ≠ []) (h : ∀ c ∈ t, c.isDigit = true) : HasEnds t :=
  .of_isAlphanum hne fun c hc => isAlphanum_of_isDigit (h c hc)

theorem takeWhile_append_cons {p : Char → Bool} (hc : p c = false) :
    (t ++ c :: rest).takeWhile p = t.takeWhile p := by
  have hnot : ¬ p c = true := by simp [hc]
  rw [List.takeWhile_append]
  split
  · next hall =>
    rw [(List.takeWhile_prefix p).eq_of_length hall, List.takeWhile_cons_of_neg hnot,
      List.append_nil]
  · rfl

theorem dropWhile_append_cons {p : Char → Bool} (hc : p c = false) :
    (t ++ c :: rest).dropWhile p = t.dropWhile p ++ c :: rest := by
  have hnot : ¬ p c = true := by simp [hc]
  rw [List.dropWhile_append]
  split
  · next hnil => rw [List.isEmpty_iff.mp hnil, List.dropWhile_cons_of_neg hnot, List.nil_append]
  · rfl

theorem lt_length_paddedDigits (places n : Nat) :
    places < (paddedDigits (places + 1) n).length := by
  rw [paddedDigits, List.length_append, List.length_replicate]
  omega

theorem hasEnds_whole (places n : Nat) :
    HasEnds ((paddedDigits (places + 1) n).take
      ((paddedDigits (places + 1) n).length - places)) := by
  have hlt := lt_length_paddedDigits places n
  refine .of_isDigit (fun hnil => ?_) fun c hc =>
    isDigit_paddedDigits _ n c (List.take_subset _ _ hc)
  have hlength := congrArg List.length hnil
  rw [List.length_take, List.length_nil] at hlength
  omega

theorem hasEnds_fixed (num den places : Nat) : HasEnds (fixed num den places) := by
  unfold fixed
  extract_lets digits whole
  have hlt : places < digits.length := lt_length_paddedDigits places _
  have hwhole : HasEnds whole := hasEnds_whole places _
  split
  · exact hwhole
  · next hplaces =>
    have hdecimals : HasEnds (digits.drop (digits.length - places)) := by
      refine .of_isDigit (fun hnil => ?_) fun c hc =>
        isDigit_paddedDigits _ _ c (List.drop_subset _ _ hc)
      have hlength := congrArg List.length hnil
      rw [List.length_drop, List.length_nil] at hlength
      omega
    exact ⟨hwhole.starts.append _, (hdecimals.ends.append ['.']).append whole⟩

namespace Scientific

variable {s : Scientific} {tie : Tie} {rank count : Nat}

theorem digits_ne_nil_round (num den : Nat) (hcount : 0 < count) :
    (round num den count).digits ≠ [] := by
  unfold round
  split
  · exact List.ne_nil_of_length_pos (by rwa [List.length_replicate])
  · dsimp only
    split <;> exact Nat.toDigits_ne_nil

/-- Zeros at the end are left out, and those are not all digits of a positive number. -/
theorem dropWhile_reverse_toDigits_ne_nil {n : Nat} (h : n ≠ 0) :
    ((Nat.toDigits 10 n).reverse.dropWhile (· = '0')).reverse ≠ [] := by
  intro hnil
  rw [List.reverse_eq_nil_iff, List.dropWhile_eq_nil_iff] at hnil
  obtain ⟨d, digits, hd⟩ := List.exists_cons_of_ne_nil (Nat.toDigits_ne_nil (b := 10) (n := n))
  have hzero : d = '0' := by
    have hmem : d ∈ (Nat.toDigits 10 n).reverse := by simp [hd]
    exact of_decide_eq_true (hnil d hmem)
  exact head?_toDigits_ne_zero (Nat.pos_of_ne_zero h) (by rw [hd, hzero]; rfl)

theorem gap_le_unitsOfRank (h : rank ≠ 0) :
    Nat.pow 2 (Double.shift rank) ≤ Double.unitsOfRank rank := by
  have hpos : 0 < Double.significand rank := by
    unfold Double.significand Double.binade
    split <;> omega
  exact Nat.le_mul_of_pos_left _ hpos

theorem digits_ne_nil_readingBack (hrank : rank ≠ 0) (h : readingBack tie rank count = some s) :
    s.digits ≠ [] := by
  unfold readingBack at h
  extract_lets units gap below exponent places scale num den low high readsBack ofNat n rem upper
    at h
  have hlow : 0 < low := by
    have hunits : gap ≤ units := gap_le_unitsOfRank hrank
    have hgap : 0 < gap := Nat.pow_pos (by decide)
    have hscale : 0 < scale := Nat.pow_pos (by decide)
    have hbelow : below < 4 * units := by
      simp only [below]
      split <;> omega
    exact Nat.sub_pos_of_lt (Nat.mul_lt_mul_of_pos_right hbelow hscale)
  have hzero (m : Nat) (hm : readsBack m = true) : m ≠ 0 := by
    rintro rfl
    simp only [readsBack, Nat.zero_mul] at hm
    split at hm <;> simp only [Bool.and_eq_true, decide_eq_true_eq] at hm <;> omega
  have hdigits (m : Nat) (hm : m ≠ 0) : (ofNat m).digits ≠ [] :=
    dropWhile_reverse_toDigits_ne_nil hm
  clear_value ofNat readsBack
  split at h
  · cases h
    exact hdigits _ (by split <;> simp_all)
  · split at h
    · next hm =>
      cases h
      exact hdigits _ (hzero _ hm)
    · split at h
      · next hm =>
        cases h
        exact hdigits _ (hzero _ hm)
      · contradiction

theorem digits_ne_nil_shortest (tie : Tie) (rank : Nat) : (shortest tie rank).digits ≠ [] := by
  unfold shortest
  split
  · exact List.cons_ne_nil _ _
  · next hrank =>
    cases hfind : (List.range 17).findSome? fun count => readingBack tie rank (count + 1) with
    | none => exact digits_ne_nil_round _ _ (by decide)
    | some s =>
      obtain ⟨count, -, h⟩ := List.exists_of_findSome?_eq_some hfind
      exact digits_ne_nil_readingBack hrank h

variable (hdigits : ∀ c ∈ s.digits, c.isDigit = true) (hne : s.digits ≠ [])
include hdigits hne

theorem hasEnds_mantissa : HasEnds s.mantissa := by
  unfold mantissa
  split
  · next hnil => exact absurd hnil hne
  · next d hd => exact hd ▸ .of_isDigit hne hdigits
  · next d rest hrest hd =>
    rw [hd] at hdigits
    obtain ⟨hhead, htail⟩ := List.forall_mem_cons.mp hdigits
    have hends : HasEnds rest := .of_isDigit hrest htail
    exact ⟨⟨d, rfl, isAlphanum_of_isDigit hhead⟩, hends.ends.append [d, '.']⟩

theorem hasEnds_positional : HasEnds s.positional := by
  unfold positional
  split
  · have hends : HasEnds s.digits := .of_isDigit hne hdigits
    exact ⟨⟨'0', rfl, rfl⟩, hends.ends.append ('0' :: '.' :: List.replicate _ '0')⟩
  · extract_lets whole padded
    have hpadded : ∀ c ∈ padded, c.isDigit = true :=
      List.forall_mem_append.mpr ⟨hdigits, isDigit_of_mem_replicate⟩
    have hpos : 0 < s.digits.length := List.length_pos_iff.mpr hne
    have hlength : padded.length = s.digits.length + (whole - s.digits.length) := by
      rw [List.length_append, List.length_replicate]
    split
    · refine .of_isDigit (List.ne_nil_of_length_pos (by omega)) hpadded
    · next hlt =>
      have hfront : HasEnds (padded.take whole) := by
        refine .of_isDigit (List.ne_nil_of_length_pos ?_) fun c hc =>
          hpadded c (List.take_subset _ _ hc)
        rw [List.length_take]
        omega
      have hback : HasEnds (padded.drop whole) := by
        refine .of_isDigit (List.ne_nil_of_length_pos ?_) fun c hc =>
          hpadded c (List.drop_subset _ _ hc)
        rw [List.length_drop]
        omega
      exact ⟨hfront.starts.append _, (hback.ends.append ['.']).append _⟩

end Scientific

theorem hasEnds_exponentText (count : Nat) (exponent : Int) :
    HasEnds (exponentText count exponent) := by
  have hdigits : HasEnds (paddedDigits count exponent.natAbs) :=
    .of_isDigit (by simp [paddedDigits, Nat.toDigits_ne_nil]) (isDigit_paddedDigits _ _)
  exact ⟨⟨'e', rfl, rfl⟩, hdigits.ends.append ['e', _]⟩

namespace Double

theorem hasEnds_exponential (places : Nat) (alternate : Bool) (x : Double) :
    HasEnds (x.exponential places alternate) := by
  have hmantissa := Scientific.hasEnds_mantissa (Scientific.isDigit_round x.units unitsPerOne _)
    (Scientific.digits_ne_nil_round x.units unitsPerOne (Nat.succ_pos places))
  exact ⟨(hmantissa.starts.append _).append _, (hasEnds_exponentText 2 _).ends.append _⟩

/-- Without the zeros at the end of the decimals, and the point if there were no others, the text
still starts and ends with a digit. -/
theorem hasEnds_dropZeros (hpositional : IsPositional t) (h : HasEnds t) :
    HasEnds (dropZeros t) := by
  unfold dropZeros
  split
  · next hpoint =>
    have hsuffix := (List.dropWhile_suffix (l := t.reverse.dropWhile (· = '0')) (· = '.')).trans
      (List.dropWhile_suffix (· = '0'))
    obtain ⟨dropped, hsplit⟩ := List.reverse_prefix.mpr hsuffix
    rw [List.reverse_reverse] at hsplit
    have hlast := List.head?_dropWhile_not (· = '.') (t.reverse.dropWhile (· = '0'))
    cases hkept : (t.reverse.dropWhile (· = '0')).dropWhile (· = '.') with
    -- A text of zeros and points that ends with the zeros does not start with a digit.
    | nil =>
      have hpoints := List.dropWhile_eq_nil_iff.mp hkept
      have hne : t.reverse.dropWhile (· = '0') ≠ [] := fun hnil => by
        have hzero := List.dropWhile_eq_nil_iff.mp hnil '.' (List.mem_reverse.mpr hpoint)
        contradiction
      obtain ⟨c, hc, hnumber⟩ := h.starts
      have hmem : c ∈ t.reverse.dropWhile (· = '0') := by
        have hlast : c ∈ t.reverse.getLast? := by rwa [List.getLast?_reverse]
        rw [← List.takeWhile_append_dropWhile (p := (· = '0')) (l := t.reverse),
          List.getLast?_append_of_ne_nil _ hne] at hlast
        exact List.mem_of_mem_getLast? hlast
      obtain rfl : c = '.' := of_decide_eq_true (hpoints c hmem)
      contradiction
    | cons d kept =>
      rw [hkept] at hsplit hlast
      have hd : d.isDigit = true :=
        (hpositional d (by simp [← hsplit])).resolve_right (of_decide_eq_false hlast)
      have hstarts := h.starts
      rw [← hsplit, StartsNumber, List.head?_append_of_ne_nil _ (by simp)] at hstarts
      exact ⟨hstarts, d, by simp, endsNumber_of_isAlphanum (isAlphanum_of_isDigit hd)⟩
  · exact h

theorem hasEnds_general (precision : Nat) (alternate : Bool) (x : Double) :
    HasEnds (x.general precision alternate) := by
  have hkept {m : Text} (hpositional : IsPositional m) (h : HasEnds m) :
      HasEnds (if alternate then m else dropZeros m) := by
    split
    · exact h
    · exact hasEnds_dropZeros hpositional h
  unfold general
  extract_lets count s
  have hdigits : ∀ c ∈ s.digits, c.isDigit = true := Scientific.isDigit_round _ _ _
  have hne : s.digits ≠ [] :=
    Scientific.digits_ne_nil_round _ _ (Nat.lt_of_lt_of_le Nat.one_pos (Nat.le_max_right _ _))
  by_cases hpositional : -4 ≤ s.exponent ∧ s.exponent < count
  · simp only [if_pos hpositional, List.append_nil]
    exact hkept (isPositional_fixed _ _ _) (hasEnds_fixed _ _ _)
  · simp only [if_neg hpositional]
    exact (hkept (Scientific.isPositional_mantissa hdigits)
      (Scientific.hasEnds_mantissa hdigits hne)).append (hasEnds_exponentText _ _)

theorem hasEnds_plain (x : Double) : HasEnds x.plain := by
  have hdigits := Scientific.isDigit_shortest .up x.rank
  have hne := Scientific.digits_ne_nil_shortest .up x.rank
  unfold plain
  split
  · exact ⟨⟨'0', rfl, rfl⟩, ⟨'0', rfl, rfl⟩⟩
  · dsimp only
    split
    · have hends := Scientific.hasEnds_positional hdigits hne
      unfold withPoint
      split
      · exact hends
      · exact ⟨hends.starts.append _, EndsNumber.append ⟨'0', rfl, rfl⟩ _⟩
    · exact (Scientific.hasEnds_mantissa hdigits hne).append (hasEnds_exponentText _ _)

end Double

theorem Rounded.startsNumber_fixed (places : Nat) (alternate : Bool) (x : Rounded) :
    StartsNumber (x.fixed places alternate) := by
  unfold Rounded.fixed
  cases x with
  | finite x =>
    have hstarts : StartsNumber (TextTable.fixed x.units Double.unitsPerOne places) :=
      (hasEnds_fixed _ _ _).starts
    dsimp only
    split
    · exact hstarts.append ['.']
    · exact hstarts
  | infinite _ =>
    dsimp only
    split <;> exact ⟨'i', rfl, rfl⟩

theorem isAlphanum_toUpper (h : c.isAlphanum = true) : c.toUpper.isAlphanum = true := by
  rcases toUpper_cases c with heq | hupper
  · rwa [heq]
  · have halpha : c.toUpper.isAlpha = true := Bool.or_eq_true_iff.mpr (Or.inl hupper)
    exact Bool.or_eq_true_iff.mpr (Or.inl halpha)

theorem endsNumber_toUpper (h : endsNumber c = true) : endsNumber c.toUpper = true := by
  rcases Bool.or_eq_true_iff.mp h with h | h
  · exact endsNumber_of_isAlphanum (isAlphanum_toUpper h)
  · rw [of_decide_eq_true h]
    rfl

theorem HasEnds.map_toUpper (h : HasEnds t) : HasEnds (t.map Char.toUpper) := by
  obtain ⟨⟨c, hc, hstarts⟩, ⟨d, hd, hends⟩⟩ := h
  refine ⟨⟨c.toUpper, ?_, isAlphanum_toUpper hstarts⟩, ⟨d.toUpper, ?_, endsNumber_toUpper hends⟩⟩
  · rw [List.head?_map]
    exact Option.mem_map_of_mem _ hc
  · rw [List.getLast?_map]
    exact Option.mem_map_of_mem _ hd

namespace FormatSpec

variable {s : FormatSpec} {body : Text}

/-- The point that a whole number keeps in the alternate form. -/
def trailingPoint (s : FormatSpec) : Text :=
  if s.alternate ∧ s.precision = some 0 ∧ (s.code = some 'f' ∨ s.code = some 'F') then ['.'] else []

theorem hasEnds_doubleBody {x : Double} (h : s.doubleBody x = .ok body) :
    ∃ number, HasEnds number ∧ body = number ++ s.trailingPoint := by
  have hwhole (hcode : s.code ≠ some 'f') (hcode' : s.code ≠ some 'F') : s.trailingPoint = [] :=
    if_neg fun ⟨_, _, hfixed⟩ => hfixed.elim hcode hcode'
  have hfixed (hcode : s.code = some 'f' ∨ s.code = some 'F') :
      (Rounded.finite x).fixed (s.precision.getD 6) s.alternate =
        TextTable.fixed x.units Double.unitsPerOne (s.precision.getD 6) ++ s.trailingPoint := by
    have hprecision : s.precision.getD 6 = 0 ↔ s.precision = some 0 := by
      cases s.precision <;> simp
    simp only [Rounded.fixed, trailingPoint, hcode, and_true, Bool.and_eq_true, decide_eq_true_eq,
      hprecision]
    split <;> simp
  unfold doubleBody at h
  extract_lets precision at h
  split at h
  · next hcode =>
    rw [hwhole (by simp [hcode]) (by simp [hcode])]
    simp only [List.append_nil, exists_eq_right']
    split at h <;> cases h
    · exact x.hasEnds_plain
    · next p _ =>
      have hgeneral := x.hasEnds_general p s.alternate
      split
      · exact hgeneral
      · exact ⟨hgeneral.starts.append _, EndsNumber.append ⟨'0', rfl, rfl⟩ _⟩
  · next code hcode =>
    split at h
    case h_9 => contradiction
    · cases h
      exact ⟨_, hasEnds_fixed _ _ _, hfixed (Or.inl hcode)⟩
    · cases h
      exact ⟨_, hasEnds_fixed _ _ _, hfixed (Or.inr hcode)⟩
    all_goals
      rw [hwhole (by simp [hcode]) (by simp [hcode])]
      simp only [List.append_nil, exists_eq_right']
      cases h
    · exact x.hasEnds_exponential _ _
    · exact (x.hasEnds_exponential _ _).map_toUpper
    · exact x.hasEnds_general _ _
    · exact x.hasEnds_general _ _
    · exact (x.hasEnds_general _ _).map_toUpper
    · exact ⟨(Rounded.startsNumber_fixed _ _ _).append _, EndsNumber.append ⟨'%', rfl, rfl⟩ _⟩

theorem getLast?_groupDigits (sep : Char) (size : Nat) (digits : Text) :
    (groupDigits sep size digits).getLast? = digits.getLast? := by
  fun_induction groupDigits sep size digits with
  | case1 => rfl
  | case2 => rfl
  | case3 d rest hrest _ ih =>
    obtain ⟨e, rest, rfl⟩ := List.exists_cons_of_ne_nil hrest
    simp [List.getLast?_cons, ih]
  | case4 d rest hrest _ ih =>
    obtain ⟨e, rest, rfl⟩ := List.exists_cons_of_ne_nil hrest
    simp [List.getLast?_cons, ih]

theorem getLast?_group (s : FormatSpec) (size : Nat) (digits : Text) :
    (s.group size digits).getLast? = digits.getLast? := by
  unfold group
  split
  · rfl
  · exact getLast?_groupDigits _ _ _

theorem HasRadix.trailingPoint_eq {r : Radix} (h : HasRadix s.code r) : s.trailingPoint = [] := by
  refine if_neg fun ⟨_, _, hfixed⟩ => ?_
  rcases hfixed with hcode | hcode <;>
  · rw [hcode] at h
    cases h

theorem groupWhole_append_point (s : FormatSpec) (t : Text) :
    s.groupWhole (t ++ ['.']) = s.groupWhole t ++ ['.'] := by
  have hstop : Char.isDigit '.' = false := rfl
  rw [groupWhole, takeWhile_append_cons hstop, dropWhile_append_cons hstop, groupWhole,
    List.append_assoc]

end FormatSpec

theorem HasEnds.group (h : HasEnds digits) (s : FormatSpec) (size : Nat) :
    HasEnds (s.group size digits) where
  starts := by
    rw [StartsNumber, FormatSpec.head?_group]
    exact h.starts
  ends := by
    rw [EndsNumber, FormatSpec.getLast?_group]
    exact h.ends

theorem HasEnds.groupWhole (h : HasEnds body) (s : FormatSpec) : HasEnds (s.groupWhole body) where
  starts := by
    rw [StartsNumber, FormatSpec.head?_groupWhole]
    exact h.starts
  ends := by
    rw [EndsNumber, FormatSpec.groupWhole, List.getLast?_append, FormatSpec.getLast?_group,
      ← List.getLast?_append, List.takeWhile_append_dropWhile]
    exact h.ends

theorem HasEnds.radixDigits (r : Radix) (n : Nat) : HasEnds (r.digits n) := by
  have hdigits := r.isNumeral_digits n
  have halphabet : r.alphabet.all Char.isAlphanum = true := by cases r <;> decide
  exact .of_isAlphanum hdigits.ne_nil fun d hd => List.all_eq_true.mp halphabet d (hdigits.mem d hd)

end TextTable
