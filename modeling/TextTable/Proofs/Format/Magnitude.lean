import TextTable.Proofs.Format.Numeral
import TextTable.Proofs.Format.SpecText

/-! # Texts of magnitudes

The text of a magnitude starts with a digit, a point or a letter, and so it can be told from the
sign in front of it.
-/

namespace TextTable

def IsPositional (t : Text) : Prop := ∀ c ∈ t, c.isDigit = true ∨ c = '.'

variable {t rest digits : Text}

theorem IsPositional.of_isDigit (h : ∀ c ∈ t, c.isDigit = true) : IsPositional t :=
  fun c hc => Or.inl (h c hc)

theorem IsPositional.of_subset (h : IsPositional t) (hsub : rest ⊆ t) : IsPositional rest :=
  fun c hc => h c (hsub hc)

theorem IsPositional.append (h : IsPositional t) (hrest : IsPositional rest) :
    IsPositional (t ++ rest) :=
  List.forall_mem_append.mpr ⟨h, hrest⟩

theorem IsPositional.cons_point (h : IsPositional t) : IsPositional ('.' :: t) :=
  List.forall_mem_cons.mpr ⟨Or.inr rfl, h⟩

theorem isDigit_of_mem_replicate {n : Nat} : ∀ c ∈ List.replicate n '0', c.isDigit = true :=
  fun _ hc => List.eq_of_mem_replicate hc ▸ rfl

theorem isSignChar_of_lt {c : Char} (h : 45 < c.toNat) : isSignChar c = false := by
  have hne {d : Char} (hd : d.toNat ≤ 45) : c ≠ d := by
    rintro rfl
    omega
  simp [isSignChar, hne (d := '-') (by decide), hne (d := '+') (by decide),
    hne (d := ' ') (by decide)]

theorem isSignChar_of_isDigit {c : Char} (h : c.isDigit = true) : isSignChar c = false := by
  simp only [Char.isDigit, Bool.and_eq_true, decide_eq_true_eq] at h
  have hge : 48 ≤ c.toNat := h.1
  exact isSignChar_of_lt (by omega)

theorem IsPositional.avoids_append (h : IsPositional t) (hrest : rest.Avoids isSignChar) :
    (t ++ rest).Avoids isSignChar := by
  refine FormatSpec.avoids_append (FormatSpec.avoids_of_forall_mem fun c hc => ?_) fun _ => hrest
  rcases h c hc with hd | rfl
  · exact isSignChar_of_isDigit hd
  · rfl

theorem IsPositional.avoids (h : IsPositional t) : t.Avoids isSignChar := by
  have happend : Text.Avoids (t ++ []) isSignChar := h.avoids_append nofun
  rwa [List.append_nil] at happend

theorem isDigit_paddedDigits (count n : Nat) : ∀ c ∈ paddedDigits count n, c.isDigit = true :=
  List.forall_mem_append.mpr ⟨isDigit_of_mem_replicate, isDigit_of_mem_toDigits⟩

theorem isPositional_fixed (num den places : Nat) : IsPositional (fixed num den places) := by
  have hdigits (n : Nat) : IsPositional (paddedDigits (places + 1) n) :=
    .of_isDigit (isDigit_paddedDigits _ n)
  unfold fixed
  dsimp only
  split
  · exact (hdigits _).of_subset (List.take_subset _ _)
  · refine ((hdigits _).of_subset (List.take_subset _ _)).append (.cons_point ?_)
    exact (hdigits _).of_subset (List.drop_subset _ _)

namespace Scientific

variable {s : Scientific}

theorem isDigit_round (num den count : Nat) :
    ∀ c ∈ (round num den count).digits, c.isDigit = true := by
  unfold round
  split
  · exact isDigit_of_mem_replicate
  · dsimp only
    split <;> exact isDigit_of_mem_toDigits

theorem isDigit_readingBack {tie : Tie} {rank count : Nat}
    (h : readingBack tie rank count = some s) : ∀ c ∈ s.digits, c.isDigit = true := by
  unfold readingBack at h
  extract_lets units gap below exponent places scale num den low high readsBack ofNat n rem upper
    at h
  have hdigits (n : Nat) : ∀ c ∈ (ofNat n).digits, c.isDigit = true := by
    intro c hc
    have hmem : c ∈ (Nat.toDigits 10 n).reverse :=
      (List.dropWhile_suffix _).subset (List.mem_reverse.mp hc)
    exact isDigit_of_mem_toDigits c (List.mem_reverse.mp hmem)
  clear_value ofNat
  split at h
  · cases h
    exact hdigits _
  · split at h
    · cases h
      exact hdigits _
    · split at h
      · cases h
        exact hdigits _
      · contradiction

theorem isDigit_shortest (tie : Tie) (rank : Nat) :
    ∀ c ∈ (shortest tie rank).digits, c.isDigit = true := by
  unfold shortest
  split
  · exact List.forall_mem_singleton.mpr rfl
  · cases hfind : (List.range 17).findSome? fun count => readingBack tie rank (count + 1) with
    | none => exact isDigit_round _ _ _
    | some s =>
      obtain ⟨count, -, h⟩ := List.exists_of_findSome?_eq_some hfind
      exact isDigit_readingBack h

theorem isPositional_mantissa (h : ∀ c ∈ s.digits, c.isDigit = true) : IsPositional s.mantissa := by
  unfold mantissa
  split
  · exact fun c hc => absurd hc List.not_mem_nil
  · next d hd =>
    rw [hd] at h
    exact .of_isDigit h
  · next d rest _ hd =>
    rw [hd] at h
    obtain ⟨hd, hrest⟩ := List.forall_mem_cons.mp h
    exact List.forall_mem_cons.mpr ⟨Or.inl hd, (IsPositional.of_isDigit hrest).cons_point⟩

theorem isPositional_positional (h : ∀ c ∈ s.digits, c.isDigit = true) :
    IsPositional s.positional := by
  unfold positional
  split
  · have hdigits (n : Nat) : IsPositional (List.replicate n '0' ++ s.digits) :=
      .of_isDigit (List.forall_mem_append.mpr ⟨isDigit_of_mem_replicate, h⟩)
    exact List.forall_mem_cons.mpr ⟨Or.inl rfl, (hdigits _).cons_point⟩
  · have hpadded (n : Nat) : IsPositional (s.digits ++ List.replicate n '0') :=
      .of_isDigit (List.forall_mem_append.mpr ⟨h, isDigit_of_mem_replicate⟩)
    dsimp only
    split
    · exact hpadded _
    · refine ((hpadded _).of_subset (List.take_subset _ _)).append (.cons_point ?_)
      exact (hpadded _).of_subset (List.drop_subset _ _)

end Scientific

theorem avoids_exponentText (count : Nat) (exponent : Int) :
    (exponentText count exponent).Avoids isSignChar :=
  fun _ hc => Option.some.inj hc ▸ rfl

theorem toUpper_cases (c : Char) : c.toUpper = c ∨ c.toUpper.isUpper = true := by
  unfold Char.toUpper
  split
  · next hlower =>
    have hlow : 97 ≤ c.val.toNat := hlower.1
    have hhigh : c.val.toNat ≤ 122 := hlower.2
    have hshift : ('A'.val - 'a'.val).toNat = 2 ^ 32 - 32 := rfl
    have hval : (c.val + ('A'.val - 'a'.val)).toNat = c.val.toNat - 32 := by
      rw [UInt32.toNat_add, hshift]
      omega
    have hupper : 65 ≤ (c.val + ('A'.val - 'a'.val)).toNat ∧
        (c.val + ('A'.val - 'a'.val)).toNat ≤ 90 := by omega
    exact Or.inr (decide_eq_true hupper)
  · exact Or.inl rfl

theorem isSignChar_toUpper {c : Char} (h : isSignChar c = false) :
    isSignChar c.toUpper = false := by
  rcases toUpper_cases c with heq | hupper
  · rw [heq, h]
  · have hle : 65 ≤ c.toUpper.toNat := (of_decide_eq_true hupper).1
    exact isSignChar_of_lt (by omega)

theorem avoids_map_toUpper (h : t.Avoids isSignChar) :
    Text.Avoids (t.map Char.toUpper) isSignChar := by
  cases t with
  | nil => exact h
  | cons c t => exact fun d hd => Option.some.inj hd ▸ isSignChar_toUpper (h c rfl)

namespace Double

theorem avoids_exponential (places : Nat) (alternate : Bool) (x : Double) :
    (x.exponential places alternate).Avoids isSignChar := by
  unfold exponential
  rw [List.append_assoc]
  refine (Scientific.isPositional_mantissa (Scientific.isDigit_round _ _ _)).avoids_append ?_
  split
  · exact fun _ hc => Option.some.inj hc ▸ rfl
  · exact avoids_exponentText _ _

theorem isPositional_dropZeros (h : IsPositional t) : IsPositional (dropZeros t) := by
  unfold dropZeros
  split
  · refine h.of_subset fun c hc => ?_
    have hsub := (List.dropWhile_suffix (· = '.')).subset (List.mem_reverse.mp hc)
    exact List.mem_reverse.mp ((List.dropWhile_suffix (· = '0')).subset hsub)
  · exact h

theorem avoids_general (precision : Nat) (alternate : Bool) (x : Double) :
    (x.general precision alternate).Avoids isSignChar := by
  have hkept {m : Text} (h : IsPositional m) :
      IsPositional (if alternate then m else dropZeros m) := by
    split
    · exact h
    · exact isPositional_dropZeros h
  unfold general
  extract_lets count s
  by_cases hpositional : -4 ≤ s.exponent ∧ s.exponent < count
  · simp only [if_pos hpositional]
    exact (hkept (isPositional_fixed _ _ _)).avoids_append nofun
  · simp only [if_neg hpositional]
    refine (hkept ?_).avoids_append (avoids_exponentText _ _)
    exact Scientific.isPositional_mantissa (Scientific.isDigit_round _ _ _)

theorem avoids_plain (x : Double) : x.plain.Avoids isSignChar := by
  have hdigits := Scientific.isDigit_shortest .up x.rank
  unfold plain
  split
  · exact fun _ hc => Option.some.inj hc ▸ rfl
  · dsimp only
    split
    · unfold withPoint
      split
      · exact (Scientific.isPositional_positional hdigits).avoids
      · exact (Scientific.isPositional_positional hdigits).avoids_append fun _ hc =>
          Option.some.inj hc ▸ rfl
    · exact (Scientific.isPositional_mantissa hdigits).avoids_append (avoids_exponentText _ _)

end Double

theorem Rounded.avoids_fixed (places : Nat) (alternate : Bool) (x : Rounded) :
    (x.fixed places alternate).Avoids isSignChar := by
  have hpoint : Text.Avoids ['.'] isSignChar := fun _ hc => Option.some.inj hc ▸ rfl
  unfold Rounded.fixed
  cases x with
  | finite x =>
    have hfixed : IsPositional (TextTable.fixed x.units Double.unitsPerOne places) :=
      isPositional_fixed _ _ _
    dsimp only
    split
    · exact hfixed.avoids_append hpoint
    · exact hfixed.avoids
  | infinite _ =>
    dsimp only
    split <;> exact fun _ hc => Option.some.inj hc ▸ rfl

namespace FormatSpec

variable {s : FormatSpec} {body : Text}

/-- The text of a magnitude does not start with a sign, whatever the type code is. -/
theorem avoids_doubleBody {x : Double} (h : s.doubleBody x = .ok body) :
    body.Avoids isSignChar := by
  unfold doubleBody at h
  extract_lets precision at h
  split at h
  · split at h
    · cases h
      exact x.avoids_plain
    · next p _ =>
      cases h
      split
      · exact x.avoids_general p _
      · exact avoids_append (x.avoids_general p _) fun _ _ hc => Option.some.inj hc ▸ rfl
  · split at h <;> cases h
    · exact Rounded.avoids_fixed _ _ _
    · exact Rounded.avoids_fixed _ _ _
    · exact x.avoids_exponential _ _
    · exact avoids_map_toUpper (x.avoids_exponential _ _)
    · exact x.avoids_general _ _
    · exact x.avoids_general _ _
    · exact avoids_map_toUpper (x.avoids_general _ _)
    · exact avoids_append (Rounded.avoids_fixed _ _ _) fun _ _ hc => Option.some.inj hc ▸ rfl

theorem head?_groupDigits (sep : Char) (size : Nat) (digits : Text) :
    (groupDigits sep size digits).head? = digits.head? := by
  fun_cases groupDigits sep size digits <;> rfl

theorem head?_group (s : FormatSpec) (size : Nat) (digits : Text) :
    (s.group size digits).head? = digits.head? := by
  unfold group
  split
  · rfl
  · exact head?_groupDigits _ _ _

theorem head?_groupWhole (s : FormatSpec) (body : Text) :
    (s.groupWhole body).head? = body.head? := by
  rw [groupWhole, List.head?_append, head?_group, ← List.head?_append,
    List.takeWhile_append_dropWhile]

end FormatSpec

end TextTable
