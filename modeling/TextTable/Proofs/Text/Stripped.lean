import Mathlib.Data.List.Chain
import TextTable.Proofs.Text.Wrap

/-! # Padded lines without the white space around them

Lines that are padded to a width and joined lose the padding before the first line and behind the
last one when the whole is trimmed. The padding between two lines stays.
-/

namespace TextTable

namespace Text

def margins (width : Nat) (a : Align) (line : Text) : Nat × Nat :=
  let margin := width - displayWidth line
  match a with
  | .left => (0, margin)
  | .center => (centerMargin margin width, margin - centerMargin margin width)
  | .right => (margin, 0)

/-- The lines one below the other, with the padding that stands between two of them. -/
def joinPadded (width : Nat) (a : Align) : List Text → Text
  | [] => []
  | [line] => line
  | line :: next :: rest =>
    line ++ spaces (margins width a line).2 ++
      '\n' :: (spaces (margins width a next).1 ++ joinPadded width a (next :: rest))

def IsTight (width : Nat) (a : Align) (lines : List Text) : Prop :=
  lines.IsChain fun line next => (margins width a line).2 = 0 ∧ (margins width a next).1 = 0

/-- The text starts and ends with characters that are no white space. -/
structure IsBare (t : Text) : Prop where
  head : ∃ c ∈ t.head?, isWhite c = false
  last : ∃ c ∈ t.getLast?, isWhite c = false

variable {width : Nat} {a : Align} {line next t core left right : Text} {lines xs ys : List Text}

theorem IsBare.ne_nil (h : IsBare t) : t ≠ [] := by
  rintro rfl
  obtain ⟨c, hc, -⟩ := h.head
  contradiction

theorem IsBare.append (h : IsBare left) (hright : IsBare right) (t : Text) :
    IsBare (left ++ t ++ right) := by
  obtain ⟨c, hc, hhead⟩ := h.head
  obtain ⟨d, hd, hlast⟩ := hright.last
  refine ⟨⟨c, ?_, hhead⟩, ⟨d, List.mem_getLast?_append_of_mem_getLast? hd, hlast⟩⟩
  rw [List.append_assoc]
  exact List.mem_head?_append_of_mem_head? hc

theorem IsBare.trim_eq (h : IsBare core) (hleft : left.isBlank = true)
    (hright : right.isBlank = true) : trim (left ++ core ++ right) = core := by
  obtain ⟨c, hc, hhead⟩ := h.head
  obtain ⟨d, hd, hlast⟩ := h.last
  obtain ⟨front, rfl⟩ := List.getLast?_eq_some_iff.mp hd
  have hstart : trimStart (left ++ (front ++ [d]) ++ right) = front ++ [d] ++ right := by
    rw [trimStart, List.append_assoc, List.dropWhile_append_of_pos (List.all_eq_true.mp hleft)]
    obtain ⟨rest, hrest⟩ := List.head?_eq_some_iff.mp hc
    rw [hrest, List.cons_append, List.dropWhile_cons_of_neg (by simp [hhead])]
  have hall : ∀ c ∈ right.reverse, isWhite c = true := fun c hc =>
    List.all_eq_true.mp hright c (List.mem_reverse.mp hc)
  rw [trim, hstart, trimEnd, List.reverse_append, List.dropWhile_append_of_pos hall]
  simp [hlast]

theorem isBlank_unlines (h : ∀ line ∈ lines, line.isBlank = true) :
    (unlines lines).isBlank = true := by
  refine List.all_eq_true.mpr fun c hc => ?_
  rcases mem_unlines hc with rfl | ⟨line, hl, hc⟩
  · rfl
  · exact List.all_eq_true.mp (h line hl) c hc

theorem isBlank_spaces (n : Nat) : (spaces n).isBlank = true :=
  List.all_eq_true.mpr fun _ hc => List.eq_of_mem_replicate hc ▸ rfl

theorem isBlank_append (hleft : left.isBlank = true) (hright : right.isBlank = true) :
    isBlank (left ++ right) = true := by
  rw [isBlank, List.all_append, Bool.and_eq_true]
  exact ⟨hleft, hright⟩

theorem unlines_append (hx : xs ≠ []) (hy : ys ≠ []) :
    unlines (xs ++ ys) = unlines xs ++ '\n' :: unlines ys := by
  obtain ⟨y, ys, rfl⟩ := List.exists_cons_of_ne_nil hy
  induction xs with
  | nil => contradiction
  | cons x xs ih =>
    cases xs with
    | nil => rfl
    | cons x' xs =>
      have ih := ih (List.cons_ne_nil _ _)
      change x ++ '\n' :: unlines (x' :: xs ++ y :: ys) = _
      rw [ih]
      simp [unlines]

theorem exists_unlines_blank (pad : Text) (hpad : pad.isBlank = true) (hne : lines ≠ [])
    (above below : Nat) : ∃ left right, left.isBlank = true ∧ right.isBlank = true ∧
      unlines (List.replicate above pad ++ lines ++ List.replicate below pad) =
        left ++ unlines lines ++ right := by
  have hblank (n : Nat) : (unlines (List.replicate n pad)).isBlank = true :=
    isBlank_unlines fun line hl => List.eq_of_mem_replicate hl ▸ hpad
  obtain ⟨left, hleft, habove⟩ : ∃ left : Text, left.isBlank = true ∧
      unlines (List.replicate above pad ++ lines) = left ++ unlines lines := by
    rcases Nat.eq_zero_or_pos above with rfl | hpos
    · exact ⟨[], rfl, rfl⟩
    · refine ⟨unlines (List.replicate above pad) ++ ['\n'], isBlank_append (hblank _) rfl, ?_⟩
      rw [unlines_append (by simpa using Nat.ne_of_gt hpos) hne, List.append_assoc]
      rfl
  have hne' : List.replicate above pad ++ lines ≠ [] := by simp [hne]
  rcases Nat.eq_zero_or_pos below with rfl | hpos
  · exact ⟨left, [], hleft, rfl, by simp [habove]⟩
  · have hbelow : isBlank (['\n'] ++ unlines (List.replicate below pad)) = true :=
      isBlank_append rfl (hblank below)
    refine ⟨left, '\n' :: unlines (List.replicate below pad), hleft, hbelow, ?_⟩
    rw [unlines_append hne' (by simpa using Nat.ne_of_gt hpos), habove]

theorem justify_eq_margins (width : Nat) (a : Align) (line : Text) : line.justify width a =
    spaces (margins width a line).1 ++ line ++ spaces (margins width a line).2 := by
  cases a with
  | left => rfl
  | center => rfl
  | right => exact (List.append_nil _).symm

/-- The padding before the first line and behind the last one stands around the others. -/
theorem exists_unlines_justify (width : Nat) (a : Align) (line : Text) (rest : List Text) :
    ∃ n, unlines ((line :: rest).map (·.justify width a)) =
      spaces (margins width a line).1 ++ joinPadded width a (line :: rest) ++ spaces n := by
  induction rest generalizing line with
  | nil => exact ⟨_, justify_eq_margins width a line⟩
  | cons next rest ih =>
    obtain ⟨n, hn⟩ := ih next
    refine ⟨n, ?_⟩
    change line.justify width a ++ '\n' :: unlines ((next :: rest).map (·.justify width a)) = _
    rw [hn, justify_eq_margins, joinPadded]
    simp only [List.append_assoc, List.cons_append]

theorem isBare_joinPadded (hne : lines ≠ []) (h : ∀ line ∈ lines, IsBare line) :
    IsBare (joinPadded width a lines) := by
  fun_induction joinPadded width a lines with
  | case1 => contradiction
  | case2 line => exact h line List.mem_cons_self
  | case3 line next rest ih =>
    obtain ⟨hline, hrest⟩ := List.forall_mem_cons.mp h
    have hbare := hline.append (ih (List.cons_ne_nil _ _) hrest)
      (spaces (margins width a line).2 ++ '\n' :: spaces (margins width a next).1)
    simpa using hbare

theorem trim_unlines_justify (hne : lines ≠ []) (h : ∀ line ∈ lines, IsBare line) {pad : Text}
    (hpad : pad.isBlank = true) (above below : Nat) :
    trim (unlines (List.replicate above pad ++ lines.map (·.justify width a) ++
      List.replicate below pad)) = joinPadded width a lines := by
  obtain ⟨line, rest, rfl⟩ := List.exists_cons_of_ne_nil hne
  have hjustified : (line :: rest).map (·.justify width a) ≠ [] := List.cons_ne_nil _ _
  obtain ⟨left, right, hleft, hright, hblank⟩ :=
    exists_unlines_blank pad hpad hjustified above below
  obtain ⟨n, hn⟩ := exists_unlines_justify width a line rest
  have hsplit : left ++ unlines ((line :: rest).map (·.justify width a)) ++ right =
      left ++ spaces (margins width a line).1 ++ joinPadded width a (line :: rest) ++
        (spaces n ++ right) := by
    rw [hn]
    simp only [List.append_assoc]
  rw [hblank, hsplit]
  exact (isBare_joinPadded hne h).trim_eq (isBlank_append hleft (isBlank_spaces _))
    (isBlank_append (isBlank_spaces n) hright)

theorem length_unlines_le (width : Nat) (a : Align) (lines : List Text) :
    (unlines lines).length ≤ (joinPadded width a lines).length := by
  fun_induction joinPadded width a lines with
  | case1 => exact Nat.le_refl _
  | case2 line => exact Nat.le_refl _
  | case3 line next rest ih =>
    simp only [unlines, List.length_append, List.length_cons, length_spaces]
    omega

/-- Nothing is left of the padding exactly if none stands between two lines. -/
theorem joinPadded_eq_unlines_iff :
    joinPadded width a lines = unlines lines ↔ IsTight width a lines := by
  unfold IsTight
  fun_induction joinPadded width a lines with
  | case1 => simp [unlines]
  | case2 line => simp [unlines]
  | case3 line next rest ih =>
    rw [List.isChain_cons_cons, ← ih]
    constructor
    · intro heq
      have hlength := congrArg List.length heq
      have hle := length_unlines_le width a (next :: rest)
      simp only [unlines, List.length_append, List.length_cons, length_spaces] at hlength hle
      have hright : (margins width a line).2 = 0 := by omega
      have hleft : (margins width a next).1 = 0 := by omega
      refine ⟨⟨hright, hleft⟩, ?_⟩
      rw [hright, hleft] at heq
      change line ++ [] ++ '\n' :: joinPadded width a (next :: rest) =
        line ++ '\n' :: unlines (next :: rest) at heq
      rw [List.append_nil] at heq
      exact (List.cons.inj (List.append_cancel_left heq)).2
    · rintro ⟨⟨hright, hleft⟩, heq⟩
      rw [hright, hleft, heq]
      simp [unlines, spaces]

end Text

end TextTable
