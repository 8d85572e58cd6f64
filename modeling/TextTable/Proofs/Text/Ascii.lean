import TextTable.Text.Justify
import Mathlib.Data.List.TakeWhile

/-! # Printable ASCII

Printable ASCII takes one column a character, so cutting, padding and trimming such a text are
matters of its length. A text may also hold line breaks, and then its lines are printable ASCII.
-/

namespace TextTable

namespace Text

def IsAscii (t : Text) : Prop := ∀ c ∈ t, isPrintableAscii c = true

instance : DecidablePred IsAscii := fun t => List.decidableBAll _ t

def isAsciiBlock : Text → Bool
  | [] => true
  | '\n' :: rest => isAsciiBlock rest
  | '\r' :: '\n' :: rest => isAsciiBlock rest
  | c :: rest => isPrintableAscii c && isAsciiBlock rest

theorem trimEnd_append_takeWhile (t : Text) :
    t.trimEnd ++ (t.reverse.takeWhile isWhite).reverse = t := by
  rw [trimEnd, ← List.reverse_append, List.takeWhile_append_dropWhile, List.reverse_reverse]

theorem trimEnd_append_singleton (t : Text) {c : Char} (h : isWhite c = false) :
    trimEnd (t ++ [c]) = t ++ [c] := by
  simp [trimEnd, h]

theorem trimEnd_replicate (n : Nat) {c : Char} (h : isWhite c = false) :
    trimEnd (List.replicate n c) = List.replicate n c := by
  cases n with
  | zero => rfl
  | succ n => rw [List.replicate_succ', trimEnd_append_singleton _ h]

namespace IsAscii

variable {s t marker : Text} {width : Nat}

theorem nil : IsAscii [] := by simp [IsAscii]

theorem cons_iff {c : Char} : IsAscii (c :: t) ↔ isPrintableAscii c = true ∧ IsAscii t := by
  simp [IsAscii]

theorem append_iff : IsAscii (s ++ t) ↔ IsAscii s ∧ IsAscii t := by
  simp [IsAscii, or_imp, forall_and]

theorem spaces (n : Nat) : IsAscii (spaces n) := by
  intro c hc
  rw [List.eq_of_mem_replicate hc]
  decide

theorem of_subset (h : IsAscii t) (hs : s ⊆ t) : IsAscii s := fun c hc => h c (hs hc)

theorem take (h : IsAscii t) (n : Nat) : IsAscii (t.take n) := h.of_subset (List.take_subset n t)

theorem displayWidth_eq (h : IsAscii t) : displayWidth t = t.length :=
  displayWidth_of_isPrintableAscii h

/-- A printable character that is white space is the space. -/
theorem eq_space {c : Char} (hc : isPrintableAscii c = true) (hw : isWhite c = true) : c = ' ' := by
  have hn : c.toNat = ' '.toNat := by
    simp only [isPrintableAscii, isWhite, Bool.and_eq_true, Bool.or_eq_true, decide_eq_true_eq,
      beq_iff_eq] at hc hw
    change c.toNat = 32
    omega
  exact Char.toNat_inj.mp hn

theorem truncateToWidth_eq_take (h : IsAscii t) : t.truncateToWidth width = t.take width := by
  induction t generalizing width with
  | nil => simp [truncateToWidth]
  | cons c t ih =>
    obtain ⟨hc, ht⟩ := cons_iff.mp h
    rw [truncateToWidth, charWidth_of_isPrintableAscii hc]
    cases width with
    | zero => simp
    | succ n => simp [ih ht]

theorem truncateEnd (ht : IsAscii t) (hm : IsAscii marker) :
    IsAscii (t.truncateEnd width marker) := by
  unfold Text.truncateEnd
  split
  · exact ht
  · split
    · exact hm.truncateToWidth_eq_take ▸ hm.take width
    · exact append_iff.mpr ⟨ht.truncateToWidth_eq_take ▸ ht.take _, hm⟩

theorem length_truncateEnd (ht : IsAscii t) (hm : IsAscii marker) :
    (t.truncateEnd width marker).length = min t.length width := by
  unfold Text.truncateEnd
  rw [ht.displayWidth_eq, hm.displayWidth_eq, ht.truncateToWidth_eq_take,
    hm.truncateToWidth_eq_take]
  split
  · omega
  · split
    · rw [List.length_take]; omega
    · rw [List.length_append, List.length_take]; omega

theorem justify (h : IsAscii t) (a : Align) : IsAscii (t.justify width a) := by
  cases a <;> simp [Text.justify, padLeft, padRight, padCenter, append_iff, h, spaces]

theorem length_justify (h : IsAscii t) (a : Align) :
    (t.justify width a).length = max t.length width := by
  cases a with
  | left => simp [Text.justify, padRight, h.displayWidth_eq]; omega
  | right => simp [Text.justify, padLeft, h.displayWidth_eq]; omega
  | center =>
    have hm : centerMargin (width - t.length) width ≤ width - t.length := by
      unfold centerMargin
      split <;> omega
    simp [Text.justify, padCenter, h.displayWidth_eq]
    omega

theorem trimEnd_append_spaces (h : IsAscii t) :
    t.trimEnd ++ TextTable.spaces (t.length - t.trimEnd.length) = t := by
  have hsplit := trimEnd_append_takeWhile t
  have hspaces : (t.reverse.takeWhile isWhite).reverse =
      TextTable.spaces (t.reverse.takeWhile isWhite).length := by
    refine List.eq_replicate_iff.mpr ⟨List.length_reverse, fun c hc => ?_⟩
    rw [List.mem_reverse] at hc
    exact eq_space (h c (List.mem_reverse.mp (List.takeWhile_subset _ hc)))
      (List.mem_takeWhile_imp hc)
  have hlen : t.length - t.trimEnd.length = (t.reverse.takeWhile isWhite).length := by
    have := congrArg List.length hsplit
    rw [List.length_append, List.length_reverse] at this
    omega
  rw [hlen, ← hspaces, hsplit]

end IsAscii

section Lines

variable {t : Text}

theorem isAsciiBlock_of_isAscii (h : IsAscii t) : isAsciiBlock t = true := by
  fun_induction isAsciiBlock t with
  | case1 => rfl
  | case2 rest ih => exact ih (IsAscii.cons_iff.mp h).2
  | case3 rest ih => exact ih (IsAscii.cons_iff.mp (IsAscii.cons_iff.mp h).2).2
  | case4 c rest _ _ ih =>
    obtain ⟨hc, hr⟩ := IsAscii.cons_iff.mp h
    simp [hc, ih hr]

theorem isAsciiBlock_tail {c : Char} (h : isAsciiBlock (c :: t) = true) :
    isAsciiBlock t = true := by
  unfold isAsciiBlock at h
  split at h
  · contradiction
  · next heq => cases heq; exact h
  · next heq => cases heq; simpa [isAsciiBlock] using h
  · next heq => cases heq; exact (Bool.and_eq_true_iff.mp h).2

theorem isAscii_of_mem_brokenLines (h : isAsciiBlock t = true) :
    ∀ line ∈ brokenLines t, IsAscii line := by
  fun_induction brokenLines t with
  | case1 => simp
  | case2 rest ih => simpa [IsAscii.nil] using ih (isAsciiBlock_tail h)
  | case3 rest ih => simpa [IsAscii.nil] using ih (isAsciiBlock_tail (isAsciiBlock_tail h))
  | case4 c rest hn hr hnil ih =>
    simp only [isAsciiBlock, Bool.and_eq_true] at h
    simp [IsAscii, h.1]
  | case5 c rest hn hr line lines heq ih =>
    simp only [isAsciiBlock, Bool.and_eq_true] at h
    obtain ⟨hl, hls⟩ := List.forall_mem_cons.mp (heq ▸ ih h.2)
    exact List.forall_mem_cons.mpr ⟨IsAscii.cons_iff.mpr ⟨h.1, hl⟩, hls⟩

theorem isAscii_of_mem_lines (h : isAsciiBlock t = true) : ∀ line ∈ t.lines, IsAscii line := by
  unfold lines
  split
  · simp [IsAscii.nil]
  · next heq => exact heq ▸ isAscii_of_mem_brokenLines h

theorem lines_of_isAscii (h : IsAscii t) : t.lines = [t] := by
  have hbroken : ∀ t, IsAscii t → t ≠ [] → brokenLines t = [t] := by
    intro t h hne
    fun_induction brokenLines t with
    | case1 => contradiction
    | case2 rest ih => exact absurd (h _ List.mem_cons_self) (by decide)
    | case3 rest ih => exact absurd (h _ List.mem_cons_self) (by decide)
    | case4 c rest _ _ hnil ih =>
      cases rest with
      | nil => rfl
      | cons => simp [ih (IsAscii.cons_iff.mp h).2] at hnil
    | case5 c rest _ _ line lines heq ih =>
      cases rest with
      | nil => simp [brokenLines] at heq
      | cons => simpa [heq] using ih (IsAscii.cons_iff.mp h).2
  cases t with
  | nil => rfl
  | cons c t => rw [lines, hbroken _ h (List.cons_ne_nil c t)]

end Lines

end Text

end TextTable
