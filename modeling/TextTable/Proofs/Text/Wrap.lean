import Mathlib.Data.List.Chain
import TextTable.Proofs.Text.Ascii
import TextTable.Text.Wrap

/-! # Wrapped lines

The pieces of a text, with the spaces after them, make up the text again, and only a piece that is
too long by itself makes a line too long. So no line is longer than asked if words may be broken.
-/

namespace TextTable

def Text.IsNarrow (t : Text) : Prop := ∀ c ∈ t, charWidth c = 1

theorem Text.IsAscii.isNarrow {t : Text} (h : IsAscii t) : t.IsNarrow :=
  fun c hc => charWidth_of_isPrintableAscii (h c hc)

namespace Piece

def full (p : Piece) : Text := p.text ++ TextTable.spaces p.spaces

variable {p : Piece}

theorem width_eq (h : Text.IsNarrow p.text) : p.width = p.text.length := shownWidth_eq_length h

theorem fullWidth_eq (h : Text.IsNarrow p.text) : p.fullWidth = p.full.length := by
  rw [fullWidth, width_eq h, full, List.length_append, length_spaces]

end Piece

namespace Wrap

open Text

theorem flatMap_full_words (t : Text) : (words t).flatMap Piece.full = t := by
  induction t with
  | nil => rfl
  | cons c t ih =>
    rw [words]
    split
    · next h =>
      subst h
      split
      · next n more hw =>
        rw [hw] at ih
        simpa [Piece.full, TextTable.spaces, List.replicate_succ] using ih
      · simpa [Piece.full, TextTable.spaces] using ih
    · split
      · next p more hw =>
        rw [hw] at ih
        simpa [Piece.full] using ih
      · next hw =>
        rw [hw] at ih
        simpa [Piece.full, TextTable.spaces] using ih

theorem flatMap_full_ofParts (n : Nat) (part : Text) (more : List Text) :
    (ofParts n part more).flatMap Piece.full = part ++ more.flatten ++ TextTable.spaces n := by
  induction more generalizing part with
  | nil => simp [ofParts, Piece.full]
  | cons next more ih => simp [ofParts, Piece.full, ih, TextTable.spaces]

theorem hyphenParts_flatten (before : Option Char) (t : Text) :
    (hyphenParts before t).1 ++ (hyphenParts before t).2.flatten = t := by
  induction t generalizing before with
  | nil => rfl
  | cons c t ih =>
    have := ih (some c)
    simp only [hyphenParts]
    split <;> simpa using this

theorem fittingParts_flatten (limit used : Nat) (e : Escape) (t : Text) :
    (fittingParts limit used e t).1 ++ (fittingParts limit used e t).2.flatten = t := by
  induction t generalizing used e with
  | nil => rfl
  | cons c t ih =>
    simp only [fittingParts]
    split <;> simpa using ih _ _

theorem flatMap_full_atHyphens (p : Piece) : (atHyphens p).flatMap Piece.full = p.full := by
  simp [atHyphens, flatMap_full_ofParts, hyphenParts_flatten, Piece.full]

theorem flatMap_full_cutToWidth (limit : Nat) (p : Piece) :
    (cutToWidth limit p).flatMap Piece.full = p.full := by
  unfold cutToWidth
  split
  · simp [flatMap_full_ofParts, fittingParts_flatten, Piece.full]
  · simp

theorem flatMap_full_pieces (limit : Nat) (breakWords : Bool) (t : Text) :
    (pieces limit breakWords t).flatMap Piece.full = t := by
  have h : ((words t).flatMap atHyphens).flatMap Piece.full = t := by
    rw [List.flatMap_assoc]
    simp only [flatMap_full_atHyphens, flatMap_full_words]
  unfold pieces
  split
  · rw [List.flatMap_assoc]
    simpa only [flatMap_full_cutToWidth] using h
  · exact h

theorem fillLine_flatten (limit used : Nat) (ps : List Piece) :
    (fillLine limit used ps).1 ++ (fillLine limit used ps).2.flatten = ps := by
  induction ps generalizing used with
  | nil => rfl
  | cons p ps ih =>
    simp only [fillLine]
    split <;> simpa using ih _

theorem fill_flatten (limit : Nat) (ps : List Piece) : (fill limit ps).flatten = ps := by
  cases ps with
  | nil => rfl
  | cons p ps => simpa [fill] using fillLine_flatten limit p.fullWidth ps

theorem lineText_cons_cons (p q : Piece) (line : List Piece) :
    lineText (p :: q :: line) = p.full ++ lineText (q :: line) :=
  lineText.eq_3 p (q :: line) (by simp)

theorem lineText_isPrefix (line : List Piece) : lineText line <+: line.flatMap Piece.full := by
  induction line with
  | nil => exact List.nil_prefix
  | cons p line ih =>
    cases line with
    | nil => simp [lineText, Piece.full]
    | cons q line =>
      rw [lineText_cons_cons, List.flatMap_cons]
      exact (List.prefix_append_right_inj _).mpr ih

variable {limit : Nat} {t : Text}

/-- The chunks that a text is cut into: `limit` characters each, or fewer in the last one. -/
structure AreChunks (limit : Nat) (ds : List Text) : Prop where
  ne_nil : ∀ d ∈ ds, d ≠ []
  length_le : ∀ d ∈ ds, d.length ≤ limit
  length_eq : ds.IsChain fun d _ => d.length = limit

theorem AreChunks.cons {d : Text} {ds : List Text} (h : AreChunks limit ds) (hd : d ≠ [])
    (hle : d.length ≤ limit) (heq : ds ≠ [] → d.length = limit) : AreChunks limit (d :: ds) where
  ne_nil := List.forall_mem_cons.mpr ⟨hd, h.ne_nil⟩
  length_le := List.forall_mem_cons.mpr ⟨hle, h.length_le⟩
  length_eq := List.isChain_cons.mpr
    ⟨fun _ hnext => heq (List.ne_nil_of_mem (List.mem_of_mem_head? hnext)), h.length_eq⟩

/-- The first part takes at most what is left of the line after `used` columns, and all of it if
there are more parts. -/
theorem areChunks_fittingParts {used : Nat} (h : IsNarrow t) (hl : 0 < limit) (hu : used ≤ limit) :
    used + (fittingParts limit used .outside t).1.length ≤ limit ∧
      ((fittingParts limit used .outside t).2 ≠ [] →
        used + (fittingParts limit used .outside t).1.length = limit) ∧
      AreChunks limit (fittingParts limit used .outside t).2 := by
  induction t generalizing used with
  | nil => exact ⟨hu, fun hn => absurd rfl hn, nofun, nofun, .nil⟩
  | cons c t ih =>
    obtain ⟨hw, ht⟩ := List.forall_mem_cons.mp h
    have he : c ≠ '\x1b' := by rintro rfl; exact absurd hw (by decide)
    simp only [fittingParts, Escape.shows, Escape.columns, Escape.next, hw, he, ne_eq,
      not_false_eq_true, decide_true, Bool.true_and, if_true, if_false, Bool.and_eq_true,
      decide_eq_true_eq]
    split
    · obtain ⟨hle, heq, hchunks⟩ := @ih 1 ht hl
      refine ⟨hu, fun _ => by rw [List.length_nil]; omega,
        hchunks.cons (List.cons_ne_nil _ _) ?_ ?_⟩
      · rw [List.length_cons]; omega
      · intro hn
        have := heq hn
        rw [List.length_cons]; omega
    · obtain ⟨hle, heq, hchunks⟩ := @ih (used + 1) ht (by omega)
      rw [List.length_cons]
      exact ⟨by omega, fun hn => by have := heq hn; omega, hchunks⟩

theorem areChunks_of_limit_lt {p : Piece} (h : IsNarrow p.text) (hl : 0 < limit)
    (hw : limit < p.width) : AreChunks limit ((fittingParts limit 0 .outside p.text).1 ::
      (fittingParts limit 0 .outside p.text).2) := by
  obtain ⟨hle, heq, hchunks⟩ := areChunks_fittingParts h hl (Nat.zero_le limit)
  have hflat := fittingParts_flatten limit 0 .outside p.text
  rw [Nat.zero_add] at hle heq
  refine hchunks.cons (fun hnil => ?_) hle heq
  -- The first part is not empty, or else it would be as long as a line.
  rw [hnil, List.length_nil] at heq
  have hmore : (fittingParts limit 0 .outside p.text).2 = [] := by
    by_contra hn
    have := heq hn
    omega
  rw [hnil, hmore, List.flatten_nil] at hflat
  rw [Piece.width_eq h, ← hflat] at hw
  exact absurd hw (Nat.not_lt_zero limit)

theorem text_mem_of_mem_ofParts {n : Nat} {part : Text} {more : List Text} {q : Piece}
    (hq : q ∈ ofParts n part more) : q.text = part ∨ q.text ∈ more := by
  induction more generalizing part with
  | nil => exact Or.inl (by rw [List.mem_singleton.mp hq])
  | cons next more ih =>
    rcases List.mem_cons.mp hq with rfl | hq
    · exact Or.inl rfl
    · exact Or.inr (List.mem_cons.mpr (ih hq))

theorem length_le_of_mem_cutToWidth {p q : Piece} (h : IsNarrow p.text) (hl : 0 < limit)
    (hq : q ∈ cutToWidth limit p) : q.text.length ≤ limit := by
  unfold cutToWidth at hq
  split at hq
  · next hw =>
    have hmem := List.mem_cons.mpr (text_mem_of_mem_ofParts hq)
    exact (areChunks_of_limit_lt h hl hw).length_le _ hmem
  · next hw =>
    rw [List.mem_singleton.mp hq, ← Piece.width_eq h]
    omega

theorem text_subset_of_mem {p : Piece} {ps : List Piece} (hp : p ∈ ps)
    (hps : ps.flatMap Piece.full = t) : p.text ⊆ t := fun _ hc =>
  hps ▸ List.mem_flatMap.mpr ⟨p, hp, List.mem_append_left _ hc⟩

theorem isNarrow_of_mem_pieces {breakWords : Bool} {p : Piece} (h : IsNarrow t)
    (hp : p ∈ pieces limit breakWords t) : IsNarrow p.text := fun c hc =>
  h c (text_subset_of_mem hp (flatMap_full_pieces limit breakWords t) hc)

theorem length_le_of_mem_pieces {p : Piece} (h : IsNarrow t) (hl : 0 < limit)
    (hp : p ∈ pieces limit true t) : p.text.length ≤ limit := by
  obtain ⟨q, hq, hp⟩ := List.mem_flatMap.mp hp
  have hqt : q.text ⊆ t := by
    refine text_subset_of_mem hq ?_
    rw [List.flatMap_assoc]
    simp only [flatMap_full_atHyphens, flatMap_full_words]
  exact length_le_of_mem_cutToWidth (fun c hc => h c (hqt hc)) hl hp

/-- A line with `used` columns taken stays within the limit if its first piece does and the rest
does after that piece. -/
theorem length_lineText_cons {used : Nat} {p : Piece} {line : List Piece}
    (hp : used + p.text.length ≤ limit)
    (hline : line ≠ [] → used + p.full.length + (lineText line).length ≤ limit) :
    used + (lineText (p :: line)).length ≤ limit := by
  cases line with
  | nil => exact hp
  | cons q line =>
    rw [lineText_cons_cons, List.length_append]
    have := hline (List.cons_ne_nil q line)
    omega

def IsFilled (limit : Nat) (line : List Piece) : Prop :=
  (∃ p, line = [p]) ∨ (lineText line).length ≤ limit

theorem isFilled_cons {p : Piece} {line : List Piece}
    (hline : line ≠ [] → p.full.length + (lineText line).length ≤ limit) :
    IsFilled limit (p :: line) := by
  cases line with
  | nil => exact Or.inl ⟨p, rfl⟩
  | cons q line =>
    rw [IsFilled, lineText_cons_cons, List.length_append]
    exact Or.inr (hline (List.cons_ne_nil q line))

/-- The pieces that go to a line with `used` columns taken stay within the limit, and the lines
after it are filled. -/
theorem isFilled_fillLine (used : Nat) {ps : List Piece} (h : ∀ p ∈ ps, IsNarrow p.text) :
    ((fillLine limit used ps).1 ≠ [] →
      used + (lineText (fillLine limit used ps).1).length ≤ limit) ∧
      ∀ line ∈ (fillLine limit used ps).2, IsFilled limit line := by
  -- A piece that does not fit starts a line of its own, so the induction is over all `used`.
  induction ps generalizing used with
  | nil => simp [fillLine]
  | cons p ps ih =>
    obtain ⟨hp, hps⟩ := List.forall_mem_cons.mp h
    simp only [fillLine, Piece.fullWidth_eq hp, Piece.width_eq hp]
    split
    · obtain ⟨hfst, hsnd⟩ := ih p.full.length hps
      refine ⟨fun hn => absurd rfl hn, fun line hline => ?_⟩
      rcases List.mem_cons.mp hline with rfl | hline
      · exact isFilled_cons hfst
      · exact hsnd line hline
    · next hfit =>
      obtain ⟨hfst, hsnd⟩ := ih (used + p.full.length) hps
      exact ⟨fun _ => length_lineText_cons (Nat.not_lt.mp hfit) hfst, hsnd⟩

theorem isFilled_of_mem_fill {ps : List Piece} (h : ∀ p ∈ ps, IsNarrow p.text)
    {line : List Piece} (hline : line ∈ fill limit ps) : IsFilled limit line := by
  cases ps with
  | nil =>
    rw [List.mem_singleton.mp hline]
    exact Or.inr (Nat.zero_le limit)
  | cons p ps =>
    obtain ⟨hp, hps⟩ := List.forall_mem_cons.mp h
    obtain ⟨hfst, hsnd⟩ := isFilled_fillLine p.full.length hps
    simp only [fill, Piece.fullWidth_eq hp, List.mem_cons] at hline
    rcases hline with rfl | hline
    · exact isFilled_cons hfst
    · exact hsnd line hline

theorem mem_of_mem_fill {ps : List Piece} {line : List Piece} (hline : line ∈ fill limit ps)
    {p : Piece} (hp : p ∈ line) : p ∈ ps :=
  fill_flatten limit ps ▸ List.mem_flatten.mpr ⟨line, hline, hp⟩

theorem lineText_subset_of_mem_fill {ps : List Piece} (hps : ps.flatMap Piece.full = t)
    {line : List Piece} (hline : line ∈ fill limit ps) : lineText line ⊆ t := by
  intro c hc
  obtain ⟨p, hp, hc⟩ := List.mem_flatMap.mp ((lineText_isPrefix line).subset hc)
  exact hps ▸ List.mem_flatMap.mpr ⟨p, mem_of_mem_fill hline hp, hc⟩

theorem length_le_of_mem_fill {line : List Piece} (h : IsNarrow t) (hl : 0 < limit)
    (hline : line ∈ fill limit (pieces limit true t)) : (lineText line).length ≤ limit := by
  rcases isFilled_of_mem_fill (fun p => isNarrow_of_mem_pieces h) hline with ⟨p, rfl⟩ | hle
  · exact length_le_of_mem_pieces h hl (mem_of_mem_fill hline List.mem_cons_self)
  · exact hle

end Wrap

namespace Text

variable {t : Text}

theorem length_le_byteSize (t : Text) : t.length ≤ t.byteSize := by
  induction t with
  | nil => exact Nat.le_refl 0
  | cons c t ih =>
    have := c.utf8Size_pos
    simp only [byteSize, List.length_cons]
    omega

theorem exists_dropEndSpaces_append (t : Text) :
    ∃ n, t.dropEndSpaces ++ TextTable.spaces n = t := by
  have hspaces : (t.reverse.takeWhile (· = ' ')).reverse =
      TextTable.spaces (t.reverse.takeWhile (· = ' ')).length := by
    refine List.eq_replicate_iff.mpr ⟨List.length_reverse, fun c hc => ?_⟩
    have hspace := List.mem_takeWhile_imp (p := fun c => c = ' ') (List.mem_reverse.mp hc)
    exact of_decide_eq_true hspace
  refine ⟨(t.reverse.takeWhile (· = ' ')).length, ?_⟩
  rw [← hspaces, dropEndSpaces, ← List.reverse_append, List.takeWhile_append_dropWhile,
    List.reverse_reverse]

theorem dropEndSpaces_isPrefix (t : Text) : t.dropEndSpaces <+: t := by
  obtain ⟨n, hn⟩ := exists_dropEndSpaces_append t
  exact ⟨_, hn⟩

theorem getLast?_dropEndSpaces (t : Text) : t.dropEndSpaces.getLast? ≠ some ' ' := by
  rw [dropEndSpaces, List.getLast?_reverse]
  intro hhead
  have hnot := List.head?_dropWhile_not (· = ' ') t.reverse
  rw [hhead] at hnot
  exact absurd hnot (by decide)

theorem wrap_eq (t : Text) (width : Nat) (breakWords : Bool) :
    (t.flatten.byteSize < max width 1 ∧ t.wrap width breakWords = [t.flatten.dropEndSpaces]) ∨
      t.wrap width breakWords = (Wrap.fill (max width 1)
        (Wrap.pieces (max width 1) breakWords t.flatten)).map Wrap.lineText := by
  by_cases h : t.flatten.byteSize < max width 1
  · exact Or.inl ⟨h, if_pos h⟩
  · exact Or.inr (if_neg h)

theorem subset_of_mem_wrap {width : Nat} {breakWords : Bool} {line : Text}
    (hline : line ∈ t.wrap width breakWords) : line ⊆ t.flatten := by
  rcases wrap_eq t width breakWords with ⟨-, heq⟩ | heq <;> rw [heq] at hline
  · rw [List.mem_singleton.mp hline]
    exact (dropEndSpaces_isPrefix t.flatten).subset
  · obtain ⟨pieces, hp, rfl⟩ := List.mem_map.mp hline
    exact Wrap.lineText_subset_of_mem_fill (Wrap.flatMap_full_pieces ..) hp

theorem IsNarrow.length_le_of_mem_wrap {width : Nat} {line : Text} (h : IsNarrow t.flatten)
    (hline : line ∈ t.wrap width true) : line.length ≤ max width 1 := by
  rcases wrap_eq t width true with ⟨hsize, heq⟩ | heq <;> rw [heq] at hline
  · rw [List.mem_singleton.mp hline]
    have := (dropEndSpaces_isPrefix t.flatten).length_le
    have := length_le_byteSize t.flatten
    omega
  · obtain ⟨pieces, hp, rfl⟩ := List.mem_map.mp hline
    exact Wrap.length_le_of_mem_fill h (Nat.lt_of_lt_of_le Nat.one_pos (Nat.le_max_right _ _)) hp

/-- No line of a wrapped text is longer than asked if words may be broken. -/
theorem length_le_of_mem_wrap {width : Nat} (h : IsAscii t.flatten) (hw : 0 < width) :
    ∀ line ∈ t.wrap width true, IsAscii line ∧ line.length ≤ width := by
  intro line hline
  have hle := h.isNarrow.length_le_of_mem_wrap hline
  rw [Nat.max_eq_left hw] at hle
  exact ⟨h.of_subset (subset_of_mem_wrap hline), hle⟩

theorem mem_unlines {lines : List Text} {c : Char} (h : c ∈ unlines lines) :
    c = '\n' ∨ ∃ line ∈ lines, c ∈ line := by
  fun_induction unlines lines with
  | case1 => simp at h
  | case2 line => exact Or.inr ⟨line, List.mem_singleton_self line, h⟩
  | case3 line rest _ ih =>
    rcases List.mem_append.mp h with hc | hc
    · exact Or.inr ⟨line, List.mem_cons_self, hc⟩
    · rcases List.mem_cons.mp hc with hc | hc
      · exact Or.inl hc
      · refine (ih hc).imp_right ?_
        rintro ⟨line, hl, hc⟩
        exact ⟨line, List.mem_cons_of_mem _ hl, hc⟩

theorem isAscii_flatten_unlines {lines : List Text} (h : ∀ line ∈ lines, IsAscii line) :
    IsAscii (unlines lines).flatten := by
  intro c hc
  obtain ⟨b, hb, rfl⟩ := List.mem_map.mp hc
  rcases mem_unlines hb with rfl | ⟨line, hl, hb⟩
  · decide
  · split
    · decide
    · exact h line hl b hb

end Text

end TextTable
