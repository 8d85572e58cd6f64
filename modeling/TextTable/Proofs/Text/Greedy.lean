import TextTable.Proofs.Text.Fit
import TextTable.Proofs.Text.Pieces
import TextTable.Proofs.Text.Visible

/-! # Greedy wrapping

A wrapped text keeps its visible characters, its lines end before their spaces and are as long as
they can be: a line ends only where the next piece does not fit.
-/

namespace TextTable

namespace Wrap

open Text

/-- The text of a line and the spaces after its last piece. -/
def lineOf (line : List Piece) : Piece :=
  ⟨lineText line, (line.getLast?.map Piece.spaces).getD 0⟩

/-- The first piece of the second line does not fit on the first one. -/
def NeedsBreak (limit : Nat) (line next : List Piece) : Prop :=
  ∀ q ∈ next.head?, limit < (line.flatMap Piece.full).length + q.text.length

variable {limit : Nat} {breakWords : Bool} {t : Text} {ps line : List Piece} {p : Piece}

theorem full_lineOf (line : List Piece) : (lineOf line).full = line.flatMap Piece.full := by
  induction line with
  | nil => rfl
  | cons p line ih =>
    cases line with
    | nil => simp [lineOf, lineText, Piece.full]
    | cons q line =>
      rw [List.flatMap_cons, ← ih]
      simp [lineOf, lineText_cons_cons, Piece.full]

/-- After `used` columns the next piece does not fit on the line, nor does the first piece of a
later line fit on the line before it. -/
theorem needsBreak_fillLine (used : Nat) (h : ∀ p ∈ ps, IsNarrow p.text) :
    (∀ next ∈ (fillLine limit used ps).2.head?, ∀ q ∈ next.head?,
      limit < used + ((fillLine limit used ps).1.flatMap Piece.full).length + q.text.length) ∧
      (fillLine limit used ps).2.IsChain (NeedsBreak limit) ∧
      ∀ line ∈ (fillLine limit used ps).2, line ≠ [] := by
  induction ps generalizing used with
  | nil => exact ⟨nofun, .nil, nofun⟩
  | cons p ps ih =>
    obtain ⟨hp, hps⟩ := List.forall_mem_cons.mp h
    simp only [fillLine, Piece.fullWidth_eq hp, Piece.width_eq hp]
    split
    · next hlt =>
      obtain ⟨hfirst, hchain, hne⟩ := ih p.full.length hps
      refine ⟨?_, List.isChain_cons.mpr ⟨fun next hn q hq => ?_, hchain⟩,
        List.forall_mem_cons.mpr ⟨List.cons_ne_nil _ _, hne⟩⟩
      · rintro _ ⟨⟩ _ ⟨⟩
        exact hlt
      · rw [List.flatMap_cons, List.length_append]
        exact hfirst next hn q hq
    · obtain ⟨hfirst, hchain, hne⟩ := ih (used + p.full.length) hps
      refine ⟨fun next hn q hq => ?_, hchain, hne⟩
      have := hfirst next hn q hq
      rw [List.flatMap_cons, List.length_append]
      omega

theorem needsBreak_fill (h : ∀ p ∈ ps, IsNarrow p.text) :
    (fill limit ps).IsChain (NeedsBreak limit) ∧ (ps ≠ [] → ∀ line ∈ fill limit ps, line ≠ []) := by
  cases ps with
  | nil => exact ⟨.singleton _, fun hn => absurd rfl hn⟩
  | cons p ps =>
    obtain ⟨hp, hps⟩ := List.forall_mem_cons.mp h
    obtain ⟨hfirst, hchain, hne⟩ := @needsBreak_fillLine limit ps p.full.length hps
    simp only [fill, Piece.fullWidth_eq hp]
    refine ⟨List.isChain_cons.mpr ⟨fun next hn q hq => ?_, hchain⟩,
      fun _ => List.forall_mem_cons.mpr ⟨List.cons_ne_nil _ _, hne⟩⟩
    rw [List.flatMap_cons, List.length_append]
    exact hfirst next hn q hq

/-- The lines of a text, each with the spaces after it. Where a line ends, the line, those spaces
and the next piece are too wide for one line. -/
structure BreaksWhereNeeded (limit : Nat) (breakWords : Bool) (t : Text) (lines : List Piece) :
    Prop where
  text_eq : lines.flatMap Piece.full = t
  needed : ∀ front line next rest, lines = front ++ line :: next :: rest →
    ∃ piece after, (next :: rest).flatMap Piece.full = piece ++ after ∧
      IsPiece limit breakWords ((front ++ [line]).flatMap Piece.full) piece after ∧
      limit < shownWidth (line.full ++ piece)

theorem flatMap_full_map_lineOf (lines : List (List Piece)) :
    (lines.map lineOf).flatMap Piece.full = lines.flatten.flatMap Piece.full := by
  induction lines with
  | nil => rfl
  | cons line lines ih => simp [full_lineOf, ih]

theorem breaksWhereNeeded_fill (h : IsNarrow t) (hl : 0 < limit) :
    BreaksWhereNeeded limit breakWords t ((fill limit (pieces limit breakWords t)).map lineOf) := by
  have hnarrow : ∀ p ∈ pieces limit breakWords t, IsNarrow p.text := fun p =>
    isNarrow_of_mem_pieces h
  obtain ⟨hchain, hne⟩ := @needsBreak_fill limit _ hnarrow
  refine ⟨by rw [flatMap_full_map_lineOf, fill_flatten, flatMap_full_pieces], ?_⟩
  intro front line next rest hlines
  obtain ⟨gs, back, hfill, rfl, hback⟩ := List.map_eq_append_iff.mp hlines
  obtain ⟨g, back, rfl, rfl, hback'⟩ := List.map_eq_cons_iff.mp hback
  obtain ⟨g', gs', rfl, rfl, rfl⟩ := List.map_eq_cons_iff.mp hback'
  have hps : pieces limit breakWords t ≠ [] := fun hnil => by
    have hlength := congrArg List.length hfill
    simp [hnil, fill] at hlength
    omega
  have hne := hne hps
  rw [hfill] at hchain hne
  obtain ⟨q, line', rfl⟩ := List.exists_cons_of_ne_nil (hne g' (by simp))
  have hflat : pieces limit breakWords t = gs.flatten ++ g ++ q :: (line' ++ gs'.flatten) := by
    rw [← fill_flatten limit (pieces limit breakWords t), hfill]
    simp
  -- The piece is not the first one of the text, since the line before it is not empty.
  have hq : q.text ≠ [] := by
    obtain ⟨p, front, hfront⟩ := List.exists_cons_of_ne_nil
      (List.append_ne_nil_of_right_ne_nil gs.flatten (hne g (by simp)))
    have honly := @onlyFirstEmpty_pieces limit t breakWords h hl
    rw [hflat, hfront] at honly
    exact honly q (by simp)
  have hpiece := isPiece_of_pieces h hl hflat hq
  have hfit := (List.isChain_append_cons_cons.mp hchain).2.1 q rfl
  have hline : IsNarrow (g.flatMap Piece.full ++ q.text) := fun c hc => h c (by
    rw [← flatMap_full_pieces limit breakWords t, hflat, List.flatMap_append, List.flatMap_append,
      List.append_assoc]
    refine List.mem_append_right _ ((List.mem_append.mp hc).elim (List.mem_append_left _) ?_)
    exact fun hc => List.mem_append_right _ (by simp [Piece.full, hc]))
  refine ⟨q.text, TextTable.spaces q.spaces ++ (line' ++ gs'.flatten).flatMap Piece.full,
    ?_, ?_, ?_⟩
  · rw [← List.map_cons, flatMap_full_map_lineOf]
    simp [Piece.full]
  · rw [← List.map_singleton, ← List.map_append, flatMap_full_map_lineOf]
    simpa using hpiece
  · rw [full_lineOf, shownWidth_eq_length hline, List.length_append]
    exact hfit

theorem space_not_mem_of_mem_pieces (h : IsNarrow t) (hl : 0 < limit)
    (hp : p ∈ pieces limit breakWords t) : ' ' ∉ p.text := by
  intro hspace
  obtain ⟨ps₁, ps₂, hps⟩ := List.append_of_mem hp
  exact (isPiece_of_pieces h hl hps (List.ne_nil_of_mem hspace)).noSpace hspace

theorem getLast?_lineText (h : ∀ p ∈ line, ' ' ∉ p.text) (hne : OnlyFirstEmpty line) :
    (lineText line).getLast? ≠ some ' ' := by
  induction line with
  | nil => nofun
  | cons p line ih =>
    obtain ⟨hp, hline⟩ := List.forall_mem_cons.mp h
    cases line with
    | nil => exact fun hlast => hp (List.mem_of_mem_getLast? hlast)
    | cons q line =>
      have hq : lineText (q :: line) ≠ [] := by
        have hq := hne q List.mem_cons_self
        cases line with
        | nil => exact hq
        | cons r line =>
          rw [lineText_cons_cons]
          exact List.append_ne_nil_of_left_ne_nil (List.append_ne_nil_of_left_ne_nil hq _) _
      rw [lineText_cons_cons, List.getLast?_append_of_ne_nil _ hq]
      exact ih hline fun r hr => hne r (List.mem_cons_of_mem q hr)

theorem OnlyFirstEmpty.of_mem_fill (h : OnlyFirstEmpty ps) (hline : line ∈ fill limit ps) :
    OnlyFirstEmpty line := by
  obtain ⟨gs, gs', hfill⟩ := List.append_of_mem hline
  have hflat : ps = gs.flatten ++ (line ++ gs'.flatten) := by
    rw [← fill_flatten limit ps, hfill]
    simp
  intro q hq
  refine h q ?_
  cases line with
  | nil => contradiction
  | cons p line =>
    rw [hflat]
    cases gs.flatten with
    | nil => exact List.mem_append_left _ hq
    | cons p' front =>
      exact List.mem_append_right _ (List.mem_append_left _ (List.mem_cons_of_mem p hq))

end Wrap

namespace Text

open Wrap

/-- The lines that a text is wrapped to. A width of zero acts as one. -/
structure IsWrapped (width : Nat) (breakWords : Bool) (t : Text) (lines : List Text) : Prop where
  ne_nil : lines ≠ []
  visible_eq : visible lines.flatten = visible t
  noSpaceAtEnd : ∀ line ∈ lines, line.getLast? ≠ some ' '
  fits : breakWords = true → ∀ line ∈ lines, shownWidth line ≤ max width 1
  /-- Only a line that cannot be divided is too wide. -/
  undivided : breakWords = false → ∀ line ∈ lines, max width 1 < shownWidth line →
    ' ' ∉ line ∧ IsUnhyphenated line
  breaks : ∃ spaced, spaced.map Piece.text = lines ∧
    BreaksWhereNeeded (max width 1) breakWords t.flatten spaced
  /-- A line as a whole is not wider than its characters on their own. -/
  displayWidth_le : ∀ line ∈ lines, displayWidth line ≤ shownWidth line

variable {t : Text} {width limit : Nat} {breakWords : Bool}

theorem charWidth_of_selector {c : Char} {s : Selector} (h : Selector.ofChar? c = some s) :
    charWidth c = 0 := by
  unfold Selector.ofChar? at h
  split at h
  · next hc => rw [hc]; decide +kernel
  · split at h
    · next hc => rw [hc]; decide +kernel
    · split at h
      · next hc => rw [hc]; decide +kernel
      · contradiction

theorem charsWidth_eq_length (h : IsNarrow t) : charsWidth t = t.length := by
  induction t with
  | nil => rfl
  | cons c t ih =>
    obtain ⟨hc, ht⟩ := List.forall_mem_cons.mp h
    rw [charsWidth_cons, hc, ih ht, List.length_cons, Nat.add_comm]

theorem IsNarrow.displayWidth_le (h : IsNarrow t) : displayWidth t ≤ shownWidth t := by
  have hcontrol (c : Char) (hc : charWidth c = 1) : isControl c = false := by
    unfold charWidth at hc
    unfold isControl
    split at hc
    · contradiction
    · split at hc
      · simp; omega
      · split at hc
        · contradiction
        · simp; omega
  have hsteady : Steady t := by
    refine ⟨fun c hc => hcontrol c (h c hc), List.isChain_iff_forall_rel_of_append_cons_cons.mpr ?_⟩
    rintro c d front back rfl
    have hd : charWidth d = 1 := h d (by simp)
    unfold widensBefore
    cases hs : Selector.ofChar? d with
    | none => rfl
    | some s => exact absurd (hd.symm.trans (charWidth_of_selector hs)) (by decide)
  rw [shownWidth_eq_length h, ← charsWidth_eq_length h]
  exact hsteady.displayWidth_le

theorem isNarrow_flatten (h : ∀ c ∈ t, isWhite c = true ∨ charWidth c = 1) :
    IsNarrow t.flatten := by
  intro c hc
  obtain ⟨b, hb, rfl⟩ := List.mem_map.mp hc
  split
  · rfl
  · next hwhite => exact (h b hb).resolve_left hwhite

theorem undivided_of_mem_wrap {line : Text} (h : IsNarrow t.flatten)
    (hline : line ∈ t.wrap width false) (hlt : max width 1 < line.length) :
    ' ' ∉ line ∧ IsUnhyphenated line := by
  have hl : 0 < max width 1 := Nat.lt_of_lt_of_le Nat.one_pos (Nat.le_max_right width 1)
  rcases wrap_eq t width false with ⟨hsize, heq⟩ | heq <;> rw [heq] at hline
  · have := (dropEndSpaces_isPrefix t.flatten).length_le
    have := length_le_byteSize t.flatten
    rw [List.mem_singleton.mp hline] at hlt
    omega
  · obtain ⟨ps, hps, rfl⟩ := List.mem_map.mp hline
    rcases isFilled_of_mem_fill (fun p => isNarrow_of_mem_pieces h) hps with ⟨p, rfl⟩ | hle
    · have hp : p.text ≠ [] := List.ne_nil_of_length_pos (Nat.zero_lt_of_lt hlt)
      obtain ⟨ps₁, ps₂, hpieces⟩ := List.append_of_mem (mem_of_mem_fill hps List.mem_cons_self)
      cases isPiece_of_pieces h hl hpieces hp with
      | part hpart => exact ⟨hpart.noSpace, hpart.unhyphenated⟩
    · exact absurd hle (Nat.not_le.mpr hlt)

/-- A text of narrow characters and white space that is wrapped keeps its visible characters in
lines that fit, or cannot be divided, and that are as long as they can be. -/
theorem isWrapped_wrap (h : ∀ c ∈ t, isWhite c = true ∨ charWidth c = 1) (width : Nat)
    (breakWords : Bool) : IsWrapped width breakWords t (t.wrap width breakWords) := by
  have hflat := isNarrow_flatten h
  have hl : 0 < max width 1 := Nat.lt_of_lt_of_le Nat.one_pos (Nat.le_max_right width 1)
  have hnarrow : ∀ line ∈ t.wrap width breakWords, IsNarrow line := fun line hline c hc =>
    hflat c (subset_of_mem_wrap hline hc)
  refine ⟨wrap_ne_nil t width breakWords, visible_wrap t width breakWords, ?_, ?_, ?_, ?_,
    fun line hline => (hnarrow line hline).displayWidth_le⟩
  · intro line hline
    rcases wrap_eq t width breakWords with ⟨-, heq⟩ | heq <;> rw [heq] at hline
    · rw [List.mem_singleton.mp hline]
      exact getLast?_dropEndSpaces _
    · obtain ⟨ps, hps, rfl⟩ := List.mem_map.mp hline
      exact getLast?_lineText
        (fun p hp => space_not_mem_of_mem_pieces hflat hl (mem_of_mem_fill hps hp))
        ((onlyFirstEmpty_pieces hflat hl).of_mem_fill hps)
  · rintro rfl line hline
    rw [shownWidth_eq_length (hnarrow line hline)]
    exact hflat.length_le_of_mem_wrap hline
  · rintro rfl line hline hlt
    rw [shownWidth_eq_length (hnarrow line hline)] at hlt
    exact undivided_of_mem_wrap hflat hline hlt
  · rcases wrap_eq t width breakWords with ⟨-, heq⟩ | heq <;> rw [heq]
    · obtain ⟨n, hn⟩ := exists_dropEndSpaces_append t.flatten
      refine ⟨[⟨t.flatten.dropEndSpaces, n⟩], rfl, by simpa [Piece.full] using hn, ?_⟩
      intro front line next rest heq
      have hlength := congrArg List.length heq
      simp at hlength
      omega
    · exact ⟨_, by simp [lineOf], breaksWhereNeeded_fill hflat hl⟩

/-- A text with spaces in front, a hyphen and a word that is wider than a line. -/
def hyphenedText : Text := "  a well-known\tunbelievable  fact".toList

theorem isWrapped_hyphenedText : (∀ c ∈ hyphenedText, isWhite c = true ∨ charWidth c = 1) ∧
    hyphenedText.wrap 7 true = ["  a".toList, "well-".toList, "known".toList, "unbelie".toList,
      "vable".toList, "fact".toList] ∧
    hyphenedText.wrap 7 false = ["  a".toList, "well-".toList, "known".toList,
      "unbelievable".toList, "fact".toList] ∧
    IsWrapped 7 true hyphenedText (hyphenedText.wrap 7 true) ∧
    IsWrapped 7 false hyphenedText (hyphenedText.wrap 7 false) := by
  have hall : hyphenedText.all (fun c => isWhite c || charWidth c = 1) = true := by decide +kernel
  have h : ∀ c ∈ hyphenedText, isWhite c = true ∨ charWidth c = 1 := fun c hc => by
    simpa using List.all_eq_true.mp hall c hc
  exact ⟨h, by decide +kernel, by decide +kernel, isWrapped_wrap h 7 true, isWrapped_wrap h 7 false⟩

end Text

end TextTable
