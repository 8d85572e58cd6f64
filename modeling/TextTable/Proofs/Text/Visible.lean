import TextTable.Proofs.Text.Wrap

/-! # Visible characters

Taking a text apart into lines, wrapping it and padding it change white space only: the other
characters stay, in their order.
-/

namespace TextTable

namespace Text

def visible (t : Text) : Text := t.filter (!isWhite ·)

@[simp] theorem visible_nil : visible [] = [] := rfl

@[simp] theorem visible_append (s t : Text) : visible (s ++ t) = visible s ++ visible t :=
  List.filter_append ..

theorem visible_cons (c : Char) (t : Text) : visible (c :: t) = visible [c] ++ visible t :=
  visible_append [c] t

theorem visible_join (lines : List Text) :
    visible lines.flatten = (lines.map visible).flatten := List.filter_flatten

@[simp] theorem visible_spaces (n : Nat) : visible (TextTable.spaces n) = [] :=
  List.filter_replicate_of_neg (by decide)

theorem visible_lineFeed_cons (t : Text) : visible ('\n' :: t) = visible t :=
  List.filter_cons_of_neg (by decide)

theorem visible_brokenLines (t : Text) : visible (brokenLines t).flatten = visible t := by
  fun_induction brokenLines t with
  | case1 => rfl
  | case2 rest ih => rw [visible_lineFeed_cons, ← ih]; rfl
  | case3 rest ih =>
    have hcr : visible ('\r' :: '\n' :: rest) = visible rest := by
      rw [visible_cons, visible_lineFeed_cons]
      rfl
    rw [hcr, ← ih]
    rfl
  | case4 c rest _ _ hnil ih =>
    rw [hnil] at ih
    rw [visible_cons c rest, ← ih, List.flatten_nil, visible_nil, List.append_nil]
    rfl
  | case5 c rest _ _ line lines heq ih =>
    rw [heq] at ih
    rw [visible_cons c rest, ← ih, List.flatten_cons, List.flatten_cons, List.cons_append,
      visible_cons c]

theorem visible_lines (t : Text) : visible t.lines.flatten = visible t := by
  rw [← visible_brokenLines t, lines]
  split
  · next h => rw [h]; rfl
  · next line lines h => rw [h]

theorem visible_unlines (lines : List Text) : visible (unlines lines) = visible lines.flatten := by
  fun_induction unlines lines with
  | case1 => rfl
  | case2 line => rw [List.flatten_singleton]
  | case3 line rest _ ih =>
    rw [visible_append, visible_lineFeed_cons, ih, List.flatten_cons, visible_append]

theorem visible_flatten (t : Text) : visible t.flatten = visible t := by
  induction t with
  | nil => rfl
  | cons c t ih =>
    rw [visible_cons c t, ← ih]
    change visible ([if isWhite c then ' ' else c] ++ flatten t) = _
    rw [visible_append]
    congr 1
    split
    · next h => simp [visible, h]; decide
    · rfl

theorem visible_dropEndSpaces (t : Text) : visible t.dropEndSpaces = visible t := by
  obtain ⟨n, hn⟩ := exists_dropEndSpaces_append t
  conv => rhs; rw [← hn, visible_append, visible_spaces, List.append_nil]

theorem visible_lineText (line : List Piece) :
    visible (Wrap.lineText line) = visible (line.flatMap Piece.full) := by
  induction line with
  | nil => rfl
  | cons p line ih =>
    cases line with
    | nil => simp [Wrap.lineText, Piece.full]
    | cons q line =>
      rw [Wrap.lineText_cons_cons, visible_append, ih, ← visible_append]
      rfl

theorem visible_wrap (t : Text) (width : Nat) (breakWords : Bool) :
    visible (t.wrap width breakWords).flatten = visible t := by
  rw [← visible_flatten t]
  unfold wrap
  dsimp only
  split
  · rw [List.flatten_singleton, visible_dropEndSpaces]
  · have hlines (lines : List (List Piece)) : visible (lines.map Wrap.lineText).flatten =
        visible (lines.flatten.flatMap Piece.full) := by
      induction lines with
      | nil => rfl
      | cons line lines ih =>
        rw [List.map_cons, List.flatten_cons, visible_append, ih, visible_lineText,
          List.flatten_cons, List.flatMap_append, visible_append]
    rw [hlines, Wrap.fill_flatten, Wrap.flatMap_full_pieces]

theorem exists_justify_eq (line : Text) (width : Nat) (a : Align) :
    ∃ left right, line.justify width a =
      TextTable.spaces left ++ line ++ TextTable.spaces right := by
  cases a with
  | left => exact ⟨0, _, rfl⟩
  | center => exact ⟨_, _, rfl⟩
  | right => exact ⟨_, 0, (List.append_nil _).symm⟩

theorem visible_justify (line : Text) (width : Nat) (a : Align) :
    visible (line.justify width a) = visible line := by
  obtain ⟨left, right, h⟩ := exists_justify_eq line width a
  rw [h, visible_append, visible_append, visible_spaces, visible_spaces, List.nil_append,
    List.append_nil]

end Text

end TextTable
