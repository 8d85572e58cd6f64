import TextTable.Text.DisplayWidth

/-! # Cutting and padding

A text is cut to a number of columns, with a marker in place of what was lost, or padded with spaces
at one side or at both.
-/

namespace TextTable

/-- Horizontal alignment of text within a column. -/
inductive Align where
  | left
  | center
  | right
  deriving DecidableEq, Repr, Inhabited

namespace Text

/-- The characters from the start whose widths add up to at most `width`. -/
def truncateToWidth : Text → Nat → Text
  | [], _ => []
  | c :: rest, width =>
    if charWidth c ≤ width then c :: truncateToWidth rest (width - charWidth c) else []

/-- A text that is wider than `width` is cut at its end, and the marker takes the place of what was
cut. A marker that leaves no room for the text is cut itself. -/
def truncateEnd (t : Text) (width : Nat) (marker : Text) : Text :=
  if displayWidth t ≤ width then t
  else if width ≤ displayWidth marker then truncateToWidth marker width
  else truncateToWidth t (width - displayWidth marker) ++ marker

/-- Padded on the left to at least `width` columns. -/
def padLeft (t : Text) (width : Nat) : Text := spaces (width - displayWidth t) ++ t

/-- Padded on the right to at least `width` columns. -/
def padRight (t : Text) (width : Nat) : Text := t ++ spaces (width - displayWidth t)

/-- The spaces on the left of a centred text: half of the margin, where an odd space goes to the
left only if the width is odd too. -/
def centerMargin (margin width : Nat) : Nat :=
  margin / 2 + if margin % 2 = 1 ∧ width % 2 = 1 then 1 else 0

/-- Padded on both sides to at least `width` columns. -/
def padCenter (t : Text) (width : Nat) : Text :=
  let margin := width - displayWidth t
  let left := centerMargin margin width
  spaces left ++ t ++ spaces (margin - left)

/-- Padded to at least `width` columns. -/
def justify (t : Text) (width : Nat) : Align → Text
  | .left => padRight t width
  | .center => padCenter t width
  | .right => padLeft t width

theorem truncateToWidth_prefix (t : Text) (width : Nat) : truncateToWidth t width <+: t := by
  induction t generalizing width with
  | nil => simp [truncateToWidth]
  | cons c rest ih =>
    unfold truncateToWidth
    split
    · exact (List.prefix_cons_inj c).mpr (ih _)
    · exact List.nil_prefix

end Text

end TextTable
