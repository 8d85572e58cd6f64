import Mathlib.Algebra.GroupWithZero.Nat
import Mathlib.Algebra.Order.BigOperators.Group.List
import Mathlib.Algebra.Order.Group.Nat
import Mathlib.Data.List.DropRight
import TextTable.Proofs.Number.Digits
import TextTable.Proofs.Table.Contents
import TextTable.Table.Bordered

/-! # Frames

Borders and contents are lines with posts: a post stands at both ends and between two pieces. The
pieces of both are as long as the columns with their margins, so the posts stand below each other
unless the sum of a column and its margins does not fit a machine word.
-/

namespace TextTable

/-- A line of pieces with a post at both ends and between two pieces. -/
def posted (post : Char) (pieces : List Text) : Text :=
  post :: pieces.flatMap fun piece => piece ++ [post]

def postColumn (lengths : List Nat) (j : Nat) : Nat :=
  ((lengths.take j).map (· + 1)).sum

def betweenPosts (lengths : List Nat) (j : Nat) (line : Text) : Text :=
  (line.drop (postColumn lengths j + 1)).take
    (postColumn lengths (j + 1) - postColumn lengths j - 1)

section Posted

variable {post : Char} {piece : Text} {pieces : List Text} {lengths : List Nat} {j : Nat}

theorem posted_cons : posted post (piece :: pieces) = post :: (piece ++ posted post pieces) := by
  simp [posted]

theorem postColumn_cons (n : Nat) :
    postColumn (n :: lengths) (j + 1) = n + 1 + postColumn lengths j := rfl

theorem postColumn_succ (h : j < lengths.length) :
    postColumn lengths (j + 1) = postColumn lengths j + lengths[j] + 1 := by
  induction lengths generalizing j with
  | nil => simp at h
  | cons n lengths ih =>
    cases j with
    | zero => simp [postColumn]
    | succ j =>
      rw [postColumn_cons, postColumn_cons, ih (Nat.lt_of_succ_lt_succ h), List.getElem_cons_succ]
      omega

theorem length_posted : (posted post pieces).length =
    postColumn (pieces.map List.length) pieces.length + 1 := by
  induction pieces with
  | nil => rfl
  | cons piece pieces ih =>
    rw [posted_cons, List.length_cons, List.length_append, ih, List.map_cons, List.length_cons,
      postColumn_cons]
    omega

theorem drop_posted (h : j ≤ pieces.length) :
    (posted post pieces).drop (postColumn (pieces.map List.length) j) =
      posted post (pieces.drop j) := by
  induction pieces generalizing j with
  | nil => rw [Nat.le_zero.mp h]; rfl
  | cons piece pieces ih =>
    cases j with
    | zero => rfl
    | succ j =>
      rw [posted_cons, List.map_cons, postColumn_cons, Nat.add_right_comm, List.drop_succ_cons,
        ← List.drop_drop, List.drop_left, ih (Nat.le_of_succ_le_succ h), List.drop_succ_cons]

theorem getElem?_posted (h : j ≤ pieces.length) :
    (posted post pieces)[postColumn (pieces.map List.length) j]? = some post := by
  rw [← List.head?_drop, drop_posted h]
  rfl

theorem betweenPosts_posted (h : pieces[j]? = some piece) :
    betweenPosts (pieces.map List.length) j (posted post pieces) = piece := by
  obtain ⟨hj, rfl⟩ := List.getElem?_eq_some_iff.mp h
  have hlen : postColumn (pieces.map List.length) (j + 1) -
      postColumn (pieces.map List.length) j - 1 = pieces[j].length := by
    rw [postColumn_succ (by simpa using hj), List.getElem_map]
    omega
  rw [betweenPosts, hlen, ← List.drop_drop, drop_posted hj.le, List.drop_eq_getElem_cons hj,
    posted_cons, List.drop_succ_cons, List.drop_zero, List.take_left]

theorem trimEnd_posted (h : isWhite post = false) :
    (posted post pieces).trimEnd = posted post pieces := by
  obtain ⟨init, hinit⟩ : ∃ init, posted post pieces = init ++ [post] := by
    induction pieces with
    | nil => exact ⟨[], rfl⟩
    | cons piece pieces ih =>
      obtain ⟨init, hinit⟩ := ih
      exact ⟨post :: (piece ++ init), by rw [posted_cons, hinit]; simp⟩
  rw [hinit, Text.trimEnd_append_singleton _ h]

end Posted

namespace Frame

/-- The columns between two posts: a column of the table with its margins. -/
def spans (f : Frame) : List Nat := f.widths.map (· + 2 * f.hmargin)

def inMargins (f : Frame) (line : Text) : Text :=
  List.replicate f.hmargin ' ' ++ line ++ List.replicate f.hmargin ' '

def betweenMargins (f : Frame) (width : Nat) (block : List Text) : List Text :=
  List.replicate f.vmargin (List.replicate width ' ') ++ block ++
    List.replicate f.vmargin (List.replicate width ' ')

/-- The text has the length of the frame and the given post at every place of a post. -/
structure HasPosts (f : Frame) (post : Char) (body : Text) : Prop where
  length_eq : body.length =
    f.widths.sum + 2 * f.hmargin * f.widths.length + f.widths.length + 1
  posts : ∀ j ≤ f.widths.length, body[postColumn f.spans j]? = some post

/-- The text is a border: there are corners at the posts and the glyph everywhere else. -/
structure IsBorder (f : Frame) (glyph : Char) (body : Text) : Prop extends
    f.HasPosts f.glyphs.corner body where
  between : ∀ j width, f.widths[j]? = some width →
    betweenPosts f.spans j body = List.replicate (width + 2 * f.hmargin) glyph

/-- The texts are the lines of some blocks side by side: there are sides at the posts, and cutting
there gives every block with its margins. -/
structure Surrounds (f : Frame) (blocks : List (List Text)) (bodies : List Text) : Prop where
  posts : ∀ body ∈ bodies, f.HasPosts f.glyphs.side body
  between : ∀ j width block, f.widths[j]? = some width → blocks[j]? = some block →
    bodies.map (betweenPosts f.spans j) = (f.betweenMargins width block).map f.inMargins

variable {f : Frame} {post : Char} {pieces : List Text}

theorem postColumn_spans (f : Frame) : postColumn f.spans f.widths.length =
    f.widths.sum + 2 * f.hmargin * f.widths.length + f.widths.length := by
  have h : ∀ widths : List Nat,
      postColumn (widths.map (· + 2 * f.hmargin)) widths.length =
        widths.sum + 2 * f.hmargin * widths.length + widths.length := by
    intro widths
    induction widths with
    | nil => rfl
    | cons width widths ih =>
      rw [List.map_cons, List.length_cons, postColumn_cons, ih, Nat.mul_succ, List.sum_cons]
      omega
  exact h f.widths

theorem hasPosts_posted (h : pieces.map List.length = f.spans) :
    f.HasPosts post (posted post pieces) := by
  have hl : pieces.length = f.widths.length := by
    simpa [spans] using congrArg List.length h
  refine ⟨?_, fun j hj => ?_⟩
  · rw [length_posted, h, hl, postColumn_spans]
  · rw [← h]
    exact getElem?_posted (hl ▸ hj)

theorem border_eq (f : Frame) (glyph : Char) : f.border glyph = posted f.glyphs.corner
    (f.widths.map fun w => List.replicate (toSize (w + 2 * f.hmargin)) glyph) := by
  simp [border, posted, List.flatMap_map]

theorem length_border (f : Frame) (glyph : Char) : (f.border glyph).length =
    (f.widths.map fun w => toSize (w + 2 * f.hmargin)).sum + f.widths.length + 1 := by
  simp [border, List.length_flatMap, List.sum_map_add]

theorem isBorder_border (hw : ∀ w ∈ f.widths, w + 2 * f.hmargin < 2 ^ 64) (glyph : Char) :
    f.IsBorder glyph (f.border glyph) := by
  have hborder : f.border glyph = posted f.glyphs.corner
      (f.widths.map fun w => List.replicate (w + 2 * f.hmargin) glyph) := by
    rw [border_eq]
    congr 1
    exact List.map_congr_left fun w hmem => by rw [toSize_eq_self_iff.mpr (hw w hmem)]
  have hspans : (f.widths.map fun w => List.replicate (w + 2 * f.hmargin) glyph).map List.length =
      f.spans := by
    simp [spans, Function.comp_def]
  rw [hborder]
  refine ⟨hasPosts_posted hspans, fun j width hw => ?_⟩
  rw [← hspans]
  exact betweenPosts_posted (by rw [List.getElem?_map, hw]; rfl)

/-- A border of the length that it should have has a run of glyphs over every column with its
margins. -/
theorem fits_of_length_border {glyph : Char} (h : (f.border glyph).length =
    f.widths.sum + 2 * f.hmargin * f.widths.length + f.widths.length + 1) :
    ∀ w ∈ f.widths, w + 2 * f.hmargin < 2 ^ 64 := by
  have hsum : (f.widths.map fun w => toSize (w + 2 * f.hmargin)).sum =
      (f.widths.map fun w => w + 2 * f.hmargin).sum := by
    rw [length_border] at h
    have hmargins : (f.widths.map fun w => w + 2 * f.hmargin).sum =
        f.widths.sum + 2 * f.hmargin * f.widths.length := by
      simp [List.sum_map_add, Nat.mul_comm]
    omega
  intro w hw
  by_contra hlarge
  refine absurd hsum (Nat.ne_of_lt ?_)
  refine List.sum_lt_sum _ _ (fun w _ => toSize_le _) ⟨w, hw, (toSize_le _).lt_of_ne fun heq => ?_⟩
  exact hlarge (toSize_eq_self_iff.mp heq)

theorem contentLine_eq (f : Frame) (blocks : List (List Text)) (i : Nat) :
    f.contentLine blocks i = posted f.glyphs.side
      ((blocks.zip f.widths).map fun p => f.inMargins (f.blockLine p.1 p.2 i)) := by
  simp [contentLine, posted, List.flatMap_map, inMargins, spaces]

variable {blocks : List (List Text)} {block : List Text} {width : Nat}

theorem length_blockLine (h : ∀ line ∈ block, line.length = width) (i : Nat) :
    (f.blockLine block width i).length = width := by
  unfold blockLine
  split
  · cases hl : block[i - f.vmargin]? with
    | none => exact length_spaces width
    | some line => exact h line (List.mem_of_getElem? hl)
  · exact length_spaces width

theorem map_blockLine (f : Frame) (block : List Text) (width : Nat) :
    (List.range (2 * f.vmargin + block.length)).map (f.blockLine block width) =
      f.betweenMargins width block := by
  have hsplit : 2 * f.vmargin + block.length = f.vmargin + (block.length + f.vmargin) := by omega
  rw [hsplit, betweenMargins, List.range_add, List.range_add, List.map_append, List.map_map,
    List.map_append, List.map_map, List.append_assoc]
  congr 1
  · refine List.eq_replicate_iff.mpr ⟨by simp, List.forall_mem_map.mpr fun i hi => ?_⟩
    exact if_neg (Nat.not_le.mpr (List.mem_range.mp hi))
  congr 1
  · refine List.ext_getElem (by simp) fun i hi hb => ?_
    simp [blockLine, List.getElem?_eq_getElem hb]
  · refine List.eq_replicate_iff.mpr ⟨by simp, List.forall_mem_map.mpr fun i hi => ?_⟩
    simp [blockLine, spaces]

/-- Contents of one height have the lines of their blocks between the sides. -/
theorem contentLine_eq_zipWith {i : Nat}
    (h : ∀ block ∈ blocks, i < 2 * f.vmargin + block.length) :
    f.contentLine blocks i = posted f.glyphs.side (List.zipWith
      (fun block width => f.inMargins ((f.betweenMargins width block)[i]?.getD [])) blocks
      f.widths) := by
  rw [contentLine_eq, ← List.map_uncurry_zip_eq_zipWith]
  congr 1
  refine List.map_congr_left fun p hp => ?_
  have hi := h p.1 (List.of_mem_zip hp).1
  rw [Function.uncurry_apply_pair, ← map_blockLine, List.getElem?_map,
    List.getElem?_eq_getElem (by simpa using hi), List.getElem_range]
  rfl

theorem exists_contentLine_eq (h : Fits f.widths blocks) (i : Nat) :
    ∃ pieces, f.contentLine blocks i = posted f.glyphs.side pieces ∧
      pieces.map List.length = f.spans ∧ ∀ (j width : Nat) block, f.widths[j]? = some width →
        blocks[j]? = some block → pieces[j]? = some (f.inMargins (f.blockLine block width i)) := by
  refine ⟨_, Frame.contentLine_eq f blocks i, ?_, fun j width block hw hb => ?_⟩
  · calc ((blocks.zip f.widths).map fun p => f.inMargins (f.blockLine p.1 p.2 i)).map List.length
      _ = (blocks.zip f.widths).map fun p => p.2 + 2 * f.hmargin := by
          rw [List.map_map]
          refine List.map_congr_left fun p hp => ?_
          simp only [Function.comp_apply, inMargins, List.length_append, List.length_replicate,
            length_blockLine (fun line hl => (h.lines p hp line hl).2)]
          omega
      _ = ((blocks.zip f.widths).map Prod.snd).map (· + 2 * f.hmargin) := by rw [List.map_map]; rfl
      _ = f.spans := by rw [List.map_snd_zip h.length_eq.ge, spans]
  · rw [List.getElem?_map, List.getElem?_zip_eq_some (z := (block, width)) |>.mpr ⟨hb, hw⟩]
    rfl

theorem Surrounds.length_eq {bodies : List Text} {j : Nat} (h : f.Surrounds blocks bodies)
    (hw : f.widths[j]? = some width) (hb : blocks[j]? = some block) :
    bodies.length = 2 * f.vmargin + block.length := by
  have hlength := congrArg List.length (h.between j width block hw hb)
  simp only [betweenMargins, List.length_append, List.length_map, List.length_replicate] at hlength
  omega

theorem surrounds_content (h : Fits f.widths blocks)
    (hv : 2 * f.vmargin + Layout.blocksHeight blocks < 2 ^ 64) :
    f.Surrounds blocks (f.content blocks) := by
  refine ⟨fun body hbody => ?_, fun j width block hw hb => ?_⟩
  · obtain ⟨i, -, rfl⟩ := List.mem_map.mp hbody
    obtain ⟨pieces, hp, hl, -⟩ := exists_contentLine_eq h i
    rw [hp]
    exact hasPosts_posted hl
  · have hline (i : Nat) : betweenPosts f.spans j (f.contentLine blocks i) =
        f.inMargins (f.blockLine block width i) := by
      obtain ⟨pieces, hp, hl, hj⟩ := exists_contentLine_eq h i
      rw [hp, ← hl]
      exact betweenPosts_posted (hj j width block hw hb)
    rw [content, toSize_eq_self_iff.mpr hv, ← h.height_eq block (List.mem_of_getElem? hb),
      List.map_map]
    calc (List.range (2 * f.vmargin + block.length)).map
          (betweenPosts f.spans j ∘ f.contentLine blocks)
      _ = ((List.range (2 * f.vmargin + block.length)).map (f.blockLine block width)).map
            f.inMargins := by
          rw [List.map_map]
          exact List.map_congr_left fun i _ => hline i
      _ = (f.betweenMargins width block).map f.inMargins := by rw [map_blockLine]

end Frame

/-- The glyph with the given number in a frame; a missing one is a plus sign. -/
def Config.glyphAt (config : Config) (i : Nat) : Char := config.borderChars[i]?.getD '+'

/-- The frame that a configuration asks for around the columns of a layout. -/
def Layout.frameSpec (l : Layout) (config : Config) : Frame where
  widths := l.columns.map Column.width
  hmargin := config.hmargin
  vmargin := config.vmargin
  glyphs := {
    top := config.glyphAt 0
    bottom := config.glyphAt 1
    side := config.glyphAt 2
    corner := config.glyphAt 3
    divider := config.glyphAt 4 }

theorem Layout.frame_eq (l : Layout) (config : Config) : l.frame config = l.frameSpec config := rfl

end TextTable
