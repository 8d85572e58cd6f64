import Mathlib.Algebra.BigOperators.Group.List.Basic
import Mathlib.Algebra.GroupWithZero.Nat
import Mathlib.Data.List.DropRight
import TextTable.Proofs.Table.Contents

/-! # Joined lines

Blocks that fit their columns are joined line by line, with a separator after each block. The lines
are all as long as the table, so a column takes the same place in all of them, and trimming takes
nothing away but spaces.
-/

namespace TextTable

namespace Layout

variable {l : Layout} {blocks : List (List Text)}

def spans (l : Layout) : List Nat :=
  List.zipWith (fun c separator => c.width + separator.length) l.columns l.separators

def columnStart (l : Layout) (j : Nat) : Nat := (l.spans.take j).sum

/-- The lines of some blocks with the given number, each with its separator. -/
def pieces (l : Layout) (blocks : List (List Text)) (i : Nat) : List Text :=
  List.zipWith (fun block separator => block[i]?.getD [] ++ separator) blocks l.separators

/-- The texts are the lines of some blocks side by side. They are as long as the table, and cutting
them where a column starts gives its block. -/
structure Joins (l : Layout) (blocks : List (List Text)) (bodies : List Text) : Prop where
  height_eq : ∀ block ∈ blocks, block.length = bodies.length
  length_eq : ∀ body ∈ bodies, body.length = l.spans.sum
  line_eq : ∀ (i : Nat) (body : Text), bodies[i]? = some body → body = (l.pieces blocks i).flatten
  column : ∀ j c block, l.columns[j]? = some c → blocks[j]? = some block →
    bodies.map (fun body => (body.drop (l.columnStart j)).take c.width) = block
  padded : ∀ body ∈ bodies, body.rdropWhile isWhite ++
    List.replicate (l.spans.sum - (body.rdropWhile isWhite).length) ' ' = body

/-- The separators are printable, and there is one for every column. -/
structure HasSeparators (l : Layout) : Prop where
  length_eq : l.separators.length = l.columns.length
  isAscii : ∀ s ∈ l.separators, Text.IsAscii s

theorem joinLine_eq (l : Layout) (blocks : List (List Text)) (i : Nat) :
    joinLine blocks l.separators i = (l.pieces blocks i).flatten := by
  rw [joinLine, pieces, List.flatMap, ← List.map_uncurry_zip_eq_zipWith]
  rfl

theorem tableWidth_eq (h : l.HasSeparators) : l.tableWidth = l.spans.sum := by
  have hsum : ∀ (columns : List Column) (separators : List Text),
      separators.length = columns.length → (∀ s ∈ separators, Text.IsAscii s) →
        Grid.total (columns.map Column.width) + Grid.total (separators.map displayWidth) =
          (List.zipWith (fun c separator => c.width + separator.length) columns
            separators).sum := by
    intro columns separators hl hs
    induction columns generalizing separators with
    | nil => rw [List.eq_nil_of_length_eq_zero hl]; rfl
    | cons c columns ih =>
      obtain ⟨s, separators, rfl⟩ := List.exists_cons_of_length_eq_add_one hl
      obtain ⟨hs, hrest⟩ := List.forall_mem_cons.mp hs
      have := ih separators (Nat.succ.inj hl) hrest
      simp only [Grid.total, List.map_cons, List.zipWith_cons_cons, List.foldr_cons, List.sum_cons,
        hs.displayWidth_eq] at this ⊢
      omega
  exact hsum l.columns l.separators h.length_eq h.isAscii

section Pieces

variable {i j : Nat}

theorem exists_piece (h : Fits l.widths blocks) (hs : l.HasSeparators)
    (hi : i < blocksHeight blocks) {c : Column} (hc : l.columns[j]? = some c) :
    ∃ block line s, blocks[j]? = some block ∧ block[i]? = some line ∧ Text.IsAscii line ∧
      line.length = c.width ∧ l.separators[j]? = some s ∧ Text.IsAscii s ∧
      (l.pieces blocks i)[j]? = some (line ++ s) := by
  obtain ⟨hj, -⟩ := List.getElem?_eq_some_iff.mp hc
  have hw : l.widths[j]? = some c.width := by rw [widths, List.getElem?_map, hc]; rfl
  have hlb : j < blocks.length := by simpa [h.length_eq, widths] using hj
  have hb := List.getElem?_eq_getElem hlb
  have hsep := List.getElem?_eq_getElem (hj.trans_eq hs.length_eq.symm)
  obtain ⟨line, hline, ha, hl⟩ := h.exists_line hw hb hi
  refine ⟨_, line, _, hb, hline, ha, hl, hsep, hs.isAscii _ (List.getElem_mem _), ?_⟩
  exact List.getElem?_zipWith_eq_some.mpr ⟨_, _, hb, hsep, by rw [hline]; rfl⟩

theorem length_pieces (h : Fits l.widths blocks) (hs : l.HasSeparators) :
    (l.pieces blocks i).length = l.columns.length := by
  simp [pieces, h.length_eq, hs.length_eq, widths]

theorem map_length_pieces (h : Fits l.widths blocks) (hs : l.HasSeparators)
    (hi : i < blocksHeight blocks) : (l.pieces blocks i).map List.length = l.spans := by
  have hspans : l.spans.length = l.columns.length := by simp [spans, hs.length_eq]
  refine List.ext_getElem?' fun j hj => ?_
  rw [List.length_map, length_pieces h hs, hspans, Nat.max_self] at hj
  have hc := List.getElem?_eq_getElem hj
  obtain ⟨-, line, s, -, -, -, hl, hsep, -, hp⟩ := exists_piece h hs hi hc
  rw [List.getElem?_map, hp, spans, List.getElem?_zipWith_eq_some.mpr ⟨_, _, hc, hsep, rfl⟩]
  simp [hl]

theorem isAscii_pieces (h : Fits l.widths blocks) (hs : l.HasSeparators)
    (hi : i < blocksHeight blocks) : Text.IsAscii (l.pieces blocks i).flatten := by
  intro ch hch
  obtain ⟨piece, hp, hch⟩ := List.mem_flatten.mp hch
  obtain ⟨j, hj, hpj⟩ := List.mem_iff_getElem.mp hp
  have hc := List.getElem?_eq_getElem (hj.trans_eq (length_pieces h hs))
  obtain ⟨-, line, s, -, -, ha, -, -, hsa, hp⟩ := exists_piece h hs hi hc
  rw [List.getElem?_eq_getElem hj, hpj] at hp
  cases hp
  exact Text.IsAscii.append_iff.mpr ⟨ha, hsa⟩ ch hch

theorem take_drop_pieces (h : Fits l.widths blocks) (hs : l.HasSeparators)
    (hi : i < blocksHeight blocks) {c : Column} {block : List Text}
    (hc : l.columns[j]? = some c) (hb : blocks[j]? = some block) :
    block[i]? = some (((l.pieces blocks i).flatten.drop (l.columnStart j)).take c.width) := by
  obtain ⟨block', line, s, hb', hline, -, hl, -, -, hp⟩ := exists_piece h hs hi hc
  rw [hb] at hb'
  cases hb'
  obtain ⟨hj, hpj⟩ := List.getElem?_eq_some_iff.mp hp
  rw [columnStart, ← map_length_pieces h hs hi, List.drop_sum_flatten,
    List.drop_eq_getElem_cons hj, hpj, List.flatten_cons, List.append_assoc, ← hl,
    List.take_left, hline]

end Pieces

theorem joins_joinBlocks (h : Fits l.widths blocks) (hs : l.HasSeparators) :
    l.Joins blocks (joinBlocks blocks l.separators) := by
  have hlength (i : Nat) (hi : i < blocksHeight blocks) :
      (l.pieces blocks i).flatten.length = l.spans.sum := by
    rw [List.length_flatten, map_length_pieces h hs hi]
  constructor
  · intro block hb
    rw [h.height_eq block hb, joinBlocks, List.length_map, List.length_range]
  · intro body hbody
    obtain ⟨i, hi, rfl⟩ := List.mem_map.mp hbody
    rw [joinLine_eq, hlength i (List.mem_range.mp hi)]
  · intro i body hbody
    rw [joinBlocks, List.getElem?_map, Option.map_eq_some_iff] at hbody
    obtain ⟨i', hi', rfl⟩ := hbody
    obtain ⟨hi, rfl⟩ := List.getElem?_eq_some_iff.mp hi'
    rw [List.getElem_range, joinLine_eq]
  · intro j c block hc hb
    have hheight := h.height_eq block (List.mem_of_getElem? hb)
    refine List.ext_getElem (by simp [joinBlocks, hheight]) fun i hi hi' => ?_
    have hline := take_drop_pieces h hs (hi'.trans_eq hheight) hc hb
    rw [List.getElem?_eq_getElem hi', Option.some.injEq] at hline
    rw [hline, List.getElem_map]
    simp only [joinBlocks, List.getElem_map, List.getElem_range, joinLine_eq]
  · intro body hbody
    obtain ⟨i, hi, rfl⟩ := List.mem_map.mp hbody
    have hi := List.mem_range.mp hi
    rw [joinLine_eq, ← hlength i hi]
    exact (isAscii_pieces h hs hi).trimEnd_append_spaces

end Layout

end TextTable
