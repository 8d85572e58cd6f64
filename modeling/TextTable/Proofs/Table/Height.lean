import TextTable.Proofs.Table.Column

/-! # Rows of one height

The blocks of a row are padded or cut to the height of the row. Padding keeps the lines as wide as
the column, and so does cutting if the marker has no line break.
-/

namespace TextTable

namespace Block

variable {b : Block} {config : Config} {marker : Text} {height width : Nat}

theorem linesAbove_le (valign : VAlign) (extra : Nat) : linesAbove valign extra ≤ extra := by
  cases valign <;> simp only [linesAbove] <;> omega

theorem height_padHeight (h : b.height ≤ height) (valign : VAlign) :
    (b.padHeight height width valign).height = height := by
  have := linesAbove_le valign (height - b.height)
  simp only [Block.height, padHeight, List.length_append, List.length_replicate] at h this ⊢
  omega

theorem height_cut (h : height ≤ b.height) (h0 : 0 < height) :
    (b.cut height width marker).height = height := by
  have hl : (b.lines.take height).length = height := List.length_take_of_le h
  have hne : b.lines.take height ≠ [] := List.ne_nil_of_length_pos (by omega)
  simp only [Block.height, cut, List.getLast?_eq_some_getLast hne, Option.map_some,
    Option.toList_some, List.length_append, List.length_dropLast, List.length_singleton, hl]
  omega

theorem height_fitHeight (h0 : 0 < height) : (b.fitHeight config height width).height = height := by
  unfold fitHeight
  split
  · next h => exact height_cut (Nat.le_of_lt h) h0
  · next h => exact height_padHeight (Nat.not_lt.mp h) _

theorem height_ruleOf : (b.ruleOf height).height = height := List.length_replicate

theorem Fills.padHeight (h : b.Fills width) (valign : VAlign) :
    (b.padHeight height width valign).Fills width := by
  have hblank : ∀ n, ∀ line ∈ List.replicate n (spaces width),
      Text.IsAscii line ∧ line.length = width := by
    intro n line hl
    rw [List.eq_of_mem_replicate hl]
    exact ⟨Text.IsAscii.spaces width, length_spaces width⟩
  intro line hl
  rcases List.mem_append.mp hl with hl | hl
  · exact (List.mem_append.mp hl).elim (hblank _ line) (h line)
  · exact hblank _ line hl

theorem isAscii_markLine {line : Text} (hl : Text.IsAscii line) (hm : Text.IsAscii marker) :
    Text.IsAscii (markLine width marker line) ∧ (markLine width marker line).length = width := by
  have hmark := hm.take width
  have hkept := hl.take (width - (marker.take width).length)
  rw [markLine, hm.truncateToWidth_eq_take, hl.truncateToWidth_eq_take, hmark.displayWidth_eq]
  have h := Text.IsAscii.append_iff.mpr ⟨hkept, hmark⟩
  refine ⟨h.justify .left, (h.length_justify .left).trans ?_⟩
  simp only [List.length_append, List.length_take]
  omega

theorem Fills.cut (h : b.Fills width) (hm : Text.IsAscii marker) :
    (b.cut height width marker).Fills width := by
  have hkept : ∀ line ∈ b.lines.take height, Text.IsAscii line ∧ line.length = width :=
    fun line hl => h line (List.mem_of_mem_take hl)
  intro line hl
  rcases List.mem_append.mp hl with hl | hl
  · exact hkept line (List.dropLast_subset _ hl)
  · obtain ⟨last, hlast, rfl⟩ := Option.map_eq_some_iff.mp (Option.mem_toList.mp hl)
    exact isAscii_markLine (hkept last (List.mem_of_getLast? hlast)).1 hm

theorem Fills.fitHeight (h : b.Fills width) (hm : Text.IsAscii config.moreMarker) :
    (b.fitHeight config height width).Fills width := by
  unfold Block.fitHeight
  split
  · exact h.cut hm
  · exact h.padHeight _

theorem fills_ruleOf : (b.ruleOf height).Fills (displayWidth verticalRuleGlyph) := by
  intro line hl
  rw [List.eq_of_mem_replicate hl]
  decide

end Block

namespace Layout

variable {config : Config} {columns : List Column} {b : Block} {c : Column} {n r : Nat}

/-- The height of the tallest cell of a data row, before rows are brought to one height. -/
def naturalHeight (columns : List Column) (r : Nat) : Nat :=
  Grid.largest (columns.filterMap fun c => c.cells[r]?.map Block.height)

theorem le_tallest {bs : List Block} (h : b ∈ bs) : b.height ≤ tallest bs := by
  cases bs with
  | nil => contradiction
  | cons b' bs => exact Grid.le_largest (List.mem_map_of_mem h)

theorem tallest_pos {bs : List Block} (h : ∀ b ∈ bs, b.lines ≠ []) : 0 < tallest bs := by
  cases bs with
  | nil => exact Nat.one_pos
  | cons b bs =>
    have hb : 0 < b.height := List.length_pos_of_ne_nil (h b List.mem_cons_self)
    exact Nat.lt_of_lt_of_le hb (le_tallest List.mem_cons_self)

theorem rowHeight_pos (h : ∀ c ∈ columns, c.Natural n) : 0 < rowHeight config columns r := by
  have hpos : 0 < tallest ((dataColumns columns).filterMap (·.cells[r]?)) := by
    refine tallest_pos fun b hb => ?_
    obtain ⟨c, hc, hb⟩ := List.mem_filterMap.mp hb
    exact (h c (List.mem_of_mem_filter hc)).cells_ne_nil b (List.mem_of_getElem? hb)
  unfold rowHeight capHeight
  split <;> omega

theorem le_naturalHeight (hc : c ∈ columns) (hb : c.cells[r]? = some b) :
    b.height ≤ naturalHeight columns r :=
  Grid.le_largest (List.mem_filterMap.mpr ⟨c, hc, by rw [hb]; rfl⟩)

/-- A cell of a vertical rule has one line, so vertical rules do not count for the height. -/
theorem tallest_dataColumns (h : ∀ c ∈ columns, c.Natural n) (hc : c ∈ columns) (hr : r < n) :
    tallest ((dataColumns columns).filterMap (·.cells[r]?)) = naturalHeight columns r := by
  have hdata : ∀ b ∈ (dataColumns columns).filterMap (·.cells[r]?), b.lines ≠ [] ∧
      b.height ≤ naturalHeight columns r := by
    intro b hb
    obtain ⟨c, hc, hb⟩ := List.mem_filterMap.mp hb
    have hc := List.mem_of_mem_filter hc
    exact ⟨(h c hc).cells_ne_nil b (List.mem_of_getElem? hb), le_naturalHeight hc hb⟩
  have hpos : 0 < naturalHeight columns r := by
    obtain ⟨b, hb⟩ : ∃ b, c.cells[r]? = some b :=
      ⟨_, List.getElem?_eq_getElem (hr.trans_eq (h c hc).length_cells.symm)⟩
    have := List.length_pos_of_ne_nil ((h c hc).cells_ne_nil b (List.mem_of_getElem? hb))
    exact Nat.lt_of_lt_of_le this (le_naturalHeight hc hb)
  refine Nat.le_antisymm ?_ (Grid.largest_le_iff.mpr fun m hm => ?_)
  · cases hbs : (dataColumns columns).filterMap (·.cells[r]?) with
    | nil => exact hpos -- All columns are vertical rules, and no blocks count as one line.
    | cons b bs =>
      rw [hbs] at hdata
      exact Grid.largest_le_iff.mpr (List.forall_mem_map.mpr fun b hb => (hdata b hb).2)
  · obtain ⟨c, hc, hm⟩ := List.mem_filterMap.mp hm
    obtain ⟨b, hb, rfl⟩ := Option.map_eq_some_iff.mp hm
    by_cases hv : c.verticalRule
    · rw [(h c hc).rule hv] at hb
      rw [List.eq_of_mem_replicate (List.mem_of_getElem? hb)]
      exact tallest_pos fun b hb => (hdata b hb).1
    · exact le_tallest (List.mem_filterMap.mpr ⟨c, List.mem_filter.mpr ⟨hc, by simpa using hv⟩, hb⟩)

end Layout

end TextTable
