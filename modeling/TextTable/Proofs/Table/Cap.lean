import TextTable.Proofs.Table.Rectangle

/-! # The height cap

Whether a cell is cut, and where, depends on its own height and on the configuration. The other
cells of its row only decide how many blank lines it gets.
-/

namespace TextTable

def Config.Caps (config : Config) (n : Nat) : Prop :=
  ∃ limit ∈ config.maxCellHeight, max 1 limit < n

namespace Block

/-- The lines of the block are those of `core`, with lines `pad` above and below. -/
def Encloses (pad : Text) (core : List Text) (b : Block) : Prop :=
  ∃ above below, b.lines = List.replicate above pad ++ core ++ List.replicate below pad

variable {config : Config} {b : Block} {height limit natural width : Nat}

theorem encloses_lines {pad : Text} : b.Encloses pad b.lines := ⟨0, 0, by simp⟩

theorem encloses_padHeight (valign : VAlign) :
    (b.padHeight height width valign).Encloses (spaces width) b.lines := ⟨_, _, rfl⟩

theorem encloses_ruleOf : (b.ruleOf height).Encloses verticalRuleGlyph [] :=
  ⟨height, 0, by simp [ruleOf]⟩

/-- A cell that is too high is cut at the cap, however high its row is. -/
theorem fitHeight_of_caps (hlimit : limit ∈ config.maxCellHeight) (hcaps : max 1 limit < b.height)
    (h : b.height ≤ natural) :
    b.fitHeight config (Layout.capHeight config natural) width =
      b.cut (max 1 limit) width config.moreMarker := by
  have hheight : Layout.capHeight config natural = max 1 limit := by
    rw [Layout.capHeight, Option.mem_def.mp hlimit]
    dsimp only
    omega
  rw [fitHeight, hheight, if_pos hcaps]

theorem fitHeight_of_not_caps (hcaps : ¬ config.Caps b.height) (h : b.height ≤ natural) :
    b.fitHeight config (Layout.capHeight config natural) width =
      b.padHeight (Layout.capHeight config natural) width config.cellVAlign := by
  refine if_neg (Nat.not_lt.mpr ?_)
  unfold Layout.capHeight
  split
  · next limit hlimit =>
    have hle : b.height ≤ max 1 limit := Nat.not_lt.mp fun hlt => hcaps ⟨limit, hlimit, hlt⟩
    omega
  · exact h

end Block

namespace Layout

variable {config : Config} {columns : List Column} {c : Column} {b : Block} {n r : Nat}

theorem exists_fitHeight (hc : c ∈ columns) (hv : c.verticalRule = false) {headingHeight : Nat}
    (h : (fitColumn config headingHeight ((List.range n).map (rowHeight config columns))
      c).cells[r]? = some b) :
    ∃ b₀ natural, c.cells[r]? = some b₀ ∧ b₀.height ≤ natural ∧
      b = b₀.fitHeight config (capHeight config natural) c.width := by
  obtain ⟨b₀, height, hb₀, hheight, rfl⟩ := getElem?_cells_fitColumn h
  rw [List.getElem?_map, Option.map_eq_some_iff] at hheight
  obtain ⟨r', hr', rfl⟩ := hheight
  obtain rfl : r = r' := by
    obtain ⟨hlt, hr'⟩ := List.getElem?_eq_some_iff.mp hr'
    rwa [List.getElem_range] at hr'
  have hmem : b₀ ∈ (dataColumns columns).filterMap (·.cells[r]?) :=
    List.mem_filterMap.mpr ⟨c, List.mem_filter.mpr ⟨hc, by rw [hv]; rfl⟩, hb₀⟩
  refine ⟨b₀, _, hb₀, le_tallest hmem, ?_⟩
  rw [hv]
  rfl

end Layout

end TextTable
