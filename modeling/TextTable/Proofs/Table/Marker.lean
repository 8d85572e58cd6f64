import TextTable.Proofs.Table.Rectangle

/-! # The marker of cut text

A layout is a rectangle for any marker whose characters are printable ASCII. A marker with a line
break is measured differently when it is cut and when it is padded, so some layout is no rectangle.
-/

namespace TextTable

theorem Directive.parse_nil (config : Config) : parse config [] = {} := by
  unfold parse
  cases config.delimiters <;> simp [Config.splitAlign, takeGroups]

/-- A marker that is still wider than the line when it is cut takes the whole line. -/
theorem Block.markLine_eq {marker line : Text} {width : Nat} (hl : Text.IsAscii line)
    (h : width < displayWidth (marker.truncateToWidth width)) :
    markLine width marker line = marker.truncateToWidth width := by
  have hpad : width - displayWidth (marker.truncateToWidth width) = 0 := Nat.sub_eq_zero_of_le h.le
  rw [markLine, hpad, hl.truncateToWidth_eq_take, List.take_zero, List.nil_append, Text.padRight,
    hpad, spaces, List.replicate_zero, List.append_nil]

namespace Table

/-- A table whose rows are cut to one line, and that shows two lines for null. -/
def cutting (marker : Text) : Table where
  config := { moreMarker := marker, noneText := ['\n', '\n'], maxCellHeight := some 1 }

def nullGrid (width : Nat) : Grid where
  columns := [.data (spaces width) []]
  rows := [.cells [some .null]]

def nullColumn (marker : Text) (width : Nat) : Column :=
  .ofTexts (cutting marker).config {} .left (spaces width) [['\n', '\n']]

variable {marker : Text} {width : Nat}

theorem width_nullColumn : (nullColumn marker width).width = width := by
  have hsplit : (cutting marker).config.splitAlign (spaces width) = (none, spaces width) := by
    cases width <;> rfl
  have hs := Text.IsAscii.spaces width
  have hheading : (Block.ofText (spaces width) .left).width = width := by
    simp [Block.width, blockWidth, Block.ofText, Text.lines_of_isAscii hs, hs.displayWidth_eq]
  rw [nullColumn, Column.ofTexts, hsplit]
  change max (Block.ofText (spaces width) .left).width 0 = _
  rw [hheading, Nat.max_zero]

def cuttingFormatter (marker : Text) : CellFormatter where
  config := (cutting marker).config
  defaultFunction := .builtin .format
  handler := none

theorem formatter_cutting : (cutting marker).formatter = .ok (cuttingFormatter marker) := rfl

theorem texts_cutting : (cuttingFormatter marker).texts
    (.resolve {} (.parse (cuttingFormatter marker).config [])) 0 ((nullGrid width).cellsOf 0) =
      .ok [['\n', '\n']] := by
  rw [Directive.parse_nil]
  rfl

theorem columns_cutting : (cuttingFormatter marker).columns {} (nullGrid width) =
    .ok [nullColumn marker width] := by
  refine mapM_eq_ok_iff.mpr (.cons (bind_eq_ok_iff.mpr ⟨_, texts_cutting, ?_⟩) .nil)
  rw [cuttingFormatter, Directive.parse_nil]
  rfl

theorem layoutGrid_cutting : (cutting marker).layoutGrid (nullGrid width) =
    .ok (.ofColumns (cutting marker).config (nullGrid width) [nullColumn marker width]) := by
  refine bind_eq_ok_iff.mpr ⟨_, mapError_eq_ok_iff.mpr formatter_cutting, ?_⟩
  rw [mapError_eq_ok_iff, Layout.ofGrid_eq, map_eq_ok_iff]
  exact ⟨_, columns_cutting, rfl⟩

theorem showsAscii_cutting : (cutting marker).showsAscii (nullGrid width) = true := by
  have h : (cuttingFormatter marker).showsAscii {} (nullGrid width) 0
      (.data (spaces width) []) = true := by
    rw [CellFormatter.showsAscii, texts_cutting,
      Text.isAsciiBlock_of_isAscii (Text.IsAscii.spaces width)]
    rfl
  rw [showsAscii, formatter_cutting]
  exact Bool.and_eq_true_iff.mpr ⟨h, rfl⟩

/-- The only line of the cell is the marker cut to the width of the column. -/
theorem lines_cutting :
    ∃ c ∈ (Layout.ofColumns (cutting marker).config (nullGrid width)
      [nullColumn marker width]).columns, c.width = width ∧
      ∃ b ∈ c.cells, ∃ line, Text.IsAscii line ∧ b.lines = [Block.markLine width marker line] := by
  refine ⟨_, List.mem_singleton_self _, ?_, _, List.mem_singleton_self _,
    Text.justify [] (max width 0) .left, Text.IsAscii.nil.justify _, ?_⟩
  · rw [Layout.width_fitColumn, width_nullColumn]
  · exact congrArg (fun w => [Block.markLine w marker (Text.justify [] (max w 0) .left)])
      width_nullColumn

/-- Every layout has its rows and columns, and its lines are as wide as their columns for a marker
without line breaks. For any other marker some layout is no rectangle. -/
theorem rectangular_iff_isAscii {marker : Text} (hm : marker.isAsciiBlock = true) :
    (∀ (t : Table) (g : Grid) (l : Layout), t.layoutGrid g = .ok l →
      ∃ natural, t.naturalColumns g = .ok natural ∧ l.IsRegular t.config g natural) ∧
    ((∀ (t : Table) (g : Grid) (l : Layout), t.config.moreMarker = marker →
      t.showsAscii g = true → t.layoutGrid g = .ok l → l.IsFilled) ↔ marker.IsAscii) := by
  refine ⟨fun t g l => isRegular_layoutGrid, fun h => ?_, fun hm t g l hmarker hs hl => ?_⟩
  · by_contra hn
    -- Cut to this width, the marker keeps a line break that only the display width counts.
    obtain ⟨width, hw⟩ := Text.exists_lt_displayWidth_truncateToWidth hm hn
    obtain ⟨c, hc, hcw, b, hb, line, hline, hlines⟩ := @lines_cutting marker width
    have heq := h _ _ _ rfl showsAscii_cutting layoutGrid_cutting c hc b
      (List.mem_cons_of_mem _ hb) _ (hlines ▸ List.mem_singleton_self _)
    rw [Block.markLine_eq hline hw, hcw] at heq
    omega
  · exact Layout.isFilled_of_filled (filled_layoutGrid hl hs (hmarker ▸ hm))

def fixedGrid : Grid := .ofRows [['h']] ["(width=2;fixed)".toList] [.cells [.string "abc".toList]]

theorem rectangular_ellipsis :
    ∃ l natural, ({} : Table).layoutGrid fixedGrid = .ok l ∧ l.widths = [2] ∧
      ({} : Table).naturalColumns fixedGrid = .ok natural ∧
      l.IsRegular {} fixedGrid natural ∧ l.IsFilled := by
  obtain ⟨l, hl, hw⟩ : ∃ l, ({} : Table).layoutGrid fixedGrid = .ok l ∧
      decide (l.widths = [2]) = true := exists_ok_of_any (by decide +kernel)
  obtain ⟨hregular, hfilled⟩ := @rectangular_iff_isAscii "...".toList (by decide)
  obtain ⟨natural, hn, hr⟩ := hregular _ _ _ hl
  exact ⟨l, natural, hl, of_decide_eq_true hw, hn, hr,
    hfilled.mpr (by decide) _ _ _ rfl (by decide +kernel) hl⟩

def breaking : Table where
  config := { moreMarker := "..\n".toList }

theorem not_isFilled_breaking :
    Text.isAsciiBlock breaking.config.moreMarker = true ∧ breaking.showsAscii fixedGrid = true ∧
      ∃ l, breaking.layoutGrid fixedGrid = .ok l ∧ l.widths = [2] ∧
        l.rowBlocks 0 = [["..\n".toList]] ∧ displayWidth "..\n".toList = 3 ∧ ¬ l.IsFilled := by
  refine ⟨by decide, by decide +kernel, ?_⟩
  obtain ⟨l, hl, h⟩ : ∃ l, breaking.layoutGrid fixedGrid = .ok l ∧
      decide (l.widths = [2] ∧ l.rowBlocks 0 = [["..\n".toList]] ∧ ¬ l.IsFilled) = true :=
    exists_ok_of_any (by decide +kernel)
  obtain ⟨hw, hb, hn⟩ := of_decide_eq_true h
  exact ⟨l, hl, hw, hb, by decide, hn⟩

end Table

end TextTable
