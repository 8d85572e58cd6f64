import TextTable.Proofs.Table.Cap

/-! # Columns do not interfere

A column of a layout is made of its own heading, format and cells. The other columns decide how many
lines its rows have, and so only how many blank lines stand around its texts.
-/

namespace TextTable

/-- Both rows are rules, or both are data and have the same in a column. -/
inductive GridRow.AgreesAt (i : Nat) : GridRow → GridRow → Prop
  | cells {slots slots' : List (Option Value)} (h : slots[i]?.join = slots'[i]?.join) :
      AgreesAt i (.cells slots) (.cells slots')
  | rule : AgreesAt i .rule .rule

namespace Grid

structure AgreesAt (i : Nat) (g g' : Grid) : Prop where
  column : g.columns[i]? = g'.columns[i]?
  rows : List.Forall₂ (GridRow.AgreesAt i) g.rows g'.rows

variable {g g' : Grid} {i : Nat}

theorem AgreesAt.dataRows_eq (h : g.AgreesAt i g') : g.dataRows = g'.dataRows := by
  have hrows := h.rows
  rw [Grid.dataRows_eq, Grid.dataRows_eq]
  generalize g.rows = rows, g'.rows = rows' at hrows ⊢
  induction hrows with
  | nil => rfl
  | cons hrow _ ih =>
    cases hrow with
    | cells _ => rw [List.countP_cons_of_pos rfl, List.countP_cons_of_pos rfl, ih]
    | rule =>
      rw [List.countP_cons_of_neg Bool.false_ne_true, List.countP_cons_of_neg Bool.false_ne_true,
        ih]

theorem AgreesAt.cellsOf_eq (h : g.AgreesAt i g') : g.cellsOf i = g'.cellsOf i := by
  have hrows := h.rows
  unfold cellsOf
  -- Rows are numbered from any `k` on, which grows along the two lists alike.
  generalize 0 = k
  generalize g.rows = rows, g'.rows = rows' at hrows ⊢
  induction hrows generalizing k with
  | nil => rfl
  | cons hrow _ ih =>
    cases hrow with
    | cells hslot => simp [List.zipIdx_cons, hslot, ih]
    | rule => simp [List.zipIdx_cons, ih]

end Grid

/-- The blocks are cut alike and have the same lines, apart from lines `pad` above and below. -/
def Block.AgreesUpTo (pad : Text) (b b' : Block) : Prop :=
  b.truncated = b'.truncated ∧ ∃ core, b.Encloses pad core ∧ b'.Encloses pad core

/-- The columns are the same, apart from lines `pad` in their blocks. -/
structure Column.AgreesUpTo (pad : Text) (c c' : Column) : Prop where
  width : c.width = c'.width
  align : c.align = c'.align
  lsep : c.lsep = c'.lsep
  rsep : c.rsep = c'.rsep
  heading : c.heading.AgreesUpTo pad c'.heading
  cells : List.Forall₂ (Block.AgreesUpTo pad) c.cells c'.cells

variable {config : Config} {b b' : Block} {c : Column} {columns columns' : List Column}
  {natural natural' width n : Nat}

/-- The height of its row neither cuts a cell nor saves it from being cut. -/
theorem Block.agreesUpTo_fitHeight (h : b.height ≤ natural) (h' : b.height ≤ natural') :
    (b.fitHeight config (Layout.capHeight config natural) width).AgreesUpTo (spaces width)
      (b.fitHeight config (Layout.capHeight config natural') width) := by
  by_cases hcaps : config.Caps b.height
  · obtain ⟨limit, hlimit, hlt⟩ := hcaps
    rw [fitHeight_of_caps hlimit hlt h, fitHeight_of_caps hlimit hlt h']
    exact ⟨rfl, _, encloses_lines, encloses_lines⟩
  · rw [fitHeight_of_not_caps hcaps h, fitHeight_of_not_caps hcaps h']
    exact ⟨rfl, b.lines, encloses_padHeight _, encloses_padHeight _⟩

namespace Column

def padLine (c : Column) : Text := if c.verticalRule then verticalRuleGlyph else spaces c.width

open Layout

theorem heading_agreesUpTo {height height' : Nat} {heights heights' : List Nat} :
    (fitColumn config height heights c).heading.AgreesUpTo c.padLine
      (fitColumn config height' heights' c).heading := by
  rw [heading_fitColumn, heading_fitColumn, padLine]
  split
  · exact ⟨rfl, [], Block.encloses_ruleOf, Block.encloses_ruleOf⟩
  · exact ⟨rfl, _, Block.encloses_padHeight _, Block.encloses_padHeight _⟩

theorem cells_agreeUpTo (hc : c ∈ columns) (hc' : c ∈ columns') {height height' : Nat} :
    List.Forall₂ (Block.AgreesUpTo c.padLine)
      (fitColumn config height ((List.range n).map (rowHeight config columns)) c).cells
      (fitColumn config height' ((List.range n).map (rowHeight config columns')) c).cells := by
  refine List.forall₂_iff_get.mpr ⟨by simp [length_cells_fitColumn], fun r hr hr' => ?_⟩
  have hb := List.getElem?_eq_getElem hr
  have hb' := List.getElem?_eq_getElem hr'
  rw [padLine]
  by_cases hv : c.verticalRule
  · obtain ⟨b, height, hcell, -, hrule⟩ := getElem?_cells_fitColumn hb
    obtain ⟨b', height', hcell', -, hrule'⟩ := getElem?_cells_fitColumn hb'
    obtain rfl := Option.some.inj (hcell.symm.trans hcell')
    rw [List.get_eq_getElem, List.get_eq_getElem, hrule, hrule', if_pos hv, if_pos hv, if_pos hv]
    exact ⟨rfl, [], Block.encloses_ruleOf, Block.encloses_ruleOf⟩
  · have hv : c.verticalRule = false := by simpa using hv
    obtain ⟨b, natural, hcell, hle, hfit⟩ := exists_fitHeight hc hv hb
    obtain ⟨b', natural', hcell', hle', hfit'⟩ := exists_fitHeight hc' hv hb'
    obtain rfl := Option.some.inj (hcell.symm.trans hcell')
    rw [List.get_eq_getElem, List.get_eq_getElem, hfit, hfit', hv]
    exact Block.agreesUpTo_fitHeight hle hle'

end Column

namespace CellFormatter

variable {f : CellFormatter} {registry : Registry} {g g' : Grid} {i : Nat}

theorem column_congr (h : g.AgreesAt i g') (column : GridColumn) :
    f.column registry g i column = f.column registry g' i column := by
  cases column with
  | verticalRule => exact congrArg (Except.ok ∘ Column.rule) h.dataRows_eq
  | data heading text =>
    unfold CellFormatter.column
    rw [h.cellsOf_eq]

theorem verticalRule_of_column {column : GridColumn} {c : Column}
    (h : f.column registry g i column = .ok c) : c.verticalRule = column.isRule := by
  rcases column_eq_ok h with ⟨rfl, rfl⟩ | ⟨heading, format, texts, rfl, -, rfl⟩ <;> rfl

end CellFormatter

namespace Table

variable {t : Table} {g g' : Grid} {l l' : Layout} {i : Nat}

/-- A column of a layout is known from its own part of the grid, up to lines that fill up its
blocks. -/
theorem agreeUpTo_layoutGrid (h : g.AgreesAt i g') (hl : t.layoutGrid g = .ok l)
    (hl' : t.layoutGrid g' = .ok l') {column : GridColumn} (hcolumn : g.columns[i]? = some column) :
    ∃ c c', l.columns[i]? = some c ∧ l'.columns[i]? = some c' ∧ c.verticalRule = column.isRule ∧
      c.AgreesUpTo (if column.isRule then verticalRuleGlyph else spaces c.width) c' := by
  obtain ⟨f, columns, hf, -, hcolumns, -, rfl⟩ := layoutGrid_eq_ok hl
  obtain ⟨f', columns', hf', -, hcolumns', -, rfl⟩ := layoutGrid_eq_ok hl'
  obtain rfl := Except.ok.inj (hf.symm.trans hf')
  have hget : g.columns.zipIdx[i]? = some (column, i) := by simp [hcolumn]
  have hget' : g'.columns.zipIdx[i]? = some (column, i) := by simp [← h.column, hcolumn]
  obtain ⟨c, hc, hmade⟩ := exists_getElem?_of_mapM hcolumns hget
  obtain ⟨c', hc', hmade'⟩ := exists_getElem?_of_mapM hcolumns' hget'
  -- Before rows are brought to one height, both grids have the same column.
  obtain rfl : c = c' :=
    Except.ok.inj (hmade.symm.trans ((CellFormatter.column_congr h column).trans hmade'))
  have hrule := CellFormatter.verticalRule_of_column hmade
  refine ⟨_, _, Layout.getElem?_columns_ofColumns hc, Layout.getElem?_columns_ofColumns hc',
    Layout.verticalRule_fitColumn.trans hrule, ?_⟩
  rw [Layout.width_fitColumn, ← hrule]
  exact {
    width := by simp
    align := by simp
    lsep := by simp
    rsep := by simp
    heading := Column.heading_agreesUpTo
    cells := by
      rw [← h.dataRows_eq]
      exact Column.cells_agreeUpTo (List.mem_of_getElem? hc) (List.mem_of_getElem? hc') }

def shortGrid : Grid where
  columns := [.data ['a'] [], .data ['b'] []]
  rows := [.cells [some (.string "x\ny\nz".toList), none], .rule, .cells [some (.int 1), none]]

/-- The same first column beside a heading of two lines and a cell of three. -/
def tallGrid : Grid where
  columns := [.data ['a'] [], .verticalRule, .data "b\nc".toList []]
  rows := [.cells [some (.string "x\ny\nz".toList), none, some .null], .rule,
    .cells [some (.int 1), none, some (.string "x\ny\nz".toList)]]

theorem shortGrid_agreesUpTo :
    ∃ l l' c c', ({ config := { maxCellHeight := some 2 } } : Table).layoutGrid shortGrid = .ok l ∧
      ({ config := { maxCellHeight := some 2 } } : Table).layoutGrid tallGrid = .ok l' ∧
      l.rowBlocks 1 = [[['1']], [[' ']]] ∧
      l'.rowBlocks 1 = [[['1'], [' ']], [['|'], ['|']], [['x'], ['.']]] ∧
      l.columns[0]? = some c ∧ l'.columns[0]? = some c' ∧ c.AgreesUpTo (spaces c.width) c' := by
  obtain ⟨l, hl, h⟩ : ∃ l, ({ config := { maxCellHeight := some 2 } } : Table).layoutGrid
      shortGrid = .ok l ∧ decide (l.rowBlocks 1 = [[['1']], [[' ']]]) = true :=
    exists_ok_of_any (by decide +kernel)
  obtain ⟨l', hl', h'⟩ : ∃ l', ({ config := { maxCellHeight := some 2 } } : Table).layoutGrid
      tallGrid = .ok l' ∧
        decide (l'.rowBlocks 1 = [[['1'], [' ']], [['|'], ['|']], [['x'], ['.']]]) = true :=
    exists_ok_of_any (by decide +kernel)
  have hagrees : shortGrid.AgreesAt 0 tallGrid :=
    ⟨rfl, .cons (.cells rfl) (.cons .rule (.cons (.cells rfl) .nil))⟩
  obtain ⟨c, c', hc, hc', -, hagree⟩ := agreeUpTo_layoutGrid hagrees hl hl' rfl
  exact ⟨l, l', c, c', hl, hl', of_decide_eq_true h, of_decide_eq_true h', hc, hc', hagree⟩

end Table

end TextTable
