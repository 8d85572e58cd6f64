import TextTable.Proofs.Table.Height
import TextTable.Proofs.Text.LineBreak
import TextTable.Table.Basic

/-! # Layouts are rectangles

A layout has a cell for every column and every data row, and the cells of a row are equally high.
All lines of a column are equally wide as long as the marker of cut text has no line break.
-/

namespace TextTable

def CellFormatter.columns (f : CellFormatter) (registry : Registry) (g : Grid) :
    Except CellError (List Column) :=
  g.columns.zipIdx.mapM fun (column, i) => f.column registry g i column

namespace Layout

def ofColumns (config : Config) (g : Grid) (columns : List Column) : Layout :=
  let headingHeight := headingHeightOf columns
  let heights := (List.range g.dataRows).map (rowHeight config columns)
  { columns := columns.map (fitColumn config headingHeight heights)
    rows := slots 0 g.rows
    separators := separatorsOf config.separator columns }

theorem ofGrid_eq (f : CellFormatter) (registry : Registry) (g : Grid) :
    ofGrid f registry g = (f.columns registry g).map (ofColumns f.config g) := rfl

def IsFilled (l : Layout) : Prop :=
  ∀ c ∈ l.columns, ∀ b ∈ c.heading :: c.cells, ∀ line ∈ b.lines, displayWidth line = c.width

instance (l : Layout) : Decidable l.IsFilled :=
  decidable_of_iff (l.columns.all fun c => (c.heading :: c.cells).all fun b =>
    b.lines.all fun line => displayWidth line = c.width) (by simp [IsFilled])

def slotOf (before : Nat) : GridRow → RowSlot
  | .cells _ => .data before
  | .rule => .rule

/-- A row is as high as its tallest cell, up to the largest height. -/
def cappedHeight (config : Config) (natural : List Column) (r : Nat) : Nat :=
  match config.maxCellHeight with
  | none => naturalHeight natural r
  | some limit => min (naturalHeight natural r) (max 1 limit)

/-- The layout has the rows and the columns of a grid, where `natural` are the columns before rows
are brought to one height. -/
structure IsRegular (config : Config) (g : Grid) (natural : List Column) (l : Layout) : Prop where
  length_columns : l.columns.length = g.columns.length
  heading_height : ∀ c ∈ l.columns, c.heading.height = l.headingHeight
  length_cells : ∀ c ∈ l.columns, c.cells.length = g.dataRows
  cell_height : ∀ c ∈ l.columns, ∀ r b, c.cells[r]? = some b →
    b.height = cappedHeight config natural r
  length_rows : l.rows.length = g.rows.length
  /-- The data rows are numbered from the top. -/
  rows : ∀ i row, g.rows[i]? = some row →
    l.rows[i]? = some (slotOf ((g.rows.take i).countP GridRow.isData) row)
  index_lt : ∀ r, .data r ∈ l.rows → r < g.dataRows
  length_separators : l.separators.length = l.columns.length
  last_separator : ∀ s ∈ l.separators.getLast?, s = []

section FitColumn

variable {config : Config} {headingHeight n r : Nat} {heights : List Nat} {c : Column} {b : Block}

@[simp] theorem width_fitColumn :
    (fitColumn config headingHeight heights c).width = c.width := by
  unfold fitColumn
  split <;> rfl

@[simp] theorem verticalRule_fitColumn :
    (fitColumn config headingHeight heights c).verticalRule = c.verticalRule := by
  unfold fitColumn
  split <;> rfl

@[simp] theorem align_fitColumn :
    (fitColumn config headingHeight heights c).align = c.align := by
  unfold fitColumn
  split <;> rfl

@[simp] theorem lsep_fitColumn :
    (fitColumn config headingHeight heights c).lsep = c.lsep := by
  unfold fitColumn
  split <;> rfl

@[simp] theorem rsep_fitColumn :
    (fitColumn config headingHeight heights c).rsep = c.rsep := by
  unfold fitColumn
  split <;> rfl

theorem heading_fitColumn : (fitColumn config headingHeight heights c).heading =
    if c.verticalRule then c.heading.ruleOf headingHeight
    else c.heading.padHeight headingHeight c.width config.headingVAlign := by
  unfold fitColumn
  split <;> rfl

theorem length_cells_fitColumn : (fitColumn config headingHeight heights c).cells.length =
    min c.cells.length heights.length := by
  unfold fitColumn
  split <;> exact List.length_zipWith

theorem getElem?_cells_fitColumn
    (h : (fitColumn config headingHeight heights c).cells[r]? = some b) :
    ∃ b₀ height, c.cells[r]? = some b₀ ∧ heights[r]? = some height ∧
      b = if c.verticalRule then b₀.ruleOf height else b₀.fitHeight config height c.width := by
  unfold fitColumn at h
  split at h <;> obtain ⟨b₀, height, hb, hh, rfl⟩ := List.getElem?_zipWith_eq_some.mp h
  · next hv => exact ⟨b₀, height, hb, hh, (if_pos hv).symm⟩
  · next hv => exact ⟨b₀, height, hb, hh, (if_neg hv).symm⟩

/-- A vertical rule stays filled as its lines are made anew, and other columns as theirs are cut or
padded. -/
theorem filled_fitColumn (hc : c.Filled) (hn : c.Natural n)
    (hm : Text.IsAscii config.moreMarker) :
    (fitColumn config headingHeight heights c).Filled := by
  have hrule (height : Nat) (b : Block) (hv : c.verticalRule = true) :
      (b.ruleOf height).Fills c.width := by
    rw [hn.rule hv]
    exact Block.fills_ruleOf
  constructor
  · rw [heading_fitColumn, width_fitColumn]
    split
    · next hv => exact hrule _ _ hv
    · exact hc.heading.padHeight _
  · intro b hb
    obtain ⟨r, hr⟩ := List.mem_iff_getElem?.mp hb
    obtain ⟨b₀, height, hb₀, -, rfl⟩ := getElem?_cells_fitColumn hr
    rw [width_fitColumn]
    split
    · next hv => exact hrule _ _ hv
    · exact (hc.cells b₀ (List.mem_of_getElem? hb₀)).fitHeight hm

theorem height_heading_fitColumn (h : c.verticalRule = false → c.heading.height ≤ headingHeight) :
    (fitColumn config headingHeight heights c).heading.height = headingHeight := by
  rw [heading_fitColumn]
  split
  · exact Block.height_ruleOf
  · next hv => exact Block.height_padHeight (h (by simpa using hv)) _

theorem height_of_getElem?_fitColumn (h0 : ∀ height ∈ heights, 0 < height)
    (h : (fitColumn config headingHeight heights c).cells[r]? = some b) :
    heights[r]? = some b.height := by
  obtain ⟨b₀, height, -, hh, rfl⟩ := getElem?_cells_fitColumn h
  rw [hh]
  split
  · rw [Block.height_ruleOf]
  · rw [Block.height_fitHeight (h0 height (List.mem_of_getElem? hh))]

end FitColumn

theorem getElem?_slots {k i : Nat} {rows : List GridRow} {row : GridRow}
    (h : rows[i]? = some row) : (slots k rows)[i]? =
      some (slotOf (k + (rows.take i).countP GridRow.isData) row) := by
  induction rows generalizing k i with
  | nil => simp at h
  | cons row' rows ih =>
    cases i with
    | zero =>
      cases h
      cases row <;> rfl
    | succ i =>
      cases row' with
      | cells _ =>
        rw [List.take_succ_cons, List.countP_cons_of_pos rfl, ← Nat.add_assoc, Nat.add_right_comm]
        exact ih h
      | rule =>
        rw [List.take_succ_cons, List.countP_cons_of_neg Bool.false_ne_true]
        exact ih h

theorem lt_of_data_mem_slots {k r : Nat} {rows : List GridRow} (h : .data r ∈ slots k rows) :
    r < k + rows.countP GridRow.isData := by
  induction rows generalizing k with
  | nil => simp [slots] at h
  | cons row rows ih =>
    cases row with
    | cells _ =>
      rw [List.countP_cons_of_pos rfl]
      rcases List.mem_cons.mp h with h | h
      · cases h; omega
      · have := ih h; omega
    | rule =>
      rw [List.countP_cons_of_neg Bool.false_ne_true]
      exact ih ((List.mem_cons.mp h).resolve_left (by simp))

theorem length_slots (k : Nat) (rows : List GridRow) : (slots k rows).length = rows.length := by
  induction rows generalizing k with
  | nil => rfl
  | cons row rows ih => cases row <;> simp [slots, ih]

theorem length_separatorsOf (default : Text) (columns : List Column) :
    (separatorsOf default columns).length = columns.length := by
  fun_induction separatorsOf default columns <;> simp [*]

theorem getLast?_separatorsOf (default : Text) (columns : List Column) :
    ∀ s ∈ (separatorsOf default columns).getLast?, s = [] := by
  fun_induction separatorsOf default columns with
  | case1 => simp
  | case2 => simp
  | case3 left right rest ih =>
    intro s hs
    refine ih s ?_
    rw [List.getLast?_cons] at hs
    cases hr : (separatorsOf default (right :: rest)).getLast? with
    | none =>
      have := length_separatorsOf default (right :: rest)
      rw [List.getLast?_eq_none_iff.mp hr] at this
      contradiction
    | some s' => simpa [hr] using hs

section OfColumns

variable {config : Config} {g : Grid} {columns : List Column}

theorem exists_of_mem_ofColumns {c : Column} (hc : c ∈ (ofColumns config g columns).columns) :
    ∃ c₀ ∈ columns, c = fitColumn config (headingHeightOf columns)
      ((List.range g.dataRows).map (rowHeight config columns)) c₀ := by
  obtain ⟨c₀, hc₀, rfl⟩ := List.mem_map.mp hc
  exact ⟨c₀, hc₀, rfl⟩

theorem getElem?_columns_ofColumns {i : Nat} {c : Column} (h : columns[i]? = some c) :
    (ofColumns config g columns).columns[i]? = some (fitColumn config (headingHeightOf columns)
      ((List.range g.dataRows).map (rowHeight config columns)) c) := by
  rw [ofColumns, List.getElem?_map, h]
  rfl

theorem largest_eq {ns : List Nat} {m n : Nat} (h : ∀ m ∈ ns, m = n) (hm : m ∈ ns) :
    Grid.largest ns = n :=
  Nat.le_antisymm (Grid.largest_le_iff.mpr fun m hm => (h m hm).le)
    (h m hm ▸ Grid.le_largest hm)

theorem height_heading_ofColumns {c : Column}
    (hc : c ∈ (ofColumns config g columns).columns) :
    c.heading.height = headingHeightOf columns := by
  obtain ⟨c₀, hc₀, rfl⟩ := exists_of_mem_ofColumns hc
  refine height_heading_fitColumn fun hv => le_tallest (List.mem_map_of_mem ?_)
  exact List.mem_filter.mpr ⟨hc₀, by simp [hv]⟩

/-- The rows of a layout are as high as the tallest of their cells, up to the largest height. -/
theorem height_cell_ofColumns (h : ∀ c ∈ columns, c.Natural g.dataRows) {c : Column} {b : Block}
    {r : Nat} (hc : c ∈ (ofColumns config g columns).columns) (hb : c.cells[r]? = some b) :
    b.height = capHeight config (naturalHeight columns r) := by
  obtain ⟨c₀, hc₀, rfl⟩ := exists_of_mem_ofColumns hc
  have hpos : ∀ height ∈ (List.range g.dataRows).map (rowHeight config columns), 0 < height :=
    List.forall_mem_map.mpr fun r _ => rowHeight_pos h
  have hh := height_of_getElem?_fitColumn hpos hb
  rw [List.getElem?_map, Option.map_eq_some_iff] at hh
  obtain ⟨r', hr', hh⟩ := hh
  obtain ⟨hr, rfl⟩ := List.getElem?_eq_some_iff.mp hr'
  rw [List.getElem_range] at hh
  rw [List.length_range] at hr
  rw [← hh, rowHeight, tallest_dataColumns h hc₀ hr]

theorem isRegular_ofColumns (h : ∀ c ∈ columns, c.Natural g.dataRows)
    (hl : columns.length = g.columns.length) :
    (ofColumns config g columns).IsRegular config g columns where
  length_columns := by simpa [ofColumns] using hl
  heading_height c hc := by
    rw [height_heading_ofColumns hc, headingHeight]
    refine (largest_eq (List.forall_mem_map.mpr fun c hc => ?_) (List.mem_map_of_mem hc)).symm
    exact height_heading_ofColumns hc
  length_cells c hc := by
    obtain ⟨c₀, hc₀, rfl⟩ := exists_of_mem_ofColumns hc
    rw [length_cells_fitColumn, (h c₀ hc₀).length_cells, List.length_map, List.length_range,
      Nat.min_self]
  cell_height c hc r b hb := by
    rw [height_cell_ofColumns h hc hb, capHeight, cappedHeight]
    cases config.maxCellHeight with
    | none => rfl
    | some limit => exact congrArg (min _) (Nat.max_comm limit 1)
  length_rows := length_slots 0 g.rows
  rows i row hrow := by
    rw [ofColumns, getElem?_slots hrow, Nat.zero_add]
  index_lt r hr := by
    rw [Grid.dataRows_eq, ← Nat.zero_add (List.countP _ _)]
    exact lt_of_data_mem_slots hr
  length_separators := by simp [ofColumns, length_separatorsOf]
  last_separator := getLast?_separatorsOf _ _

theorem filled_of_mem_ofColumns (h : ∀ c ∈ columns, c.Natural g.dataRows)
    (hf : ∀ c ∈ columns, c.Filled) (hm : Text.IsAscii config.moreMarker) :
    ∀ c ∈ (ofColumns config g columns).columns, c.Filled := by
  intro c hc
  obtain ⟨c₀, hc₀, rfl⟩ := exists_of_mem_ofColumns hc
  exact filled_fitColumn (hf c₀ hc₀) (h c₀ hc₀) hm

theorem isFilled_of_filled {l : Layout} (h : ∀ c ∈ l.columns, c.Filled) : l.IsFilled := by
  intro c hc b hb line hl
  rcases List.mem_cons.mp hb with rfl | hb
  · exact (h c hc).heading.displayWidth_eq hl
  · exact ((h c hc).cells b hb).displayWidth_eq hl

end OfColumns

end Layout

namespace CellFormatter

variable {f : CellFormatter} {registry : Registry} {g : Grid} {columns : List Column}

/-- The heading and the texts of the cells of a column are made of printable ASCII and line
breaks. -/
def showsAscii (f : CellFormatter) (registry : Registry) (g : Grid) (i : Nat) : GridColumn → Bool
  | .verticalRule => true
  | .data heading format =>
    heading.isAsciiBlock &&
      match f.texts (.resolve registry (.parse f.config format)) i (g.cellsOf i) with
      | .ok texts => texts.all Text.isAsciiBlock
      | .error _ => false

theorem filled_of_column {i : Nat} {column : GridColumn} {c : Column}
    (h : f.column registry g i column = .ok c)
    (hs : f.showsAscii registry g i column = true) (hm : Text.IsAscii f.config.moreMarker) :
    c.Filled := by
  rcases column_eq_ok h with ⟨rfl, rfl⟩ | ⟨heading, format, texts, rfl, ht, rfl⟩
  · exact Column.filled_rule _
  · simp only [showsAscii, ht, Bool.and_eq_true, List.all_eq_true] at hs
    exact Column.filled_ofTexts hm (ColumnFormat.width_resolve_pos _ _) hs.1 hs.2

theorem natural_of_mem_columns (h : f.columns registry g = .ok columns) :
    ∀ c ∈ columns, c.Natural g.dataRows := by
  intro c hc
  obtain ⟨p, -, hp⟩ := exists_of_mem_mapM h hc
  exact natural_of_column hp

theorem length_columns (h : f.columns registry g = .ok columns) :
    columns.length = g.columns.length := by
  rw [← (mapM_eq_ok_iff.mp h).length_eq, List.length_zipIdx]

theorem filled_of_mem_columns (h : f.columns registry g = .ok columns)
    (hs : g.columns.zipIdx.all (fun (column, i) => f.showsAscii registry g i column) = true)
    (hm : Text.IsAscii f.config.moreMarker) : ∀ c ∈ columns, c.Filled := by
  intro c hc
  obtain ⟨p, hp, hc⟩ := exists_of_mem_mapM h hc
  exact filled_of_column hc (List.all_eq_true.mp hs p hp) hm

end CellFormatter

namespace Table

variable {t : Table} {g : Grid} {l : Layout}

/-- The columns of the table, before rows are brought to one height. -/
def naturalColumns (t : Table) (g : Grid) : Except TableError (List Column) := do
  let f ← t.formatter.mapError .config
  (f.columns t.registry g).mapError .cell

/-- The headings and the texts of the cells are made of printable ASCII and line breaks. -/
def showsAscii (t : Table) (g : Grid) : Bool :=
  match t.formatter with
  | .ok f => g.columns.zipIdx.all fun (column, i) => f.showsAscii t.registry g i column
  | .error _ => false

theorem config_of_formatter {f : CellFormatter} (h : t.formatter = .ok f) :
    f.config = t.config := by
  obtain ⟨_, -, h⟩ := bind_eq_ok_iff.mp h
  obtain ⟨_, -, h⟩ := bind_eq_ok_iff.mp h
  cases h
  rfl

theorem layoutGrid_eq_ok (h : t.layoutGrid g = .ok l) :
    ∃ f columns, t.formatter = .ok f ∧ f.config = t.config ∧
      f.columns t.registry g = .ok columns ∧ t.naturalColumns g = .ok columns ∧
      l = .ofColumns t.config g columns := by
  obtain ⟨f, hf, h⟩ := bind_eq_ok_iff.mp h
  rw [mapError_eq_ok_iff] at hf h
  rw [Layout.ofGrid_eq, map_eq_ok_iff] at h
  obtain ⟨columns, hcolumns, rfl⟩ := h
  refine ⟨f, columns, hf, config_of_formatter hf, hcolumns, ?_, by rw [config_of_formatter hf]⟩
  rw [naturalColumns, hf, bind_eq_ok_iff]
  exact ⟨f, rfl, mapError_eq_ok_iff.mpr hcolumns⟩

theorem isRegular_layoutGrid (h : t.layoutGrid g = .ok l) :
    ∃ natural, t.naturalColumns g = .ok natural ∧ l.IsRegular t.config g natural := by
  obtain ⟨f, columns, -, -, hc, hn, rfl⟩ := layoutGrid_eq_ok h
  exact ⟨columns, hn, Layout.isRegular_ofColumns (CellFormatter.natural_of_mem_columns hc)
    (CellFormatter.length_columns hc)⟩

theorem filled_layoutGrid (h : t.layoutGrid g = .ok l) (hs : t.showsAscii g = true)
    (hm : Text.IsAscii t.config.moreMarker) : ∀ c ∈ l.columns, c.Filled := by
  obtain ⟨f, columns, hf, hconfig, hc, -, rfl⟩ := layoutGrid_eq_ok h
  rw [showsAscii, hf] at hs
  rw [← hconfig] at hm ⊢
  exact Layout.filled_of_mem_ofColumns (CellFormatter.natural_of_mem_columns hc)
    (CellFormatter.filled_of_mem_columns hc hs hm) hm

end Table

end TextTable
