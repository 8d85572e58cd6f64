import TextTable.Proofs.Table.Rectangle
import TextTable.Table.Plain

/-! # What a rendered table shows

The contents of a table are its headings and its data rows. A rendered table shows them in rows of
their own, and other rows stand between. In a layout that is a rectangle, the blocks that stand side
by side fit their columns.
-/

namespace TextTable

namespace RowKind

def isContent : RowKind → Bool
  | .heading | .data => true
  | .title | .guideline | .rule => false

def isBorder : RowKind → Bool
  | .guideline | .rule => true
  | .title | .heading | .data => false

end RowKind

def contentRows (rows : List RenderedRow) : List RenderedRow := rows.filter (·.kind.isContent)

def rowsOf (kind : RowKind) (rows : List RenderedRow) : List RenderedRow :=
  rows.filter (·.kind = kind)

def RowSlot.index? : RowSlot → Option Nat
  | .data index => some index
  | .rule => none

theorem contentRows_map_finish (indent : Text) (rows : List RenderedRow) :
    contentRows (rows.map (.finish indent)) = (contentRows rows).map (.finish indent) :=
  List.filter_map

theorem rowsOf_map_finish (kind : RowKind) (indent : Text) (rows : List RenderedRow) :
    rowsOf kind (rows.map (.finish indent)) = (rowsOf kind rows).map (.finish indent) :=
  List.filter_map

theorem contentRows_append (rows rows' : List RenderedRow) :
    contentRows (rows ++ rows') = contentRows rows ++ contentRows rows' := List.filter_append ..

/-- There is a block for every column, the blocks are equally high, and their lines are as long as
the columns are wide. -/
structure Fits (widths : List Nat) (blocks : List (List Text)) : Prop where
  length_eq : blocks.length = widths.length
  height_eq : ∀ block ∈ blocks, block.length = Layout.blocksHeight blocks
  lines : ∀ p ∈ blocks.zip widths, ∀ line ∈ p.1, Text.IsAscii line ∧ line.length = p.2

theorem Fits.exists_line {widths : List Nat} {blocks : List (List Text)} (h : Fits widths blocks)
    {i j width : Nat} {block : List Text} (hw : widths[j]? = some width)
    (hb : blocks[j]? = some block) (hi : i < Layout.blocksHeight blocks) :
    ∃ line, block[i]? = some line ∧ Text.IsAscii line ∧ line.length = width := by
  have hlt : i < block.length := hi.trans_eq (h.height_eq block (List.mem_of_getElem? hb)).symm
  have hmem : (block, width) ∈ blocks.zip widths :=
    List.mem_of_getElem? (List.getElem?_zip_eq_some.mpr ⟨hb, hw⟩)
  exact ⟨block[i], List.getElem?_eq_getElem hlt, h.lines _ hmem _ (List.getElem_mem hlt)⟩

namespace Layout

variable {l : Layout} {g : Grid} {config : Config} {natural : List Column}

theorem filterMap_index?_slots (k : Nat) (rows : List GridRow) :
    (slots k rows).filterMap RowSlot.index? = List.range' k (rows.countP GridRow.isData) := by
  induction rows generalizing k with
  | nil => rfl
  | cons row rows ih =>
    cases row with
    | cells _ =>
      rw [List.countP_cons_of_pos rfl, List.range'_succ, ← ih]
      rfl
    | rule =>
      rw [List.countP_cons_of_neg Bool.false_ne_true, ← ih]
      rfl

theorem contentRows_titleRows (config : Config) (width : Nat) (t : Text) :
    contentRows (titleRows config width t) = [] := by
  unfold titleRows
  split <;> rfl

theorem kinds_titleRows (config : Config) (width : Nat) (t : Text) :
    (titleRows config width t).map RenderedRow.kind = if t = [] then [] else [.title] := by
  unfold titleRows
  cases t <;> rfl

/-- Some heading beside the vertical rules has a character that is no white space. -/
def ShowsHeadings (l : Layout) : Prop :=
  ∃ c ∈ l.columns, c.verticalRule = false ∧
    ∃ line ∈ c.heading.lines, ∃ ch ∈ line, isWhite ch = false

instance (l : Layout) : Decidable l.ShowsHeadings :=
  decidable_of_iff ((l.columns.any fun c => !c.verticalRule &&
      c.heading.lines.any fun line => line.any fun ch => !isWhite ch) = true)
    (by simp [ShowsHeadings])

/-- The lines of the headings, if they are shown, and the lines of the cells of the data rows in the
order of the input. -/
def contents (l : Layout) : List (RowKind × List (List Text)) :=
  (if l.ShowsHeadings then [(.heading, l.columns.map fun c => c.heading.lines)] else []) ++
    (l.rows.filterMap RowSlot.index?).map fun index =>
      (.data, l.columns.map fun c => (c.cells[index]?.map Block.lines).getD [])

theorem hasHeadings_iff : l.hasHeadings = true ↔ l.ShowsHeadings := by
  simp [hasHeadings, ShowsHeadings, Block.isBlank, Text.isBlank]

theorem contents_eq (l : Layout) : l.contents =
    (if l.hasHeadings then [(.heading, l.headingBlocks)] else []) ++
      (l.rows.filterMap RowSlot.index?).map fun index => (.data, l.rowBlocks index) := by
  simp only [hasHeadings_iff]
  rfl

theorem mem_contents {p : RowKind × List (List Text)} (hp : p ∈ l.contents) :
    p = (.heading, l.headingBlocks) ∨
      ∃ index, .data index ∈ l.rows ∧ p = (.data, l.rowBlocks index) := by
  rw [contents_eq] at hp
  rcases List.mem_append.mp hp with hp | hp
  · split at hp
    · exact .inl (List.mem_singleton.mp hp)
    · contradiction
  · obtain ⟨index, hi, rfl⟩ := List.mem_map.mp hp
    obtain ⟨slot, hslot, hi⟩ := List.mem_filterMap.mp hi
    cases slot with
    | data index' => exact .inr ⟨index, Option.some.inj hi ▸ hslot, rfl⟩
    | rule => contradiction

/-- Contents have a block for every column, and all their blocks have one height. -/
theorem exists_blocks_of_mem_contents (hr : l.IsRegular config g natural)
    {p : RowKind × List (List Text)} (hp : p ∈ l.contents) :
    ∃ (blockOf : Column → Block) (height : Nat),
      p.2 = l.columns.map (fun c => (blockOf c).lines) ∧
      ∀ c ∈ l.columns, (blockOf c).height = height ∧
        (blockOf c = c.heading ∨ blockOf c ∈ c.cells) := by
  rcases mem_contents hp with rfl | ⟨index, hindex, rfl⟩
  · exact ⟨Column.heading, l.headingHeight, rfl, fun c hc => ⟨hr.heading_height c hc, .inl rfl⟩⟩
  · have hcell : ∀ c ∈ l.columns, ∃ b ∈ c.cells, c.cells[index]? = some b := by
      intro c hc
      have hlt := (hr.index_lt index hindex).trans_eq (hr.length_cells c hc).symm
      exact ⟨c.cells[index], List.getElem_mem hlt, List.getElem?_eq_getElem hlt⟩
    refine ⟨fun c => c.cells[index]?.getD c.heading, cappedHeight config natural index,
      List.map_congr_left fun c hc => ?_, fun c hc => ?_⟩
    all_goals
      obtain ⟨b, hmem, hb⟩ := hcell c hc
      simp only [hb, Option.map_some, Option.getD_some]
    exact ⟨hr.cell_height c hc index b hb, .inr hmem⟩

theorem height_of_mem_contents (hr : l.IsRegular config g natural)
    {p : RowKind × List (List Text)} (hp : p ∈ l.contents) :
    ∀ block ∈ p.2, block.length = blocksHeight p.2 := by
  obtain ⟨blockOf, height, hblocks, hc⟩ := exists_blocks_of_mem_contents hr hp
  have hheight : ∀ block ∈ p.2, block.length = height := by
    rw [hblocks]
    exact List.forall_mem_map.mpr fun c hmem => (hc c hmem).1
  exact fun block hb => (hheight block hb).trans
    (largest_eq (List.forall_mem_map.mpr hheight) (List.mem_map_of_mem hb)).symm

theorem length_of_mem_contents (hr : l.IsRegular config g natural)
    {p : RowKind × List (List Text)} (hp : p ∈ l.contents) : p.2.length = l.columns.length := by
  obtain ⟨blockOf, -, hblocks, -⟩ := exists_blocks_of_mem_contents hr hp
  rw [hblocks, List.length_map]

theorem fits_of_mem_contents (hr : l.IsRegular config g natural)
    (hf : ∀ c ∈ l.columns, c.Filled) : ∀ p ∈ l.contents, Fits l.widths p.2 := by
  intro p hp
  obtain ⟨blockOf, _, hblocks, hc⟩ := exists_blocks_of_mem_contents hr hp
  refine ⟨?_, height_of_mem_contents hr hp, ?_⟩
  · rw [widths, List.length_map, length_of_mem_contents hr hp]
  · rw [hblocks, widths, List.zip_map']
    refine List.forall_mem_map.mpr fun c hmem => ?_
    rcases (hc c hmem).2 with h | h
    · exact h ▸ (hf c hmem).heading
    · exact (hf c hmem).cells _ h

end Layout

namespace Table

variable {t : Table} {g : Grid} {l : Layout}

theorem rows_layoutGrid (h : t.layoutGrid g = .ok l) :
    l.rows.filterMap RowSlot.index? = List.range g.dataRows := by
  obtain ⟨f, columns, -, -, -, -, rfl⟩ := layoutGrid_eq_ok h
  rw [Grid.dataRows_eq, List.range_eq_range']
  exact Layout.filterMap_index?_slots 0 g.rows

theorem dataRows_withoutVerticalRules (g : Grid) :
    g.withoutVerticalRules.dataRows = g.dataRows := by
  rw [Grid.dataRows_eq, Grid.dataRows_eq, Grid.withoutVerticalRules, List.countP_map]
  exact congrArg (g.rows.countP ·) (funext fun row => by cases row <;> rfl)

/-- Two columns with a vertical rule between, and a rule below the only data row. -/
def ruledGrid : Grid where
  columns := [.data ['a'] [], .verticalRule, .data ['b'] []]
  rows := [.cells [some (.string ['x']), none, some (.string ['y', 'z'])], .rule]

end Table

end TextTable
