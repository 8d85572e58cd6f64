import TextTable.Proofs.Table.Rectangle

/-! # Input by rows and by columns

Columns of one height and the rows that they make up give the same grid. Vertical rules may be left
out of the input of a bordered table, since they are left out of its grid.
-/

namespace TextTable

structure DataColumn where
  heading : Text
  format : Text
  cells : List Value

namespace DataColumn

def toInput (c : DataColumn) : ColumnInput := .column c.heading c.format c.cells

def toRows (height : Nat) (columns : List DataColumn) : List Row :=
  (List.range height).map fun r => .cells (columns.filterMap (·.cells[r]?))

end DataColumn

def ColumnInput.isRule : ColumnInput → Bool
  | .column .. => false
  | .verticalRule => true

namespace Grid

open DataColumn

theorem map_some_filterMap {α β : Type} {f : α → Option β} {xs : List α}
    (h : ∀ x ∈ xs, (f x).isSome) : (xs.filterMap f).map some = xs.map f := by
  induction xs with
  | nil => rfl
  | cons x xs ih =>
    obtain ⟨hx, hxs⟩ := List.forall_mem_cons.mp h
    obtain ⟨y, hy⟩ := Option.isSome_iff_exists.mp hx
    simp [hy, ih hxs]

theorem map_getElem?_range {α : Type} (xs : List α) :
    (List.range xs.length).map (xs[·]?) = xs.map some := by
  refine List.ext_getElem (by simp) fun i hi hi' => ?_
  have hlt : i < xs.length := by simpa using hi'
  simp [hlt]

variable {columns : List DataColumn} {height : Nat}

theorem filterMap_cells (h : ∀ c ∈ columns, c.cells.length = height) {r : Nat} (hr : r < height) :
    (columns.filterMap (·.cells[r]?)).map some = columns.map (·.cells[r]?) := by
  refine map_some_filterMap fun c hc => ?_
  rw [List.getElem?_eq_getElem (hr.trans_eq (h c hc).symm)]
  rfl

theorem length_of_mem_toRows (h : ∀ c ∈ columns, c.cells.length = height) {row : Row}
    (hrow : row ∈ toRows height columns) : row.length = columns.length := by
  obtain ⟨r, hr, rfl⟩ := List.mem_map.mp hrow
  have hlength := congrArg List.length (filterMap_cells h (List.mem_range.mp hr))
  rwa [List.length_map, List.length_map] at hlength

theorem ofColumns_toInput (hne : columns ≠ []) (h : ∀ c ∈ columns, c.cells.length = height) :
    ofColumns (columns.map toInput) =
      { columns := columns.map fun c => .data c.heading c.format
        rows := (List.range height).map fun r => .cells (columns.map (·.cells[r]?)) } := by
  obtain ⟨c, hc⟩ := List.exists_mem_of_ne_nil columns hne
  have hheight : largest ((columns.map toInput).map (·.cells.length)) = height := by
    rw [List.map_map]
    exact Layout.largest_eq (List.forall_mem_map.mpr h) (List.mem_map_of_mem hc)
  rw [ofColumns, hheight, List.map_map]
  congr 1
  refine List.map_congr_left fun r _ => ?_
  rw [List.map_map]
  rfl

theorem ofRows_toRows (h : ∀ c ∈ columns, c.cells.length = height) :
    ofRows (columns.map DataColumn.heading) (columns.map DataColumn.format)
        (toRows height columns) =
      { columns := columns.map fun c => .data c.heading c.format
        rows := (List.range height).map fun r => .cells (columns.map (·.cells[r]?)) } := by
  have hcount : max (columns.map DataColumn.heading).length
      (largest ((toRows height columns).map Row.length)) = columns.length := by
    rw [List.length_map]
    refine Nat.max_eq_left (largest_le_iff.mpr (List.forall_mem_map.mpr fun row hrow => ?_))
    exact (length_of_mem_toRows h hrow).le
  rw [ofRows, hcount]
  congr 1
  · refine List.ext_getElem (by simp) fun i hi hi' => ?_
    have hlt : i < columns.length := by simpa using hi'
    simp [hlt]
  · rw [toRows, List.map_map]
    refine List.map_congr_left fun r hr => congrArg GridRow.cells ?_
    have hrow := filterMap_cells h (List.mem_range.mp hr)
    rw [← hrow, ← map_getElem?_range]
    congr 2
    simpa using (congrArg List.length hrow).symm

theorem ofColumns_eq_ofRows (hne : columns ≠ []) (h : ∀ c ∈ columns, c.cells.length = height) :
    ofColumns (columns.map toInput) =
      ofRows (columns.map DataColumn.heading) (columns.map DataColumn.format)
        (toRows height columns) :=
  (ofColumns_toInput hne h).trans (ofRows_toRows h).symm

theorem largest_cells_filter (input : List ColumnInput) :
    largest ((input.filter (!·.isRule)).map (·.cells.length)) =
      largest (input.map (·.cells.length)) := by
  induction input with
  | nil => rfl
  | cons c input ih =>
    cases c with
    | column heading format cells =>
      rw [List.filter_cons_of_pos rfl, List.map_cons, List.map_cons]
      exact congrArg (max _) ih
    | verticalRule =>
      -- A vertical rule has no cells, so it does not count for the height.
      rw [List.filter_cons_of_neg Bool.false_ne_true, ih, List.map_cons]
      exact (Nat.zero_max _).symm

theorem withoutVerticalRules_ofColumns (input : List ColumnInput) :
    (ofColumns input).withoutVerticalRules = ofColumns (input.filter (!·.isRule)) := by
  have hrule (c : ColumnInput) : GridColumn.isRule (match c with
      | .column heading format _ => .data heading format
      | .verticalRule => .verticalRule) = c.isRule := by
    cases c <;> rfl
  rw [ofColumns, ofColumns, withoutVerticalRules, largest_cells_filter]
  congr 1
  · rw [List.filter_map]
    congr 1
    exact List.filter_congr fun c _ => congrArg (!·) (hrule c)
  · rw [List.map_map]
    refine List.map_congr_left fun r _ => congrArg GridRow.cells ?_
    rw [List.zip_map', List.filter_map, List.map_map]
    congr 1
    exact List.filter_congr fun c _ => congrArg (!·) (hrule c)

end Grid

namespace Table

/-- Columns of one height are rendered as their rows are, and vertical rules leave no trace in a
bordered table. -/
theorem renderColumns_eq (t : Table) (title : Text) (style : Style) :
    (∀ (columns : List DataColumn) (height : Nat), columns ≠ [] →
      (∀ c ∈ columns, c.cells.length = height) →
        t.renderColumns (columns.map DataColumn.toInput) title style =
          t.renderRows (columns.map DataColumn.heading) (columns.map DataColumn.format)
            (DataColumn.toRows height columns) title style) ∧
      ∀ input : List ColumnInput, t.renderColumns (input.filter (!·.isRule)) title .bordered =
        t.renderColumns input title .bordered := by
  constructor
  · intro columns height hne h
    rw [renderColumns, Grid.ofColumns_eq_ofRows hne h]
    rfl
  · intro input
    have hgrid : gridOf .bordered (.ofColumns (input.filter (!·.isRule))) =
        gridOf .bordered (.ofColumns input) := by
      rw [gridOf, gridOf, Grid.withoutVerticalRules_ofColumns, Grid.withoutVerticalRules_ofColumns,
        List.filter_filter]
      simp only [Bool.and_self]
    rw [renderColumns, renderGrid, hgrid]
    rfl

def squareColumns : List DataColumn :=
  [{ heading := ['a'], format := [], cells := [.int 1, .int 2] },
    { heading := ['b'], format := [], cells := [.string ['x'], .null] }]

theorem squareColumns_renderColumns_eq :
    ({} : Table).columnsText (squareColumns.map DataColumn.toInput) [] .plain =
        ({} : Table).rowsText [['a'], ['b']] [[], []]
          [.cells [.int 1, .string ['x']], .cells [.int 2, .null]] [] .plain ∧
      ({} : Table).columnsText (.verticalRule :: squareColumns.map DataColumn.toInput) []
          .bordered =
        ({} : Table).columnsText (squareColumns.map DataColumn.toInput) [] .bordered := by
  constructor
  · have h := (renderColumns_eq {} [] .plain).1 squareColumns 2 (List.cons_ne_nil _ _) (by decide)
    exact congrArg (Except.map RenderedTable.text) h
  · have h := (renderColumns_eq {} [] .bordered).2
      (.verticalRule :: squareColumns.map DataColumn.toInput)
    exact congrArg (Except.map RenderedTable.text) h.symm

end Table

end TextTable
