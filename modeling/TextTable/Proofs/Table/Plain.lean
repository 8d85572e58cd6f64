import TextTable.Proofs.Table.Join
import TextTable.Table.Basic

/-! # Plain tables

A plain table has a row for its title, for each of its guidelines, for its headings and for every
row of the input, in this order. Its headings and its data rows are aligned.
-/

namespace TextTable

namespace Layout

variable {l : Layout} {config : Config} {g : Grid} {natural : List Column}

theorem getElem?_separatorsOf (default : Text) {columns : List Column} {j : Nat}
    {left right : Column} (hl : columns[j]? = some left) (hr : columns[j + 1]? = some right) :
    (separatorsOf default columns)[j]? = some ((right.lsep <|> left.rsep).getD default) := by
  fun_induction separatorsOf default columns generalizing j with
  | case1 => simp at hl
  | case2 => simp at hr
  | case3 left' right' rest ih =>
    cases j with
    | zero =>
      cases hl
      cases hr
      rfl
    | succ j => exact ih hl hr

theorem getElem?_separators_ofColumns {columns : List Column} {j : Nat} {left right : Column}
    (hl : (ofColumns config g columns).columns[j]? = some left)
    (hr : (ofColumns config g columns).columns[j + 1]? = some right) :
    (ofColumns config g columns).separators[j]? =
      some ((right.lsep <|> left.rsep).getD config.separator) := by
  simp only [ofColumns, List.getElem?_map, Option.map_eq_some_iff] at hl hr
  obtain ⟨left, hl, rfl⟩ := hl
  obtain ⟨right, hr, rfl⟩ := hr
  rw [lsep_fitColumn, rsep_fitColumn]
  exact getElem?_separatorsOf config.separator hl hr

/-- The text of a guideline: its character under the columns and the separators between them, or
its character all along the table. -/
def guidelineText (l : Layout) (separated : Bool) (c : Char) : Text :=
  if separated then
    (List.zipWith (fun column separator => List.replicate column.width c ++ separator) l.columns
      l.separators).flatten
  else List.replicate l.spans.sum c

/-- The text of the guideline with the given number: the one above the headings, the one below them
and the one at the bottom. There is none if its character is missing or a space or its text is
blank. -/
def guidelineTexts (l : Layout) (config : Config) (i : Nat) : List Text :=
  ((config.guidelines[i]?.filter (· ≠ ' ')).toList.map
    (l.guidelineText config.separatedGuidelines)).filter (·.any (!isWhite ·))

theorem toList_guideline (hs : l.HasSeparators) (i : Nat) :
    (l.guideline config.separatedGuidelines (config.guidelines[i]?.filter (· ≠ ' '))).toList =
      l.guidelineTexts config i := by
  unfold guidelineTexts
  cases config.guidelines[i]?.filter (· ≠ ' ') with
  | none => rfl
  | some c =>
    have htext : (if config.separatedGuidelines then
        (l.columns.zip l.separators).flatMap fun p => List.replicate p.1.width c ++ p.2
        else List.replicate l.tableWidth c) = l.guidelineText config.separatedGuidelines c := by
      rw [guidelineText, List.flatMap, ← List.map_uncurry_zip_eq_zipWith, tableWidth_eq hs]
      rfl
    have hblank (t : Text) : t.any (!isWhite ·) = !Text.isBlank t := by
      rw [Text.isBlank, List.not_all_eq_any_not]
    simp only [guideline, htext, hblank, Option.toList_some, List.map_singleton,
      List.filter_singleton, Option.bind_eq_bind, Option.bind_some]
    cases Text.isBlank (l.guidelineText config.separatedGuidelines c) <;> rfl

def guidelineRow (line : Text) : RenderedRow := ⟨.guideline, [line]⟩

def slotRow (l : Layout) (rule : Text) : RowSlot → RenderedRow
  | .data index => ⟨.data, joinBlocks (l.rowBlocks index) l.separators⟩
  | .rule => ⟨.rule, [rule]⟩

theorem plainRows_eq (hs : l.HasSeparators) (title : Text) :
    l.plainRows config title =
      titleRows config l.tableWidth title ++
        (l.guidelineTexts config 0).map guidelineRow ++
        (if l.ShowsHeadings then
          ⟨.heading, joinBlocks l.headingBlocks l.separators⟩ ::
            (l.guidelineTexts config 1).map guidelineRow
        else []) ++
        l.rows.map (l.slotRow ((l.guidelineTexts config 1).head?.getD [])) ++
        (l.guidelineTexts config 2).map guidelineRow := by
  simp only [← toList_guideline hs, Option.head?_toList, ← hasHeadings_iff]
  rfl

theorem kinds_slots (rule : Text) (k : Nat) (rows : List GridRow) :
    ((slots k rows).map (l.slotRow rule)).map RenderedRow.kind =
      rows.map fun row => if row.isData then .data else .rule := by
  induction rows generalizing k with
  | nil => rfl
  | cons row rows ih =>
    cases row with
    | cells _ => exact congrArg (RowKind.data :: ·) (ih (k + 1))
    | rule => exact congrArg (RowKind.rule :: ·) (ih k)

theorem contentRows_slots (rule : Text) (slots : List RowSlot) :
    contentRows (slots.map (l.slotRow rule)) = (slots.filterMap RowSlot.index?).map fun index =>
      ⟨.data, joinBlocks (l.rowBlocks index) l.separators⟩ := by
  induction slots with
  | nil => rfl
  | cons slot slots ih =>
    cases slot with
    | data index => exact congrArg (l.slotRow rule (.data index) :: ·) ih
    | rule => exact ih

theorem contentRows_guidelines (lines : List Text) : contentRows (lines.map guidelineRow) = [] := by
  simp [contentRows, guidelineRow, RowKind.isContent]

theorem contentRows_plainRows (hs : l.HasSeparators) (title : Text) :
    contentRows (l.plainRows config title) =
      l.contents.map fun p => ⟨p.1, joinBlocks p.2 l.separators⟩ := by
  rw [plainRows_eq hs]
  simp only [contentRows_append, contentRows_titleRows, contentRows_guidelines, contentRows_slots,
    List.nil_append, List.append_nil, contents, List.map_append, List.map_map]
  congr 1
  split
  · exact congrArg (_ :: ·) (contentRows_guidelines _)
  · rfl

theorem rowsOf_append (kind : RowKind) (rows rows' : List RenderedRow) :
    rowsOf kind (rows ++ rows') = rowsOf kind rows ++ rowsOf kind rows' := List.filter_append ..

theorem rowsOf_guideline_plainRows (hs : l.HasSeparators) (title : Text) :
    rowsOf .guideline (l.plainRows config title) =
      (l.guidelineTexts config 0 ++
        (if l.ShowsHeadings then l.guidelineTexts config 1 else []) ++
        l.guidelineTexts config 2).map guidelineRow := by
  have htitle : rowsOf .guideline (titleRows config l.tableWidth title) = [] := by
    unfold titleRows
    split <;> rfl
  have hslots (rule : Text) : rowsOf .guideline (l.rows.map (l.slotRow rule)) = [] := by
    refine List.filter_eq_nil_iff.mpr (List.forall_mem_map.mpr fun slot _ => ?_)
    cases slot <;> simp [slotRow]
  have hlines (lines : List Text) :
      rowsOf .guideline (lines.map guidelineRow) = lines.map guidelineRow :=
    List.filter_eq_self.mpr (List.forall_mem_map.mpr fun _ _ => rfl)
  rw [plainRows_eq hs]
  simp only [rowsOf_append, htitle, hslots, hlines, List.nil_append, List.append_nil,
    List.map_append]
  congr 2
  split
  · exact hlines _
  · rfl

theorem lines_of_mem_plainRows (hs : l.HasSeparators) {title : Text} {row : RenderedRow}
    (h : row ∈ l.plainRows config title) (hk : row.kind = .rule) :
    row.lines = [(l.guidelineTexts config 1).head?.getD []] := by
  have hguideline (lines : List Text) : row ∉ lines.map guidelineRow := by
    intro hr
    obtain ⟨line, -, rfl⟩ := List.mem_map.mp hr
    contradiction
  rw [plainRows_eq hs] at h
  simp only [List.mem_append, hguideline, or_false] at h
  rcases h with (h | h) | h
  · unfold titleRows at h
    split at h
    · contradiction
    · rw [List.mem_singleton.mp h] at hk
      contradiction
  · split at h
    · rcases List.mem_cons.mp h with rfl | h
      · contradiction
      · exact absurd h (hguideline _)
    · contradiction
  · obtain ⟨slot, -, rfl⟩ := List.mem_map.mp h
    cases slot with
    | data index => contradiction
    | rule => rfl

theorem isWhite_of_isPrintableAscii {c : Char} (h : isPrintableAscii c = true) (hc : c ≠ ' ') :
    isWhite c = false := by
  by_contra hw
  exact hc (Text.IsAscii.eq_space h (by simpa using hw))

theorem eq_replicate_of_mem_guidelineTexts (hsep : config.separatedGuidelines = false)
    (hg : Text.IsAscii config.guidelines) {i : Nat} {line : Text}
    (h : line ∈ l.guidelineTexts config i) :
    ∃ c ∈ config.guidelines, line.rdropWhile isWhite = List.replicate l.spans.sum c := by
  obtain ⟨c, hc, rfl⟩ := List.mem_map.mp (List.mem_of_mem_filter h)
  obtain ⟨hc, hspace⟩ := Option.filter_eq_some_iff.mp (Option.mem_toList.mp hc)
  have hmem := List.mem_of_getElem? hc
  have hwhite := isWhite_of_isPrintableAscii (hg c hmem) (by simpa using hspace)
  refine ⟨c, hmem, ?_⟩
  rw [guidelineText, hsep]
  exact Text.trimEnd_replicate _ hwhite

/-- The row shows some blocks side by side, behind an indent and without white space at the end. -/
def ShowsJoined (l : Layout) (indent : Text) (p : RowKind × List (List Text)) (row : RenderedRow) :
    Prop :=
  row.kind = p.1 ∧
    ∃ bodies, row.lines = bodies.map (indent ++ ·.rdropWhile isWhite) ∧ l.Joins p.2 bodies

/-- The rows of a plain table are its title, its guidelines and its contents in their order, and the
contents are aligned. -/
structure IsShownPlain (l : Layout) (config : Config) (g : Grid) (title : Text)
    (r : RenderedTable) : Prop where
  kinds : r.rows.map RenderedRow.kind =
    (if title = [] then [] else [.title]) ++
      (l.guidelineTexts config 0).map (fun _ => .guideline) ++
      (if l.ShowsHeadings then .heading :: (l.guidelineTexts config 1).map fun _ => .guideline
      else []) ++
      (g.rows.map fun row => if row.isData then .data else .rule) ++
      (l.guidelineTexts config 2).map fun _ => .guideline
  contents : List.Forall₂ (l.ShowsJoined config.indent) l.contents (contentRows r.rows)
  length_separators : l.separators.length = l.columns.length
  separators : ∀ j left right, l.columns[j]? = some left → l.columns[j + 1]? = some right →
    l.separators[j]? = some ((right.lsep <|> left.rsep).getD config.separator)
  last_separator : ∀ s ∈ l.separators.getLast?, s = []
  guidelines : (rowsOf .guideline r.rows).map RenderedRow.lines =
    (l.guidelineTexts config 0 ++ (if l.ShowsHeadings then l.guidelineTexts config 1 else []) ++
      l.guidelineTexts config 2).map fun line => [config.indent ++ line.rdropWhile isWhite]
  /-- A guideline that is not separated is as long as the table. -/
  unseparated : config.separatedGuidelines = false →
    ∀ row ∈ r.rows, row.kind = .guideline → ∃ c ∈ config.guidelines,
      row.lines = [config.indent ++ List.replicate l.spans.sum c]
  rules : ∀ row ∈ r.rows, row.kind = .rule → row.lines =
    [config.indent ++ ((l.guidelineTexts config 1).head?.getD []).rdropWhile isWhite]

section RenderPlain

variable (hs : l.HasSeparators) (title : Text)

theorem kinds_guidelines (lines : List Text) :
    (lines.map guidelineRow).map RenderedRow.kind = lines.map fun _ => .guideline := List.map_map

theorem kinds_finish (indent : Text) (rows : List RenderedRow) :
    (rows.map (.finish indent)).map RenderedRow.kind = rows.map RenderedRow.kind := List.map_map

include hs in
theorem kinds_renderPlain (h : l.rows = slots 0 g.rows) :
    (l.renderPlain config title).rows.map RenderedRow.kind =
      (if title = [] then [] else [.title]) ++
        (l.guidelineTexts config 0).map (fun _ => .guideline) ++
        (if l.ShowsHeadings then .heading :: (l.guidelineTexts config 1).map fun _ => .guideline
        else []) ++
        (g.rows.map fun row => if row.isData then .data else .rule) ++
        (l.guidelineTexts config 2).map fun _ => .guideline := by
  rw [renderPlain, kinds_finish, plainRows_eq hs, h]
  simp only [List.map_append, kinds_titleRows, kinds_slots, kinds_guidelines]
  congr 3
  split
  · exact congrArg (RowKind.heading :: ·) (kinds_guidelines _)
  · rfl

include hs in
theorem guidelines_renderPlain :
    (rowsOf .guideline (l.renderPlain config title).rows).map RenderedRow.lines =
      (l.guidelineTexts config 0 ++ (if l.ShowsHeadings then l.guidelineTexts config 1 else []) ++
        l.guidelineTexts config 2).map fun line => [config.indent ++ line.rdropWhile isWhite] := by
  rw [renderPlain, rowsOf_map_finish, rowsOf_guideline_plainRows hs, List.map_map, List.map_map]
  rfl

include hs in
theorem unseparated_renderPlain (hsep : config.separatedGuidelines = false)
    (hg : Text.IsAscii config.guidelines) {row : RenderedRow}
    (hrow : row ∈ (l.renderPlain config title).rows) (hk : row.kind = .guideline) :
    ∃ c ∈ config.guidelines, row.lines = [config.indent ++ List.replicate l.spans.sum c] := by
  have hmem : row.lines ∈
      (rowsOf .guideline (l.renderPlain config title).rows).map RenderedRow.lines :=
    List.mem_map_of_mem (List.mem_filter.mpr ⟨hrow, decide_eq_true hk⟩)
  rw [guidelines_renderPlain hs] at hmem
  obtain ⟨line, hline, hlines⟩ := List.mem_map.mp hmem
  obtain ⟨i, hi⟩ : ∃ i : Nat, line ∈ l.guidelineTexts config i := by
    rcases List.mem_append.mp hline with hline | hline
    · rcases List.mem_append.mp hline with hline | hline
      · exact ⟨0, hline⟩
      · split at hline
        · exact ⟨1, hline⟩
        · contradiction
    · exact ⟨2, hline⟩
  obtain ⟨c, hc, htrim⟩ := eq_replicate_of_mem_guidelineTexts hsep hg hi
  exact ⟨c, hc, by rw [← hlines, htrim]⟩

include hs in
theorem rules_renderPlain {row : RenderedRow}
    (hrow : row ∈ (l.renderPlain config title).rows) (hk : row.kind = .rule) : row.lines =
      [config.indent ++ ((l.guidelineTexts config 1).head?.getD []).rdropWhile isWhite] := by
  obtain ⟨row, hmem, rfl⟩ := List.mem_map.mp hrow
  rw [RenderedRow.finish, lines_of_mem_plainRows hs hmem hk, List.map_singleton]
  rfl

include hs in
theorem contents_renderPlain (hr : l.IsRegular config g natural)
    (hf : ∀ c ∈ l.columns, c.Filled) : List.Forall₂ (l.ShowsJoined config.indent) l.contents
      (contentRows (l.renderPlain config title).rows) := by
  rw [renderPlain, contentRows_map_finish, contentRows_plainRows hs, List.map_map,
    List.forall₂_map_right_iff, List.forall₂_same]
  exact fun p hp => ⟨rfl, _, rfl, joins_joinBlocks (fits_of_mem_contents hr hf p hp) hs⟩

end RenderPlain

end Layout

namespace Table

variable {t : Table} {g : Grid} {l : Layout}

/-- A plain table has a row for every row of the input, between guidelines, and its columns are
aligned. -/
theorem plain_isShownPlain (title : Text) (hm : t.config.moreMarker.IsAscii)
    (hg : t.config.guidelines.IsAscii) (hs : t.showsAscii g = true)
    (hl : t.layoutGrid g = .ok l) (hsep : ∀ s ∈ l.separators, Text.IsAscii s) :
    ∃ r, t.renderGrid g title .plain = .ok r ∧ l.IsShownPlain t.config g title r ∧
      l.rows.filterMap RowSlot.index? = List.range g.dataRows ∧
      ∀ c ∈ l.columns, c.cells.length = g.dataRows := by
  obtain ⟨natural, -, hregular⟩ := isRegular_layoutGrid hl
  have hfilled := filled_layoutGrid hl hs hm
  have hseparators : l.HasSeparators := ⟨hregular.length_separators, hsep⟩
  refine ⟨l.renderPlain t.config title, bind_eq_ok_iff.mpr ⟨l, hl, rfl⟩, ?_, rows_layoutGrid hl,
    hregular.length_cells⟩
  obtain ⟨f, columns, -, -, -, -, rfl⟩ := layoutGrid_eq_ok hl
  exact {
    kinds := Layout.kinds_renderPlain hseparators title rfl
    contents := Layout.contents_renderPlain hseparators title hregular hfilled
    length_separators := hregular.length_separators
    separators := fun j left right => Layout.getElem?_separators_ofColumns
    last_separator := hregular.last_separator
    guidelines := Layout.guidelines_renderPlain hseparators title
    unseparated := fun hunseparated row =>
      Layout.unseparated_renderPlain hseparators title hunseparated hg
    rules := fun row => Layout.rules_renderPlain hseparators title }

def ruledRows : List RenderedRow :=
  [⟨.title, ["   t".toList]⟩, ⟨.guideline, ["========".toList]⟩, ⟨.heading, ["a  |  b".toList]⟩,
    ⟨.guideline, ["--------".toList]⟩, ⟨.data, ["x  |  yz".toList]⟩, ⟨.rule, ["--------".toList]⟩,
    ⟨.guideline, ["~~~~~~~~".toList]⟩]

theorem ruledGrid_isShownPlain :
    ∃ l r, ({ config := { guidelines := "=-~".toList } } : Table).layoutGrid ruledGrid = .ok l ∧
      ({ config := { guidelines := "=-~".toList } } : Table).renderGrid ruledGrid ['t'] .plain =
        .ok r ∧
      r.rows = ruledRows ∧
      l.IsShownPlain { guidelines := "=-~".toList } ruledGrid ['t'] r := by
  obtain ⟨l, hl, hsep⟩ : ∃ l, ({ config := { guidelines := "=-~".toList } } : Table).layoutGrid
      ruledGrid = .ok l ∧ decide (∀ s ∈ l.separators, Text.IsAscii s) = true :=
    exists_ok_of_any (by decide +kernel)
  obtain ⟨r, hr, hshown, -⟩ := plain_isShownPlain ['t'] (by decide) (by decide)
    (by decide +kernel) hl (of_decide_eq_true hsep)
  obtain ⟨r', hr', hrows⟩ : ∃ r, ({ config := { guidelines := "=-~".toList } } : Table).renderGrid
      ruledGrid ['t'] .plain = .ok r ∧ decide (r.rows = ruledRows) = true :=
    exists_ok_of_any (by decide +kernel)
  cases hr.symm.trans hr'
  exact ⟨l, r, hl, hr, of_decide_eq_true hrows, hshown⟩

end Table

end TextTable
