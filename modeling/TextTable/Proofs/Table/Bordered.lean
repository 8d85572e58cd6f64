import TextTable.Proofs.Table.Borders

/-! # Bordered tables are grids of cells

A bordered table shows its layout in a frame: all lines are equally long, the posts stand below each
other, and what stands between them are the cells. This is so exactly if the sums that measure the
frame fit a machine word.
-/

namespace TextTable

theorem RenderedRow.finish_eq {indent : Text} {row : RenderedRow}
    (h : ∀ line ∈ row.lines, line.trimEnd = line) :
    row.finish indent = ⟨row.kind, row.lines.map (indent ++ ·)⟩ := by
  rw [finish]
  congr 1
  exact List.map_congr_left fun line hl => congrArg (indent ++ ·) (h line hl)

namespace Frame

theorem trimEnd_border (f : Frame) (h : isWhite f.glyphs.corner = false) (glyph : Char) :
    (f.border glyph).trimEnd = f.border glyph := by
  rw [border_eq, trimEnd_posted h]

theorem trimEnd_of_mem_content (f : Frame) (h : isWhite f.glyphs.side = false)
    (blocks : List (List Text)) : ∀ line ∈ f.content blocks, line.trimEnd = line := by
  intro line hl
  obtain ⟨i, -, rfl⟩ := List.mem_map.mp hl
  rw [contentLine_eq, trimEnd_posted h]

end Frame

namespace Layout

open BorderState

variable {l : Layout} {f : Frame} {g inner : Grid} {config : Config} {natural : List Column}

/-- The row shows some blocks in the frame, behind an indent. -/
def ShowsIn (f : Frame) (indent : Text) (p : RowKind × List (List Text)) (row : RenderedRow) :
    Prop :=
  row.kind = p.1 ∧ ∃ bodies, row.lines = bodies.map (indent ++ ·) ∧ f.Surrounds p.2 bodies

/-- The lines of a bordered table, apart from its title, all have the length of the frame, and the
rows between the borders show the headings and the data rows in their order. -/
structure IsShownFramed (l : Layout) (config : Config) (r : RenderedTable) : Prop where
  length_eq : ∀ row ∈ r.rows, row.kind ≠ .title → ∀ line ∈ row.lines,
    ∃ body, line = config.indent ++ body ∧ body.length =
      (l.columns.map Column.width).sum + 2 * config.hmargin * l.columns.length +
        l.columns.length + 1
  borders : ∀ row ∈ r.rows, row.kind.isBorder = true →
    ∃ glyph ∈ [config.glyphAt 0, config.glyphAt 1, config.glyphAt 4],
      ∃ body, row.lines = [config.indent ++ body] ∧ (l.frameSpec config).IsBorder glyph body
  contents :
    List.Forall₂ (ShowsIn (l.frameSpec config) config.indent) l.contents (contentRows r.rows)

/-- The number of lines of every block with its margins fits a machine word, and where a border is
drawn, so does the width of every column with its margins. -/
structure MeasuresFit (l : Layout) (config : Config) : Prop where
  heights : ∀ p ∈ l.contents, ∀ block ∈ p.2, 2 * config.vmargin + block.length < 2 ^ 64
  widths : l.ShowsHeadings ∨ l.rows ≠ [] →
    ∀ c ∈ l.columns, c.width + 2 * config.hmargin < 2 ^ 64

instance (l : Layout) (config : Config) : Decidable (l.MeasuresFit config) :=
  decidable_of_iff
    ((∀ p ∈ l.contents, ∀ block ∈ p.2, 2 * config.vmargin + block.length < 2 ^ 64) ∧
      (l.ShowsHeadings ∨ l.rows ≠ [] →
        ∀ c ∈ l.columns, c.width + 2 * config.hmargin < 2 ^ 64))
    ⟨fun h => ⟨h.1, h.2⟩, fun h => ⟨h.heights, h.widths⟩⟩

section ShownRows

variable (hrows : l.rows = slots 0 g.rows)

include hrows in
theorem exists_border_of_mem_shownRows {row : RenderedRow} (h : row ∈ l.shownRows f)
    (hk : row.kind.isBorder = true) :
    ∃ glyph ∈ [f.glyphs.top, f.glyphs.bottom, f.glyphs.divider], row.lines = [f.border glyph] := by
  unfold shownRows at h
  split at h
  · contradiction
  · rcases Alternation.mem_rows.mp h with hb | hc
    · obtain ⟨glyph, hglyph, run, rfl⟩ := exists_borderAt hrows row hb
      refine ⟨_, ?_, lines_borderAt glyph run⟩
      split
      · exact hglyph
      · simp
    · rcases kind_of_mem_contents_alternation row hc with hkind | hkind
      all_goals
        rw [hkind] at hk
        contradiction

include hrows in
theorem contentRows_shownRows :
    contentRows (l.shownRows f) = l.contents.map fun p => ⟨p.1, f.content p.2⟩ := by
  unfold shownRows
  split
  · next h =>
    rw [contents, if_neg h.1, h.2]
    rfl
  · rw [← contents_alternation]
    refine Alternation.contentRows_rows (fun row hb => ?_) fun row hc => ?_
    · obtain ⟨glyph, -, run, rfl⟩ := exists_borderAt hrows row hb
      cases run <;> rfl
    · rcases kind_of_mem_contents_alternation row hc with hkind | hkind <;> rw [hkind] <;> rfl

include hrows in
theorem exists_border_shownRows_iff :
    (∃ row ∈ l.shownRows f, row.kind.isBorder = true) ↔ l.ShowsHeadings ∨ l.rows ≠ [] := by
  constructor
  · rintro ⟨row, hrow, -⟩
    by_contra h
    rw [not_or, not_not] at h
    rw [shownRows, if_pos h] at hrow
    contradiction
  · intro h
    have hb : (l.alternation f).first ∈ (l.alternation f).borders := List.mem_cons_self
    refine ⟨(l.alternation f).first, ?_, ?_⟩
    · rw [shownRows, if_neg (by rwa [not_and_or, not_not])]
      exact Alternation.mem_rows.mpr (.inl hb)
    · obtain ⟨glyph, -, run, hrun⟩ := exists_borderAt hrows _ hb
      rw [hrun]
      cases run <;> rfl

end ShownRows

section RenderBordered

variable (hne : l.columns ≠ []) (hrows : l.rows = slots 0 g.rows)
  (hr : l.IsRegular config inner natural) (hf : ∀ c ∈ l.columns, c.Filled)
  (hside : isWhite (config.glyphAt 2) = false) (hcorner : isWhite (config.glyphAt 3) = false)
  (title : Text)

include hne in
/-- Titles are no borders. -/
theorem exists_of_border_mem {row : RenderedRow}
    (hrow : row ∈ (l.renderBordered config title).rows) (hk : row.kind.isBorder = true) :
    ∃ row' ∈ l.shownRows (l.frameSpec config), row = row'.finish config.indent := by
  rw [rows_renderBordered hne, List.mem_append] at hrow
  rcases hrow with hrow | hrow
  · obtain ⟨row, htitle, rfl⟩ := List.mem_map.mp hrow
    rw [RenderedRow.finish, kind_titleRows config _ title row htitle] at hk
    contradiction
  · obtain ⟨row, hmem, rfl⟩ := List.mem_map.mp hrow
    exact ⟨row, hmem, rfl⟩

include hne hrows hcorner in
theorem exists_border_of_mem_renderBordered {row : RenderedRow}
    (hrow : row ∈ (l.renderBordered config title).rows) (hk : row.kind.isBorder = true) :
    ∃ glyph ∈ [config.glyphAt 0, config.glyphAt 1, config.glyphAt 4],
      row.lines = [config.indent ++ (l.frameSpec config).border glyph] := by
  obtain ⟨row, hmem, rfl⟩ := exists_of_border_mem hne title hrow hk
  obtain ⟨glyph, hglyph, hlines⟩ := exists_border_of_mem_shownRows hrows hmem hk
  refine ⟨glyph, hglyph, ?_⟩
  rw [RenderedRow.finish, hlines, List.map_singleton, (l.frameSpec config).trimEnd_border hcorner]

include hne hrows hside in
theorem contentRows_renderBordered :
    contentRows (l.renderBordered config title).rows = l.contents.map fun p =>
      ⟨p.1, ((l.frameSpec config).content p.2).map (config.indent ++ ·)⟩ := by
  rw [rows_renderBordered hne, contentRows_append, contentRows_map_finish, contentRows_map_finish,
    contentRows_titleRows, contentRows_shownRows hrows, List.map_map]
  exact List.map_congr_left fun p _ =>
    RenderedRow.finish_eq ((l.frameSpec config).trimEnd_of_mem_content hside p.2)

include hne hrows in
theorem exists_border_renderBordered (h : l.ShowsHeadings ∨ l.rows ≠ []) :
    ∃ row ∈ (l.renderBordered config title).rows, row.kind.isBorder = true := by
  obtain ⟨row, hrow, hk⟩ :=
    (exists_border_shownRows_iff (f := l.frameSpec config) hrows).mpr h
  refine ⟨row.finish config.indent, ?_, hk⟩
  rw [rows_renderBordered hne]
  exact List.mem_append_right _ (List.mem_map_of_mem hrow)

include hne hr in
theorem exists_block_of_mem_contents {p : RowKind × List (List Text)} (hp : p ∈ l.contents) :
    ∃ width block, (l.frameSpec config).widths[0]? = some width ∧ p.2[0]? = some block ∧
      block.length = blocksHeight p.2 := by
  have hcolumns := List.length_pos_of_ne_nil hne
  have hblocks := hcolumns.trans_eq (length_of_mem_contents hr hp).symm
  refine ⟨l.columns[0].width, p.2[0], ?_, List.getElem?_eq_getElem hblocks,
    height_of_mem_contents hr hp _ (List.getElem_mem hblocks)⟩
  rw [frameSpec, List.getElem?_map, List.getElem?_eq_getElem hcolumns]
  rfl

include hne hrows hcorner in
theorem isBorder_of_mem_renderBordered (hm : l.MeasuresFit config) {row : RenderedRow}
    (hrow : row ∈ (l.renderBordered config title).rows) (hk : row.kind.isBorder = true) :
    ∃ glyph ∈ [config.glyphAt 0, config.glyphAt 1, config.glyphAt 4],
      ∃ body, row.lines = [config.indent ++ body] ∧ (l.frameSpec config).IsBorder glyph body := by
  obtain ⟨glyph, hglyph, hlines⟩ :=
    exists_border_of_mem_renderBordered hne hrows hcorner title hrow hk
  have hshows : l.ShowsHeadings ∨ l.rows ≠ [] := by
    obtain ⟨row', hrow', rfl⟩ := exists_of_border_mem hne title hrow hk
    exact (exists_border_shownRows_iff hrows).mp ⟨row', hrow', hk⟩
  refine ⟨glyph, hglyph, _, hlines, Frame.isBorder_border ?_ glyph⟩
  exact List.forall_mem_map.mpr (hm.widths hshows)

include hne hr hf in
theorem surrounds_of_mem_contents (hm : l.MeasuresFit config) {p : RowKind × List (List Text)}
    (hp : p ∈ l.contents) :
    (l.frameSpec config).Surrounds p.2 ((l.frameSpec config).content p.2) := by
  obtain ⟨width, block, -, hblock, hheight⟩ := exists_block_of_mem_contents hne hr hp
  refine Frame.surrounds_content (fits_of_mem_contents hr hf p hp) ?_
  rw [← hheight]
  exact hm.heights p hp block (List.mem_of_getElem? hblock)

theorem length_of_hasPosts {post : Char} {body : Text}
    (h : (l.frameSpec config).HasPosts post body) : body.length =
      (l.columns.map Column.width).sum + 2 * config.hmargin * l.columns.length +
        l.columns.length + 1 := by
  simpa [frameSpec] using h.length_eq

include hne hrows hr hf hside hcorner in
theorem isShownFramed_of_measuresFit (hm : l.MeasuresFit config) :
    l.IsShownFramed config (l.renderBordered config title) := by
  have hcontents := contentRows_renderBordered hne hrows hside title
  refine ⟨fun row hrow hk line hl => ?_,
    fun row => isBorder_of_mem_renderBordered hne hrows hcorner title hm, ?_⟩
  · by_cases hb : row.kind.isBorder
    · obtain ⟨glyph, -, body, hlines, hbody⟩ :=
        isBorder_of_mem_renderBordered hne hrows hcorner title hm hrow hb
      rw [hlines] at hl
      exact ⟨body, List.mem_singleton.mp hl, length_of_hasPosts hbody.toHasPosts⟩
    -- A row that is neither the title nor a border is a row of contents.
    · have hc : row ∈ contentRows (l.renderBordered config title).rows := by
        refine List.mem_filter.mpr ⟨hrow, ?_⟩
        cases h : row.kind <;> simp_all [RowKind.isBorder, RowKind.isContent]
      rw [hcontents] at hc
      obtain ⟨p, hp, rfl⟩ := List.mem_map.mp hc
      obtain ⟨body, hbody, rfl⟩ := List.mem_map.mp hl
      have hposts := (surrounds_of_mem_contents hne hr hf hm hp).posts body hbody
      exact ⟨body, rfl, length_of_hasPosts hposts⟩
  · rw [hcontents, List.forall₂_map_right_iff, List.forall₂_same]
    exact fun p hp => ⟨rfl, _, rfl, surrounds_of_mem_contents hne hr hf hm hp⟩

include hne hrows hr hside hcorner in
theorem measuresFit_of_isShownFramed
    (h : l.IsShownFramed config (l.renderBordered config title)) : l.MeasuresFit config := by
  constructor
  case heights =>
    intro p hp block hb
    have hcontents := h.contents
    rw [contentRows_renderBordered hne hrows hside, List.forall₂_map_right_iff,
      List.forall₂_same] at hcontents
    obtain ⟨-, bodies, hlines, hsurrounds⟩ := hcontents p hp
    obtain ⟨width, first, hwidth, hfirst, hheight⟩ :=
      exists_block_of_mem_contents hne hr hp
    -- All lines of the block are there, so none of them was lost.
    have hlength : toSize (2 * config.vmargin + blocksHeight p.2) =
        2 * config.vmargin + blocksHeight p.2 := by
      have hbodies := hsurrounds.length_eq hwidth hfirst
      rw [hheight] at hbodies
      simpa [Frame.content, frameSpec, hbodies] using congrArg List.length hlines
    rw [height_of_mem_contents hr hp block hb]
    exact toSize_eq_self_iff.mp hlength
  case widths =>
    intro hshows
    obtain ⟨row, hrow, hk⟩ := exists_border_renderBordered hne hrows title hshows
    obtain ⟨glyph, -, body, hlines, hbody⟩ := h.borders row hrow hk
    obtain ⟨glyph', -, hlines'⟩ :=
      exists_border_of_mem_renderBordered hne hrows hcorner title hrow hk
    obtain rfl : body = (l.frameSpec config).border glyph' := by
      simpa [hlines'] using hlines.symm
    exact List.forall_mem_map.mp (Frame.fits_of_length_border hbody.length_eq)

end RenderBordered

end Layout

namespace Table

variable {t : Table} {g : Grid} {l : Layout}

def ruledLines : List (List Text) :=
  [["+---+----+".toList],
    ["|   |    |".toList, "| a | b  |".toList, "|   |    |".toList],
    ["+===+====+".toList],
    ["|   |    |".toList, "| x | yz |".toList, "|   |    |".toList],
    ["+===+====+".toList]]

end Table

end TextTable
