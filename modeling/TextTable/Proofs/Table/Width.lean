import TextTable.Proofs.Table.Kept

/-! # The width policy

The width of a column follows from its widest heading line, the widest line of its texts and the
width option, and lines are cut or wrapped to that option before they are padded to the column. Only
the last line of a cell that is cut at the bottom can show more than the option allows, since its
marker stands at the right edge of the column.
-/

namespace TextTable

namespace Text

structure IsLongestFit (room : Nat) (line kept : Text) : Prop where
  isPrefix : kept <+: line
  fits : displayWidth kept ≤ room
  longest : ∀ other, other <+: line → displayWidth other ≤ room → other <+: kept

inductive CutTo (limit : Nat) (marker line : Text) : Text → Prop
  | whole : displayWidth line ≤ limit → CutTo limit marker line line
  /-- The marker leaves no room for the line and is cut itself. -/
  | marker (kept : Text) : limit < displayWidth line → limit ≤ displayWidth marker →
      IsLongestFit limit marker kept → displayWidth kept = limit → CutTo limit marker line kept
  | marked (kept : Text) : limit < displayWidth line → displayWidth marker < limit →
      IsLongestFit (limit - displayWidth marker) line kept →
      displayWidth (kept ++ marker) = limit → CutTo limit marker line (kept ++ marker)

variable {line marker : Text} {limit : Nat}

theorem IsAscii.isLongestFit_take (h : IsAscii line) (room : Nat) :
    IsLongestFit room line (line.take room) where
  isPrefix := List.take_prefix room line
  fits := by
    rw [(h.take room).displayWidth_eq, List.length_take]
    exact Nat.min_le_left _ _
  longest other hother hfits := by
    rw [(h.of_subset hother.subset).displayWidth_eq] at hfits
    rw [List.prefix_take_iff]
    exact ⟨hother, hfits⟩

theorem IsAscii.cutTo_truncateEnd (hl : IsAscii line) (hm : IsAscii marker) :
    CutTo limit marker line (line.truncateEnd limit marker) := by
  have hwidth : limit < displayWidth line →
      displayWidth (line.truncateEnd limit marker) = limit := by
    intro hlt
    rw [hl.displayWidth_eq] at hlt
    rw [(hl.truncateEnd hm).displayWidth_eq, hl.length_truncateEnd hm]
    exact Nat.min_eq_right hlt.le
  unfold Text.truncateEnd at hwidth ⊢
  split at hwidth
  · next hle => exact if_pos hle ▸ .whole hle
  · next hlt =>
    rw [if_neg hlt]
    rw [Nat.not_le] at hlt
    have hwidth := hwidth hlt
    rw [hm.truncateToWidth_eq_take, hl.truncateToWidth_eq_take] at hwidth ⊢
    split at hwidth
    · next hle =>
      rw [if_pos hle]
      exact .marker _ hlt hle (hm.isLongestFit_take limit) hwidth
    · next hroom =>
      rw [if_neg hroom]
      exact .marked _ hlt (Nat.not_le.mp hroom) (hl.isLongestFit_take _) hwidth

end Text

/-- The width that a column gets from its format, its widest heading line and its widest line of
text. -/
inductive ColumnFormat.GivesWidth (format : ColumnFormat) (heading data : Nat) : Nat → Prop
  | natural : format.width = none → GivesWidth format heading data (max heading data)
  | limited (limit : Nat) : format.width = some limit → format.fixed = false →
      format.wrap = false → GivesWidth format heading data (max heading (min data limit))
  | wrapped (limit width : Nat) : format.width = some limit → format.fixed = false →
      format.wrap = true → heading ≤ width → width ≤ max heading limit →
      GivesWidth format heading data width
  | fixed (limit : Nat) : format.width = some limit → format.fixed = true →
      GivesWidth format heading data limit

theorem foldr_max_map_min (ns : List Nat) (n : Nat) :
    (ns.map (min · n)).foldr max 0 = min (ns.foldr max 0) n := by
  induction ns with
  | nil => simp
  | cons m ns ih =>
    rw [List.map_cons, List.foldr_cons, List.foldr_cons, ih]
    omega

namespace Block

variable {b : Block} {marker : Text} {limit : Nat}

theorem IsAscii.width_truncateLines (h : b.IsAscii) (hm : Text.IsAscii marker) :
    (b.truncateLines limit marker).width = min b.width limit := by
  have hline : ∀ line ∈ b.lines,
      displayWidth (line.truncateEnd limit marker) = min (displayWidth line) limit := by
    intro line hl
    rw [((h line hl).truncateEnd hm).displayWidth_eq, (h line hl).length_truncateEnd hm,
      (h line hl).displayWidth_eq]
  calc (b.truncateLines limit marker).width
    _ = ((b.lines.map displayWidth).map (min · limit)).foldr max 0 := by
      rw [Block.width, blockWidth, Block.truncateLines, List.map_map, List.map_map]
      exact congrArg (List.foldr max 0) (List.map_congr_left hline)
    _ = min b.width limit := foldr_max_map_min _ _

end Block

namespace Column

variable {config : Config} {format : ColumnFormat} {auto : Align} {heading : Text}
  {texts : List Text}

/-- Without a fixed width the column is as wide as its heading and its cells. -/
theorem width_ofTexts (h : ∀ limit ∈ format.width, format.fixed = false) :
    (ofTexts config format auto heading texts).width =
      max (blockWidth (config.splitAlign heading).2.lines)
        (Grid.largest (texts.map fun t =>
          (fitCell config format (.ofText t (format.align.getD auto))).width)) := by
  have hwidth (h : Block) (cells : List Block) (hx : ∀ limit ∈ format.width, format.fixed = false) :
      widthOf format h cells = max h.width (Grid.largest (cells.map Block.width)) := by
    unfold widthOf
    cases hf : format.width with
    | none => rfl
    | some limit => exact if_neg (by rw [hx limit hf]; exact Bool.false_ne_true)
  refine (hwidth _ _ h).trans ?_
  rw [List.map_map]
  exact congrArg (fun b => max (Block.width b) _) (fitHeading_of_not_fixed h _)

theorem givesWidth_ofTexts (hm : Text.IsAscii config.moreMarker)
    (hw : ∀ limit ∈ format.width, 0 < limit) (ht : ∀ t ∈ texts, Text.isAsciiBlock t = true) :
    format.GivesWidth (blockWidth (config.splitAlign heading).2.lines)
      (Grid.largest (texts.map fun t => blockWidth t.lines))
      (ofTexts config format auto heading texts).width := by
  have hascii (t : Text) (htt : t ∈ texts) := Block.isAscii_ofText (ht t htt)
  cases hf : format.width with
  | none =>
    rw [width_ofTexts (by simp [hf])]
    have hcells : (texts.map fun t =>
        (fitCell config format (.ofText t (format.align.getD auto))).width) =
          texts.map fun t => blockWidth t.lines :=
      List.map_congr_left fun t _ => by rw [fitCell, hf]; rfl
    rw [hcells]
    exact .natural hf
  | some limit =>
    cases hx : format.fixed with
    | true =>
      have hwidth : (ofTexts config format auto heading texts).width = limit := by
        change widthOf format _ _ = limit
        rw [widthOf, hf]
        exact if_pos hx
      rw [hwidth]
      exact .fixed limit hf hx
    | false =>
      rw [width_ofTexts fun _ _ => hx]
      cases hwrap : format.wrap with
      | true =>
        have hle : Grid.largest (texts.map fun t =>
            (fitCell config format (.ofText t (format.align.getD auto))).width) ≤ limit :=
          Grid.largest_le_iff.mpr (List.forall_mem_map.mpr fun t htt =>
            (isAscii_fitCell (hascii t htt _) hm hw).2 limit hf)
        exact .wrapped limit _ hf hx hwrap (Nat.le_max_left _ _) (by omega)
      | false =>
        have hcells : (texts.map fun t =>
            (fitCell config format (.ofText t (format.align.getD auto))).width) =
              (texts.map fun t => blockWidth t.lines).map (min · limit) := by
          rw [List.map_map]
          refine List.map_congr_left fun t htt => ?_
          rw [fitCell, hf]
          dsimp only
          rw [if_neg (by simp [hwrap]), (hascii t htt _).width_truncateLines hm]
          rfl
        have hmin : Grid.largest ((texts.map fun t => blockWidth t.lines).map (min · limit)) =
            min (Grid.largest (texts.map fun t => blockWidth t.lines)) limit :=
          foldr_max_map_min _ _
        rw [hcells, hmin]
        exact .limited limit hf hx hwrap

end Column

/-- The lines of a text in a column, before they are padded. -/
structure ColumnFormat.Fits (format : ColumnFormat) (marker t : Text) (lines : List Text) :
    Prop where
  natural : format.width = none → lines = t.lines
  cut : ∀ limit ∈ format.width, format.wrap = false →
    List.Forall₂ (Text.CutTo limit marker) t.lines lines
  wrapped : ∀ limit ∈ format.width, format.wrap = true →
    lines = (Text.unlines t.lines).wrap limit true
  displayWidth_le : ∀ limit ∈ format.width, ∀ line ∈ lines, displayWidth line ≤ limit

/-- The block shows the lines, or those above the height cap and a line with the marker at the right
edge of the column. -/
structure Block.ShowsCapped (config : Config) (width : Nat) (lines : List Text) (b : Block) :
    Prop where
  whole : ¬ config.Caps lines.length → b.Shows width lines
  capped : ∀ limit ∈ config.maxCellHeight, max 1 limit < lines.length →
    ∃ padded last, b.lines = padded ++ [last] ∧
      List.Forall₂ (Text.PaddedTo width) (lines.take (max 1 limit - 1)) padded ∧
      config.moreMarker.take width <:+ last ∧ displayWidth last = width

namespace Block

variable {config : Config} {format : ColumnFormat} {t : Text} {b before : Block} {a : Align}
  {width limit natural : Nat}

theorem IsAscii.forall₂_cutTo (h : b.IsAscii) {marker : Text} (hm : Text.IsAscii marker) :
    List.Forall₂ (Text.CutTo limit marker) b.lines (b.truncateLines limit marker).lines := by
  rw [Block.truncateLines, List.forall₂_map_right_iff, List.forall₂_same]
  exact fun line hl => (h line hl).cutTo_truncateEnd hm

theorem fits_fitCell (hm : Text.IsAscii config.moreMarker) (hw : ∀ limit ∈ format.width, 0 < limit)
    (ht : Text.isAsciiBlock t = true) :
    format.Fits config.moreMarker t (Column.fitCell config format (ofText t a)).lines := by
  have hascii : (ofText t a).IsAscii := isAscii_ofText ht a
  refine ⟨fun hf => ?_, fun limit hf hwrap => ?_, fun limit hf hwrap => ?_, fun limit hf => ?_⟩
  · rw [Column.fitCell, hf]
    rfl
  · rw [Column.fitCell, hf]
    dsimp only
    rw [if_neg (by simp [hwrap])]
    exact hascii.forall₂_cutTo hm
  · rw [Column.fitCell, hf]
    dsimp only
    rw [if_pos hwrap]
    rfl
  · exact blockWidth_le_iff.mp ((Column.isAscii_fitCell hascii hm hw).2 limit hf)

theorem showsCapped_fitHeight (hbefore : before = b.padWidth limit) (hfills : before.Fills width)
    (hm : Text.IsAscii config.moreMarker) (hle : before.height ≤ natural) :
    (before.fitHeight config (Layout.capHeight config natural) width).ShowsCapped config width
      b.lines := by
  have hheight : before.height = b.lines.length := by rw [hbefore, height_padWidth]; rfl
  have hpadded : List.Forall₂ (Text.PaddedTo width) b.lines before.lines := by
    rw [hbefore]
    exact (hbefore ▸ hfills).forall₂_paddedTo
  constructor
  · intro hcaps
    rw [← hheight] at hcaps
    rw [fitHeight_of_not_caps hcaps hle]
    exact ⟨_, encloses_padHeight _, hpadded⟩
  · intro limit hlimit hlt
    rw [← hheight] at hlt
    rw [fitHeight_of_caps hlimit hlt hle]
    obtain ⟨last, hlines, hmarker⟩ := exists_lines_cut hfills hm (by omega) hlt
    refine ⟨_, last, hlines, List.forall₂_take _ hpadded, hmarker, ?_⟩
    exact (hfills.cut hm).displayWidth_eq (hlines ▸ List.mem_append_right _ List.mem_cons_self)

end Block

/-- What the width option of a column means for its width and for its lines, before they are
padded. -/
structure Column.FollowsWidth (config : Config) (format : ColumnFormat) (heading : Text)
    (texts : List Text) (c : Column) : Prop where
  width : format.GivesWidth (blockWidth heading.lines)
    (Grid.largest (texts.map fun t => blockWidth t.lines)) c.width
  /-- Only a fixed width cuts the heading. -/
  heading : ∃ lines, c.heading.Shows c.width lines ∧
    ((∀ limit ∈ format.width, format.fixed = false) → lines = heading.lines) ∧
    ∀ limit ∈ format.width, format.fixed = true →
      List.Forall₂ (Text.CutTo limit config.moreMarker) heading.lines lines ∧
      ∀ line ∈ lines, displayWidth line ≤ limit
  length_cells : c.cells.length = texts.length
  cells : ∀ (r : Nat) (t : Text), texts[r]? = some t → ∃ b lines, c.cells[r]? = some b ∧
    format.Fits config.moreMarker t lines ∧ b.ShowsCapped config c.width lines

namespace Column

variable {config : Config} {format : ColumnFormat} {auto : Align} {heading : Text}
  {texts : List Text} {columns : List Column} {n : Nat}

open Layout

theorem fitHeading_spec (hm : Text.IsAscii config.moreMarker) {b : Block} (hb : b.IsAscii) :
    ((∀ limit ∈ format.width, format.fixed = false) →
      (fitHeading config format b).lines = b.lines) ∧
    ∀ limit ∈ format.width, format.fixed = true →
      List.Forall₂ (Text.CutTo limit config.moreMarker) b.lines
          (fitHeading config format b).lines ∧
        ∀ line ∈ (fitHeading config format b).lines, displayWidth line ≤ limit := by
  refine ⟨fun h => congrArg Block.lines (fitHeading_of_not_fixed h b), fun limit hf hx => ⟨?_, ?_⟩⟩
  · rw [fitHeading, hf]
    dsimp only
    rw [if_pos hx]
    exact hb.forall₂_cutTo hm
  · exact blockWidth_le_iff.mp ((isAscii_fitHeading hb hm).2 limit hf hx)

theorem followsWidth_fitColumn {c : Column} (hc : c = ofTexts config format auto heading texts)
    (hmem : c ∈ columns) (hm : Text.IsAscii config.moreMarker) (hn : texts.length = n)
    (hw : ∀ limit ∈ format.width, 0 < limit) (hh : Text.isAsciiBlock heading = true)
    (ht : ∀ t ∈ texts, Text.isAsciiBlock t = true) {headingHeight : Nat} :
    Column.FollowsWidth config format (config.splitAlign heading).2 texts
      (fitColumn config headingHeight ((List.range n).map (rowHeight config columns)) c) := by
  have hfilled : c.Filled := hc ▸ filled_ofTexts hm hw hh ht
  refine ⟨?_, ?_, length_cells_fitColumn_ofTexts hc hn _ _, fun r t htr => ?_⟩
  · rw [width_fitColumn, hc]
    exact givesWidth_ofTexts hm hw ht
  · obtain ⟨a, hheading⟩ : ∃ a, c.heading =
        (fitHeading config format (.ofText (config.splitAlign heading).2 a)).padWidth c.width := by
      rw [hc]
      exact ⟨_, rfl⟩
    have hrule : c.verticalRule = false := by rw [hc]; rfl
    have hfills := hfilled.heading
    rw [hheading] at hfills
    refine ⟨_, ?_, fitHeading_spec hm (Block.isAscii_ofText (isAsciiBlock_splitAlign hh) a)⟩
    rw [width_fitColumn, heading_fitColumn, hrule, hheading]
    exact ⟨_, Block.encloses_padHeight _, hfills.forall₂_paddedTo⟩
  · obtain ⟨before, natural, hbefore, hmade, hle, hfit⟩ := exists_cell_fitColumn hc hmem hn htr
    refine ⟨_, (fitCell config format (.ofText t (format.align.getD auto))).lines, hfit,
      Block.fits_fitCell hm hw (ht t (List.mem_of_getElem? htr)), ?_⟩
    rw [width_fitColumn]
    exact Block.showsCapped_fitHeight hmade (hfilled.cells before (List.mem_of_getElem? hbefore)) hm
      hle

end Column

namespace Table

variable {t : Table} {g : Grid} {f : CellFormatter}

theorem exists_layoutGrid (hf : t.formatter = .ok f)
    (htexts : ∀ i heading text, g.columns[i]? = some (.data heading text) →
      ∃ texts, f.texts (.resolve t.registry (.parse t.config text)) i (g.cellsOf i) = .ok texts) :
    ∃ l, t.layoutGrid g = .ok l := by
  rw [← config_of_formatter hf] at htexts
  obtain ⟨columns, hcolumns⟩ : ∃ columns, f.columns t.registry g = .ok columns := by
    rw [CellFormatter.columns, exists_mapM_eq_ok_iff]
    rintro ⟨column, i⟩ hmem
    cases column with
    | verticalRule => exact ⟨_, rfl⟩
    | data heading text =>
      obtain ⟨texts, ht⟩ := htexts i heading text (List.mem_zipIdx_iff_getElem?.mp hmem)
      exact ⟨_, bind_eq_ok_iff.mpr ⟨texts, ht, rfl⟩⟩
  have hl : Layout.ofGrid f t.registry g = .ok (.ofColumns f.config g columns) := by
    rw [Layout.ofGrid_eq, map_eq_ok_iff]
    exact ⟨columns, hcolumns, rfl⟩
  exact ⟨_, bind_eq_ok_iff.mpr ⟨f, mapError_eq_ok_iff.mpr hf, mapError_eq_ok_iff.mpr hl⟩⟩

/-- A grid whose cells have texts has a layout. In it, a column of printable ASCII has the width
that its format gives it, and all its lines but the last one of a cell that is cut at the bottom
keep to the width option before they are padded. -/
theorem followsWidth_layoutGrid (hf : t.formatter = .ok f)
    (hm : Text.IsAscii t.config.moreMarker)
    (htexts : ∀ i heading text, g.columns[i]? = some (.data heading text) →
      ∃ texts, f.texts (.resolve t.registry (.parse t.config text)) i (g.cellsOf i) = .ok texts) :
    ∃ l, t.layoutGrid g = .ok l ∧
      ∀ i heading text texts, g.columns[i]? = some (.data heading text) →
        f.texts (.resolve t.registry (.parse t.config text)) i (g.cellsOf i) = .ok texts →
        Text.isAsciiBlock heading = true → (∀ s ∈ texts, Text.isAsciiBlock s = true) →
        ∃ c, l.columns[i]? = some c ∧
          Column.FollowsWidth t.config (.resolve t.registry (.parse t.config text))
            (t.config.splitAlign heading).2 texts c := by
  obtain ⟨l, hl⟩ := exists_layoutGrid hf htexts
  refine ⟨l, hl, fun i heading text texts hcolumn htexts hh ht => ?_⟩
  obtain ⟨f', columns, hf', hconfig, hcolumns, -, rfl⟩ := layoutGrid_eq_ok hl
  obtain rfl : f = f' := Except.ok.inj (hf.symm.trans hf')
  rw [← hconfig] at hm htexts ⊢
  obtain ⟨c, hc, hmade⟩ := exists_getElem?_of_mapM hcolumns
    (show g.columns.zipIdx[i]? = some (.data heading text, i) by simp [hcolumn])
  refine ⟨_, Layout.getElem?_columns_ofColumns hc, ?_⟩
  rcases CellFormatter.column_eq_ok hmade with ⟨hcolumn, -⟩ | ⟨_, _, texts', hdata, htexts', hmade⟩
  · contradiction
  · cases hdata
    obtain rfl : texts = texts' := Except.ok.inj (htexts.symm.trans htexts')
    refine Column.followsWidth_fitColumn hmade (List.mem_of_getElem? hc) hm ?_
      (ColumnFormat.width_resolve_pos _ _) hh ht
    rw [CellFormatter.length_texts htexts, Grid.length_cellsOf]

/-- A column with a width option. A line of the first cell is too wide, and the second cell is too
high. -/
def limitedGrid : Grid :=
  .ofRows ["a heading".toList] ["(width=5)".toList]
    [.cells [.string "abcdef\ng".toList], .cells [.string "x\ny\nz".toList]]

def cappedTable : Table where
  config := { maxCellHeight := some 2 }

theorem limitedGrid_followsWidth :
    ∃ l, cappedTable.layoutGrid limitedGrid = .ok l ∧
      l.widths = [9] ∧ l.rowBlocks 0 = [["ab...    ".toList, "g        ".toList]] ∧
      l.rowBlocks 1 = [["x        ".toList, "y     ...".toList]] ∧
      ∃ texts c, l.columns[0]? = some c ∧
        Column.FollowsWidth cappedTable.config
          (.resolve cappedTable.registry (.parse cappedTable.config "(width=5)".toList))
          "a heading".toList texts c := by
  obtain ⟨l, hl, h⟩ : ∃ l, cappedTable.layoutGrid limitedGrid = .ok l ∧
        decide (l.widths = [9] ∧ l.rowBlocks 0 = [["ab...    ".toList, "g        ".toList]] ∧
          l.rowBlocks 1 = [["x        ".toList, "y     ...".toList]]) = true :=
    exists_ok_of_any (by decide +kernel)
  obtain ⟨hwidths, hfirst, hsecond⟩ := of_decide_eq_true h
  let f : CellFormatter :=
    { config := cappedTable.config, defaultFunction := .builtin .format, handler := none }
  have hf : cappedTable.formatter = .ok f := rfl
  obtain ⟨texts, htexts, hascii⟩ : ∃ texts,
      f.texts (.resolve cappedTable.registry (.parse cappedTable.config "(width=5)".toList)) 0
        (limitedGrid.cellsOf 0) = .ok texts ∧ texts.all Text.isAsciiBlock = true :=
    exists_ok_of_any (by decide +kernel)
  have hall : ∀ i heading text, limitedGrid.columns[i]? = some (.data heading text) →
      ∃ texts, f.texts (.resolve cappedTable.registry (.parse cappedTable.config text)) i
        (limitedGrid.cellsOf i) = .ok texts
    | 0, _, _, rfl => ⟨texts, htexts⟩
  obtain ⟨l', hl', hfollows⟩ := followsWidth_layoutGrid hf (by decide) hall
  obtain rfl : l = l' := Except.ok.inj (hl.symm.trans hl')
  obtain ⟨c, hc, hfollows⟩ := hfollows 0 _ _ texts rfl htexts (by decide)
    (List.all_eq_true.mp hascii)
  exact ⟨l, hl, hwidths, hfirst, hsecond, texts, c, hc, hfollows⟩

/-- The marker of a cell that is cut at the bottom stands at the right edge of the column, which the
heading makes wider than the width option. -/
theorem limitedGrid_marker :
    (ColumnFormat.resolve cappedTable.registry
        (.parse cappedTable.config "(width=5)".toList)).width = some 5 ∧
      ∃ l, cappedTable.layoutGrid limitedGrid = .ok l ∧
        l.rowBlocks 1 = [["x        ".toList, "y     ...".toList]] ∧
        ∀ width line, Text.PaddedTo width line "y     ...".toList → 5 < displayWidth line := by
  obtain ⟨l, hl, h⟩ : ∃ l, cappedTable.layoutGrid limitedGrid = .ok l ∧
      decide (l.rowBlocks 1 = [["x        ".toList, "y     ...".toList]]) = true :=
    exists_ok_of_any (by decide +kernel)
  refine ⟨by decide +kernel, l, hl, of_decide_eq_true h, ?_⟩
  rintro width line ⟨left, right, heq, -⟩
  -- The line starts and ends with characters that are no spaces, so nothing is padding.
  have hleft : left = 0 := by
    cases left with
    | zero => rfl
    | succ n => exact absurd (List.cons.inj heq).1 (by decide)
  have hright : right = 0 := by
    have hlast := congrArg List.getLast? heq
    cases right with
    | zero => rfl
    | succ n =>
      rw [spaces, spaces, List.replicate_succ', ← List.append_assoc, List.getLast?_concat] at hlast
      exact absurd hlast (by decide)
  rw [hleft, hright] at heq
  have hline : "y     ...".toList = line := heq.trans (List.append_nil line)
  rw [← hline]
  decide

end Table

end TextTable
