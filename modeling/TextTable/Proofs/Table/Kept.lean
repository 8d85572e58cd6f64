import TextTable.Proofs.Table.Cap
import TextTable.Proofs.Text.Visible

/-! # Nothing is lost unseen

A cell that shows less than its text is marked as truncated. A cell without the mark shows the lines
of its text, or its words if they are wrapped.
-/

namespace TextTable

/-- The line with spaces on its two sides that make it `width` columns wide. -/
def Text.PaddedTo (width : Nat) (line padded : Text) : Prop :=
  ∃ left right, padded = spaces left ++ line ++ spaces right ∧ displayWidth padded = width

/-- The block shows the lines one below the other, and only blank lines around them. -/
def Block.Shows (width : Nat) (lines : List Text) (b : Block) : Prop :=
  ∃ padded, b.Encloses (spaces width) padded ∧ List.Forall₂ (Text.PaddedTo width) lines padded

namespace ColumnFormat

/-- The lines of a text in a column. They may be cut, but that leaves their number. -/
def flow (format : ColumnFormat) (t : Text) : List Text :=
  match format.width with
  | none => t.lines
  | some limit => if format.wrap then (Text.unlines t.lines).wrap limit true else t.lines

def Cuts (format : ColumnFormat) (t : Text) : Prop :=
  ∃ limit ∈ format.width, format.wrap = false ∧ ∃ line ∈ t.lines, limit < displayWidth line

end ColumnFormat

/-- What a layout keeps of the text of a cell, which is `before` until its row is brought to one
height. -/
structure Block.Keeps (config : Config) (format : ColumnFormat) (width : Nat) (t : Text)
    (before b : Block) : Prop where
  truncated_iff : b.truncated = true ↔ format.Cuts t ∨ config.Caps (format.flow t).length
  lines : b.truncated = false → format.wrap = false → b.Shows width t.lines
  words : b.truncated = false → format.wrap = true →
    Text.visible b.lines.flatten = Text.visible t
  capped : ∀ limit ∈ config.maxCellHeight, max 1 limit < (format.flow t).length →
    ∃ last, b.lines = before.lines.take (max 1 limit - 1) ++ [last] ∧
      config.moreMarker.take width <:+ last

namespace Block

variable {config : Config} {format : ColumnFormat} {b : Block} {t marker : Text}
  {width limit height : Nat}

theorem visible_replicate_spaces (n width : Nat) :
    Text.visible (List.replicate n (spaces width)).flatten = [] := by
  rw [Text.visible_join, List.map_replicate, Text.visible_spaces, List.flatten_replicate_nil]

theorem Encloses.visible {core : List Text} (h : b.Encloses (spaces width) core) :
    Text.visible b.lines.flatten = Text.visible core.flatten := by
  obtain ⟨above, below, hlines⟩ := h
  rw [hlines, List.flatten_append, List.flatten_append, Text.visible_append, Text.visible_append,
    visible_replicate_spaces, visible_replicate_spaces, List.nil_append, List.append_nil]

theorem visible_padWidth (b : Block) (width : Nat) :
    Text.visible (b.padWidth width).lines.flatten = Text.visible b.lines.flatten := by
  rw [Text.visible_join, Text.visible_join, padWidth, List.map_map]
  exact congrArg List.flatten (List.map_congr_left fun line _ => Text.visible_justify line _ _)

theorem Fills.forall₂_paddedTo (h : (b.padWidth width).Fills limit) :
    List.Forall₂ (Text.PaddedTo limit) b.lines (b.padWidth width).lines := by
  rw [padWidth, List.forall₂_map_right_iff, List.forall₂_same]
  intro line hl
  obtain ⟨left, right, hjustify⟩ := Text.exists_justify_eq line (max width b.width) b.align
  exact ⟨left, right, hjustify, h.displayWidth_eq (List.mem_map_of_mem hl)⟩

theorem suffix_markLine {line : Text} (hl : Text.IsAscii line) (hlength : line.length = width)
    (hm : Text.IsAscii marker) : marker.take width <:+ markLine width marker line := by
  have hmark := hm.take width
  have hkept := hl.take (width - (marker.take width).length)
  have hpad : width - displayWidth
      (line.take (width - (marker.take width).length) ++ marker.take width) = 0 := by
    rw [(Text.IsAscii.append_iff.mpr ⟨hkept, hmark⟩).displayWidth_eq]
    simp only [List.length_append, List.length_take, hlength]
    omega
  rw [markLine, hm.truncateToWidth_eq_take, hl.truncateToWidth_eq_take, hmark.displayWidth_eq,
    Text.padRight, hpad, spaces, List.replicate_zero, List.append_nil]
  exact List.suffix_append _ _

theorem exists_lines_cut (h : b.Fills width) (hm : Text.IsAscii marker) (h0 : 0 < height)
    (hlt : height < b.height) :
    ∃ last, (b.cut height width marker).lines = b.lines.take (height - 1) ++ [last] ∧
      marker.take width <:+ last := by
  have hne : b.lines.take height ≠ [] :=
    List.ne_nil_of_length_pos (by rw [List.length_take_of_le hlt.le]; exact h0)
  have hlast := h _ (List.mem_of_mem_take (List.getLast_mem hne))
  refine ⟨_, ?_, suffix_markLine hlast.1 hlast.2 hm⟩
  rw [cut, List.getLast?_eq_some_getLast hne, List.dropLast_take hlt]
  rfl

section FitCell

variable {a : Align}

open Column

theorem height_fitCell :
    (fitCell config format (ofText t a)).height = (format.flow t).length := by
  unfold fitCell ColumnFormat.flow
  cases format.width with
  | none => rfl
  | some limit =>
    dsimp only
    split
    · rfl
    · exact List.length_map _

theorem truncated_fitCell :
    (fitCell config format (ofText t a)).truncated = true ↔ format.Cuts t := by
  unfold fitCell ColumnFormat.Cuts
  split
  · next h => simp [h, ofText]
  · next limit h =>
    split
    · next hw => simp [h, hw, ofText]
    · next hw => simp [h, hw, ofText, truncateLines]

theorem lines_fitCell (hw : format.wrap = false) (hc : ¬ format.Cuts t) :
    (fitCell config format (ofText t a)).lines = t.lines := by
  unfold fitCell
  split
  · rfl
  · next limit h =>
    rw [if_neg (by simp [hw])]
    refine (List.map_congr_left fun line hl => ?_).trans (List.map_id t.lines)
    exact if_pos (Nat.not_lt.mp fun hlt => hc ⟨limit, h, hw, line, hl, hlt⟩)

theorem visible_fitCell (hw : format.wrap = true) :
    Text.visible (fitCell config format (ofText t a)).lines.flatten = Text.visible t := by
  unfold fitCell
  split
  · exact Text.visible_lines t
  · rw [if_pos hw, Text.visible_wrap, text, Text.visible_unlines]
    exact Text.visible_lines t

end FitCell

theorem height_padWidth : (b.padWidth width).height = b.height := List.length_map _

section Keeps

variable {a : Align} {natural : Nat} {before : Block}

theorem keeps_cut (hheight : before.height = (format.flow t).length) (hfills : before.Fills width)
    (hm : Text.IsAscii config.moreMarker) (hlimit : limit ∈ config.maxCellHeight)
    (hlt : max 1 limit < before.height) :
    Keeps config format width t before
      (before.cut (max 1 limit) width config.moreMarker) where
  truncated_iff := iff_of_true rfl (Or.inr ⟨limit, hlimit, hheight ▸ hlt⟩)
  lines := Bool.noConfusion
  words := Bool.noConfusion
  capped limit' hlimit' _ := by
    obtain rfl := Option.mem_unique hlimit hlimit'
    exact exists_lines_cut hfills hm (by omega) hlt

theorem keeps_padHeight
    (hbefore : before = (Column.fitCell config format (ofText t a)).padWidth limit)
    (hfills : before.Fills width) (hcaps : ¬ config.Caps (format.flow t).length)
    (valign : VAlign) :
    Keeps config format width t before (before.padHeight height width valign) := by
  have htruncated : before.truncated = true ↔ format.Cuts t := by
    rw [hbefore]
    exact truncated_fitCell
  have hencloses : (before.padHeight height width valign).Encloses (spaces width) before.lines :=
    encloses_padHeight valign
  constructor
  · exact htruncated.trans (or_iff_left hcaps).symm
  · intro ht hw
    have hcuts : ¬ format.Cuts t :=
      fun hc => Bool.false_ne_true (ht.symm.trans (htruncated.mpr hc))
    have hlines : (Column.fitCell config format (ofText t a)).lines = t.lines :=
      lines_fitCell hw hcuts
    refine ⟨_, hencloses, ?_⟩
    rw [← hlines, hbefore]
    exact (hbefore ▸ hfills).forall₂_paddedTo
  · intro _ hw
    rw [hencloses.visible, hbefore, visible_padWidth, visible_fitCell hw]
  · exact fun limit hlimit hlt => absurd ⟨limit, hlimit, hlt⟩ hcaps

theorem keeps_fitHeight
    (hbefore : before = (Column.fitCell config format (ofText t a)).padWidth limit)
    (hfills : before.Fills width) (hm : Text.IsAscii config.moreMarker)
    (hle : before.height ≤ natural) :
    Keeps config format width t before
      (before.fitHeight config (Layout.capHeight config natural) width) := by
  have hheight : before.height = (format.flow t).length := by
    rw [hbefore, height_padWidth, height_fitCell]
  by_cases hcaps : config.Caps before.height
  · obtain ⟨limit, hlimit, hlt⟩ := hcaps
    rw [fitHeight_of_caps hlimit hlt hle]
    exact keeps_cut hheight hfills hm hlimit hlt
  · rw [fitHeight_of_not_caps hcaps hle]
    exact keeps_padHeight hbefore hfills (hheight ▸ hcaps) _

end Keeps

end Block

/-- What a layout keeps of a column with the given heading and texts of cells, which is `natural`
until the rows are brought to one height. -/
structure Column.Keeps (config : Config) (format : ColumnFormat) (heading : Text)
    (texts : List Text) (natural c : Column) : Prop where
  /-- A heading that is not cut is shown without its alignment mark. -/
  heading : (∀ limit ∈ format.width, format.fixed = false) →
    ∃ mark text, heading = mark ++ text ∧ mark.length ≤ 1 ∧
      (∀ ch ∈ mark, (config.alignFor ch).isSome) ∧ c.heading.Shows c.width text.lines
  length_cells : c.cells.length = texts.length
  cells : ∀ (r : Nat) (text : Text), texts[r]? = some text →
    ∃ before b, natural.cells[r]? = some before ∧ c.cells[r]? = some b ∧
      Block.Keeps config format c.width text before b

theorem Config.exists_splitAlign (config : Config) (heading : Text) :
    ∃ mark, heading = mark ++ (config.splitAlign heading).2 ∧ mark.length ≤ 1 ∧
      ∀ ch ∈ mark, (config.alignFor ch).isSome := by
  unfold splitAlign
  split
  · exact ⟨[], rfl, Nat.zero_le 1, by simp⟩
  · split
    · next h => exact ⟨[_], rfl, Nat.le_refl 1, by simp [h]⟩
    · exact ⟨[], rfl, Nat.zero_le 1, by simp⟩

namespace Column

variable {config : Config} {format : ColumnFormat} {auto : Align} {heading : Text}
  {texts : List Text} {columns : List Column} {n : Nat}

theorem fitHeading_of_not_fixed (h : ∀ limit ∈ format.width, format.fixed = false) (b : Block) :
    fitHeading config format b = b := by
  unfold fitHeading
  split
  · rfl
  · next limit hlimit => rw [h limit hlimit, if_neg Bool.false_ne_true]

theorem heading_ofTexts (h : ∀ limit ∈ format.width, format.fixed = false) :
    ∃ a, (ofTexts config format auto heading texts).heading =
      (Block.ofText (config.splitAlign heading).2 a).padWidth
        (ofTexts config format auto heading texts).width :=
  ⟨_, congrArg (Block.padWidth _) (fitHeading_of_not_fixed h _)⟩

theorem getElem?_cells_ofTexts {r : Nat} {text : Text} {b : Block} (htext : texts[r]? = some text)
    (hb : (ofTexts config format auto heading texts).cells[r]? = some b) :
    b = (fitCell config format (.ofText text (format.align.getD auto))).padWidth
      (ofTexts config format auto heading texts).width := by
  change (List.map _ (List.map _ texts))[r]? = some b at hb
  rw [List.getElem?_map, List.getElem?_map, htext] at hb
  exact (Option.some.inj hb).symm

open Layout

theorem length_cells_fitColumn_ofTexts {c : Column}
    (hc : c = ofTexts config format auto heading texts) (hn : texts.length = n)
    (columns : List Column) (headingHeight : Nat) :
    (fitColumn config headingHeight ((List.range n).map (rowHeight config columns))
      c).cells.length = texts.length := by
  rw [length_cells_fitColumn, hc, (natural_ofTexts ..).length_cells, List.length_map,
    List.length_range, hn, Nat.min_self]

/-- The cell of a text is made within the width of the column and then brought to the height of its
row, which is no less than its own but for the height cap. -/
theorem exists_cell_fitColumn {c : Column} (hc : c = ofTexts config format auto heading texts)
    (hmem : c ∈ columns) (hn : texts.length = n) {headingHeight r : Nat} {text : Text}
    (htext : texts[r]? = some text) :
    ∃ before natural, c.cells[r]? = some before ∧
      before = (fitCell config format (.ofText text (format.align.getD auto))).padWidth c.width ∧
      before.height ≤ natural ∧
      (fitColumn config headingHeight ((List.range n).map (rowHeight config columns)) c).cells[r]? =
        some (before.fitHeight config (capHeight config natural) c.width) := by
  have hrule : c.verticalRule = false := by rw [hc]; rfl
  have hr : r < texts.length := (List.getElem?_eq_some_iff.mp htext).1
  have hget := List.getElem?_eq_getElem
    (hr.trans_eq (length_cells_fitColumn_ofTexts hc hn columns headingHeight).symm)
  obtain ⟨before, natural, hbefore, hle, hfit⟩ := exists_fitHeight hmem hrule hget
  refine ⟨before, natural, hbefore, ?_, hle, hfit ▸ hget⟩
  rw [hc] at hbefore ⊢
  exact getElem?_cells_ofTexts htext hbefore

theorem keeps_fitColumn {c : Column} (hc : c = ofTexts config format auto heading texts)
    (hmem : c ∈ columns) (hfilled : c.Filled) (hm : Text.IsAscii config.moreMarker)
    (hn : texts.length = n) {headingHeight : Nat} :
    Column.Keeps config format heading texts c
      (fitColumn config headingHeight ((List.range n).map (rowHeight config columns)) c) := by
  refine ⟨fun hfixed => ?_, length_cells_fitColumn_ofTexts hc hn _ _, fun r text htext => ?_⟩
  · obtain ⟨mark, hmark, hle, hchars⟩ := config.exists_splitAlign heading
    obtain ⟨a, hheading⟩ : ∃ a, c.heading =
        (Block.ofText (config.splitAlign heading).2 a).padWidth c.width := by
      rw [hc]
      exact heading_ofTexts hfixed
    have hrule : c.verticalRule = false := by rw [hc]; rfl
    have hfills := hfilled.heading
    rw [hheading] at hfills
    refine ⟨mark, _, hmark, hle, hchars, ?_⟩
    rw [width_fitColumn, heading_fitColumn, hrule, hheading]
    exact ⟨_, Block.encloses_padHeight _, hfills.forall₂_paddedTo⟩
  · obtain ⟨before, natural, hbefore, hmade, hle, hfit⟩ := exists_cell_fitColumn hc hmem hn htext
    refine ⟨before, _, hbefore, hfit, ?_⟩
    rw [width_fitColumn]
    exact Block.keeps_fitHeight hmade (hfilled.cells before (List.mem_of_getElem? hbefore)) hm hle

end Column

namespace Table

variable {t : Table} {g : Grid} {l : Layout}

/-- A layout shows all of a heading or of a cell, unless the heading has a fixed width or the cell
is marked as truncated. -/
theorem keeps_layoutGrid (hs : t.showsAscii g = true) (hm : Text.IsAscii t.config.moreMarker)
    (hl : t.layoutGrid g = .ok l) :
    ∃ f natural, t.formatter = .ok f ∧ t.naturalColumns g = .ok natural ∧
      ∀ i heading text, g.columns[i]? = some (.data heading text) →
        ∃ texts before c,
          f.texts (.resolve t.registry (.parse t.config text)) i (g.cellsOf i) = .ok texts ∧
          natural[i]? = some before ∧ l.columns[i]? = some c ∧
          Column.Keeps t.config (.resolve t.registry (.parse t.config text)) heading texts before
            c := by
  obtain ⟨f, columns, hf, hconfig, hcolumns, hnatural, rfl⟩ := layoutGrid_eq_ok hl
  refine ⟨f, columns, hf, hnatural, fun i heading text hcolumn => ?_⟩
  rw [showsAscii, hf] at hs
  rw [← hconfig] at hm ⊢
  obtain ⟨c, hc, hmade⟩ := exists_getElem?_of_mapM hcolumns
    (show g.columns.zipIdx[i]? = some (.data heading text, i) by simp [hcolumn])
  have hmem := List.mem_of_getElem? hc
  have hfilled := CellFormatter.filled_of_mem_columns hcolumns hs hm c hmem
  rcases CellFormatter.column_eq_ok hmade with ⟨hcolumn, -⟩ | ⟨_, _, texts, hdata, htexts, hmade⟩
  · contradiction
  · cases hdata
    refine ⟨texts, c, _, htexts, hc, Layout.getElem?_columns_ofColumns hc, ?_⟩
    refine Column.keeps_fitColumn hmade hmem hfilled hm ?_
    rw [CellFormatter.length_texts htexts, Grid.length_cellsOf]

def narrowGrid : Grid :=
  .ofRows [">a".toList, ['b'], ['c']] ["(width=5)".toList, "(width=5;wrap)".toList, []]
    [.cells [.string "abcdef".toList, .string "ab cd ef".toList, .string "x\ny\nz".toList]]

theorem narrowGrid_keeps :
    ∃ l, ({ config := { maxCellHeight := some 2 } } : Table).layoutGrid narrowGrid = .ok l ∧
      l.headingBlocks = [["    a".toList], ["b    ".toList], [['c']]] ∧
      l.rowBlocks 0 = [["ab...".toList, "     ".toList], ["ab cd".toList, "ef   ".toList],
        [['x'], ['.']]] ∧
      ∃ texts before c, l.columns[1]? = some c ∧
        Column.Keeps { maxCellHeight := some 2 }
          (.resolve {} (.parse { maxCellHeight := some 2 } "(width=5;wrap)".toList)) ['b'] texts
          before c := by
  obtain ⟨l, hl, h⟩ : ∃ l,
      ({ config := { maxCellHeight := some 2 } } : Table).layoutGrid narrowGrid = .ok l ∧
        decide (l.headingBlocks = [["    a".toList], ["b    ".toList], [['c']]] ∧
          l.rowBlocks 0 = [["ab...".toList, "     ".toList], ["ab cd".toList, "ef   ".toList],
            [['x'], ['.']]]) = true := exists_ok_of_any (by decide +kernel)
  obtain ⟨hheadings, hcells⟩ := of_decide_eq_true h
  obtain ⟨f, natural, -, -, hkeeps⟩ := keeps_layoutGrid (by decide +kernel) (by decide) hl
  obtain ⟨texts, before, c, -, -, hc, hkept⟩ := hkeeps 1 _ _ rfl
  exact ⟨l, hl, hheadings, hcells, texts, before, c, hc, hkept⟩

end Table

end TextTable
