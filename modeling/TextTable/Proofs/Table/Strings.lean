import TextTable.Proofs.Table.Width
import TextTable.Proofs.Text.Stripped

/-! # Texts of cells without padding

On request the texts of headings and cells come without the white space around them. What is left of
a cell that is neither cut nor wrapped are its lines, and the padding between them.
-/

namespace TextTable

def ColumnFormat.Wraps (format : ColumnFormat) (t : Text) : Prop :=
  ∃ limit ∈ format.width, format.wrap = true ∧
    Text.wrap (Text.unlines t.lines) limit true ≠ t.lines

/-- The string is the text of some lines that are padded to the width of a column, or of the widest
line, without the white space around it. -/
structure IsStripped (width : Nat) (a : Align) (lines : List Text) (string : Text) : Prop where
  eq : string = Text.joinPadded (max width (blockWidth lines)) a lines
  /-- Only lines that leave no padding between them come without it. -/
  eq_unlines_iff : string = Text.unlines lines ↔
    Text.IsTight (max width (blockWidth lines)) a lines

namespace Block

variable {config : Config} {format : ColumnFormat} {b : Block} {lines : List Text} {t : Text}
  {a : Align} {width limit : Nat} {marker : Text}

theorem lines_truncateLines (h : b.width ≤ limit) :
    (b.truncateLines limit marker).lines = b.lines :=
  (List.map_congr_left fun line hl => if_pos (blockWidth_le_iff.mp h line hl)).trans
    (List.map_id b.lines)

theorem lines_fitCell_of_not_wraps (hwraps : ¬ format.Wraps t) (hcuts : ¬ format.Cuts t) :
    (Column.fitCell config format (.ofText t a)).lines = t.lines := by
  cases hw : format.wrap with
  | false => exact lines_fitCell hw hcuts
  | true =>
    unfold Column.fitCell
    split
    · rfl
    · next limit hf =>
      rw [if_pos hw]
      by_contra hne
      exact hwraps ⟨limit, hf, hw, hne⟩

/-- A block that is padded to the width of its column and to the height of its row. -/
theorem isStripped_padHeight (hlines : b.lines = lines) (hne : lines ≠ [])
    (hbare : ∀ line ∈ lines, Text.IsBare line) (width height padWidth : Nat) (valign : VAlign) :
    IsStripped width b.align lines
      (Table.cellString true ((b.padWidth width).padHeight height padWidth valign)) := by
  subst hlines
  have heq : Table.cellString true ((b.padWidth width).padHeight height padWidth valign) =
      Text.joinPadded (max width (blockWidth b.lines)) b.align b.lines := by
    rw [Table.cellString, if_pos rfl]
    exact Text.trim_unlines_justify hne hbare (Text.isBlank_spaces padWidth) _ _
  exact ⟨heq, heq ▸ Text.joinPadded_eq_unlines_iff⟩

end Block

namespace Column

variable {config : Config} {format : ColumnFormat} {auto : Align} {heading t : Text}
  {texts : List Text} {columns : List Column} {b : Block} {n : Nat}

open Layout

theorem lines_fitHeading
    (h : ∀ limit ∈ format.width, format.fixed = true → b.width ≤ limit) :
    (fitHeading config format b).lines = b.lines := by
  unfold fitHeading
  cases hf : format.width with
  | none => rfl
  | some limit =>
    dsimp only
    split
    · next hx => exact Block.lines_truncateLines (h limit hf hx)
    · rfl

theorem align_fitCell : (fitCell config format b).align = b.align := by
  unfold fitCell
  split
  · rfl
  · split <;> rfl

theorem isStripped_heading {c : Column} (hc : c = ofTexts config format auto heading texts)
    (hfits : ∀ limit ∈ format.width, format.fixed = true →
      ∀ line ∈ (config.splitAlign heading).2.lines, displayWidth line ≤ limit)
    (hbare : ∀ line ∈ (config.splitAlign heading).2.lines, Text.IsBare line)
    (headingHeight : Nat) (heights : List Nat) :
    IsStripped c.width (fitColumn config headingHeight heights c).heading.align
      (config.splitAlign heading).2.lines
      (Table.cellString true (fitColumn config headingHeight heights c).heading) := by
  obtain ⟨a, hheading⟩ : ∃ a, c.heading =
      (fitHeading config format (.ofText (config.splitAlign heading).2 a)).padWidth c.width := by
    rw [hc]
    exact ⟨_, rfl⟩
  have hrule : c.verticalRule = false := by rw [hc]; rfl
  have hlines : (fitHeading config format (.ofText (config.splitAlign heading).2 a)).lines =
      (config.splitAlign heading).2.lines :=
    lines_fitHeading fun limit hf hx => blockWidth_le_iff.mpr (hfits limit hf hx)
  rw [heading_fitColumn, hrule, if_neg Bool.false_ne_true, hheading]
  exact Block.isStripped_padHeight hlines (Text.lines_ne_nil _) hbare _ _ _ _

theorem isStripped_cell {c : Column} (hc : c = ofTexts config format auto heading texts)
    (hmem : c ∈ columns) (hn : texts.length = n) {headingHeight r : Nat} (ht : texts[r]? = some t)
    (hwraps : ¬ format.Wraps t) (hcuts : ¬ format.Cuts t) (hcaps : ¬ config.Caps t.lines.length)
    (hbare : ∀ line ∈ t.lines, Text.IsBare line) :
    ∃ b, (fitColumn config headingHeight
        ((List.range n).map (rowHeight config columns)) c).cells[r]? = some b ∧
      IsStripped c.width c.align t.lines (Table.cellString true b) := by
  obtain ⟨before, natural, -, hmade, hnatural, hfit⟩ := exists_cell_fitColumn hc hmem hn ht
  refine ⟨_, hfit, ?_⟩
  have halign : c.align = format.align.getD auto := by rw [hc]; rfl
  rw [← halign] at hmade
  have hlines : (fitCell config format (.ofText t c.align)).lines = t.lines :=
    Block.lines_fitCell_of_not_wraps hwraps hcuts
  have hheight : before.height = t.lines.length := by
    rw [hmade, Block.height_padWidth, Block.height, hlines]
  rw [Block.fitHeight_of_not_caps (hheight ▸ hcaps) hnatural, hmade]
  have hstripped := Block.isStripped_padHeight hlines (Text.lines_ne_nil t) hbare
    c.width (capHeight config natural) c.width config.cellVAlign
  rwa [align_fitCell] at hstripped

end Column

namespace Layout

theorem filterMap_slots {α : Type} {h : RowSlot → Option α} {f : Nat → α}
    (hdata : ∀ r, h (.data r) = some (f r)) (hrule : h .rule = none) (k : Nat)
    (rows : List GridRow) :
    (slots k rows).filterMap h = (List.range' k (rows.countP GridRow.isData)).map f := by
  induction rows generalizing k with
  | nil => rfl
  | cons row rows ih =>
    cases row with
    | cells _ =>
      rw [List.countP_cons_of_pos rfl, List.range'_succ, List.map_cons, ← ih]
      exact List.filterMap_cons_some (hdata k)
    | rule =>
      rw [List.countP_cons_of_neg Bool.false_ne_true, ← ih]
      exact List.filterMap_cons_none hrule

end Layout

/-- The strings of a column, from the heading down. The heading and the cells that are shown whole
are their lines with the padding between them. -/
structure Column.StripsTo (config : Config) (format : ColumnFormat) (heading : Text)
    (texts : List Text) (c : Column) (strings : List Text) : Prop where
  length : strings.length = texts.length + 1
  heading : (∀ line ∈ heading.lines, Text.IsBare line) →
    (∀ limit ∈ format.width, format.fixed = true →
      ∀ line ∈ heading.lines, displayWidth line ≤ limit) →
    ∃ string ∈ strings[0]?, IsStripped c.width c.heading.align heading.lines string
  cells : ∀ (r : Nat) (t : Text), texts[r]? = some t → (∀ line ∈ t.lines, Text.IsBare line) →
    ¬ format.Wraps t → ¬ format.Cuts t → ¬ config.Caps t.lines.length →
    ∃ string ∈ strings[r + 1]?, IsStripped c.width c.align t.lines string

namespace Table

variable {t : Table} {f : CellFormatter} {l : Layout} {headings formats : List Text}
  {rows : List Row} {strings : List (List Text)} {strip : Bool}

theorem exists_rowStrings (hl : t.layoutRows headings formats rows = .ok l) (strip : Bool) :
    ∃ strings, t.rowStrings headings formats rows strip = .ok strings ∧
      ∀ (i : Nat) (c : Column), l.columns[i]? = some c →
        strings.map (·[i]?) = ((c.heading :: c.cells).map (cellString strip)).map some := by
  obtain ⟨_, -, hregular⟩ := isRegular_layoutGrid hl
  obtain ⟨_, _, -, -, -, -, hmade⟩ := layoutGrid_eq_ok hl
  have hslots : l.rows = Layout.slots 0 (Grid.ofRows headings formats rows).rows := by
    rw [hmade]
    rfl
  refine ⟨_, bind_eq_ok_iff.mpr ⟨l, hl, rfl⟩, fun i c hc => ?_⟩
  have hlength := hregular.length_cells c (List.mem_of_getElem? hc)
  have hrow (r : Nat) (hr : r < (Grid.ofRows headings formats rows).dataRows) :
      (l.columns.filterMap fun c => c.cells[r]?.map (cellString strip))[i]? =
        c.cells[r]?.map (cellString strip) := by
    have hsome : ∀ c ∈ l.columns, c.cells[r]?.map (cellString strip) =
        some ((c.cells[r]?.map (cellString strip)).getD []) := fun c hc => by
      rw [List.getElem?_eq_getElem (hr.trans_eq (hregular.length_cells c hc).symm)]
      rfl
    rw [List.filterMap_eq_map_iff_forall_eq_some.mpr hsome, List.getElem?_map, hc, Option.map_some]
    exact (hsome c (List.mem_of_getElem? hc)).symm
  rw [List.map_cons, List.getElem?_map, hc, hslots,
    Layout.filterMap_slots
      (f := fun r => l.columns.filterMap fun c => c.cells[r]?.map (cellString strip))
      (fun _ => rfl) rfl, ← Grid.dataRows_eq, ← List.range_eq_range', List.map_map, List.map_cons,
    List.map_cons]
  refine congrArg _ (List.ext_getElem (by simp [hlength]) fun r h₁ h₂ => ?_)
  have hr : r < (Grid.ofRows headings formats rows).dataRows := by simpa using h₁
  rw [List.getElem_map, List.getElem_range]
  refine (hrow r hr).trans ?_
  rw [List.getElem?_eq_getElem (hlength ▸ hr), List.getElem_map, List.getElem_map]
  rfl

/-- Stripped of the white space around them, headings and cells that are shown whole are their lines
with the padding between them. -/
theorem rowStrings_stripsTo (hf : t.formatter = .ok f) (headings formats : List Text)
    (rows : List Row)
    (htexts : ∀ i heading text,
      (Grid.ofRows headings formats rows).columns[i]? = some (.data heading text) →
      ∃ texts, f.texts (.resolve t.registry (.parse t.config text)) i
        ((Grid.ofRows headings formats rows).cellsOf i) = .ok texts) :
    ∃ l strings, t.layoutRows headings formats rows = .ok l ∧
      t.rowStrings headings formats rows true = .ok strings ∧
      ∀ i heading text texts,
        (Grid.ofRows headings formats rows).columns[i]? = some (.data heading text) →
        f.texts (.resolve t.registry (.parse t.config text)) i
          ((Grid.ofRows headings formats rows).cellsOf i) = .ok texts →
        ∃ c column, l.columns[i]? = some c ∧ strings.map (·[i]?) = column.map some ∧
          Column.StripsTo t.config (.resolve t.registry (.parse t.config text))
            (t.config.splitAlign heading).2 texts c column := by
  obtain ⟨l, hl⟩ := exists_layoutGrid hf htexts
  obtain ⟨strings, hstrings, hcolumns⟩ := exists_rowStrings hl true
  refine ⟨l, strings, hl, hstrings, fun i heading text texts hcolumn htexts => ?_⟩
  obtain ⟨f', columns, hf', hconfig, hmapM, -, rfl⟩ := layoutGrid_eq_ok hl
  obtain rfl : f = f' := Except.ok.inj (hf.symm.trans hf')
  obtain ⟨c, hc, hmade⟩ := exists_getElem?_of_mapM hmapM
    (show (Grid.ofRows headings formats rows).columns.zipIdx[i]? = some (.data heading text, i) by
      simp [hcolumn])
  rcases CellFormatter.column_eq_ok hmade with ⟨hcolumn, -⟩ | ⟨_, _, texts', hdata, htexts', hmade⟩
  · contradiction
  · cases hdata
    rw [hconfig] at htexts' hmade
    obtain rfl : texts = texts' := Except.ok.inj (htexts.symm.trans htexts')
    have hn : texts.length = (Grid.ofRows headings formats rows).dataRows := by
      rw [CellFormatter.length_texts htexts, Grid.length_cellsOf]
    have hfitted : (Layout.ofColumns t.config (Grid.ofRows headings formats rows)
        columns).columns[i]? = some _ := Layout.getElem?_columns_ofColumns hc
    refine ⟨_, _, hfitted, hcolumns i _ hfitted, ?_, fun hbare hfits => ?_,
      fun r s hs hbare hwraps hcuts hcaps => ?_⟩
    · rw [List.length_map, List.length_cons, Column.length_cells_fitColumn_ofTexts hmade hn]
    · rw [Layout.width_fitColumn]
      exact ⟨_, rfl, Column.isStripped_heading hmade hfits hbare _ _⟩
    · obtain ⟨b, hb, hstripped⟩ := Column.isStripped_cell hmade (List.mem_of_getElem? hc) hn hs
        hwraps hcuts hcaps hbare
      rw [Layout.width_fitColumn, Layout.align_fitColumn]
      refine ⟨_, ?_, hstripped⟩
      rw [List.map_cons, List.getElem?_cons_succ, List.getElem?_map, hb]
      rfl

def steppedRows : List Row := [.cells [.string "a\nbbb".toList], .cells [.string "cc".toList]]

/-- Aligned on the right, the lines have their padding before the first one only. -/
theorem steppedRows_stripsTo :
    ∃ l strings texts c column,
      ({} : Table).layoutRows [['h']] [['>']] steppedRows = .ok l ∧
      ({} : Table).rowStrings [['h']] [['>']] steppedRows true = .ok strings ∧
      strings = [[['h']], ["a\nbbb".toList], ["cc".toList]] ∧
      l.columns[0]? = some c ∧ strings.map (·[0]?) = column.map some ∧
      Column.StripsTo {} (.resolve {} (.parse {} ['>'])) ['h'] texts c column ∧
      ∃ string ∈ column[1]?, IsStripped c.width c.align [['a'], "bbb".toList] string := by
  obtain ⟨strings, hstrings, h⟩ : ∃ strings,
      ({} : Table).rowStrings [['h']] [['>']] steppedRows true = .ok strings ∧
        decide (strings = [[['h']], ["a\nbbb".toList], ["cc".toList]]) = true :=
    exists_ok_of_any (by decide +kernel)
  let f : CellFormatter := { config := {}, defaultFunction := .builtin .format, handler := none }
  have hf : ({} : Table).formatter = .ok f := rfl
  obtain ⟨texts, htexts, hcells⟩ : ∃ texts,
      f.texts (.resolve {} (.parse {} ['>'])) 0
        ((Grid.ofRows [['h']] [['>']] steppedRows).cellsOf 0) = .ok texts ∧
          decide (texts = ["a\nbbb".toList, "cc".toList]) = true :=
    exists_ok_of_any (by decide +kernel)
  have hall : ∀ i heading text,
      (Grid.ofRows [['h']] [['>']] steppedRows).columns[i]? = some (.data heading text) →
      ∃ texts, f.texts (.resolve {} (.parse {} text)) i
        ((Grid.ofRows [['h']] [['>']] steppedRows).cellsOf i) = .ok texts
    | 0, _, _, rfl => ⟨texts, htexts⟩
  obtain ⟨l, strings', hl, hstrings', hstrips⟩ :=
    rowStrings_stripsTo hf [['h']] [['>']] steppedRows hall
  obtain rfl : strings = strings' := Except.ok.inj (hstrings.symm.trans hstrings')
  obtain ⟨c, column, hc, hcolumn, hstrips⟩ := hstrips 0 ['h'] ['>'] texts rfl htexts
  have hbare : ∀ line ∈ Text.lines "a\nbbb".toList, Text.IsBare line :=
    List.forall_mem_cons.mpr ⟨⟨⟨'a', rfl, rfl⟩, ⟨'a', rfl, rfl⟩⟩,
      List.forall_mem_singleton.mpr ⟨⟨'b', rfl, rfl⟩, ⟨'b', rfl, rfl⟩⟩⟩
  have hwidth : (ColumnFormat.resolve {} (.parse {} ['>'])).width = none := by decide +kernel
  have hlimit (limit : Nat) : limit ∉ (ColumnFormat.resolve {} (.parse {} ['>'])).width := by
    rw [hwidth]
    exact Option.not_mem_none limit
  have hcaps : ¬ ({} : Config).Caps (Text.lines "a\nbbb".toList).length := by
    rintro ⟨limit, hlimit, -⟩
    contradiction
  have hcell := hstrips.cells 0 "a\nbbb".toList (by rw [of_decide_eq_true hcells]; rfl) hbare
    (fun ⟨limit, h, _⟩ => hlimit limit h) (fun ⟨limit, h, _⟩ => hlimit limit h) hcaps
  exact ⟨l, strings, texts, c, column, hl, hstrings, of_decide_eq_true h, hc, hcolumn, hstrips,
    hcell⟩

/-- Aligned on the left, the first line keeps its padding. -/
theorem rowStrings_innerPadding :
    let format : ColumnFormat := .resolve {} (.parse {} [])
    (∀ line ∈ Text.lines "a\nbbb".toList, line.head?.any isWhite = false ∧
      line.getLast?.any isWhite = false ∧ line ≠ []) ∧
    format.width = none ∧ format.wrap = false ∧ ({} : Config).maxCellHeight = none ∧
    ({} : Table).config.validate = .ok () ∧
    Text.unlines (Text.lines "a\nbbb".toList) = "a\nbbb".toList ∧
    ∃ strings, ({} : Table).rowStrings [['h']] [[]] steppedRows true = .ok strings ∧
      strings[1]? = some ["a  \nbbb".toList] := by
  obtain ⟨strings, hstrings, h⟩ : ∃ strings,
      ({} : Table).rowStrings [['h']] [[]] steppedRows true = .ok strings ∧
        decide (strings[1]? = some ["a  \nbbb".toList]) = true :=
    exists_ok_of_any (by decide +kernel)
  exact ⟨by decide, by decide +kernel, by decide +kernel, rfl, rfl, rfl, strings, hstrings,
    of_decide_eq_true h⟩

end Table

end TextTable
