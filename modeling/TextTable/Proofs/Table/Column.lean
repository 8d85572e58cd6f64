import TextTable.Proofs.Cell.Block
import TextTable.Proofs.Directive.Options
import TextTable.Proofs.Except
import TextTable.Proofs.Text.Wrap
import TextTable.Table.Layout

/-! # Columns before their rows are brought to one height

A column of a grid is a vertical rule, or it is made of the texts of its cells. If these are
printable ASCII then every line of the column has the width of the column.
-/

namespace TextTable

def GridRow.isData : GridRow → Bool
  | .cells _ => true
  | .rule => false

namespace Grid

theorem largest_le_iff {ns : List Nat} {n : Nat} : largest ns ≤ n ↔ ∀ m ∈ ns, m ≤ n :=
  foldr_max_le_iff

theorem le_largest {ns : List Nat} {n : Nat} (h : n ∈ ns) : n ≤ largest ns :=
  largest_le_iff.mp (Nat.le_refl _) n h

theorem dataRows_eq (g : Grid) : g.dataRows = g.rows.countP GridRow.isData :=
  congrArg (g.rows.countP ·) (funext fun row => by cases row <;> rfl)

theorem length_cellsOf (g : Grid) (i : Nat) : (g.cellsOf i).length = g.dataRows := by
  have hfst : g.rows = g.rows.zipIdx.map Prod.fst := (List.zipIdx_map_fst 0 g.rows).symm
  rw [cellsOf, List.length_filterMap_eq_countP, dataRows_eq]
  conv => rhs; rw [hfst, List.countP_map]
  refine List.countP_congr fun p _ => ?_
  obtain ⟨row, r⟩ := p
  cases row <;> rfl

end Grid

namespace Column

/-- Every line of the column is printable ASCII of the column's width. -/
structure Filled (c : Column) : Prop where
  heading : c.heading.Fills c.width
  cells : ∀ b ∈ c.cells, b.Fills c.width

/-- What every column with cells for `n` data rows has before its rows are brought to one height. -/
structure Natural (n : Nat) (c : Column) : Prop where
  length_cells : c.cells.length = n
  cells_ne_nil : ∀ b ∈ c.cells, b.lines ≠ []
  rule : c.verticalRule = true → c = .rule n

variable {config : Config} {format : ColumnFormat} {b : Block} {auto : Align} {heading : Text}
  {texts : List Text} {n : Nat}

theorem natural_rule (n : Nat) : (Column.rule n).Natural n where
  length_cells := List.length_replicate
  cells_ne_nil b hb := by
    rw [List.eq_of_mem_replicate hb]
    exact Block.lines_ofText_ne_nil _ _
  rule _ := rfl

theorem fills_verticalRuleGlyph :
    (Block.ofText verticalRuleGlyph .left).Fills (displayWidth verticalRuleGlyph) := by
  decide

theorem filled_rule (n : Nat) : (Column.rule n).Filled where
  heading := fills_verticalRuleGlyph
  cells b hb := by
    rw [List.eq_of_mem_replicate hb]
    exact fills_verticalRuleGlyph

theorem lines_fitCell_ne_nil (h : b.lines ≠ []) : (fitCell config format b).lines ≠ [] := by
  unfold fitCell
  split
  · exact h
  · split
    · exact Text.wrap_ne_nil _ _ _
    · simpa [Block.truncateLines] using h

theorem natural_ofTexts (config : Config) (format : ColumnFormat) (auto : Align) (heading : Text)
    (texts : List Text) : (ofTexts config format auto heading texts).Natural texts.length where
  length_cells := by simp [ofTexts]
  cells_ne_nil b hb := by
    simp only [ofTexts, List.map_map, List.mem_map] at hb
    obtain ⟨t, -, rfl⟩ := hb
    simpa [Block.padWidth] using lines_fitCell_ne_nil (Block.lines_ofText_ne_nil t _)
  rule h := by simp [ofTexts] at h

theorem isAscii_fitCell (h : b.IsAscii) (hm : Text.IsAscii config.moreMarker)
    (hw : ∀ limit ∈ format.width, 0 < limit) :
    (fitCell config format b).IsAscii ∧
      ∀ limit ∈ format.width, (fitCell config format b).width ≤ limit := by
  unfold fitCell
  cases hf : format.width with
  | none => simpa using h
  | some limit =>
    simp only [Option.mem_def, Option.some.injEq, forall_eq']
    split
    · have hwrap := Text.length_le_of_mem_wrap (Text.isAscii_flatten_unlines h) (hw limit hf)
      refine ⟨fun line hl => (hwrap line hl).1, blockWidth_le_iff.mpr fun line hl => ?_⟩
      rw [(hwrap line hl).1.displayWidth_eq]
      exact (hwrap line hl).2
    · exact ⟨h.truncateLines hm, h.width_truncateLines_le hm⟩

theorem isAscii_fitHeading (h : b.IsAscii) (hm : Text.IsAscii config.moreMarker) :
    (fitHeading config format b).IsAscii ∧ ∀ limit ∈ format.width,
      format.fixed = true → (fitHeading config format b).width ≤ limit := by
  unfold fitHeading
  cases format.width with
  | none => simpa using h
  | some limit =>
    simp only [Option.mem_def, Option.some.injEq, forall_eq']
    split
    · exact ⟨h.truncateLines hm, fun _ => h.width_truncateLines_le hm⟩
    · next hf => exact ⟨h, fun ht => absurd ht hf⟩

theorem width_le_widthOf {h : Block} {cells : List Block}
    (hfixed : ∀ limit ∈ format.width, format.fixed = true →
      h.width ≤ limit ∧ ∀ b ∈ cells, b.width ≤ limit) :
    h.width ≤ widthOf format h cells ∧ ∀ b ∈ cells, b.width ≤ widthOf format h cells := by
  have hnatural : h.width ≤ max h.width (Grid.largest (cells.map Block.width)) ∧
      ∀ b ∈ cells, b.width ≤ max h.width (Grid.largest (cells.map Block.width)) := by
    refine ⟨Nat.le_max_left _ _, fun b hb => ?_⟩
    exact Nat.le_trans (Grid.le_largest (List.mem_map_of_mem hb)) (Nat.le_max_right _ _)
  unfold widthOf
  cases hf : format.width with
  | none => exact hnatural
  | some limit =>
    dsimp only
    split
    · next hx => exact hfixed limit hf hx
    · exact hnatural

theorem isAsciiBlock_splitAlign (h : Text.isAsciiBlock heading = true) :
    Text.isAsciiBlock (config.splitAlign heading).2 = true := by
  unfold Config.splitAlign
  split
  · rfl
  · split
    · exact Text.isAsciiBlock_tail h
    · exact h

theorem filled_ofTexts (hm : Text.IsAscii config.moreMarker)
    (hw : ∀ limit ∈ format.width, 0 < limit) (hh : Text.isAsciiBlock heading = true)
    (ht : ∀ t ∈ texts, Text.isAsciiBlock t = true) :
    (ofTexts config format auto heading texts).Filled := by
  have hheading (align : Align) :
      (fitHeading config format (.ofText (config.splitAlign heading).2 align)).IsAscii ∧
        ∀ limit ∈ format.width, format.fixed = true →
          (fitHeading config format (.ofText (config.splitAlign heading).2 align)).width ≤ limit :=
    isAscii_fitHeading (Block.isAscii_ofText (isAsciiBlock_splitAlign hh) align) hm
  have hcells : ∀ b ∈ texts.map fun t => fitCell config format (.ofText t (format.align.getD auto)),
      b.IsAscii ∧ ∀ limit ∈ format.width, b.width ≤ limit := by
    intro b hb
    obtain ⟨t, htt, rfl⟩ := List.mem_map.mp hb
    exact isAscii_fitCell (Block.isAscii_ofText (ht t htt) _) hm hw
  obtain ⟨hwh, hwc⟩ := width_le_widthOf fun limit hl hf =>
    ⟨(hheading _).2 limit hl hf, fun b hb => (hcells b hb).2 limit hl⟩
  refine ⟨(hheading _).1.fills_padWidth hwh, fun b hb => ?_⟩
  obtain ⟨b, hb', rfl⟩ := List.mem_map.mp hb
  exact (hcells b hb').1.fills_padWidth (hwc b hb')

end Column

theorem ColumnFormat.width_resolve_pos (registry : Registry) (d : Directive) :
    ∀ limit ∈ (ColumnFormat.resolve registry d).width, 0 < limit := by
  intro limit h
  have hget := (isFilledBy_resolve registry d).get_eq .width
  rw [get, Option.mem_def.mp h, if_neg (by simp)] at hget
  obtain ⟨o, -, ho⟩ := List.exists_of_findSome?_eq_some hget.symm
  exact DirectiveOption.pos_of_gives_width ho

namespace CellFormatter

variable {f : CellFormatter} {registry : Registry} {g : Grid} {i : Nat} {c : Column}

/-- A column of a grid is a rule, or it is made of the texts of its cells. -/
theorem column_eq_ok {column : GridColumn} (h : f.column registry g i column = .ok c) :
    (column = .verticalRule ∧ c = .rule g.dataRows) ∨
      ∃ heading format texts, column = .data heading format ∧
        f.texts (.resolve registry (.parse f.config format)) i (g.cellsOf i) = .ok texts ∧
        c = .ofTexts f.config (.resolve registry (.parse f.config format))
          (Column.autoAlign ((g.cellsOf i).head?.bind Prod.snd)) heading texts := by
  cases column with
  | verticalRule => exact Or.inl ⟨rfl, (Except.ok.inj h).symm⟩
  | data heading format =>
    obtain ⟨texts, ht, hc⟩ := bind_eq_ok_iff.mp h
    exact Or.inr ⟨heading, format, texts, rfl, ht, (Except.ok.inj hc).symm⟩

theorem length_texts {format : ColumnFormat} {cells : List (Nat × Option Value)}
    {texts : List Text} (h : f.texts format i cells = .ok texts) :
    texts.length = cells.length :=
  (mapM_eq_ok_iff.mp h).length_eq.symm

theorem natural_of_column {column : GridColumn} (h : f.column registry g i column = .ok c) :
    c.Natural g.dataRows := by
  rcases column_eq_ok h with ⟨-, rfl⟩ | ⟨heading, format, texts, -, ht, rfl⟩
  · exact Column.natural_rule _
  · rw [← g.length_cellsOf i, ← length_texts ht]
    exact Column.natural_ofTexts ..

end CellFormatter

end TextTable
