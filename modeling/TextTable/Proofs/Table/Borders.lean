import TextTable.Proofs.Table.Frame

/-! # Borders and contents alternate

Below its title, a bordered table is a border and then contents and borders in turn. A border is
known by the rules that stand at its place in the grid: it is a rule if there are any.
-/

namespace TextTable

namespace GridRow

/-- The rules in front of, between and behind the data rows, in runs that may be empty. -/
def ruleRuns (rows : List GridRow) : List (List GridRow) := rows.splitOnP isData

variable {rows : List GridRow} {run : List GridRow} {runs : List (List GridRow)}

theorem ruleRuns_cells (slots : List (Option Value)) (rows : List GridRow) :
    ruleRuns (.cells slots :: rows) = [] :: ruleRuns rows := by
  rw [ruleRuns, List.splitOnP_cons_eq_if_modifyHead]
  rfl

theorem ruleRuns_rule (rows : List GridRow) :
    ruleRuns (.rule :: rows) = (ruleRuns rows).modifyHead (.rule :: ·) := by
  rw [ruleRuns, List.splitOnP_cons_eq_if_modifyHead]
  rfl

end GridRow

structure Alternation where
  first : RenderedRow
  below : List (RenderedRow × RenderedRow)
  deriving DecidableEq, Repr

namespace Alternation

def rows (a : Alternation) : List RenderedRow :=
  a.first :: a.below.flatMap fun (content, border) => [content, border]

def borders (a : Alternation) : List RenderedRow := a.first :: a.below.map Prod.snd

def contents (a : Alternation) : List RenderedRow := a.below.map Prod.fst

theorem mem_rows {a : Alternation} {row : RenderedRow} :
    row ∈ a.rows ↔ row ∈ a.borders ∨ row ∈ a.contents := by
  simp only [rows, borders, contents, List.mem_cons, List.mem_flatMap, List.mem_map]
  grind

def finish (indent : Text) (a : Alternation) : Alternation where
  first := a.first.finish indent
  below := a.below.map fun p => (p.1.finish indent, p.2.finish indent)

theorem rows_finish (indent : Text) (a : Alternation) :
    (a.finish indent).rows = a.rows.map (.finish indent) := by
  simp [rows, finish, List.map_flatMap, List.flatMap_map]

theorem borders_finish (indent : Text) (a : Alternation) :
    (a.finish indent).borders = a.borders.map (.finish indent) := by
  simp [borders, finish]

theorem contents_finish (indent : Text) (a : Alternation) :
    (a.finish indent).contents = a.contents.map (.finish indent) := by
  simp [contents, finish]

/-- Where the contents show cells and the borders do not, the contents are known by their kinds. -/
theorem contentRows_rows {a : Alternation} (hb : ∀ row ∈ a.borders, row.kind.isContent = false)
    (hc : ∀ row ∈ a.contents, row.kind.isContent = true) : contentRows a.rows = a.contents := by
  obtain ⟨first, below⟩ := a
  obtain ⟨hfirst, hbelow⟩ := List.forall_mem_cons.mp hb
  simp only [contentRows, rows, contents] at hc ⊢
  rw [List.filter_cons_of_neg (by simp [hfirst])]
  clear hb hfirst
  induction below with
  | nil => rfl
  | cons p below ih =>
    obtain ⟨hborder, hbelow⟩ := List.forall_mem_cons.mp hbelow
    obtain ⟨hcontent, hc⟩ := List.forall_mem_cons.mp hc
    simp only [List.flatMap_cons, List.cons_append, List.nil_append, List.map_cons,
      List.filter_cons, hcontent, hborder, ih hc hbelow, if_true, Bool.false_eq_true, if_false]

theorem length_rowsOf_rows {a : Alternation} {kind : RowKind}
    (h : ∀ row ∈ a.contents, row.kind ≠ kind) :
    (rowsOf kind a.rows).length = a.borders.countP (·.kind = kind) := by
  obtain ⟨first, below⟩ := a
  have hbelow : (rowsOf kind (below.flatMap fun p => [p.1, p.2])).length =
      (below.map Prod.snd).countP (·.kind = kind) := by
    induction below with
    | nil => rfl
    | cons p below ih =>
      obtain ⟨hp, hrest⟩ := List.forall_mem_cons.mp h
      simp only [rowsOf, List.flatMap_cons, List.cons_append, List.nil_append, List.map_cons,
        ← List.countP_eq_length_filter] at ih ⊢
      rw [List.countP_cons_of_neg (by simpa using hp), List.countP_cons, List.countP_cons,
        ih hrest]
  simp only [rowsOf, rows, borders, ← List.countP_eq_length_filter] at hbelow ⊢
  rw [List.countP_cons, List.countP_cons, hbelow]

end Alternation

namespace BorderState

variable {l : Layout} {f : Frame} {s : BorderState} {last : RenderedRow}
  {before : List RenderedRow} {k index : Nat}

def dataRow (l : Layout) (f : Frame) (index : Nat) : RenderedRow :=
  ⟨.data, f.content (l.rowBlocks index)⟩

def ruleRow (f : Frame) : RenderedRow := ⟨.rule, [f.border f.glyphs.divider]⟩

def borderRow (f : Frame) (glyph : Char) : RenderedRow := ⟨.guideline, [f.border glyph]⟩

/-- The last row is a border, and no other one is needed before the next contents. -/
structure EndsWith (f : Frame) (s : BorderState) (last : RenderedRow)
    (before : List RenderedRow) : Prop where
  rows : s.rows = last :: before
  needsTop : s.needsTop = false
  border : last.kind = .guideline ∨ last = ruleRow f

theorem EndsWith.addData (h : EndsWith f s last before) :
    EndsWith f (s.addData f (l.rowBlocks index)) (borderRow f f.glyphs.bottom)
      (dataRow l f index :: last :: before) where
  rows := by
    rw [BorderState.addData, h.needsTop, h.rows]
    rfl
  needsTop := rfl
  border := .inl rfl

/-- A rule takes the place of the last border. -/
theorem EndsWith.addRule (h : EndsWith f s last before) :
    EndsWith f (s.addRule f) (ruleRow f) before := by
  obtain ⟨hrows, htop, hborder⟩ := h
  rcases hborder with hkind | rfl
  · simp only [BorderState.addRule, hrows, hkind]
    exact ⟨rfl, htop, .inr rfl⟩
  · have hs : s.addRule f = s := by simp only [BorderState.addRule, hrows, ruleRow]
    rw [hs]
    exact ⟨hrows, htop, .inr rfl⟩

def frameRows (l : Layout) (f : Frame) (last : RenderedRow) : List RowSlot → Alternation
  | [] => ⟨last, []⟩
  | .data index :: slots =>
    let rest := frameRows l f (borderRow f f.glyphs.bottom) slots
    ⟨last, (dataRow l f index, rest.first) :: rest.below⟩
  | .rule :: slots => frameRows l f (ruleRow f) slots

theorem EndsWith.foldl (h : EndsWith f s last before) (slots : List RowSlot) :
    (slots.foldl (add l f) s).rows.reverse =
      before.reverse ++ (frameRows l f last slots).rows := by
  -- The last border is still open to rules, so it is generalised together with the rows before it.
  induction slots generalizing s last before with
  | nil => simp [h.rows, frameRows, Alternation.rows]
  | cons slot slots ih =>
    cases slot with
    | data index =>
      rw [List.foldl_cons, add, ih h.addData]
      simp [frameRows, Alternation.rows]
    | rule => exact ih h.addRule

/-- Without headings, the first row of the layout makes the first border. -/
theorem foldl_of_needsTop {slot : RowSlot} (hrows : ∀ row ∈ s.rows, row.kind = .title)
    (htop : s.needsTop = true) (slots : List RowSlot) :
    ((slot :: slots).foldl (add l f) s).rows.reverse =
      s.rows.reverse ++ (frameRows l f (borderRow f f.glyphs.top) (slot :: slots)).rows := by
  cases slot with
  | data index =>
    have hends : EndsWith f (s.add l f (.data index)) (borderRow f f.glyphs.bottom)
        (dataRow l f index :: borderRow f f.glyphs.top :: s.rows) := by
      refine ⟨?_, rfl, .inl rfl⟩
      rw [add, addData, htop]
      rfl
    rw [List.foldl_cons, hends.foldl]
    simp [frameRows, Alternation.rows]
  | rule =>
    have hends : EndsWith f (s.add l f .rule) (ruleRow f) s.rows := by
      rw [add, addRule]
      split
      · next hs => exact ⟨by rw [hs]; rfl, rfl, .inr rfl⟩
      · next last before hs =>
        have hkind : last.kind = .title := hrows last (hs ▸ List.mem_cons_self)
        rw [hkind]
        exact ⟨rfl, rfl, .inr rfl⟩
    rw [List.foldl_cons, hends.foldl]
    rfl

/-- A border stays what it is unless rules stand in its place. -/
def borderAt (f : Frame) (border : RenderedRow) (run : List GridRow) : RenderedRow :=
  if run.isEmpty then border else ruleRow f

theorem kind_borderAt {glyph : Char} {run : List GridRow} :
    (borderAt f (borderRow f glyph) run).kind = .rule ↔ run ≠ [] := by
  cases run <;> simp [borderAt, borderRow, ruleRow]

theorem lines_borderAt (glyph : Char) (run : List GridRow) :
    (borderAt f (borderRow f glyph) run).lines =
      [f.border (if run.isEmpty then glyph else f.glyphs.divider)] := by
  cases run <;> rfl

theorem borders_frameRows (last : RenderedRow) (k : Nat) (rows : List GridRow) :
    ∃ run runs, GridRow.ruleRuns rows = run :: runs ∧
      (frameRows l f last (Layout.slots k rows)).borders =
        borderAt f last run :: runs.map (borderAt f (borderRow f f.glyphs.bottom)) := by
  induction rows generalizing last k with
  | nil => exact ⟨[], [], rfl, rfl⟩
  | cons row rows ih =>
    cases row with
    | cells slots =>
      obtain ⟨run, runs, hruns, hborders⟩ := ih (borderRow f f.glyphs.bottom) (k + 1)
      refine ⟨[], run :: runs, by rw [GridRow.ruleRuns_cells, hruns], ?_⟩
      simpa [Layout.slots, frameRows, Alternation.borders, borderAt] using hborders
    | rule =>
      obtain ⟨run, runs, hruns, hborders⟩ := ih (ruleRow f) k
      refine ⟨.rule :: run, runs, by rw [GridRow.ruleRuns_rule, hruns, List.modifyHead_cons], ?_⟩
      rw [Layout.slots, frameRows, hborders]
      simp [borderAt]

theorem contents_frameRows (last : RenderedRow) (slots : List RowSlot) :
    (frameRows l f last slots).contents =
      (slots.filterMap RowSlot.index?).map (dataRow l f) := by
  induction slots generalizing last with
  | nil => rfl
  | cons slot slots ih =>
    cases slot with
    | data index => exact congrArg (dataRow l f index :: ·) (ih _)
    | rule => exact ih _

theorem below_frameRows {p : RenderedRow × RenderedRow} {rows : List GridRow}
    (hp : p ∈ (frameRows l f last (Layout.slots k rows)).below) :
    p.1.kind = .data ∧ ∃ run, p.2 = borderAt f (borderRow f f.glyphs.bottom) run := by
  constructor
  · have hcontent : p.1 ∈ (frameRows l f last (Layout.slots k rows)).contents :=
      List.mem_map_of_mem hp
    rw [contents_frameRows] at hcontent
    obtain ⟨index, -, hindex⟩ := List.mem_map.mp hcontent
    rw [← hindex]
    rfl
  · obtain ⟨run, runs, -, hborders⟩ := borders_frameRows (l := l) (f := f) last k rows
    have hborder := List.mem_map_of_mem (f := Prod.snd) hp
    rw [(List.cons.inj hborders).2] at hborder
    obtain ⟨run, -, hrun⟩ := List.mem_map.mp hborder
    exact ⟨run, hrun.symm⟩

/-- Borders that stand for runs of rules are rules where the runs are not empty. -/
theorem forall₂_borderAt (glyph : Char) (run : List GridRow) (runs : List (List GridRow)) :
    List.Forall₂ (fun run border => border.kind = .rule ↔ run ≠ []) (run :: runs)
      (borderAt f (borderRow f glyph) run ::
        runs.map (borderAt f (borderRow f f.glyphs.bottom))) := by
  refine .cons kind_borderAt ?_
  rw [List.forall₂_map_right_iff, List.forall₂_same]
  exact fun _ _ => kind_borderAt

theorem countP_rule_eq {runs : List (List GridRow)} {borders : List RenderedRow}
    (h : List.Forall₂ (fun run border => border.kind = .rule ↔ run ≠ []) runs borders) :
    borders.countP (·.kind = .rule) = runs.countP (!·.isEmpty) := by
  induction h with
  | nil => rfl
  | @cons run border runs borders hrun _ ih =>
    rw [List.countP_cons, List.countP_cons, ih]
    simp [hrun]

end BorderState

namespace Layout

open BorderState

variable {l : Layout} {f : Frame} {g inner : Grid} {config : Config} {natural : List Column}

/-- A border that is drawn with the given glyph: a run of it over every column and its margins,
between corners. A run that is too long for a machine word wraps around. -/
def borderLine (l : Layout) (config : Config) (glyph : Char) : Text :=
  config.indent ++ (posted (config.glyphAt 3) (l.columns.map fun c =>
    List.replicate ((c.width + 2 * config.hmargin) % 2 ^ 64) glyph)).rdropWhile isWhite

/-- The row shows some blocks side by side, with sides and margins around each of them. Lines whose
number does not fit a machine word are lost. -/
structure ShowsBlocks (l : Layout) (config : Config) (p : RowKind × List (List Text))
    (row : RenderedRow) : Prop where
  kind_eq : row.kind = p.1
  length_eq : ∀ block ∈ p.2,
    row.lines.length = (2 * config.vmargin + block.length) % 2 ^ 64
  line_eq : ∀ (i : Nat) (line : Text), row.lines[i]? = some line → line = config.indent ++
    (posted (config.glyphAt 2) (List.zipWith (fun block width =>
      (l.frameSpec config).inMargins
        (((l.frameSpec config).betweenMargins width block)[i]?.getD []))
      p.2 (l.columns.map Column.width))).rdropWhile isWhite

/-- The borders and the contents below a title. The borders stand for the runs of rules, but the
first one above headings stands for none. -/
structure IsAlternation (l : Layout) (config : Config) (g : Grid) (a : Alternation) : Prop where
  contents : List.Forall₂ (l.ShowsBlocks config) l.contents a.contents
  border_kind : ∀ border ∈ a.borders, border.kind.isBorder = true
  border_lines : ∀ border ∈ a.borders, border.lines.length = 1
  runs : List.Forall₂ (fun run border => border.kind = .rule ↔ run ≠ []) (GridRow.ruleRuns g.rows)
    (if l.ShowsHeadings then a.below.map Prod.snd else a.borders)
  rules : (rowsOf .rule a.rows).length = (GridRow.ruleRuns g.rows).countP (!·.isEmpty)
  rule_glyph : ∀ border ∈ a.borders, border.kind = .rule →
    border.lines = [l.borderLine config (config.glyphAt 4)]
  top_glyph : a.first.kind ≠ .rule → a.first.lines = [l.borderLine config (config.glyphAt 0)]
  heading_glyph : ∀ p ∈ a.below, p.1.kind = .heading →
    p.2.lines = [l.borderLine config (config.glyphAt 4)]
  bottom_glyph : ∀ p ∈ a.below, p.1.kind = .data → p.2.kind = .guideline →
    p.2.lines = [l.borderLine config (config.glyphAt 1)]

/-- The rows below a title. -/
structure HasBorders (l : Layout) (config : Config) (g : Grid) (rows : List RenderedRow) :
    Prop where
  eq_nil_iff : rows = [] ↔ ¬ l.ShowsHeadings ∧ g.rows = []
  alternate : rows ≠ [] → ∃ a : Alternation, rows = a.rows ∧ l.IsAlternation config g a

def alternation (l : Layout) (f : Frame) : Alternation :=
  if l.ShowsHeadings then
    let rest := frameRows l f (borderRow f f.glyphs.divider) l.rows
    ⟨borderRow f f.glyphs.top, (⟨.heading, f.content l.headingBlocks⟩, rest.first) :: rest.below⟩
  else frameRows l f (borderRow f f.glyphs.top) l.rows

def shownRows (l : Layout) (f : Frame) : List RenderedRow :=
  if ¬ l.ShowsHeadings ∧ l.rows = [] then [] else (l.alternation f).rows

theorem kind_titleRows (config : Config) (width : Nat) (t : Text) :
    ∀ row ∈ titleRows config width t, row.kind = .title := by
  unfold titleRows
  split <;> simp

theorem borderedRows_eq (hl : l.columns ≠ []) (config : Config) (title : Text) :
    l.borderedRows config title =
      titleRows config (l.frame config).tableWidth title ++ l.shownRows (l.frame config) := by
  simp only [borderedRows, shownRows, alternation, hasHeadings_iff]
  rw [if_neg (by simpa using hl)]
  by_cases hheadings : l.ShowsHeadings
  · simp only [hheadings, if_true, not_true_eq_false, false_and, if_false]
    rw [EndsWith.foldl ⟨rfl, rfl, .inl rfl⟩]
    simp [Alternation.rows, borderRow]
  · simp only [hheadings, if_false, not_false_eq_true, true_and]
    cases hrows : l.rows with
    | nil => simp
    | cons slot slots =>
      rw [foldl_of_needsTop _ rfl, List.reverse_reverse, if_neg (List.cons_ne_nil _ _)]
      intro row hrow
      exact kind_titleRows config _ title row (List.mem_reverse.mp hrow)

theorem rows_renderBordered (hl : l.columns ≠ []) (config : Config) (title : Text) :
    (l.renderBordered config title).rows =
      (titleRows config (l.frame config).tableWidth title).map (.finish config.indent) ++
        (l.shownRows (l.frameSpec config)).map (.finish config.indent) := by
  rw [renderBordered, borderedRows_eq hl, List.map_append, frame_eq]

theorem contents_alternation (l : Layout) (f : Frame) :
    (l.alternation f).contents = l.contents.map fun p => ⟨p.1, f.content p.2⟩ := by
  have hdata (last : RenderedRow) : (frameRows l f last l.rows).contents =
      ((l.rows.filterMap RowSlot.index?).map fun index => (RowKind.data, l.rowBlocks index)).map
        fun p => ⟨p.1, f.content p.2⟩ := by
    rw [contents_frameRows, List.map_map]
    rfl
  simp only [alternation, contents_eq, hasHeadings_iff]
  split
  · exact congrArg (_ :: ·) (hdata _)
  · exact hdata _

theorem kind_of_mem_contents_alternation :
    ∀ row ∈ (l.alternation f).contents, row.kind = .heading ∨ row.kind = .data := by
  rw [contents_alternation]
  refine List.forall_mem_map.mpr fun p hp => ?_
  rcases mem_contents hp with rfl | ⟨index, -, rfl⟩
  · exact .inl rfl
  · exact .inr rfl

section Alternation

variable (hrows : l.rows = slots 0 g.rows)

include hrows in
theorem runs_alternation :
    List.Forall₂ (fun run border => border.kind = .rule ↔ run ≠ []) (GridRow.ruleRuns g.rows)
      (if l.ShowsHeadings then (l.alternation f).below.map Prod.snd
        else (l.alternation f).borders) := by
  have hframe (glyph : Char) : List.Forall₂ (fun run border => border.kind = .rule ↔ run ≠ [])
      (GridRow.ruleRuns g.rows) (frameRows l f (borderRow f glyph) l.rows).borders := by
    obtain ⟨run, runs, hruns, hborders⟩ :=
      borders_frameRows (l := l) (f := f) (borderRow f glyph) 0 g.rows
    rw [hrows, hruns, hborders]
    exact forall₂_borderAt glyph run runs
  unfold alternation
  split
  · exact hframe f.glyphs.divider
  · exact hframe f.glyphs.top

include hrows in
/-- The first border has the glyph of the top or of a rule, and a border below contents has the
glyph that the contents ask for. -/
theorem borders_alternation :
    (∃ run, (l.alternation f).first = borderAt f (borderRow f f.glyphs.top) run) ∧
      ∀ p ∈ (l.alternation f).below,
        (p.1.kind = .heading ∧ ∃ run, p.2 = borderAt f (borderRow f f.glyphs.divider) run) ∨
        (p.1.kind = .data ∧ ∃ run, p.2 = borderAt f (borderRow f f.glyphs.bottom) run) := by
  have hfirst (glyph : Char) : ∃ run, (frameRows l f (borderRow f glyph) l.rows).first =
      borderAt f (borderRow f glyph) run := by
    obtain ⟨run, runs, -, hborders⟩ :=
      borders_frameRows (l := l) (f := f) (borderRow f glyph) 0 g.rows
    rw [hrows]
    exact ⟨run, (List.cons.inj hborders).1⟩
  unfold alternation
  split
  · refine ⟨⟨[], rfl⟩, List.forall_mem_cons.mpr ⟨.inl ⟨rfl, hfirst f.glyphs.divider⟩, ?_⟩⟩
    intro p hp
    exact .inr (below_frameRows (hrows ▸ hp))
  · refine ⟨hfirst f.glyphs.top, ?_⟩
    intro p hp
    exact .inr (below_frameRows (hrows ▸ hp))

include hrows in
theorem exists_borderAt : ∀ border ∈ (l.alternation f).borders,
    ∃ glyph ∈ [f.glyphs.top, f.glyphs.bottom, f.glyphs.divider],
      ∃ run, border = borderAt f (borderRow f glyph) run := by
  obtain ⟨⟨first, hfirst⟩, hbelow⟩ := borders_alternation (f := f) hrows
  refine List.forall_mem_cons.mpr ⟨⟨_, by simp, first, hfirst⟩,
    List.forall_mem_map.mpr fun p hp => ?_⟩
  rcases hbelow p hp with ⟨-, run, h⟩ | ⟨-, run, h⟩
  · exact ⟨_, by simp, run, h⟩
  · exact ⟨_, by simp, run, h⟩

include hrows in
theorem length_rules_alternation : (rowsOf .rule (l.alternation f).rows).length =
    (GridRow.ruleRuns g.rows).countP (!·.isEmpty) := by
  have hkinds : ∀ row ∈ (l.alternation f).contents, row.kind ≠ .rule := by
    intro row hrow
    rcases kind_of_mem_contents_alternation row hrow with h | h <;> simp [h]
  rw [Alternation.length_rowsOf_rows hkinds, ← countP_rule_eq (runs_alternation (f := f) hrows)]
  split
  · next hheadings =>
    -- The border above headings stands for no run, and it is no rule.
    have htop : (l.alternation f).first.kind = .guideline := by
      rw [alternation, if_pos hheadings]
      rfl
    rw [Alternation.borders, List.countP_cons_of_neg (by simp [htop])]
  · rfl

theorem finish_border (l : Layout) (config : Config) (kind : RowKind) (glyph : Char) :
    RenderedRow.finish config.indent ⟨kind, [(l.frameSpec config).border glyph]⟩ =
      ⟨kind, [l.borderLine config glyph]⟩ := by
  rw [Frame.border_eq, borderLine, RenderedRow.finish, frameSpec, List.map_map]
  rfl

/-- A finished border has the divider where there are rules, and else its own glyph. -/
theorem lines_finish_borderAt (l : Layout) (config : Config) (glyph : Char) (run : List GridRow) :
    ((borderAt (l.frameSpec config) (borderRow (l.frameSpec config) glyph) run).finish
      config.indent).lines =
        [l.borderLine config (if run.isEmpty then glyph else config.glyphAt 4)] := by
  cases run with
  | nil => exact congrArg RenderedRow.lines (finish_border l config .guideline glyph)
  | cons => exact congrArg RenderedRow.lines (finish_border l config .rule (config.glyphAt 4))

theorem showsBlocks_content (hr : l.IsRegular config inner natural) {p : RowKind × List (List Text)}
    (hp : p ∈ l.contents) : l.ShowsBlocks config p
      (RenderedRow.finish config.indent ⟨p.1, (l.frameSpec config).content p.2⟩) where
  kind_eq := rfl
  length_eq block hb := by
    rw [height_of_mem_contents hr hp block hb]
    simp [RenderedRow.finish, Frame.content, frameSpec, toSize_eq_mod]
  line_eq i line hline := by
    simp only [RenderedRow.finish, Frame.content, List.getElem?_map,
      Option.map_eq_some_iff] at hline
    obtain ⟨-, ⟨i', hi', rfl⟩, rfl⟩ := hline
    obtain ⟨hi, rfl⟩ := List.getElem?_eq_some_iff.mp hi'
    rw [List.length_range] at hi
    rw [List.getElem_range, Frame.contentLine_eq_zipWith fun block hb => ?_]
    · rfl
    · rw [height_of_mem_contents hr hp block hb]
      exact hi.trans_le (toSize_le _)

include hrows in
/-- A finished border is one line, and one for rules has the divider. -/
theorem borders_finish_alternation :
    ∀ border ∈ ((l.alternation (l.frameSpec config)).finish config.indent).borders,
      border.kind.isBorder = true ∧ border.lines.length = 1 ∧
        (border.kind = .rule → border.lines = [l.borderLine config (config.glyphAt 4)]) := by
  rw [Alternation.borders_finish]
  refine List.forall_mem_map.mpr fun border hb => ?_
  obtain ⟨glyph, -, run, rfl⟩ := exists_borderAt hrows border hb
  rw [lines_finish_borderAt]
  refine ⟨?_, List.length_singleton, fun hkind => ?_⟩
  · cases run <;> rfl
  · rw [if_neg (by simpa using kind_borderAt.mp hkind)]

include hrows in
/-- A finished border below contents has the glyph that they ask for unless rules stand there. -/
theorem below_finish_alternation :
    ∀ p ∈ ((l.alternation (l.frameSpec config)).finish config.indent).below,
      (p.1.kind = .heading → p.2.lines = [l.borderLine config (config.glyphAt 4)]) ∧
        (p.1.kind = .data → p.2.kind = .guideline →
          p.2.lines = [l.borderLine config (config.glyphAt 1)]) := by
  refine List.forall_mem_map.mpr fun p hp => ?_
  rcases (borders_alternation hrows).2 p hp with ⟨hkind, run, hrun⟩ | ⟨hkind, run, hrun⟩
  · refine ⟨fun _ => ?_, fun hdata => ?_⟩
    · rw [hrun, lines_finish_borderAt]
      exact congrArg (fun glyph => [l.borderLine config glyph]) (ite_self _)
    · rw [RenderedRow.finish, hkind] at hdata
      contradiction
  · refine ⟨fun hheading => ?_, fun _ hguideline => ?_⟩
    · rw [RenderedRow.finish, hkind] at hheading
      contradiction
    · rw [hrun] at hguideline ⊢
      cases run with
      | nil => exact lines_finish_borderAt l config _ []
      | cons => contradiction

include hrows in
theorem runs_finish_alternation (indent : Text) :
    List.Forall₂ (fun run border => border.kind = .rule ↔ run ≠ []) (GridRow.ruleRuns g.rows)
      (if l.ShowsHeadings then ((l.alternation f).finish indent).below.map Prod.snd
        else ((l.alternation f).finish indent).borders) := by
  have hruns := runs_alternation (f := f) hrows
  split at hruns
  · next h =>
    rw [if_pos h, Alternation.finish, List.map_map, List.forall₂_map_right_iff]
    exact List.forall₂_map_right_iff.mp hruns
  · next h =>
    rw [if_neg h, Alternation.borders_finish, List.forall₂_map_right_iff]
    exact hruns

include hrows in
theorem isAlternation_finish (hr : l.IsRegular config inner natural) : l.IsAlternation config g
    ((l.alternation (l.frameSpec config)).finish config.indent) where
  contents := by
    rw [Alternation.contents_finish, contents_alternation, List.map_map,
      List.forall₂_map_right_iff, List.forall₂_same]
    exact fun p hp => showsBlocks_content hr hp
  border_kind border hb := (borders_finish_alternation hrows border hb).1
  border_lines border hb := (borders_finish_alternation hrows border hb).2.1
  runs := runs_finish_alternation hrows config.indent
  rules := by
    rw [Alternation.rows_finish, rowsOf_map_finish, List.length_map]
    exact length_rules_alternation hrows
  rule_glyph border hb := (borders_finish_alternation hrows border hb).2.2
  top_glyph hkind := by
    obtain ⟨first, hfirst⟩ := (borders_alternation (f := l.frameSpec config) hrows).1
    rw [Alternation.finish, hfirst] at hkind ⊢
    obtain rfl : first = [] := by
      by_contra hne
      exact hkind (kind_borderAt.mpr hne)
    exact lines_finish_borderAt l config _ []
  heading_glyph p hp := (below_finish_alternation hrows p hp).1
  bottom_glyph p hp := (below_finish_alternation hrows p hp).2

include hrows in
theorem hasBorders_shownRows (hr : l.IsRegular config inner natural) : l.HasBorders config g
    ((l.shownRows (l.frameSpec config)).map (.finish config.indent)) := by
  have hnil : l.rows = [] ↔ g.rows = [] := by
    rw [hrows, ← List.length_eq_zero_iff, length_slots, List.length_eq_zero_iff]
  unfold shownRows
  split
  · next h =>
    rw [hnil] at h
    exact ⟨iff_of_true rfl h, fun hne => absurd rfl hne⟩
  · next h =>
    rw [hnil] at h
    rw [← Alternation.rows_finish]
    refine ⟨iff_of_false (List.cons_ne_nil _ _) h, fun _ => ⟨_, rfl, ?_⟩⟩
    exact isAlternation_finish hrows hr

end Alternation

end Layout

namespace Table

variable {t : Table} {g : Grid} {l : Layout}

theorem slots_withoutVerticalRules (k : Nat) (g : Grid) :
    Layout.slots k g.withoutVerticalRules.rows = Layout.slots k g.rows := by
  obtain ⟨columns, rows⟩ := g
  simp only [Grid.withoutVerticalRules]
  induction rows generalizing k with
  | nil => rfl
  | cons row rows ih =>
    cases row with
    | cells slots => exact congrArg (RowSlot.data k :: ·) (ih (k + 1))
    | rule => exact congrArg (RowSlot.rule :: ·) (ih k)

theorem rows_layoutGrid_withoutVerticalRules (hl : t.layoutGrid g.withoutVerticalRules = .ok l) :
    l.rows = Layout.slots 0 g.rows := by
  obtain ⟨f, columns, -, -, -, -, rfl⟩ := layoutGrid_eq_ok hl
  exact slots_withoutVerticalRules 0 g

theorem columns_ne_nil {natural : List Column} {config : Config}
    (hdata : ∃ column ∈ g.columns, column.isRule = false)
    (hr : l.IsRegular config g.withoutVerticalRules natural) : l.columns ≠ [] := by
  obtain ⟨column, hcolumn, hrule⟩ := hdata
  refine List.ne_nil_of_length_pos ?_
  rw [hr.length_columns]
  exact List.length_pos_of_mem (List.mem_filter.mpr ⟨hcolumn, by simp [hrule]⟩)

def rulesGrid : Grid where
  columns := [.verticalRule, .data ['h'] []]
  rows := [.cells [none, some (.string ['x'])], .rule, .rule, .cells [none, some (.string ['y'])]]

def rulesRows : List RenderedRow :=
  [⟨.guideline, ["+^^^+".toList]⟩, ⟨.heading, ["| h |".toList]⟩, ⟨.guideline, ["+===+".toList]⟩,
    ⟨.data, ["| x |".toList]⟩, ⟨.rule, ["+===+".toList]⟩,
    ⟨.data, ["| y |".toList]⟩, ⟨.guideline, ["+___+".toList]⟩]

end Table

end TextTable
