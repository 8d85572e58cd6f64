import TextTable.Proofs.Table.Borders
import TextTable.Proofs.Table.Failure
import TextTable.Proofs.Table.Independence

/-! # Plain and bordered layouts

A bordered table is laid out without its vertical rules. That is its plain layout with the vertical
rules taken out afterwards, except that cells are known by the numbers of their columns among the
data columns.
-/

namespace TextTable

def Grid.dataIndex (g : Grid) (column : Nat) : Nat :=
  (g.columns.take column).countP (!·.isRule)

def CellError.renumber (g : Grid) (e : CellError) : CellError :=
  { e with column := g.dataIndex e.column }

def TableError.mapCell (h : CellError → CellError) : TableError → TableError
  | .cell e => .cell (h e)
  | .config e => .config e

/-- The formatter whose handler takes cells for those of the grid without vertical rules. -/
def CellFormatter.renumbering (g : Grid) (f : CellFormatter) : CellFormatter :=
  { f with handler := some fun e => f.handle (e.renumber g) }

/-- The table whose handler takes cells for those of the grid without vertical rules. -/
def Table.renumbering (g : Grid) (t : Table) : Table :=
  { t with handler := some fun e =>
      (t.handler.getD t.config.onCellError.handle) (e.renumber g) }

def Layout.withoutVerticalRules (separator : Text) (l : Layout) : Layout :=
  { columns := dataColumns l.columns
    rows := l.rows
    separators := separatorsOf separator (dataColumns l.columns) }

namespace Grid

variable {g : Grid} {i : Nat} {heading text : Text}

theorem dataIndex_le (g : Grid) (column : Nat) : g.dataIndex column ≤ column :=
  List.countP_le_length.trans (List.length_take_le _ _)

theorem dataIndex_eq_self_iff (hi : i < g.columns.length) :
    g.dataIndex i = i ↔ .verticalRule ∉ g.columns.take i := by
  have hlength : (g.columns.take i).length = i := List.length_take_of_le hi.le
  rw [dataIndex]
  nth_rewrite 2 [← hlength]
  rw [List.countP_eq_length]
  constructor
  · intro h hmem
    exact absurd (h _ hmem) (by decide)
  · intro h column hmem
    cases column with
    | data => rfl
    | verticalRule => contradiction

theorem getElem?_filter_zip {columns : List GridColumn} (slots : List (Option Value))
    (hc : columns[i]? = some (.data heading text)) :
    (((columns.zip slots).filter fun (column, _) => !column.isRule).map Prod.snd)[
      (columns.take i).countP (!·.isRule)]? = slots[i]? := by
  induction columns generalizing slots i with
  | nil => contradiction
  | cons column columns ih =>
    cases slots with
    | nil => simp
    | cons slot slots =>
      cases i with
      | zero =>
        cases hc
        rfl
      | succ i =>
        cases column with
        | data => simpa [GridColumn.isRule] using ih slots hc
        | verticalRule => simpa [GridColumn.isRule] using ih slots hc

theorem cellsOf_withoutVerticalRules (hc : g.columns[i]? = some (.data heading text)) :
    g.withoutVerticalRules.cellsOf (g.dataIndex i) = g.cellsOf i := by
  rw [cellsOf, cellsOf, withoutVerticalRules, List.zipIdx_map, List.filterMap_map]
  refine List.filterMap_congr ?_
  rintro ⟨row, r⟩ -
  cases row with
  | cells slots =>
    have hslot := getElem?_filter_zip slots hc
    simp [dataIndex, hslot]
  | rule => rfl

end Grid

namespace CellFormatter

variable {f : CellFormatter} {registry : Registry} {g : Grid} {i : Nat} {heading text : Text}
  {h : CellError → CellError}

theorem format_renumbering (format : ColumnFormat) (row column : Nat) (v : Value) :
    f.format format row (g.dataIndex column) v =
      (f.renumbering g).format format row column v := by
  cases v <;> rfl

theorem column_data (heading text : Text) :
    f.column registry g i (.data heading text) =
      (f.texts (.resolve registry (.parse f.config text)) i (g.cellsOf i)).map
        (.ofTexts f.config (.resolve registry (.parse f.config text))
          (Column.autoAlign ((g.cellsOf i).head?.bind Prod.snd)) heading) := rfl

theorem column_withoutVerticalRules (hc : g.columns[i]? = some (.data heading text)) :
    f.column registry g.withoutVerticalRules (g.dataIndex i) (.data heading text) =
      (f.renumbering g).column registry g i (.data heading text) := by
  rw [column_data, column_data, Grid.cellsOf_withoutVerticalRules hc]
  rfl

theorem mapM_column_withoutVerticalRules (before after : List GridColumn)
    (hg : g.columns = before ++ after) :
    ((after.filter (!·.isRule)).zipIdx (before.countP (!·.isRule))).mapM
        (fun p => f.column registry g.withoutVerticalRules p.2 p.1) =
      ((after.zipIdx before.length).mapM
        fun p => (f.renumbering g).column registry g p.2 p.1).map Layout.dataColumns := by
  -- A column is known by the columns before it, of which the data columns give its new number.
  induction after generalizing before with
  | nil => rfl
  | cons column after ih =>
    have hget : g.columns[before.length]? = some column := by simp [hg]
    have hrest := ih (before ++ [column]) (by simp [hg])
    rw [List.countP_append, List.length_append, List.length_singleton] at hrest
    cases column with
    | data heading text =>
      have hcolumn : f.column registry g.withoutVerticalRules (before.countP (!·.isRule))
          (.data heading text) =
            (f.renumbering g).column registry g before.length (.data heading text) := by
        rw [← column_withoutVerticalRules hget, Grid.dataIndex, hg, List.take_left]
      rw [List.filter_cons_of_pos rfl, List.zipIdx_cons, List.zipIdx_cons, List.mapM_cons,
        List.mapM_cons, hcolumn]
      cases hmade : (f.renumbering g).column registry g before.length (.data heading text) with
      | error e => rfl
      | ok c =>
        have hrule : c.verticalRule = false := verticalRule_of_column hmade
        refine (congrArg (fun rest => do return c :: (← rest)) hrest).trans ?_
        cases (after.zipIdx (before.length + 1)).mapM
            fun p => (f.renumbering g).column registry g p.2 p.1 with
        | error e => rfl
        | ok columns =>
          exact congrArg Except.ok (List.filter_cons_of_pos (by simp [hrule])).symm
    | verticalRule =>
      rw [List.filter_cons_of_neg Bool.false_ne_true, List.zipIdx_cons, List.mapM_cons]
      refine hrest.trans ?_
      cases (after.zipIdx (before.length + 1)).mapM
          fun p => (f.renumbering g).column registry g p.2 p.1 with
      | error e => rfl
      | ok columns => rfl

/-- The data columns of a grid are those of the grid without vertical rules. -/
theorem columns_withoutVerticalRules : f.columns registry g.withoutVerticalRules =
    ((f.renumbering g).columns registry g).map Layout.dataColumns :=
  mapM_column_withoutVerticalRules [] g.columns rfl

section MapError

variable (hh : ∀ e, f.FailsAt registry g e → f.handle (e.renumber g) = (f.handle e).mapError h)

include hh in
theorem format_mapError (hc : g.columns[i]? = some (.data heading text)) {r : Nat} {v : Value}
    (hv : g.value? r i = some v) :
    (f.renumbering g).format (.resolve registry (.parse f.config text)) r i v =
      (f.format (.resolve registry (.parse f.config text)) r i v).mapError h := by
  by_cases hnull : v = .null
  · rw [hnull]
    rfl
  · rw [← format_renumbering, format_of_ne_null hnull, format_of_ne_null hnull]
    cases hcall : (f.function (.resolve registry (.parse f.config text))).call v
        (f.spec (.resolve registry (.parse f.config text)) v) with
    | ok t => rfl
    | error source => exact hh _ (.intro hc rfl hv hnull (givenSpec_iff.mpr rfl) hcall)

include hh in
theorem column_mapError {column : GridColumn} (hc : g.columns[i]? = some column) :
    (f.renumbering g).column registry g i column =
      (f.column registry g i column).mapError h := by
  cases column with
  | verticalRule => rfl
  | data heading text =>
    have htexts : (f.renumbering g).texts (.resolve registry (.parse f.config text)) i
        (g.cellsOf i) =
          (f.texts (.resolve registry (.parse f.config text)) i (g.cellsOf i)).mapError h := by
      refine mapM_eq_mapError ?_
      rintro ⟨r, slot⟩ hmem
      cases slot with
      | none => rfl
      | some v => exact format_mapError hh hc (Grid.some_mem_cellsOf.mp hmem)
    rw [column_data, column_data]
    refine (congrArg (Except.map _) htexts).trans ?_
    cases f.texts (.resolve registry (.parse f.config text)) i (g.cellsOf i) <;> rfl

include hh in
theorem columns_mapError :
    (f.renumbering g).columns registry g = (f.columns registry g).mapError h := by
  refine mapM_eq_mapError ?_
  rintro ⟨column, i⟩ hmem
  exact column_mapError hh (List.mem_zipIdx_iff_getElem?.mp hmem)

end MapError

end CellFormatter

namespace Layout

variable {config : Config} {g : Grid} {columns : List Column}

theorem dataColumns_dataColumns (columns : List Column) :
    dataColumns (dataColumns columns) = dataColumns columns := by
  rw [dataColumns, dataColumns, List.filter_filter]
  simp only [Bool.and_self]

theorem dataColumns_map {h : Column → Column} (hh : ∀ c, (h c).verticalRule = c.verticalRule)
    (columns : List Column) :
    dataColumns (columns.map h) = (dataColumns columns).map h := by
  rw [dataColumns, dataColumns, List.filter_map]
  congr 1
  exact List.filter_congr fun c _ => congrArg (!·) (hh c)

theorem separatorsOf_map {h : Column → Column} (hl : ∀ c, (h c).lsep = c.lsep)
    (hr : ∀ c, (h c).rsep = c.rsep) (default : Text) (columns : List Column) :
    separatorsOf default (columns.map h) = separatorsOf default columns := by
  fun_induction separatorsOf default columns with
  | case1 => rfl
  | case2 => rfl
  | case3 left right rest ih =>
    simp only [List.map_cons, separatorsOf, hl, hr] at ih ⊢
    rw [ih]

theorem ofColumns_withoutVerticalRules :
    ofColumns config g.withoutVerticalRules (dataColumns columns) =
      (ofColumns config g columns).withoutVerticalRules config.separator := by
  have hheading : headingHeightOf (dataColumns columns) = headingHeightOf columns := by
    rw [headingHeightOf, dataColumns_dataColumns]
    rfl
  have hheights : rowHeight config (dataColumns columns) = rowHeight config columns := by
    ext index
    rw [rowHeight, dataColumns_dataColumns]
    rfl
  rw [ofColumns, ofColumns, withoutVerticalRules, Table.dataRows_withoutVerticalRules,
    Table.slots_withoutVerticalRules, hheading, hheights]
  congr 1
  · rw [dataColumns_map fun _ => verticalRule_fitColumn]
  · rw [dataColumns_map fun _ => verticalRule_fitColumn,
      separatorsOf_map (fun _ => lsep_fitColumn) fun _ => rsep_fitColumn]

end Layout

namespace Table

variable {t : Table} {g : Grid} {f : CellFormatter} {h : CellError → CellError}

theorem handler_of_formatter (hf : t.formatter = .ok f) : f.handler = t.handler := by
  obtain ⟨_, -, hf⟩ := bind_eq_ok_iff.mp hf
  obtain ⟨_, -, hf⟩ := bind_eq_ok_iff.mp hf
  cases hf
  rfl

theorem formatter_handler (handler : Option ErrorHandler) :
    ({ t with handler } : Table).formatter = t.formatter.map ({ · with handler }) := by
  have hdefault : ({ t with handler } : Table).defaultFunction = t.defaultFunction := rfl
  rw [formatter, formatter, hdefault]
  change t.config.validate >>= _ = _
  cases t.config.validate with
  | error e => rfl
  | ok => cases t.defaultFunction <;> rfl

theorem formatter_renumbering :
    (t.renumbering g).formatter = t.formatter.map (·.renumbering g) := by
  rw [renumbering, formatter_handler]
  cases hf : t.formatter with
  | error e => rfl
  | ok f =>
    rw [← config_of_formatter hf, ← handler_of_formatter hf]
    rfl

theorem layoutGrid_renumbering : (t.renumbering g).layoutGrid g =
    (t.formatter.mapError TableError.config).bind fun f =>
      (((f.renumbering g).columns t.registry g).map (.ofColumns f.config g)).mapError .cell := by
  rw [layoutGrid, formatter_renumbering]
  cases t.formatter <;> rfl

/-- A bordered table is laid out as the plain one, with cells known by the numbers of their columns
among the data columns. -/
theorem layoutGrid_withoutVerticalRules : t.layoutGrid g.withoutVerticalRules =
    ((t.renumbering g).layoutGrid g).map (·.withoutVerticalRules t.config.separator) := by
  rw [layoutGrid_renumbering]
  cases hf : t.formatter with
  | error e =>
    rw [layoutGrid_eq_error hf]
    rfl
  | ok f =>
    rw [layoutGrid_eq hf, Layout.ofGrid_eq, CellFormatter.columns_withoutVerticalRules,
      ← config_of_formatter hf]
    simp only [Except.mapError, Except.bind]
    cases (f.renumbering g).columns t.registry g with
    | error e => rfl
    | ok columns => exact congrArg Except.ok Layout.ofColumns_withoutVerticalRules

theorem layoutGrid_mapError
    (hh : ∀ f, t.formatter = .ok f → ∀ e, f.FailsAt t.registry g e →
      f.handle (e.renumber g) = (f.handle e).mapError h) :
    (t.renumbering g).layoutGrid g = (t.layoutGrid g).mapError (.mapCell h) := by
  rw [layoutGrid_renumbering]
  cases hf : t.formatter with
  | error e =>
    rw [layoutGrid_eq_error hf]
    rfl
  | ok f =>
    rw [layoutGrid_eq hf, Layout.ofGrid_eq]
    simp only [Except.mapError, Except.bind]
    rw [CellFormatter.columns_mapError (hh f hf)]
    cases f.columns t.registry g <;> rfl

theorem renderGrid_eq_error_iff {title : Text} {style : Style} {e : TableError} :
    t.renderGrid g title style = .error e ↔ t.layoutGrid (gridOf style g) = .error e := by
  rw [renderGrid, bind_eq_error_iff]
  refine or_iff_left ?_
  rintro ⟨l, -, h⟩
  cases h

def FailsLeft (t : Table) (g : Grid) : Prop :=
  ∀ f, t.formatter = .ok f → ∀ e, f.FailsAt t.registry g e →
    .verticalRule ∉ g.columns.take e.column

theorem lt_of_failsAt {registry : Registry} {e : CellError} (he : f.FailsAt registry g e) :
    e.column < g.columns.length := by
  obtain ⟨hcolumn, -⟩ := he
  exact (List.getElem?_eq_some_iff.mp hcolumn).1

theorem renumber_eq_self (ht : t.FailsLeft g) (hf : t.formatter = .ok f) {e : CellError}
    (he : f.FailsAt t.registry g e) : e.renumber g = e := by
  rw [CellError.renumber, (Grid.dataIndex_eq_self_iff (lt_of_failsAt he)).mpr (ht f hf e he)]

theorem layoutGrid_of_failsLeft (ht : t.FailsLeft g) : t.layoutGrid g.withoutVerticalRules =
    (t.layoutGrid g).map (·.withoutVerticalRules t.config.separator) := by
  have hid : (t.renumbering g).layoutGrid g = (t.layoutGrid g).mapError (.mapCell id) := by
    refine layoutGrid_mapError fun f hf e he => ?_
    rw [renumber_eq_self ht hf he]
    cases f.handle e <;> rfl
  rw [layoutGrid_withoutVerticalRules, hid]
  rcases t.layoutGrid g with (_ | _) | _ <;> rfl

theorem layoutGrid_of_handler_eq_none (ht : t.handler = none) :
    t.layoutGrid g.withoutVerticalRules =
      ((t.layoutGrid g).mapError (.mapCell (.renumber g))).map
        (·.withoutVerticalRules t.config.separator) := by
  rw [layoutGrid_withoutVerticalRules, layoutGrid_mapError]
  intro f hf e _
  have hhandler : f.handler = none := (handler_of_formatter hf).trans ht
  rw [CellFormatter.handle_eq_policy hhandler, CellFormatter.handle_eq_policy hhandler]
  cases f.config.onCellError <;> rfl

/-- The two styles fail alike. -/
def FailsAlike (t : Table) (g : Grid) : Prop :=
  ∀ e, t.layoutGrid g.withoutVerticalRules = .error e ↔ t.layoutGrid g = .error e

theorem failsAlike_of_failsLeft (ht : t.FailsLeft g) : t.FailsAlike g := by
  intro e
  rw [layoutGrid_of_failsLeft ht, map_eq_error_iff]

theorem failsAt_handler {registry : Registry} {handler : Option ErrorHandler} {e : CellError} :
    ({ f with handler } : CellFormatter).FailsAt registry g e ↔ f.FailsAt registry g e := by
  constructor
  · rintro ⟨hcolumn, hformat, hvalue, hnull, hspec, hcall⟩
    exact .intro hcolumn hformat hvalue hnull hspec hcall
  · rintro ⟨hcolumn, hformat, hvalue, hnull, hspec, hcall⟩
    exact .intro hcolumn hformat hvalue hnull hspec hcall

theorem failsLeft_handler {handler : Option ErrorHandler} :
    ({ t with handler } : Table).FailsLeft g ↔ t.FailsLeft g := by
  constructor
  · intro h f hf e he
    refine h { f with handler } ?_ e (failsAt_handler.mpr he)
    rw [formatter_handler, hf]
    rfl
  · intro h f hf e he
    rw [formatter_handler, map_eq_ok_iff] at hf
    obtain ⟨f, hf, rfl⟩ := hf
    exact h f hf e (failsAt_handler.mp he)

def failingAt (e : CellError) : ErrorHandler := fun e' => if e' = e then .error e else .ok []

theorem failingAt_eq_error_iff {e e' e₀ : CellError} :
    failingAt e e₀ = .error e' ↔ e₀ = e ∧ e' = e := by
  unfold failingAt
  split <;> simp_all [eq_comm]

/-- If the styles fail alike whatever the handler is, then every cell that fails keeps the number
of its column. -/
theorem renumber_eq_self_of_failsAlike (h : ∀ handler, FailsAlike { t with handler } g)
    (hf : t.formatter = .ok f) {e : CellError} (he : f.FailsAt t.registry g e) :
    e.renumber g = e := by
  -- From the right: a cell that is taken for this one is no cell further right, since those keep
  -- their numbers already.
  induction hn : g.columns.length - e.column using Nat.strong_induction_on generalizing e with
  | _ n ih =>
    have hformatter : ({ t with handler := some (failingAt e) } : Table).formatter =
        .ok { f with handler := some (failingAt e) } := by
      rw [formatter_handler, hf]
      rfl
    have hplain : ({ t with handler := some (failingAt e) } : Table).layoutGrid g =
        .error (.cell e) := by
      refine (layoutGrid_eq_error_iff hformatter).mpr ⟨e, e, rfl, failsAt_handler.mpr he, ?_, ?_⟩
      · exact failingAt_eq_error_iff.mpr ⟨rfl, rfl⟩
      · intro e₁ _ hbefore
        refine ⟨[], if_neg ?_⟩
        rintro rfl
        rcases hbefore with hlt | ⟨-, hlt⟩
        · exact Nat.lt_irrefl _ hlt
        · exact Nat.lt_irrefl _ hlt
    have hbordered := (h (some (failingAt e)) (.cell e)).mpr hplain
    have hrenumbering :=
      formatter_renumbering (t := { t with handler := some (failingAt e) }) (g := g)
    rw [hformatter] at hrenumbering
    rw [layoutGrid_withoutVerticalRules, map_eq_error_iff, layoutGrid_eq_error_iff hrenumbering]
      at hbordered
    obtain ⟨e₀, e', -, hfail, hhandle, -⟩ := hbordered
    have he₀ : f.FailsAt t.registry g e₀ := failsAt_handler.mp hfail
    obtain ⟨heq, -⟩ := failingAt_eq_error_iff.mp hhandle
    have hcolumn : g.dataIndex e₀.column = e.column := congrArg CellError.column heq
    rcases Nat.lt_or_ge e.column e₀.column with hlt | hle
    · have hlength := lt_of_failsAt he₀
      have hself := ih _ (by omega) he₀ rfl
      rw [← heq, hself] at hlt
      exact absurd hlt (Nat.lt_irrefl _)
    · have hsame : e₀.column = e.column :=
        Nat.le_antisymm hle (hcolumn ▸ Grid.dataIndex_le g e₀.column)
      have he₀ : e₀ = e := by
        rw [← heq, CellError.renumber, hcolumn, ← hsame]
      rwa [he₀] at heq

theorem failsLeft_iff : (∀ handler, FailsAlike { t with handler } g) ↔ t.FailsLeft g := by
  constructor
  · intro h f hf e he
    have hself := renumber_eq_self_of_failsAlike h hf he
    exact (Grid.dataIndex_eq_self_iff (lt_of_failsAt he)).mp (congrArg CellError.column hself)
  · intro h handler
    exact failsAlike_of_failsLeft (failsLeft_handler.mpr h)

/-- How a table of some columns is laid out in the two styles, and how it fails. -/
structure RendersInStyles (t : Table) (input : List ColumnInput) (title : Text) : Prop where
  error_iff : ∀ e, t.renderColumns input title .bordered = .error e ↔
    (t.renumbering (.ofColumns input)).renderColumns input title .plain = .error e
  layout_eq : t.layoutGrid (gridOf .bordered (.ofColumns input)) =
    ((t.renumbering (.ofColumns input)).layoutGrid (.ofColumns input)).map
      (·.withoutVerticalRules t.config.separator)
  /-- Without a handler, both styles fail on the same cell. -/
  unhandled : t.handler = none → ∀ e, t.renderColumns input title .bordered = .error e ↔
    ∃ e', t.renderColumns input title .plain = .error e' ∧
      e'.mapCell (.renumber (.ofColumns input)) = e
  alike_iff : (∀ handler e,
      ({ t with handler } : Table).renderColumns input title .bordered = .error e ↔
        ({ t with handler } : Table).renderColumns input title .plain = .error e) ↔
    t.FailsLeft (.ofColumns input)
  /-- A handler gives a cell the same text in both styles. -/
  layout_of_failsLeft : t.FailsLeft (.ofColumns input) →
    t.layoutGrid (gridOf .bordered (.ofColumns input)) =
      (t.layoutGrid (.ofColumns input)).map (·.withoutVerticalRules t.config.separator)

/-- The styles differ by the numbers of columns that a handler sees and that errors hold, which
count vertical rules only in a plain table. -/
theorem renderColumns_inStyles (t : Table) (input : List ColumnInput) (title : Text) :
    t.RendersInStyles input title where
  error_iff e := by
    simp only [renderColumns, renderGrid_eq_error_iff, gridOf]
    rw [layoutGrid_withoutVerticalRules, map_eq_error_iff]
  layout_eq := layoutGrid_withoutVerticalRules
  unhandled ht e := by
    simp only [renderColumns, renderGrid_eq_error_iff, gridOf]
    rw [layoutGrid_of_handler_eq_none ht, map_eq_error_iff, mapError_eq_error_iff]
  alike_iff := by
    simp only [renderColumns, renderGrid_eq_error_iff, gridOf]
    exact failsLeft_iff
  layout_of_failsLeft := layoutGrid_of_failsLeft

def ruleFirst : List ColumnInput := [.verticalRule, .column ['a'] ['d'] [.string ['x']]]

def ruleLast : List ColumnInput := [.column ['a'] ['d'] [.string ['x']], .verticalRule]

theorem ruleLast_inStyles :
    ({} : Table).FailsLeft (.ofColumns ruleLast) ∧
      ({} : Table).renderColumns ruleLast [] .plain = .error (.cell
        { row := 0, column := 0, spec := ['d'], source := .typeMismatch 'd' .string }) ∧
      ({} : Table).renderColumns ruleLast [] .bordered = .error (.cell
        { row := 0, column := 0, spec := ['d'], source := .typeMismatch 'd' .string }) ∧
      ({} : Table).renderColumns ruleFirst [] .bordered = .error (.cell
        { row := 0, column := 0, spec := ['d'], source := .typeMismatch 'd' .string }) := by
  have hleft : ({} : Table).FailsLeft (.ofColumns ruleLast) := by
    rintro f - ⟨row, column, spec, source⟩ he
    obtain ⟨hcolumn, -⟩ := he
    rcases column with _ | _ | column
    · exact List.not_mem_nil
    · cases hcolumn
    · cases hcolumn
  have hplain : ({} : Table).renderColumns ruleLast [] .plain = .error (.cell
      { row := 0, column := 0, spec := ['d'], source := .typeMismatch 'd' .string }) := by
    decide +kernel
  refine ⟨hleft, hplain, ?_, ?_⟩
  · exact ((renderColumns_inStyles {} ruleLast []).alike_iff.mpr hleft none _).mpr hplain
  · refine ((renderColumns_inStyles {} ruleFirst []).unhandled rfl _).mpr ⟨.cell
      { row := 0, column := 1, spec := ['d'], source := .typeMismatch 'd' .string }, ?_, rfl⟩
    decide +kernel

/-- The column of an error is not the same in both styles. -/
theorem not_forall_renderColumns_eq_error :
    ¬ ∀ (t : Table) (input : List ColumnInput) (title : Text) (e : TableError),
      t.renderColumns input title .bordered = .error e ↔
        t.renderColumns input title .plain = .error e := by
  intro h
  have hplain : ({} : Table).renderColumns ruleFirst [] .plain = .error (.cell
      { row := 0, column := 1, spec := ['d'], source := .typeMismatch 'd' .string }) := by
    decide +kernel
  have hbordered : ({} : Table).renderColumns ruleFirst [] .bordered = .error (.cell
      { row := 0, column := 0, spec := ['d'], source := .typeMismatch 'd' .string }) := by
    decide +kernel
  cases hbordered.symm.trans ((h {} ruleFirst [] _).mpr hplain)

end Table

end TextTable
