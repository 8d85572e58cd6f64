import TextTable.Proofs.Table.Rectangle

/-! # Cells that cannot be formatted

Columns are formatted from left to right, and the cells of a column from top to bottom. So a layout
ends with the first error that is not replaced by a text, and without such an error it is the layout
of the texts of all cells.
-/

namespace TextTable

/-- Columns come before rows. -/
def CellError.Before (e e' : CellError) : Prop :=
  e.column < e'.column ∨ e.column = e'.column ∧ e.row < e'.row

namespace Grid

variable {g : Grid} {i r : Nat}

/-- The value of a cell. A rule has none, nor has a cell that is missing. -/
def value? (g : Grid) (row column : Nat) : Option Value :=
  match g.rows[row]? with
  | some (.cells slots) => slots[column]?.join
  | _ => none

theorem mem_cellsOf {slot : Option Value} :
    (r, slot) ∈ g.cellsOf i ↔
      ∃ slots, g.rows[r]? = some (.cells slots) ∧ slots[i]?.join = slot := by
  simp only [cellsOf, List.mem_filterMap, Prod.exists, List.mem_zipIdx_iff_getElem?]
  constructor
  · rintro ⟨row, r', hrow, h⟩
    cases row with
    | cells slots =>
      cases h
      exact ⟨slots, hrow, rfl⟩
    | rule => contradiction
  · rintro ⟨slots, hrow, rfl⟩
    exact ⟨.cells slots, r, hrow, rfl⟩

theorem value?_of_mem_cellsOf {slot : Option Value} (h : (r, slot) ∈ g.cellsOf i) :
    g.value? r i = slot := by
  obtain ⟨slots, hrow, hslot⟩ := mem_cellsOf.mp h
  rw [value?, hrow]
  exact hslot

theorem some_mem_cellsOf {v : Value} : (r, some v) ∈ g.cellsOf i ↔ g.value? r i = some v := by
  refine ⟨value?_of_mem_cellsOf, fun h => mem_cellsOf.mpr ?_⟩
  unfold value? at h
  split at h
  · next slots hrow => exact ⟨slots, hrow, h⟩
  · contradiction

theorem pairwise_zipIdx {γ : Type} (xs : List γ) : xs.zipIdx.Pairwise (·.2 < ·.2) := by
  have h := List.pairwise_lt_range' (s := 0) (n := xs.length)
  rw [← List.zipIdx_map_snd] at h
  exact List.pairwise_map.mp h

theorem pairwise_cellsOf (g : Grid) (i : Nat) : (g.cellsOf i).Pairwise (·.1 < ·.1) := by
  refine List.pairwise_filterMap.mpr ((pairwise_zipIdx g.rows).imp ?_)
  rintro ⟨row, r⟩ ⟨row', r'⟩ hlt c hc c' hc'
  cases row <;> cases row' <;> cases hc <;> cases hc'
  exact hlt

end Grid

namespace CellFormatter

/-- The spec that the function of a column is given with a value. The column has it, unless the
built-in `format` shows a number and the column has none. -/
inductive GivenSpec (config : Config) (function : FormatFunction) : Text → Value → Text → Prop
  | float {x : Double} (hf : function = .builtin .format) :
      GivenSpec config function [] (.float x) config.floatSpec
  | int {n : Int} (hf : function = .builtin .format) :
      GivenSpec config function [] (.int n) config.intSpec
  | column {spec : Text} {v : Value}
      (h : spec = [] → function = .builtin .format → v.isNumeric = false) :
      GivenSpec config function spec v spec

/-- The function of a column fails on the value of a cell. The error holds the position of the cell,
the spec, and what the function says. -/
inductive FailsAt (f : CellFormatter) (registry : Registry) (g : Grid) : CellError → Prop
  | intro {row column : Nat} {heading text : Text} {format : ColumnFormat} {v : Value} {spec : Text}
      {source : FormatError} (hcolumn : g.columns[column]? = some (.data heading text))
      (hformat : format = .resolve registry (.parse f.config text))
      (hvalue : g.value? row column = some v) (hnull : v ≠ .null)
      (hspec : GivenSpec f.config (format.function.getD f.defaultFunction) format.spec v spec)
      (hcall : (format.function.getD f.defaultFunction).call v spec = .error source) :
      FailsAt f registry g { row, column, spec, source }

variable {f : CellFormatter} {registry : Registry} {g : Grid} {format : ColumnFormat} {v : Value}
  {e : CellError} {i r : Nat}

theorem isDefaultFormat_iff {function : FormatFunction} :
    function.isDefaultFormat = true ↔ function = .builtin .format := by
  unfold FormatFunction.isDefaultFormat
  split <;> simp_all

theorem spec_of_default (hs : format.spec = []) (hf : f.function format = .builtin .format) :
    f.spec format v = f.defaultSpec v := by
  rw [CellFormatter.spec, hs, hf]
  rfl

theorem spec_of_column
    (h : format.spec = [] → f.function format = .builtin .format → v.isNumeric = false) :
    f.spec format v = format.spec := by
  unfold CellFormatter.spec
  split
  · next hd =>
    rw [Bool.and_eq_true, List.isEmpty_iff, isDefaultFormat_iff] at hd
    have hv := h hd.1 hd.2
    rw [hd.1]
    cases v <;> first | rfl | contradiction
  · rfl

theorem givenSpec_iff {spec : Text} :
    GivenSpec f.config (format.function.getD f.defaultFunction) format.spec v spec ↔
      spec = f.spec format v := by
  constructor
  · intro h
    generalize hown : format.spec = own at h
    cases h with
    | @float x hf => exact (spec_of_default (v := .float x) hown hf).symm
    | @int n hf => exact (spec_of_default (v := .int n) hown hf).symm
    | column h => rw [spec_of_column (hown ▸ h), hown]
  · rintro rfl
    by_cases hd : format.spec = [] ∧ f.function format = .builtin .format
    · rw [spec_of_default hd.1 hd.2, hd.1]
      cases v with
      | float x => exact .float hd.2
      | int n => exact .int hd.2
      | _ => exact .column fun _ _ => rfl
    · have hown : format.spec = [] → f.function format = .builtin .format → v.isNumeric = false :=
        fun hs hf => absurd ⟨hs, hf⟩ hd
      rw [spec_of_column hown]
      exact .column hown

theorem format_of_ne_null {row column : Nat} (hv : v ≠ .null) :
    f.format format row column v =
      match (f.function format).call v (f.spec format v) with
      | .ok t => .ok (finish format v t)
      | .error source => f.handle { row, column, spec := f.spec format v, source } := by
  cases v <;> first | rfl | contradiction

theorem format_eq_error_iff {row column : Nat} :
    f.format format row column v = .error e ↔ v ≠ .null ∧
      ∃ source, (f.function format).call v (f.spec format v) = .error source ∧
        f.handle { row, column, spec := f.spec format v, source } = .error e := by
  by_cases hv : v = .null
  · subst hv
    simp [CellFormatter.format]
  · rw [format_of_ne_null hv]
    split
    · next h => simp [h]
    · next source h => simp [h, hv]

/-- The layout ends with the error at a cell, if it comes to it. -/
def HaltsAt (f : CellFormatter) (registry : Registry) (g : Grid) (row column : Nat)
    (e : CellError) : Prop :=
  ∃ heading text v, g.columns[column]? = some (.data heading text) ∧
    g.value? row column = some v ∧
    f.format (.resolve registry (.parse f.config text)) row column v = .error e

theorem haltsAt_iff : f.HaltsAt registry g r i e ↔
    ∃ e₀, f.FailsAt registry g e₀ ∧ e₀.row = r ∧ e₀.column = i ∧ f.handle e₀ = .error e := by
  constructor
  · rintro ⟨heading, text, v, hcolumn, hvalue, h⟩
    obtain ⟨hnull, source, hcall, hhandle⟩ := format_eq_error_iff.mp h
    exact ⟨_, .intro hcolumn rfl hvalue hnull (givenSpec_iff.mpr rfl) hcall, rfl, rfl, hhandle⟩
  · rintro ⟨_, ⟨hcolumn, rfl, hvalue, hnull, hspec, hcall⟩, rfl, rfl, hhandle⟩
    obtain rfl := givenSpec_iff.mp hspec
    exact ⟨_, _, _, hcolumn, hvalue, format_eq_error_iff.mpr ⟨hnull, _, hcall, hhandle⟩⟩

theorem texts_eq_error_iff : f.texts format i (g.cellsOf i) = .error e ↔
    ∃ r v, g.value? r i = some v ∧ f.format format r i v = .error e ∧
      ∀ r' v', g.value? r' i = some v' → r' < r → ∃ t, f.format format r' i v' = .ok t := by
  rw [texts, mapM_eq_error_iff (g.pairwise_cellsOf i)]
  constructor
  · rintro ⟨⟨r, slot⟩, hmem, hfail, hmin⟩
    cases slot with
    | none => contradiction
    | some v =>
      refine ⟨r, v, Grid.some_mem_cellsOf.mp hmem, hfail, fun r' v' hv' hlt => ?_⟩
      exact hmin (r', some v') (Grid.some_mem_cellsOf.mpr hv') hlt
  · rintro ⟨r, v, hv, hfail, hmin⟩
    refine ⟨(r, some v), Grid.some_mem_cellsOf.mpr hv, hfail, ?_⟩
    rintro ⟨r', slot⟩ hmem hlt
    cases slot with
    | none => exact ⟨[], rfl⟩
    | some v' => exact hmin r' v' (Grid.some_mem_cellsOf.mp hmem) hlt

theorem column_eq_error_iff {column : GridColumn} (hc : g.columns[i]? = some column) :
    f.column registry g i column = .error e ↔
      ∃ r, f.HaltsAt registry g r i e ∧ ∀ r' < r, ∀ e', ¬ f.HaltsAt registry g r' i e' := by
  cases column with
  | verticalRule =>
    constructor
    · intro h
      contradiction
    · rintro ⟨r, ⟨heading, text, v, hc', -⟩, -⟩
      cases hc.symm.trans hc'
  | data heading text =>
    have hhalts (r : Nat) (e : CellError) : f.HaltsAt registry g r i e ↔
        ∃ v, g.value? r i = some v ∧
          f.format (.resolve registry (.parse f.config text)) r i v = .error e := by
      simp [HaltsAt, hc]
    have hcolumn : f.column registry g i (.data heading text) = .error e ↔
        f.texts (.resolve registry (.parse f.config text)) i (g.cellsOf i) = .error e := by
      refine bind_eq_error_iff.trans (or_iff_left ?_)
      rintro ⟨texts, -, h⟩
      contradiction
    rw [hcolumn, texts_eq_error_iff]
    simp only [hhalts, not_exists, not_and]
    constructor
    · rintro ⟨r, v, hv, hfail, hmin⟩
      refine ⟨r, ⟨v, hv, hfail⟩, fun r' hlt e' v' hv' => ?_⟩
      exact exists_ok_iff.mp (hmin r' v' hv' hlt) e'
    · rintro ⟨r, ⟨v, hv, hfail⟩, hmin⟩
      refine ⟨r, v, hv, hfail, fun r' v' hv' hlt => ?_⟩
      exact exists_ok_iff.mpr fun e' => hmin r' hlt e' v' hv'

theorem column_isOk_iff {column : GridColumn} (hc : g.columns[i]? = some column) :
    (∃ c, f.column registry g i column = .ok c) ↔ ∀ r e, ¬ f.HaltsAt registry g r i e := by
  simp only [exists_ok_iff, ne_eq, column_eq_error_iff hc]
  constructor
  · intro h r
    -- The first row that ends the layout would be that of the error.
    induction r using Nat.strong_induction_on with
    | _ r ih => exact fun e he => h e ⟨r, he, ih⟩
  · rintro h e ⟨r, he, -⟩
    exact h r e he

theorem columns_isOk_iff :
    (∃ columns, f.columns registry g = .ok columns) ↔ ∀ r i e, ¬ f.HaltsAt registry g r i e := by
  rw [columns, exists_mapM_eq_ok_iff]
  constructor
  · rintro h r i e ⟨heading, text, v, hc, hv⟩
    have hi := h (_, i) (List.mem_zipIdx_iff_getElem?.mpr hc)
    exact (column_isOk_iff hc).mp hi r e ⟨heading, text, v, hc, hv⟩
  · rintro h ⟨column, i⟩ hmem
    exact (column_isOk_iff (List.mem_zipIdx_iff_getElem?.mp hmem)).mpr fun r => h r i

theorem columns_eq_error_iff_haltsAt : f.columns registry g = .error e ↔
    ∃ i r, f.HaltsAt registry g r i e ∧ (∀ r' < r, ∀ e', ¬ f.HaltsAt registry g r' i e') ∧
      ∀ i' < i, ∀ r' e', ¬ f.HaltsAt registry g r' i' e' := by
  rw [columns, mapM_eq_error_iff (Grid.pairwise_zipIdx g.columns)]
  constructor
  · rintro ⟨⟨column, i⟩, hmem, hfail, hmin⟩
    obtain ⟨r, hr, hrows⟩ := (column_eq_error_iff (List.mem_zipIdx_iff_getElem?.mp hmem)).mp hfail
    refine ⟨i, r, hr, hrows, fun i' hlt r' e' hhalts => ?_⟩
    obtain ⟨heading, text, -, hc', -⟩ := id hhalts
    refine (column_isOk_iff hc').mp ?_ r' e' hhalts
    exact hmin (_, i') (List.mem_zipIdx_iff_getElem?.mpr hc') hlt
  · rintro ⟨i, r, hhalts, hrows, hcolumns⟩
    obtain ⟨heading, text, -, hc, -⟩ := id hhalts
    refine ⟨(_, i), List.mem_zipIdx_iff_getElem?.mpr hc, ?_, ?_⟩
    · exact (column_eq_error_iff hc).mpr ⟨r, hhalts, hrows⟩
    · rintro ⟨column', i'⟩ hmem hlt
      exact (column_isOk_iff (List.mem_zipIdx_iff_getElem?.mp hmem)).mpr (hcolumns i' hlt)

theorem columns_eq_error_iff : f.columns registry g = .error e ↔
    ∃ e₀, f.FailsAt registry g e₀ ∧ f.handle e₀ = .error e ∧
      ∀ e₁, f.FailsAt registry g e₁ → e₁.Before e₀ → ∃ t, f.handle e₁ = .ok t := by
  rw [columns_eq_error_iff_haltsAt]
  simp only [haltsAt_iff]
  constructor
  · rintro ⟨i, r, ⟨e₀, hfail, rfl, rfl, hhandle⟩, hrows, hcolumns⟩
    refine ⟨e₀, hfail, hhandle, fun e₁ hfail₁ hbefore => exists_ok_iff.mpr fun e' he' => ?_⟩
    rcases hbefore with hlt | ⟨heq, hlt⟩
    · exact hcolumns _ hlt _ e' ⟨e₁, hfail₁, rfl, rfl, he'⟩
    · exact hrows _ hlt e' ⟨e₁, hfail₁, rfl, heq, he'⟩
  · rintro ⟨e₀, hfail, hhandle, hmin⟩
    refine ⟨e₀.column, e₀.row, ⟨e₀, hfail, rfl, rfl, hhandle⟩, ?_, ?_⟩
    · rintro r' hlt e' ⟨e₁, hfail₁, rfl, heq, he'⟩
      exact exists_ok_iff.mp (hmin e₁ hfail₁ (Or.inr ⟨heq, hlt⟩)) e' he'
    · rintro i' hlt r' e' ⟨e₁, hfail₁, rfl, rfl, he'⟩
      exact exists_ok_iff.mp (hmin e₁ hfail₁ (Or.inl hlt)) e' he'

/-- The formatter without a handler that ends the layout with the first error. -/
def raising (f : CellFormatter) : CellFormatter :=
  { f with config := { f.config with onCellError := .raise }, handler := none }

/-- The text of a cell, where `replacement` takes the place of an error. -/
def cellText (f : CellFormatter) (registry : Registry) (g : Grid) (replacement : Text)
    (row column : Nat) : Text :=
  match g.columns[column]?, g.value? row column with
  | some (.data _ text), some v =>
    match f.raising.format (.resolve registry (.parse f.config text)) row column v with
    | .ok t => t
    | .error _ => replacement
  | _, _ => []

end CellFormatter

def Layout.ofCellTexts (config : Config) (registry : Registry) (g : Grid)
    (text : Nat → Nat → Text) : Layout :=
  .ofColumns config g (g.columns.zipIdx.map fun (column, i) =>
    match column with
    | .verticalRule => .rule g.dataRows
    | .data heading format =>
      .ofTexts config (.resolve registry (.parse config format))
        (Column.autoAlign ((g.cellsOf i).head?.bind Prod.snd)) heading
        ((g.cellsOf i).map fun (row, _) => text row i))

def ErrorPolicy.replacement? : ErrorPolicy → Option Text
  | .raise => none
  | .log | .ignore => some errorText
  | .substitute text => some text

theorem ErrorPolicy.handle_of_replacement? {policy : ErrorPolicy} {text : Text}
    (h : policy.replacement? = some text) (e : CellError) : policy.handle e = .ok text := by
  cases policy <;> cases h <;> rfl

namespace CellFormatter

variable {f : CellFormatter} {registry : Registry} {g : Grid} {format : ColumnFormat} {v : Value}
  {e : CellError} {i r : Nat} {replacement : Text}

theorem raising_format_of_ne_null {row column : Nat} (hv : v ≠ .null) :
    f.raising.format format row column v =
      match (f.function format).call v (f.spec format v) with
      | .ok t => .ok (finish format v t)
      | .error source => .error { row, column, spec := f.spec format v, source } :=
  format_of_ne_null hv

theorem cellText_of_missing (hv : g.value? r i = none) :
    f.cellText registry g replacement r i = [] := by
  unfold cellText
  rw [hv]
  split <;> first | rfl | contradiction

theorem format_eq_cellText {heading text : Text} (hc : g.columns[i]? = some (.data heading text))
    (hv : g.value? r i = some v)
    (h : ∀ e, f.FailsAt registry g e → f.handle e = .ok replacement) :
    f.format (.resolve registry (.parse f.config text)) r i v =
      .ok (f.cellText registry g replacement r i) := by
  have htext : f.cellText registry g replacement r i =
      match f.raising.format (.resolve registry (.parse f.config text)) r i v with
      | .ok t => t
      | .error _ => replacement := by
    simp only [cellText, hc, hv]
  by_cases hnull : v = .null
  · subst hnull
    exact congrArg Except.ok htext.symm
  · rw [htext, raising_format_of_ne_null hnull, format_of_ne_null hnull]
    cases hcall : (f.function (.resolve registry (.parse f.config text))).call v
        (f.spec (.resolve registry (.parse f.config text)) v) with
    | ok t => rfl
    | error source => exact h _ (.intro hc rfl hv hnull (givenSpec_iff.mpr rfl) hcall)

/-- If all errors are replaced by one text, then the layout is that of the texts of its cells. -/
theorem ofGrid_eq_ofCellTexts (h : ∀ e, f.FailsAt registry g e → f.handle e = .ok replacement) :
    Layout.ofGrid f registry g =
      .ok (.ofCellTexts f.config registry g (f.cellText registry g replacement)) := by
  rw [Layout.ofGrid_eq, map_eq_ok_iff]
  refine ⟨_, mapM_eq_ok_map fun p hp => ?_, rfl⟩
  obtain ⟨column, i⟩ := p
  have hc := List.mem_zipIdx_iff_getElem?.mp hp
  cases column with
  | verticalRule => rfl
  | data heading text =>
    have htexts : f.texts (.resolve registry (.parse f.config text)) i (g.cellsOf i) =
        .ok ((g.cellsOf i).map fun (row, _) => f.cellText registry g replacement row i) := by
      refine mapM_eq_ok_map ?_
      rintro ⟨r, slot⟩ hmem
      cases slot with
      | none =>
        exact congrArg Except.ok (cellText_of_missing (Grid.value?_of_mem_cellsOf hmem)).symm
      | some v => exact format_eq_cellText hc (Grid.some_mem_cellsOf.mp hmem) h
    exact bind_eq_ok_iff.mpr ⟨_, htexts, rfl⟩

theorem handle_eq_policy (hn : f.handler = none) (e : CellError) :
    f.handle e = f.config.onCellError.handle e := by
  rw [CellFormatter.handle, hn]
  rfl

structure Ends (f : CellFormatter) (registry : Registry) (g : Grid)
    (result : Except TableError Layout) : Prop where
  /-- Only a value other than null can end the layout. -/
  error_iff : ∀ e, result = .error e ↔ ∃ e₀ e', e = .cell e' ∧ f.FailsAt registry g e₀ ∧
    f.handle e₀ = .error e' ∧
      ∀ e₁, f.FailsAt registry g e₁ → e₁.Before e₀ → ∃ t, f.handle e₁ = .ok t
  formatted : (∀ e, ¬ f.FailsAt registry g e) →
    result = .ok (.ofCellTexts f.config registry g (f.cellText registry g []))
  raised : f.handler = none → f.config.onCellError = .raise →
    ((∃ l, result = .ok l) ↔ ∀ e, ¬ f.FailsAt registry g e) ∧
      ∀ e, result = .error e ↔ ∃ e₀, e = .cell e₀ ∧ f.FailsAt registry g e₀ ∧
        ∀ e₁, f.FailsAt registry g e₁ → ¬ e₁.Before e₀
  replaced : ∀ text, f.handler = none → f.config.onCellError.replacement? = some text →
    result = .ok (.ofCellTexts f.config registry g (f.cellText registry g text))

end CellFormatter

namespace Table

variable {t : Table} {g : Grid} {f : CellFormatter}

theorem layoutGrid_eq (h : t.formatter = .ok f) :
    t.layoutGrid g = (Layout.ofGrid f t.registry g).mapError .cell := by
  rw [layoutGrid, h]
  rfl

theorem layoutGrid_eq_error_iff {e : TableError} (h : t.formatter = .ok f) :
    t.layoutGrid g = .error e ↔ ∃ e₀ e', e = .cell e' ∧ f.FailsAt t.registry g e₀ ∧
      f.handle e₀ = .error e' ∧
        ∀ e₁, f.FailsAt t.registry g e₁ → e₁.Before e₀ → ∃ text, f.handle e₁ = .ok text := by
  rw [layoutGrid_eq h, mapError_eq_error_iff]
  simp only [Layout.ofGrid_eq, map_eq_error_iff, CellFormatter.columns_eq_error_iff]
  constructor
  · rintro ⟨e', ⟨e₀, h₀⟩, rfl⟩
    exact ⟨e₀, e', rfl, h₀⟩
  · rintro ⟨e₀, e', rfl, h₀⟩
    exact ⟨e', ⟨e₀, h₀⟩, rfl⟩

theorem layoutGrid_eq_ofCellTexts {text : Text} (h : t.formatter = .ok f)
    (htext : ∀ e, f.FailsAt t.registry g e → f.handle e = .ok text) :
    t.layoutGrid g = .ok (.ofCellTexts f.config t.registry g (f.cellText t.registry g text)) := by
  rw [layoutGrid_eq h, mapError_eq_ok_iff]
  exact CellFormatter.ofGrid_eq_ofCellTexts htext

theorem layoutGrid_of_not_failsAt (h : t.formatter = .ok f)
    (hfails : ∀ e, ¬ f.FailsAt t.registry g e) :
    t.layoutGrid g = .ok (.ofCellTexts f.config t.registry g (f.cellText t.registry g [])) :=
  layoutGrid_eq_ofCellTexts h fun e he => absurd he (hfails e)

theorem layoutGrid_isOk_iff (h : t.formatter = .ok f) (hraise : ∀ e, f.handle e = .error e) :
    (∃ l, t.layoutGrid g = .ok l) ↔ ∀ e, ¬ f.FailsAt t.registry g e := by
  constructor
  · rintro ⟨l, hl⟩ e hfail
    rw [layoutGrid_eq h, mapError_eq_ok_iff, Layout.ofGrid_eq, map_eq_ok_iff] at hl
    obtain ⟨columns, hcolumns, -⟩ := hl
    refine CellFormatter.columns_isOk_iff.mp ⟨columns, hcolumns⟩ e.row e.column e ?_
    exact CellFormatter.haltsAt_iff.mpr ⟨e, hfail, rfl, rfl, hraise e⟩
  · intro hfails
    exact ⟨_, layoutGrid_of_not_failsAt h hfails⟩

theorem ends_of_formatter (h : t.formatter = .ok f) : f.Ends t.registry g (t.layoutGrid g) where
  error_iff _ := layoutGrid_eq_error_iff h
  formatted := layoutGrid_of_not_failsAt h
  raised hn hp := by
    have hraise (e : CellError) : f.handle e = .error e := by
      rw [CellFormatter.handle_eq_policy hn, hp]
      rfl
    refine ⟨layoutGrid_isOk_iff h hraise, fun e => ?_⟩
    simp only [layoutGrid_eq_error_iff h, hraise, reduceCtorEq, exists_false, imp_false,
      Except.error.injEq]
    constructor
    · rintro ⟨e₀, _, he, hfail, rfl, hmin⟩
      exact ⟨e₀, he, hfail, hmin⟩
    · rintro ⟨e₀, he, hfail, hmin⟩
      exact ⟨e₀, e₀, he, hfail, rfl, hmin⟩
  replaced text hn htext := by
    refine layoutGrid_eq_ofCellTexts h fun e _ => ?_
    rw [CellFormatter.handle_eq_policy hn]
    exact ErrorPolicy.handle_of_replacement? htext e

theorem layoutGrid_eq_error {e : ConfigError} (h : t.formatter = .error e) :
    t.layoutGrid g = .error (.config e) := by
  rw [layoutGrid, h]
  rfl

/-- The function of columns that name none is the one that the configuration names, or else the
built-in `format`. -/
inductive HasDefault (t : Table) : FormatFunction → Prop
  | builtin (h : t.config.defaultFunction = none) : HasDefault t (.builtin .format)
  | named {name : Text} {function : FormatFunction} (h : t.config.defaultFunction = some name)
      (hresolve : t.registry.resolve name = some function) : HasDefault t function

theorem HasDefault.defaultFunction_eq {function : FormatFunction} (h : t.HasDefault function) :
    t.defaultFunction = .ok function := by
  cases h with
  | builtin h => simp only [defaultFunction, h]
  | named h hresolve => simp only [defaultFunction, h, hresolve]

/-- A table that cannot be used says so whatever the cells are, and any other table formats them. -/
theorem layoutGrid_ends (t : Table) (g : Grid) :
    (∀ e, t.config.validate = .error e → t.layoutGrid g = .error (.config e)) ∧
      (t.config.validate = .ok () →
        (∀ name, t.config.defaultFunction = some name → t.registry.resolve name = none →
          t.layoutGrid g = .error (.config (.unknownFunction name))) ∧
        ∀ function, t.HasDefault function →
          CellFormatter.Ends
            { config := t.config, defaultFunction := function, handler := t.handler }
            t.registry g (t.layoutGrid g)) := by
  refine ⟨fun e he => layoutGrid_eq_error ?_, fun hvalid => ⟨fun name hname hnone => ?_, ?_⟩⟩
  · rw [formatter, he]
    rfl
  · refine layoutGrid_eq_error ?_
    have hdefault : t.defaultFunction = .error (.unknownFunction name) := by
      simp only [defaultFunction, hname, hnone]
    rw [formatter, hvalid, hdefault]
    rfl
  · intro function hfunction
    refine ends_of_formatter ?_
    rw [formatter, hvalid, hfunction.defaultFunction_eq]
    rfl

/-- A cell of the first column fails below a rule, and one of the second column above it. -/
def failingGrid : Grid :=
  .ofRows [['a'], ['b']] [['d'], ['d']]
    [.cells [.int 1, .string ['y']], .rule, .cells [.string ['x'], .int 2]]

def refusal : UserFunction := fun _ spec => .error (.custom spec)

def refusingTable : Table where
  config := { defaultFunction := some "refuse".toList }
  registry := Registry.register {} "refuse".toList refusal

theorem failingGrid_ends :
    (∃ e, ({} : Table).layoutGrid failingGrid = .error (.cell e) ∧ e.row = 2 ∧ e.column = 0 ∧
      let f : CellFormatter :=
        { config := {}, defaultFunction := .builtin .format, handler := none }
      f.FailsAt {} failingGrid e ∧ ∀ e₁, f.FailsAt {} failingGrid e₁ → ¬ e₁.Before e) ∧
    (∃ l, ({ config := { onCellError := .ignore } } : Table).layoutGrid failingGrid = .ok l ∧
      l.rowBlocks 0 = [["  1".toList], [errorText]] ∧
      l.rowBlocks 1 = [[errorText], ["2  ".toList]]) ∧
    ∃ e, refusingTable.layoutGrid failingGrid = .error (.cell e) ∧ e.row = 0 ∧ e.column = 0 ∧
      e.source = .custom ['d'] ∧ CellFormatter.FailsAt
        { config := refusingTable.config, defaultFunction := .custom refusal, handler := none }
        refusingTable.registry failingGrid e := by
  refine ⟨?_, ?_, ?_⟩
  · have hends := ((layoutGrid_ends {} failingGrid).2 (by decide)).2 _ (.builtin rfl)
    have hfail : ({} : Table).layoutGrid failingGrid = .error (.cell
        { row := 2, column := 0, spec := ['d'], source := .typeMismatch 'd' .string }) := by
      decide +kernel
    obtain ⟨e, he, hfirst⟩ := ((hends.raised rfl rfl).2 _).mp hfail
    cases he
    exact ⟨_, hfail, rfl, rfl, hfirst⟩
  · have hends := ((layoutGrid_ends { config := { onCellError := .ignore } } failingGrid).2
      (by decide)).2 _ (.builtin rfl)
    exact ⟨_, hends.replaced errorText rfl rfl, by decide +kernel, by decide +kernel⟩
  · have hends := ((layoutGrid_ends refusingTable failingGrid).2 (by decide)).2 (.custom refusal)
      (.named rfl (by cbv))
    have hfail : refusingTable.layoutGrid failingGrid = .error (.cell
        { row := 0, column := 0, spec := ['d'], source := .custom ['d'] }) := by
      decide +kernel
    obtain ⟨e, he, hfirst, -⟩ := ((hends.raised rfl rfl).2 _).mp hfail
    cases he
    exact ⟨_, hfail, rfl, rfl, rfl, hfirst⟩

end Table

end TextTable
