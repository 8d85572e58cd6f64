import TextTable.Directive.ColumnFormat
import TextTable.Proofs.Directive.Grammar

/-! # The order of options

Every slot of a column format is filled by the first option that is applicable to it, whatever
stands before, between or after. So two format strings mean the same if they give every slot the
same option first, in whatever groups their options stand.
-/

namespace TextTable

inductive SlotValue where
  | size (n : Nat)
  | set
  | text (t : Text)
  | function (f : FormatFunction)

/-- The names of the options for a slot. Functions have names of their own. -/
def OptionSlot.names : OptionSlot → List Text
  | .width => ["width".toList]
  | .fixed => ["fixed".toList]
  | .wrap => ["wrap".toList]
  | .lsep => ["lsep".toList]
  | .rsep => ["rsep".toList, "sep".toList]
  | .noneText => ["none".toList]
  | .zeroText => ["zero".toList]
  | .parentheses => ["parentheses".toList]
  | .function => []

theorem OptionSlot.contains_names_iff {name : Text} {slot : OptionSlot} (h : slot ≠ .function) :
    slot.names.contains name = true ↔ ofName name = slot := by
  rw [List.contains_iff_mem]
  constructor
  · cases slot <;> simp only [names, List.mem_cons, List.not_mem_nil, or_false]
    all_goals first
      | contradiction
      | (rintro rfl; rfl)
      | (rintro (rfl | rfl) <;> rfl)
  · unfold ofName
    intro hname
    repeat' split at hname
    all_goals
      subst hname
      simp_all [names]

namespace DirectiveOption

/-- An option with the name of a flag has no value. -/
def flag (o : DirectiveOption) (slot : OptionSlot) : Option SlotValue :=
  if slot.names.contains o.name ∧ o.value = none then some .set else none

def text (o : DirectiveOption) (slot : OptionSlot) : Option SlotValue :=
  if slot.names.contains o.name then o.value.map .text else none

/-- What an option sets a slot to, if it is applicable to the slot. -/
def gives (registry : Registry) (o : DirectiveOption) : OptionSlot → Option SlotValue
  | .width =>
    if OptionSlot.width.names.contains o.name then
      ((o.value.bind fun v => readSize v.trim).filter (0 < ·)).map .size
    else none
  | .fixed => o.flag .fixed
  | .wrap => o.flag .wrap
  | .lsep => o.text .lsep
  | .rsep => o.text .rsep
  | .noneText => o.text .noneText
  | .zeroText => o.text .zeroText
  | .parentheses => o.flag .parentheses
  | .function =>
    if OptionSlot.fixed.names.contains o.name ∨ OptionSlot.wrap.names.contains o.name ∨
        OptionSlot.parentheses.names.contains o.name ∨ o.value.isSome then none
    else (registry.resolve o.name).map .function

theorem pos_of_gives_width {registry : Registry} {o : DirectiveOption} {n : Nat}
    (h : o.gives registry .width = some (.size n)) : 0 < n := by
  rw [gives] at h
  split at h
  · obtain ⟨_, hfilter, ⟨⟩⟩ := Option.map_eq_some_iff.mp h
    exact of_decide_eq_true (Option.filter_eq_some_iff.mp hfilter).2
  · contradiction

end DirectiveOption

namespace ColumnFormat

def get (f : ColumnFormat) : OptionSlot → Option SlotValue
  | .width => f.width.map .size
  | .fixed => if f.fixed then some .set else none
  | .wrap => if f.wrap then some .set else none
  | .lsep => f.lsep.map .text
  | .rsep => f.rsep.map .text
  | .noneText => f.noneText.map .text
  | .zeroText => f.zeroText.map .text
  | .parentheses => if f.parentheses then some .set else none
  | .function => f.function.map .function

/-- The first applicable option fills a slot. Without an applicable width the flags that need one
are dropped. -/
structure IsFilledBy (registry : Registry) (d : Directive) (f : ColumnFormat) : Prop where
  align : f.align = d.align
  spec : f.spec = d.spec
  get_eq : ∀ slot, f.get slot =
    if (slot = .fixed ∨ slot = .wrap) ∧ ∀ o ∈ d.options, (o.gives registry .width).isNone then none
    else d.options.findSome? (·.gives registry slot)

variable {registry : Registry} {f f' : ColumnFormat} {d : Directive} {slot : OptionSlot}

theorem ext_get (ha : f.align = f'.align) (hs : f.spec = f'.spec)
    (hget : ∀ slot, f.get slot = f'.get slot) : f = f' := by
  have hsize : Function.Injective SlotValue.size := fun _ _ => SlotValue.size.inj
  have htext : Function.Injective SlotValue.text := fun _ _ => SlotValue.text.inj
  have hfunction : Function.Injective SlotValue.function := fun _ _ => SlotValue.function.inj
  have hflag {b b' : Bool}
      (h : (if b then some SlotValue.set else none) = if b' then some SlotValue.set else none) :
      b = b' := by
    cases b <;> cases b' <;> simp_all
  obtain ⟨⟩ := f
  obtain ⟨⟩ := f'
  congr
  · exact Option.map_injective hsize (hget .width)
  · exact hflag (hget .fixed)
  · exact hflag (hget .wrap)
  · exact Option.map_injective htext (hget .lsep)
  · exact Option.map_injective htext (hget .rsep)
  · exact Option.map_injective htext (hget .noneText)
  · exact Option.map_injective htext (hget .zeroText)
  · exact hflag (hget .parentheses)
  · exact Option.map_injective hfunction (hget .function)

/-- An option fills a slot that is empty and to which it is applicable. -/
theorem get_add (f : ColumnFormat) (o : DirectiveOption) (slot : OptionSlot) :
    (f.add registry o).get slot = (f.get slot).or (o.gives registry slot) := by
  have hflag {p : Prop} [Decidable p] :
      (if p then some SlotValue.set else none).or (some .set) = some .set := by
    split <;> rfl
  obtain ⟨name, value⟩ := o
  simp (disch := decide) only [add, DirectiveOption.gives, DirectiveOption.flag,
    DirectiveOption.text, OptionSlot.contains_names_iff]
  generalize OptionSlot.ofName name = s
  cases slot <;> cases s <;> cases value <;> simp only [get]
  all_goals simp [Option.map_or, hflag]

theorem get_foldl (options : List DirectiveOption) (f : ColumnFormat) (slot : OptionSlot) :
    (options.foldl (add registry) f).get slot =
      (f.get slot).or (options.findSome? (·.gives registry slot)) := by
  induction options generalizing f with
  | nil => simp
  | cons o options ih =>
    rw [List.foldl_cons, ih, get_add, Option.or_assoc, List.findSome?_cons]
    cases o.gives registry slot <;> rfl

theorem add_kept (registry : Registry) (f : ColumnFormat) (o : DirectiveOption) :
    (f.add registry o).align = f.align ∧ (f.add registry o).spec = f.spec := by
  unfold add
  split <;> exact ⟨rfl, rfl⟩

theorem foldl_kept (registry : Registry) (options : List DirectiveOption) (f : ColumnFormat) :
    (options.foldl (add registry) f).align = f.align ∧
      (options.foldl (add registry) f).spec = f.spec := by
  induction options generalizing f with
  | nil => exact ⟨rfl, rfl⟩
  | cons o options ih =>
    obtain ⟨halign, hspec⟩ := add_kept registry f o
    exact ⟨(ih _).1.trans halign, (ih _).2.trans hspec⟩

theorem sized_kept (f : ColumnFormat) : f.sized.align = f.align ∧ f.sized.spec = f.spec := by
  unfold sized
  split <;> exact ⟨rfl, rfl⟩

theorem get_sized (f : ColumnFormat) (slot : OptionSlot) : f.sized.get slot =
    if (slot = .fixed ∨ slot = .wrap) ∧ (f.get .width).isNone then none else f.get slot := by
  unfold sized
  cases hw : f.width <;> cases slot <;> simp [get, hw]

theorem isFilledBy_resolve (registry : Registry) (d : Directive) :
    (resolve registry d).IsFilledBy registry d := by
  obtain ⟨halign, hspec⟩ := foldl_kept registry d.options { align := d.align, spec := d.spec }
  have hget (slot : OptionSlot) :
      (d.options.foldl (add registry) { align := d.align, spec := d.spec }).get slot =
        d.options.findSome? (·.gives registry slot) := by
    rw [get_foldl]
    cases slot <;> rfl
  refine ⟨(sized_kept _).1.trans halign, (sized_kept _).2.trans hspec, fun slot => ?_⟩
  rw [resolve, get_sized, hget, hget]
  simp only [Option.isNone_iff_eq_none, List.findSome?_eq_none_iff]

/-- A format is the meaning of a directive if and only if its slots have what the first applicable
options give. -/
theorem resolve_eq_iff : resolve registry d = f ↔ f.IsFilledBy registry d := by
  constructor
  · rintro rfl
    exact isFilledBy_resolve registry d
  · intro h
    have h' := isFilledBy_resolve registry d
    refine ext_get (h'.align.trans h.align.symm) (h'.spec.trans h.spec.symm) fun slot => ?_
    exact (h'.get_eq slot).trans (h.get_eq slot).symm

theorem resolve_congr {d' : Directive} (halign : d.align = d'.align) (hspec : d.spec = d'.spec)
    (h : ∀ slot, d.options.findSome? (·.gives registry slot) =
      d'.options.findSome? (·.gives registry slot)) :
    resolve registry d = resolve registry d' := by
  have h' := isFilledBy_resolve registry d'
  refine resolve_eq_iff.mpr ⟨h'.align.trans halign.symm, h'.spec.trans hspec.symm, fun slot => ?_⟩
  have hwidth := h .width
  rw [h'.get_eq slot, h slot]
  simp only [Option.isNone_iff_eq_none, ← List.findSome?_eq_none_iff, hwidth]

end ColumnFormat

/-- Options that mean the same in another order: the applicable options of every slot stay in order,
and an option may be added behind one for each slot to which it is applicable. -/
inductive Rearranged (registry : Registry) : List DirectiveOption → List DirectiveOption → Prop
  | sameOrder {options options' : List DirectiveOption}
      (h : ∀ slot, options.filter (fun o => (o.gives registry slot).isSome) =
        options'.filter fun o => (o.gives registry slot).isSome) :
      Rearranged registry options options'
  | repeated {before after : List DirectiveOption} {o : DirectiveOption}
      (h : ∀ slot, (o.gives registry slot).isSome →
        ∃ o' ∈ before, (o'.gives registry slot).isSome) :
      Rearranged registry (before ++ after) (before ++ o :: after)
  | symm {options options' : List DirectiveOption} (h : Rearranged registry options options') :
      Rearranged registry options' options
  | trans {options₁ options₂ options₃ : List DirectiveOption}
      (h : Rearranged registry options₁ options₂) (h' : Rearranged registry options₂ options₃) :
      Rearranged registry options₁ options₃

theorem Rearranged.findSome?_eq {registry : Registry} {options options' : List DirectiveOption}
    (h : Rearranged registry options options') (slot : OptionSlot) :
    options.findSome? (·.gives registry slot) = options'.findSome? (·.gives registry slot) := by
  induction h with
  | @sameOrder options options' h =>
    have hfilter (options : List DirectiveOption) : options.findSome? (·.gives registry slot) =
        (options.filter fun o => (o.gives registry slot).isSome).findSome?
          (·.gives registry slot) := by
      induction options with
      | nil => rfl
      | cons o options ih =>
        rw [List.findSome?_cons, List.filter_cons]
        cases ho : o.gives registry slot <;> simp [ho, ih]
    rw [hfilter options, hfilter options', h slot]
  | @repeated before after o h =>
    rw [List.findSome?_append, List.findSome?_append, List.findSome?_cons]
    cases ho : o.gives registry slot with
    | none => rfl
    | some v =>
      obtain ⟨o', hmem, ho'⟩ := h slot (by rw [ho]; rfl)
      have hsome : (before.findSome? (·.gives registry slot)).isSome :=
        List.findSome?_isSome_iff.mpr ⟨o', hmem, ho'⟩
      rw [Option.or_of_isSome hsome, Option.or_of_isSome hsome]
  | symm _ ih => exact ih.symm
  | trans _ _ ih ih' => exact ih.trans ih'

namespace ColumnFormat

open Directive

variable {registry : Registry}

/-- Every slot has what its first applicable option gives, and format strings with the same
alignment and spec mean the same if the options of their groups are rearranged. -/
theorem resolve_by_first_applicable (registry : Registry) :
    (∀ d f, resolve registry d = f ↔ f.IsFilledBy registry d) ∧
      ∀ (config : Config) (t t' groups groups' spec : Text) (align : Option Align)
        (options options' : List DirectiveOption),
        config.splitAlign t = (align, groups) → config.splitAlign t' = (align, groups') →
        HasGroups config.delimiters groups options spec →
        HasGroups config.delimiters groups' options' spec →
        Rearranged registry options options' →
        resolve registry (.parse config t) = resolve registry (.parse config t') := by
  refine ⟨fun d f => resolve_eq_iff, ?_⟩
  intro config t t' groups groups' spec align options options' ht ht' hgroups hgroups' hoptions
  have hparse : Directive.parse config t = { align, options, spec } :=
    (parse_eq_iff_hasGroups ht).mpr ⟨rfl, hgroups⟩
  have hparse' : Directive.parse config t' = { align, options := options', spec } :=
    (parse_eq_iff_hasGroups ht').mpr ⟨rfl, hgroups'⟩
  rw [hparse, hparse']
  exact resolve_congr rfl rfl hoptions.findSome?_eq

/-- A function of the user has the name of an option. -/
def widthRegistry : Registry := Registry.register {} "width".toList fun _ spec => .ok spec

def scatteredText : Text :=
  ">(width=x;width=8;zero=-)(wrap;width;sep=|)(none=?;fixed;lsep=:;parentheses).2f".toList

/-- The same options in other groups, an unknown one, and a second width at the end. -/
def orderedText : Text :=
  ">(parentheses;width)(lsep=:;wrap;zero=-;none=?;width=8;sep=|;nope)(fixed;width=9).2f".toList

def scatteredOptions : List DirectiveOption :=
  [⟨"width".toList, some ['x']⟩, ⟨"width".toList, some ['8']⟩, ⟨"zero".toList, some ['-']⟩,
    ⟨"wrap".toList, none⟩, ⟨"width".toList, none⟩, ⟨"sep".toList, some ['|']⟩,
    ⟨"none".toList, some ['?']⟩, ⟨"fixed".toList, none⟩, ⟨"lsep".toList, some [':']⟩,
    ⟨"parentheses".toList, none⟩]

def orderedOptions : List DirectiveOption :=
  [⟨"parentheses".toList, none⟩, ⟨"width".toList, none⟩, ⟨"lsep".toList, some [':']⟩,
    ⟨"wrap".toList, none⟩, ⟨"zero".toList, some ['-']⟩, ⟨"none".toList, some ['?']⟩,
    ⟨"width".toList, some ['8']⟩, ⟨"sep".toList, some ['|']⟩, ⟨"nope".toList, none⟩,
    ⟨"fixed".toList, none⟩]

theorem scatteredText_resolve :
    resolve widthRegistry (.parse {} scatteredText) =
        resolve widthRegistry (.parse {} orderedText) ∧
      (resolve widthRegistry (.parse {} scatteredText)).IsFilledBy widthRegistry
        (.parse {} scatteredText) ∧
      resolve widthRegistry (.parse {} scatteredText) =
        { align := some .right, width := some 8, fixed := true, wrap := true, lsep := some [':']
          rsep := some ['|'], noneText := some ['?'], zeroText := some ['-'], parentheses := true
          function := widthRegistry.resolve "width".toList, spec := ".2f".toList } := by
  have hparse : Directive.parse {} scatteredText =
      ⟨some .right, scatteredOptions, ".2f".toList⟩ := by
    cbv
  have hparse' : Directive.parse {} orderedText =
      ⟨some .right, orderedOptions ++ [⟨"width".toList, some ['9']⟩], ".2f".toList⟩ := by
    cbv
  have horder : Rearranged widthRegistry scatteredOptions (orderedOptions ++ []) :=
    .sameOrder fun slot => by cases slot <;> decide +kernel
  have hadded : Rearranged widthRegistry (orderedOptions ++ [])
      (orderedOptions ++ [⟨"width".toList, some ['9']⟩]) := by
    refine .repeated fun slot hslot => ⟨⟨"width".toList, some ['8']⟩, by simp [orderedOptions], ?_⟩
    cases slot with
    | width => rfl
    | _ => contradiction
  obtain ⟨hfilled, hrearranged⟩ := resolve_by_first_applicable widthRegistry
  refine ⟨?_, (hfilled _ _).mp rfl, by rw [hparse]; rfl⟩
  have hgroups := ((parse_eq_iff_hasGroups rfl).mp hparse).2
  have hgroups' := ((parse_eq_iff_hasGroups rfl).mp hparse').2
  exact hrearranged {} _ _ _ _ _ _ _ _ rfl rfl hgroups hgroups' (horder.trans hadded)

end ColumnFormat

end TextTable
