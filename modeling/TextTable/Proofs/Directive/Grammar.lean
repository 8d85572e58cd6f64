import Mathlib.Data.List.Forall2
import TextTable.Directive.Basic
import TextTable.Proofs.Except
import TextTable.Proofs.Text.Split

/-! # The grammar of format strings

A format string is an alignment character, closed groups of tokens and a spec, and it can be taken
apart in one way only. So a directive is read back from its text if the characters of the
configuration can express it.
-/

namespace TextTable

/-- The option that a token denotes: the first equals sign stands between name and value. -/
inductive DirectiveOption.IsDenoted : Text → DirectiveOption → Prop
  | flag {token : Text} (h : '=' ∉ token) : IsDenoted token ⟨token.trim, none⟩
  | valued {name value : Text} (h : '=' ∉ name) :
      IsDenoted (name ++ '=' :: value) ⟨name.trim, some value⟩

namespace DirectiveOption

variable {token : Text} {o : DirectiveOption}

theorem isDenoted_iff (hb : token.isBlank = false) :
    IsDenoted token o ↔ ofToken token = some o := by
  constructor
  · intro h
    cases h with
    | flag h => simp [ofToken, hb, Text.cutAt_eq_none_iff.mpr h]
    | valued h => simp [ofToken, hb, Text.cutAt_eq_some_iff.mpr ⟨rfl, h⟩]
  · intro h
    rw [ofToken, hb] at h
    cases hcut : Text.cutAt '=' token with
    | none =>
      obtain rfl : (⟨token.trim, none⟩ : DirectiveOption) = o := by simpa [hcut] using h
      exact .flag (Text.cutAt_eq_none_iff.mp hcut)
    | some p =>
      obtain ⟨rfl, hnot⟩ := Text.cutAt_eq_some_iff.mp hcut
      obtain rfl : (⟨p.1.trim, some p.2⟩ : DirectiveOption) = o := by simpa [hcut] using h
      exact .valued hnot

theorem filterMap_ofToken_eq_iff {tokens : List Text} {options : List DirectiveOption} :
    tokens.filterMap ofToken = options ↔
      List.Forall₂ IsDenoted (tokens.filter (!·.isBlank)) options := by
  induction tokens generalizing options with
  | nil => cases options <;> simp
  | cons token tokens ih =>
    cases hb : token.isBlank with
    | true =>
      have hnone : ofToken token = none := by simp [ofToken, hb]
      rw [List.filterMap_cons_none hnone, List.filter_cons_of_neg (by simp [hb]), ih]
    | false =>
      obtain ⟨o, ho⟩ : ∃ o, ofToken token = some o := by
        simp only [ofToken, hb, Bool.false_eq_true, if_false]
        split <;> exact ⟨_, rfl⟩
      rw [List.filterMap_cons_some ho, List.filter_cons_of_pos (by simp [hb]),
        List.forall₂_cons_left_iff]
      constructor
      · rintro rfl
        exact ⟨o, _, (isDenoted_iff hb).mpr ho, ih.mp rfl, rfl⟩
      · rintro ⟨o', options, ho', hoptions, rfl⟩
        obtain rfl := Option.some.inj (ho.symm.trans ((isDenoted_iff hb).mp ho'))
        rw [ih.mpr hoptions]

end DirectiveOption

namespace Directive

def groupsText (d : Delimiters) (bodies : List Text) : Text :=
  bodies.flatMap fun body => d.opening :: body ++ [d.closing]

def StartsGroup (d : Delimiters) (t : Text) : Prop :=
  ∃ rest, t = d.opening :: rest ∧ d.closing ∈ rest

inductive HasGroups : Option Delimiters → Text → List DirectiveOption → Text → Prop
  | disabled {spec : Text} : HasGroups none spec [] spec
  | intro {d : Delimiters} {bodies : List Text} {tokens : List (List Text)}
      {options : List DirectiveOption} {spec : Text}
      (hclosed : ∀ body ∈ bodies, d.closing ∉ body)
      (htokens : List.Forall₂ (Text.IsSplit d.separator) tokens bodies)
      (hoptions : List.Forall₂ DirectiveOption.IsDenoted (tokens.flatten.filter (!·.isBlank))
        options)
      (hspec : ¬ StartsGroup d spec) :
      HasGroups (some d) (groupsText d bodies ++ spec) options spec

/-- The text is an alignment character, if it starts with one, groups of options and a spec. -/
inductive Reads (config : Config) : Text → Directive → Prop
  | intro {align : Option Align} {groups spec : Text} {options : List DirectiveOption}
      (halign : align.isSome ↔
        ∃ c ∈ (alignText config align ++ groups).head?, c ∈ config.alignChars)
      (hgroups : HasGroups config.delimiters groups options spec) :
      Reads config (alignText config align ++ groups) { align, options, spec }

variable {config : Config} {d : Delimiters} {t rest spec : Text} {bodies : List Text}
  {r : Directive}

theorem takeGroups_of_not_startsGroup (h : ¬ StartsGroup d t) : takeGroups d t = ([], t) := by
  cases t with
  | nil => rw [takeGroups]
  | cons c rest =>
    by_cases hc : c = d.opening
    · obtain rfl := hc
      have hcut : Text.cutAt d.closing rest = none :=
        Text.cutAt_eq_none_iff.mpr fun hmem => h ⟨rest, rfl, hmem⟩
      rw [takeGroups.eq_def]
      simp only [if_true]
      split
      · next hcut' => cases hcut.symm.trans hcut'
      · rfl
    · rw [takeGroups.eq_def]
      simp only [hc, if_false]

theorem takeGroups_cons {body : Text} (h : d.closing ∉ body) :
    takeGroups d (d.opening :: (body ++ d.closing :: rest)) =
      (body :: (takeGroups d rest).1, (takeGroups d rest).2) := by
  have hcut : Text.cutAt d.closing (body ++ d.closing :: rest) = some (body, rest) :=
    Text.cutAt_eq_some_iff.mpr ⟨rfl, h⟩
  rw [takeGroups.eq_def]
  simp only [if_true]
  split
  · next body' rest' hcut' =>
    cases hcut.symm.trans hcut'
    rfl
  · next hcut' =>
    cases hcut.symm.trans hcut'

theorem groupsText_cons (d : Delimiters) (body : Text) (bodies : List Text) (t : Text) :
    groupsText d (body :: bodies) ++ t =
      d.opening :: (body ++ d.closing :: (groupsText d bodies ++ t)) := by
  simp [groupsText]

/-- The groups are the closed ones in front, up to a text that starts with none. -/
theorem takeGroups_eq_iff :
    takeGroups d t = (bodies, spec) ↔
      t = groupsText d bodies ++ spec ∧ (∀ body ∈ bodies, d.closing ∉ body) ∧
        ¬ StartsGroup d spec := by
  constructor
  · intro h
    fun_induction takeGroups d t generalizing bodies with
    | case1 =>
      cases h
      exact ⟨rfl, List.forall_mem_nil _, by rintro ⟨rest, h, -⟩; cases h⟩
    | case2 rest body after hcut bodies' spec' heq ih =>
      cases h
      obtain ⟨rfl, hbody⟩ := Text.cutAt_eq_some_iff.mp hcut
      obtain ⟨hafter, hbodies, hspec⟩ := ih heq
      refine ⟨?_, List.forall_mem_cons.mpr ⟨hbody, hbodies⟩, hspec⟩
      rw [groupsText_cons, ← hafter]
    | case3 rest hcut =>
      cases h
      refine ⟨rfl, List.forall_mem_nil _, ?_⟩
      rintro ⟨rest', h, hmem⟩
      cases h
      exact Text.cutAt_eq_none_iff.mp hcut hmem
    | case4 c rest hc =>
      cases h
      refine ⟨rfl, List.forall_mem_nil _, ?_⟩
      rintro ⟨rest', h, -⟩
      cases h
      exact hc rfl
  · rintro ⟨rfl, hclosed, hspec⟩
    induction bodies with
    | nil => exact takeGroups_of_not_startsGroup hspec
    | cons body bodies ih =>
      obtain ⟨hbody, hbodies⟩ := List.forall_mem_cons.mp hclosed
      rw [groupsText_cons, takeGroups_cons hbody, ih hbodies]

theorem forall₂_isSplit_iff {sep : Char} {tokens : List (List Text)} :
    List.Forall₂ (Text.IsSplit sep) tokens bodies ↔ tokens = bodies.map (Text.splitOn sep) := by
  induction bodies generalizing tokens with
  | nil => cases tokens <;> simp
  | cons body bodies ih =>
    cases tokens with
    | nil => simp
    | cons _ tokens =>
      simp [List.forall₂_cons, ← Text.splitOn_eq_iff, ih, eq_comm (a := Text.splitOn sep body)]

theorem flatMap_optionsOf (d : Delimiters) (bodies : List Text) :
    bodies.flatMap (optionsOf d) =
      (bodies.map (Text.splitOn d.separator)).flatten.filterMap DirectiveOption.ofToken := by
  rw [List.filterMap_flatten, List.map_map, List.flatMap_def]
  rfl

theorem hasGroups_none_iff {options : List DirectiveOption} :
    HasGroups none t options spec ↔ options = [] ∧ spec = t := by
  constructor
  · rintro ⟨⟩
    exact ⟨rfl, rfl⟩
  · rintro ⟨rfl, rfl⟩
    exact .disabled

theorem hasGroups_some_iff {options : List DirectiveOption} :
    HasGroups (some d) t options spec ↔
      options = (takeGroups d t).1.flatMap (optionsOf d) ∧ spec = (takeGroups d t).2 := by
  rw [flatMap_optionsOf]
  constructor
  · rintro ⟨⟩
    next bodies tokens hclosed htokens hoptions hspec =>
    rw [takeGroups_eq_iff.mpr ⟨rfl, hclosed, hspec⟩, ← forall₂_isSplit_iff.mp htokens]
    exact ⟨(DirectiveOption.filterMap_ofToken_eq_iff.mpr hoptions).symm, rfl⟩
  · rintro ⟨rfl, rfl⟩
    obtain ⟨ht, hclosed, hspec⟩ := takeGroups_eq_iff.mp (rfl : takeGroups d t = (_, _))
    have hgroups := HasGroups.intro hclosed (forall₂_isSplit_iff.mpr rfl)
      (DirectiveOption.filterMap_ofToken_eq_iff.mp rfl) hspec
    rwa [← ht] at hgroups

theorem alignChars_of_validate (hvalid : config.validate = .ok ()) :
    config.alignChars = [] ∨ ∃ left center right, config.alignChars = [left, center, right] ∧
      left ≠ center ∧ left ≠ right ∧ center ≠ right := by
  obtain ⟨⟨⟩, halign, -⟩ := bind_eq_ok_iff.mp hvalid
  unfold Config.validateAlign at halign
  split at halign
  · next hchars =>
    refine hchars.imp_right ?_
    rintro ⟨hlength, hnodup⟩
    obtain ⟨left, center, right, heq⟩ := List.length_eq_three.mp hlength
    refine ⟨left, center, right, heq, ?_⟩
    simpa [heq, and_assoc] using hnodup
  · cases halign

theorem delimiters_of_validate (hvalid : config.validate = .ok ()) (hd : d ∈ config.delimiters) :
    d.separator ≠ d.opening ∧ d.separator ≠ d.closing ∧ d.opening ∉ config.alignChars := by
  obtain ⟨-, -, hdelimiters⟩ := bind_eq_ok_iff.mp hvalid
  unfold Config.validateDelimiters at hdelimiters
  unfold Config.delimiters at hd
  split at hdelimiters
  · next heq => simp [heq] at hd
  · next opening separator closing heq =>
    obtain rfl : ⟨opening, separator, closing⟩ = d := by simpa [heq] using hd
    split at hdelimiters
    · cases hdelimiters
    · next hne =>
      split at hdelimiters
      · cases hdelimiters
      · next hmem => exact ⟨fun h => hne (.inl h), fun h => hne (.inr h), hmem⟩
  · cases hdelimiters

theorem alignText_of_alignFor {c : Char} {a : Align} (h : config.alignFor c = some a) :
    alignText config (some a) = [c] ∧ c ∈ config.alignChars := by
  unfold Config.alignFor at h
  split at h
  · next left center right others heq =>
    split_ifs at h with hleft hcenter hright
    · cases h
      simp [alignText, heq, hleft]
    · cases h
      simp [alignText, heq, hcenter]
    · cases h
      simp [alignText, heq, hright]
  · cases h

theorem alignFor_of_validate (hvalid : config.validate = .ok ()) (hne : config.alignChars ≠ [])
    (a : Align) : ∃ c, alignText config (some a) = [c] ∧ config.alignFor c = some a := by
  obtain hnil | ⟨left, center, right, heq, hlc, hlr, hcr⟩ := alignChars_of_validate hvalid
  · contradiction
  · cases a with
    | left => exact ⟨left, by simp [alignText, heq], by simp [Config.alignFor, heq]⟩
    | center => exact ⟨center, by simp [alignText, heq], by simp [Config.alignFor, heq, hlc.symm]⟩
    | right =>
      exact ⟨right, by simp [alignText, heq],
        by simp [Config.alignFor, heq, hlr.symm, hcr.symm]⟩

theorem alignFor_eq_none_iff (hvalid : config.validate = .ok ()) {c : Char} :
    config.alignFor c = none ↔ c ∉ config.alignChars := by
  constructor
  · intro h hmem
    obtain hnil | ⟨left, center, right, heq, -⟩ := alignChars_of_validate hvalid
    · simp [hnil] at hmem
    · simp only [Config.alignFor, heq] at h
      rw [heq] at hmem
      split_ifs at h
      simp_all
  · intro h
    cases halign : config.alignFor c with
    | none => rfl
    | some a => exact absurd (alignText_of_alignFor halign).2 h

theorem splitAlign_eq_iff (hvalid : config.validate = .ok ()) {align : Option Align} :
    config.splitAlign t = (align, rest) ↔
      t = alignText config align ++ rest ∧
        (align.isSome ↔ ∃ c ∈ t.head?, c ∈ config.alignChars) := by
  constructor
  · intro h
    unfold Config.splitAlign at h
    split at h
    · cases h
      simp [alignText]
    · next c t =>
      split at h
      · next a ha =>
        cases h
        obtain ⟨htext, hmem⟩ := alignText_of_alignFor ha
        simp [htext, hmem]
      · next ha =>
        cases h
        simp [alignText, (alignFor_eq_none_iff hvalid).mp ha]
  · rintro ⟨rfl, halign⟩
    cases align with
    | none =>
      have hnone : ∀ c ∈ rest.head?, config.alignFor c = none := fun c hc =>
        (alignFor_eq_none_iff hvalid).mpr fun hmem => by simpa using halign.mpr ⟨c, hc, hmem⟩
      cases rest with
      | nil => rfl
      | cons c rest => simp [Config.splitAlign, alignText, hnone c rfl]
    | some a =>
      obtain ⟨c, -, hmem⟩ := halign.mp rfl
      obtain ⟨c, htext, hfor⟩ := alignFor_of_validate hvalid (List.ne_nil_of_mem hmem) a
      simp [Config.splitAlign, htext, hfor]

theorem parse_eq_iff_hasGroups {align : Option Align} (h : config.splitAlign t = (align, rest)) :
    parse config t = r ↔ align = r.align ∧ HasGroups config.delimiters rest r.options r.spec := by
  obtain ⟨align', options, spec⟩ := r
  unfold parse
  rw [h]
  cases config.delimiters with
  | none => simp [hasGroups_none_iff, eq_comm]
  | some d => simp [hasGroups_some_iff, eq_comm]

theorem parse_eq_iff (hvalid : config.validate = .ok ()) :
    parse config t = r ↔ Reads config t r := by
  constructor
  · intro h
    obtain ⟨ht, halign⟩ := (splitAlign_eq_iff hvalid).mp (rfl : config.splitAlign t = (_, _))
    obtain ⟨heq, hgroups⟩ := (parse_eq_iff_hasGroups rfl).mp h
    rw [heq] at ht halign
    rw [ht] at halign ⊢
    exact .intro halign hgroups
  · rintro ⟨halign, hgroups⟩
    exact (parse_eq_iff_hasGroups ((splitAlign_eq_iff hvalid).mpr ⟨rfl, halign⟩)).mpr ⟨rfl, hgroups⟩

end Directive

structure DirectiveOption.IsPrintable (d : Delimiters) (o : DirectiveOption) : Prop where
  trim_name : o.name.trim = o.name
  name_ne_nil : o.name ≠ []
  not_mem_name : ∀ c ∈ ['=', d.separator, d.closing], c ∉ o.name
  not_mem_value : ∀ value ∈ o.value, d.separator ∉ value ∧ d.closing ∉ value

namespace DirectiveOption

variable {d : Delimiters} {o : DirectiveOption}

theorem IsPrintable.not_mem_toToken {c : Char} (h : o.IsPrintable d)
    (hc : c = d.separator ∨ c = d.closing) (hne : c ≠ '=') : c ∉ o.toToken := by
  obtain ⟨name, value⟩ := o
  have hname : c ∉ name := h.not_mem_name c (by rcases hc with rfl | rfl <;> simp)
  cases value with
  | none => simpa [toToken] using hname
  | some value =>
    have hvalue : c ∉ value := by
      obtain ⟨hseparator, hclosing⟩ := h.not_mem_value value rfl
      rcases hc with rfl | rfl
      · exact hseparator
      · exact hclosing
    simp [toToken, hname, hne, hvalue]

theorem IsPrintable.isBlank_toToken (h : o.IsPrintable d) : o.toToken.isBlank = false := by
  rw [Bool.eq_false_iff]
  intro hblank
  have hname : o.name.isBlank = true := by
    rw [Text.isBlank, toToken, List.all_append, Bool.and_eq_true] at hblank
    exact hblank.1
  exact h.name_ne_nil (h.trim_name ▸ Text.trim_of_isBlank hname)

theorem IsPrintable.isDenoted_toToken (h : o.IsPrintable d) : IsDenoted o.toToken o := by
  obtain ⟨name, value⟩ := o
  have htrim : name.trim = name := h.trim_name
  have hname : '=' ∉ name := h.not_mem_name '=' (by simp)
  cases value with
  | none => simpa [toToken, htrim] using IsDenoted.flag hname
  | some value =>
    have hvalued : IsDenoted (name ++ '=' :: value) ⟨name.trim, some value⟩ := .valued hname
    simpa [toToken, htrim] using hvalued

end DirectiveOption

namespace Directive

variable {config : Config} {d : Delimiters} {r : Directive}

structure IsPrintable (config : Config) (r : Directive) : Prop where
  align : config.alignChars = [] → r.align = none
  options_eq_nil : config.delimiters = none → r.options = []
  options : ∀ d ∈ config.delimiters, ∀ o ∈ r.options, o.IsPrintable d
  spec : ∀ d ∈ config.delimiters, ¬ StartsGroup d r.spec
  head?_spec : r.align = none → r.options = [] → ∀ c ∈ r.spec.head?, c ∉ config.alignChars

theorem isSplit_intercalate {options : List DirectiveOption} (hne : options ≠ [])
    (heq : d.separator ≠ '=') (h : ∀ o ∈ options, o.IsPrintable d) :
    Text.IsSplit d.separator (options.map DirectiveOption.toToken)
      (List.intercalate [d.separator] (options.map DirectiveOption.toToken)) where
  ne_nil := by simpa using hne
  not_mem := List.forall_mem_map.mpr fun o ho => (h o ho).not_mem_toToken (.inl rfl) heq
  eq := rfl

theorem hasGroups_groupText (hvalid : config.validate = .ok ())
    (heq : ∀ d ∈ config.delimiters, d.separator ≠ '=' ∧ d.closing ≠ '=')
    (hr : r.IsPrintable config) :
    HasGroups config.delimiters (groupText config r.options ++ r.spec) r.options r.spec := by
  cases hd : config.delimiters with
  | none =>
    rw [hr.options_eq_nil hd, groupText, hd]
    exact .disabled
  | some d =>
    obtain ⟨hseparator, hclosing⟩ := heq d hd
    have hprintable := hr.options d hd
    by_cases hoptions : r.options = []
    · have hgroups : HasGroups (some d) (groupsText d [] ++ r.spec) [] r.spec :=
        .intro (List.forall_mem_nil _) .nil .nil (hr.spec d hd)
      simpa [groupText, hd, hoptions, groupsText] using hgroups
    · have hsplit := isSplit_intercalate hoptions hseparator hprintable
      have hbody := hsplit.not_mem_of_ne (delimiters_of_validate hvalid hd).2.1.symm
        (List.forall_mem_map.mpr fun o ho => (hprintable o ho).not_mem_toToken (.inr rfl) hclosing)
      have htokens : List.Forall₂ DirectiveOption.IsDenoted
          ([r.options.map DirectiveOption.toToken].flatten.filter (!·.isBlank)) r.options := by
        rw [List.flatten_singleton, List.filter_map, List.filter_eq_self.mpr,
          List.forall₂_map_left_iff, List.forall₂_same]
        · exact fun o ho => (hprintable o ho).isDenoted_toToken
        · intro o ho
          simp [(hprintable o ho).isBlank_toToken]
      have hgroups := HasGroups.intro (List.forall_mem_singleton.mpr hbody)
        (.cons hsplit .nil) htokens (hr.spec d hd)
      simpa [groupText, hd, hoptions, groupsText] using hgroups

theorem parse_toText (hvalid : config.validate = .ok ())
    (heq : ∀ d ∈ config.delimiters, d.separator ≠ '=' ∧ d.closing ≠ '=')
    (hr : r.IsPrintable config) : parse config (r.toText config) = r := by
  rw [parse_eq_iff hvalid, toText, List.append_assoc]
  refine .intro ?_ (hasGroups_groupText hvalid heq hr)
  cases ha : r.align with
  | some a =>
    have hne : config.alignChars ≠ [] := fun hnil => by simp [hr.align hnil] at ha
    obtain ⟨c, htext, hfor⟩ := alignFor_of_validate hvalid hne a
    simp [htext, (alignText_of_alignFor hfor).2]
  | none =>
    simp only [Option.isSome_none, Bool.false_eq_true, false_iff, alignText, List.nil_append]
    rintro ⟨c, hc, hmem⟩
    by_cases hoptions : r.options = []
    · have hgroup : groupText config r.options = [] := by
        unfold groupText
        split <;> simp [hoptions]
      rw [hgroup, List.nil_append] at hc
      exact hr.head?_spec ha hoptions c hc hmem
    · cases hd : config.delimiters with
      | none => exact hoptions (hr.options_eq_nil hd)
      | some d =>
        obtain rfl : d.opening = c := by simpa [groupText, hd, hoptions] using hc
        exact (delimiters_of_validate hvalid hd).2.2 hmem

/-- Every format string is read in exactly one way, and every directive that the characters of the
configuration can express is read back from its text. -/
theorem parse_reads_and_toText (hvalid : config.validate = .ok ()) :
    (∀ t r, parse config t = r ↔ Reads config t r) ∧
      ((∀ d ∈ config.delimiters, d.separator ≠ '=' ∧ d.closing ≠ '=') →
        ∀ r : Directive, r.IsPrintable config → parse config (r.toText config) = r) := by
  constructor
  · exact fun t r => parse_eq_iff hvalid
  · exact fun heq r hr => parse_toText hvalid heq hr

/-- Groups open and close with the same character, and another one of two bytes divides them. -/
def barConfig : Config := { optionDelimiters := "|·|".toList }

def barDirective : Directive where
  align := some .right
  options := [⟨"width".toList, some "8".toList⟩, ⟨"fixed".toList, none⟩]
  spec := "|.2f".toList

theorem isPrintable_barDirective : barDirective.IsPrintable barConfig where
  align := by decide
  options_eq_nil := by decide
  options := by
    intro d hd
    obtain rfl : ⟨'|', '·', '|'⟩ = d := Option.some.inj hd
    intro o ho
    simp only [barDirective, List.mem_cons, List.not_mem_nil, or_false] at ho
    rcases ho with rfl | rfl
    · exact ⟨by decide, by decide, by simp, by rintro _ ⟨⟩; decide⟩
    · exact ⟨by decide, by decide, by simp, by rintro _ ⟨⟩⟩
  spec := by
    intro d hd
    obtain rfl : ⟨'|', '·', '|'⟩ = d := Option.some.inj hd
    rintro ⟨rest, hrest, hmem⟩
    obtain rfl : ".2f".toList = rest := (List.cons.inj hrest).2
    exact absurd hmem (by decide)
  head?_spec := by decide

theorem barDirective_reads :
    barConfig.validate = .ok () ∧ barDirective.toText barConfig = ">|width=8·fixed||.2f".toList ∧
      barDirective.IsPrintable barConfig ∧
      parse barConfig (barDirective.toText barConfig) = barDirective ∧
      Reads barConfig (barDirective.toText barConfig) barDirective := by
  have hvalid : barConfig.validate = .ok () := by decide
  obtain ⟨hreads, hprinted⟩ := parse_reads_and_toText hvalid
  have hparse : parse barConfig (barDirective.toText barConfig) = barDirective := by
    refine hprinted ?_ _ isPrintable_barDirective
    intro d hd
    obtain rfl : ⟨'|', '·', '|'⟩ = d := Option.some.inj hd
    decide
  exact ⟨hvalid, by decide, isPrintable_barDirective, hparse, (hreads _ _).mp hparse⟩

end Directive

end TextTable
