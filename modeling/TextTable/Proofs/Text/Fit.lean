import Mathlib.Data.List.Chain
import Mathlib.Data.List.Infix
import Mathlib.Tactic.SplitIfs
import TextTable.Text.Justify

/-! # Cut texts fit

A text is cut by the widths of its single characters, and measured as a whole. Both agree unless a
character takes more columns inside of a text than on its own, which is so for control characters
and for characters that a selector makes wider. Then a cut text may be wider than asked.
-/

namespace TextTable

/-- The columns of a character that the selector selects, unless it stands in a sequence. -/
def Selector.width : Selector → Nat
  | .text => 1
  | .emoji | .quote => 2

/-- The character takes a column in a text and none on its own. -/
def isControl (c : Char) : Bool := c.toNat < 0x20 || (0x7F ≤ c.toNat && c.toNat < 0xA0)

def widensBefore (c d : Char) : Bool :=
  (Selector.ofChar? d).any fun s => s.selects c && charWidth c < s.width

theorem inRanges_eq_false {ranges : List (Nat × Nat)} {c : Char} {first last : Nat}
    (h : ranges.all (fun r => r.2 < first || last < r.1) = true)
    (hc : first ≤ c.toNat ∧ c.toNat ≤ last) : inRanges ranges c = false := by
  refine eq_false_of_ne_true fun hin => ?_
  obtain ⟨r, hr, hle⟩ := inRanges_iff.mp hin
  have hout := List.all_eq_true.mp h r hr
  simp only [Bool.or_eq_true, decide_eq_true_eq] at hout
  omega

namespace EmojiSequence

def isAfterJoiner : EmojiSequence → Bool
  | .joined | .keycap | .joinedIndicator | .joinedIndicators _ => true
  | _ => false

/-- The columns that regional indicators before a joiner have taken back. The next one adds them
again. -/
def slack : EmojiSequence → Int
  | .joinedIndicators true => 2
  | _ => 0

variable {c : Char} {s s' : EmojiSequence} {columns : Int}

theorem charWidth_of_isRegionalIndicator (h : isRegionalIndicator c = true) : charWidth c = 1 := by
  simp only [isRegionalIndicator, Bool.and_eq_true, decide_eq_true_eq] at h
  have hzero : inRanges zeroWidthRanges c = false := inRanges_eq_false (by decide +kernel) h
  have hwide : inRanges wideRanges c = false := inRanges_eq_false (by decide +kernel) h
  have hkhmer : c ≠ '\u17D8' := by
    rintro rfl
    exact absurd h.1 (by decide)
  rw [charWidth, if_neg (by omega), if_neg (by omega), if_neg (by omega), hzero, hwide]
  simp [hkhmer]

theorem selector_of_isRegionalIndicator (h : isRegionalIndicator c = true) :
    ¬ c.toNat ≤ 0xA0 ∧ Selector.ofChar? c = none := by
  have hne (d : Char) (hd : isRegionalIndicator d = false) : c ≠ d := by
    rintro rfl
    exact absurd (h.symm.trans hd) (by decide)
  refine ⟨?_, ?_⟩
  · simp only [isRegionalIndicator, Bool.and_eq_true, decide_eq_true_eq] at h
    omega
  · rw [Selector.ofChar?, if_neg (hne _ rfl), if_neg (hne _ rfl), if_neg (hne _ rfl)]

theorem slack_nonneg (s : EmojiSequence) : 0 ≤ s.slack := by
  unfold slack
  split <;> decide

/-- A character that belongs to a sequence is a regional indicator, or adds no column. -/
theorem extend_cases (h : s.extend c = some (columns, s')) :
    (isRegionalIndicator c = true ∧ columns + s'.slack ≤ 1 + s.slack ∧
        (s'.isAfterJoiner = true → s.isAfterJoiner = true)) ∨
      (columns = 0 ∧ s'.slack = 0 ∧
        (s'.isAfterJoiner = true → isJoiner c = true ∨ s.isAfterJoiner = true)) := by
  cases s <;> simp only [extend, extendJoined] at h <;> repeat' split at h
  all_goals cases h <;> simp_all [slack, isAfterJoiner]

theorem extend_le (h : s.extend c = some (columns, s')) :
    columns + s'.slack ≤ charWidth c + s.slack := by
  rcases extend_cases h with ⟨hc, hle, -⟩ | ⟨hcolumns, hslack, -⟩
  · rw [charWidth_of_isRegionalIndicator hc]
    exact hle
  · have := s.slack_nonneg
    omega

end EmojiSequence

namespace Ligature

variable {c : Char} {l : Ligature} {l' : Option Ligature} {columns : Int}

/-- Only a consonant joiner and the vowel sign ai add a column of their own. -/
theorem extendLetter_cases (h : l.extendLetter c = some (columns, l')) :
    columns ≤ 0 ∨ columns = 1 ∧ (c = '\u2D7F' ∨ c.toNat = 0x16D68) := by
  cases l <;> simp only [extendLetter] at h <;> repeat' split at h
  all_goals
    cases h <;>
      first
        | exact Or.inl (by decide)
        | exact Or.inr ⟨rfl, Or.inl ‹_›⟩
        | exact Or.inr ⟨rfl, Or.inr ‹_›⟩

theorem extend_le (h : l.extend c = some (columns, l')) : columns ≤ charWidth c := by
  unfold extend at h
  split at h
  · cases h
    exact Int.natCast_nonneg _
  · rcases extendLetter_cases h with hle | ⟨rfl, hc⟩
    · exact Int.le_trans hle (Int.natCast_nonneg _)
    · have hwidth : charWidth c = 1 := by
        rcases hc with rfl | hc
        · decide +kernel
        · rw [← Char.ofNat_toNat c, hc]
          decide +kernel
      rw [hwidth]
      exact Int.le_refl _

end Ligature

namespace Context

def slack : Context → Int
  | .emoji s => s.slack
  | _ => 0

def isAfterJoiner : Context → Bool
  | .emoji s => s.isAfterJoiner
  | _ => false

variable {c : Char} {next : Context} {s : Selector}

theorem slack_nonneg (next : Context) : 0 ≤ next.slack := by
  unfold slack
  split
  · exact EmojiSequence.slack_nonneg _
  · decide

theorem slack_ofChar (c : Char) :
    (ofChar c).slack = 0 ∧ (ofChar c).isAfterJoiner = false := by
  unfold ofChar EmojiSequence.ofChar?
  split_ifs <;> first | exact ⟨rfl, rfl⟩ | cases Ligature.ofChar? c <;> exact ⟨rfl, rfl⟩

theorem slack_skipSelector (next : Context) :
    next.skipSelector.slack = 0 ∧ next.skipSelector.isAfterJoiner = false := by
  unfold skipSelector
  split
  · split <;> exact ⟨rfl, rfl⟩
  · exact ⟨rfl, rfl⟩

theorem slack_select (s : Selector) (next : Context) :
    (next.select s).context.slack = 0 ∧
      ((next.select s).context.isAfterJoiner = true → next.isAfterJoiner = true) := by
  unfold select
  split
  · next e =>
    cases e <;> simp [EmojiSequence.isJoined, slack, isAfterJoiner, EmojiSequence.slack,
      EmojiSequence.isAfterJoiner]
  · obtain ⟨hslack, hjoined⟩ := slack_skipSelector next
    exact ⟨hslack, fun h => absurd (h.symm.trans hjoined) (by decide)⟩

theorem charWidth_of_low (hle : c.toNat ≤ 0xA0) (hc : isControl c = false) :
    charWidth c = 1 := by
  simp only [isControl, Bool.or_eq_false_iff, decide_eq_false_iff_not, Bool.and_eq_false_iff] at hc
  by_cases hlt : c.toNat < 0x7F
  · exact charWidth_of_isPrintableAscii (by simp [isPrintableAscii, hlt]; omega)
  · rw [← Char.ofNat_toNat c, show c.toNat = 0xA0 by omega]
    decide +kernel

/-- What a character adds before a context, and what it makes of the context. -/
structure Adds (c : Char) (next : Context) (columns : Int) (before : Context) : Prop where
  /-- Beyond its own columns the character adds at most those that were taken back. -/
  le : isControl c = false → columns + before.slack ≤ charWidth c + next.slack
  joiner : before.isAfterJoiner = true → isJoiner c = true ∨ next.isAfterJoiner = true
  indicator : before.slack ≠ 0 → isRegionalIndicator c = true

theorem Adds.of_slack {columns : Int} {before : Context}
    (hslack : before.slack = 0)
    (hjoiner : before.isAfterJoiner = true → next.isAfterJoiner = true)
    (hle : isControl c = false → columns ≤ charWidth c) : Adds c next columns before where
  le hc := by
    have := hle hc
    have := next.slack_nonneg
    omega
  joiner h := Or.inr (hjoiner h)
  indicator h := absurd hslack h

theorem adds_absorb {columns : Int} {before : Context}
    (h : next.absorb c = some (columns, before)) : Adds c next columns before := by
  unfold absorb at h
  split at h
  · obtain ⟨⟨columns, s'⟩, hext, heq⟩ := Option.map_eq_some_iff.mp h
    cases heq
    refine ⟨fun _ => EmojiSequence.extend_le hext, fun hjoined => ?_, fun hslack => ?_⟩
    all_goals rcases EmojiSequence.extend_cases hext with ⟨hc, -, hback⟩ | ⟨-, hzero, hback⟩
    · exact Or.inr (hback hjoined)
    · exact hback hjoined
    · exact hc
    · exact absurd hzero hslack
  · obtain ⟨⟨columns, l'⟩, hext, heq⟩ := Option.map_eq_some_iff.mp h
    cases heq
    cases l' <;> exact .of_slack rfl nofun fun _ => Ligature.extend_le hext
  · contradiction

theorem selectedWidth_le (s : Selector) (next : Context) : next.selectedWidth s ≤ s.width := by
  cases s <;> cases next <;> simp [selectedWidth, Selector.width]

theorem adds_extend (c : Char) (next : Context) :
    Adds c next (next.extend c).1 (next.extend c).2.context := by
  unfold extend
  split
  · next hle =>
    split
    · next hc => exact .of_slack rfl nofun fun h => absurd (hc ▸ h) (by decide)
    · split
      · exact .of_slack rfl nofun fun _ => Int.natCast_nonneg _
      · exact .of_slack rfl nofun fun h => by
          rw [charWidth_of_low hle h]
          exact Int.le_refl 1
  · split
    · next s _ =>
      obtain ⟨hslack, hjoined⟩ := slack_select s next
      exact .of_slack hslack hjoined fun _ => Int.natCast_nonneg _
    · obtain ⟨hslack, hjoined⟩ := slack_ofChar c
      cases habsorb : next.absorb c with
      | none => exact .of_slack hslack (by simp [hjoined]) fun _ => Int.le_refl _
      | some r => exact adds_absorb habsorb

end Context

theorem Following.adds_extend {c : Char} {next : Following}
    (h : ∀ s ∈ next.selector, s.selects c = true → s.width ≤ charWidth c) :
    Context.Adds c next.context (next.extend c).1 (next.extend c).2.context := by
  unfold Following.extend
  split
  · exact Context.adds_extend c next.context
  · next s hs =>
    split
    · next hselects =>
      have hle : next.context.selectedWidth s ≤ charWidth c :=
        Int.le_trans (Context.selectedWidth_le s _) (Int.ofNat_le.mpr (h s hs hselects))
      cases s <;> exact .of_slack rfl nofun fun _ => hle
    · have hjoined := (Context.slack_skipSelector next.context).2
      have hslack := (Context.slack_skipSelector next.context).1
      have hadds := Context.adds_extend c next.context.skipSelector
      have hnext := next.context.slack_nonneg
      refine ⟨fun hc => ?_, fun hj => ?_, hadds.indicator⟩
      · have := hadds.le hc
        omega
      · exact (hadds.joiner hj).imp_right fun hj => absurd (hj.symm.trans hjoined) (by decide)

namespace Text

def charsWidth (t : Text) : Nat := (t.map charWidth).foldr (· + ·) 0

/-- No character of the text takes more columns in the text than on its own. -/
structure Steady (t : Text) : Prop where
  control : ∀ c ∈ t, isControl c = false
  selector : t.IsChain fun c d => widensBefore c d = false

@[simp] theorem charsWidth_nil : charsWidth [] = 0 := rfl

@[simp] theorem charsWidth_cons (c : Char) (t : Text) :
    charsWidth (c :: t) = charWidth c + charsWidth t := rfl

variable {c : Char} {s t marker : Text} {width : Nat}

theorem Steady.tail (h : Steady (c :: t)) : Steady t where
  control := (List.forall_mem_cons.mp h.control).2
  selector := h.selector.tail

theorem Steady.of_append (h : Steady (s ++ t)) : Steady s ∧ Steady t := by
  obtain ⟨hs, ht, -⟩ := List.isChain_append.mp h.selector
  obtain ⟨hs', ht'⟩ := List.forall_mem_append.mp h.control
  exact ⟨⟨hs', hs⟩, ⟨ht', ht⟩⟩

theorem ofChar?_head_of_selector {σ : Selector} (h : σ ∈ (measure t).2.selector) :
    ∃ d ∈ t.head?, Selector.ofChar? d = some σ := by
  have hextend (d : Char) (next : Context) (h : σ ∈ (next.extend d).2.selector) :
      Selector.ofChar? d = some σ := by
    unfold Context.extend at h
    split at h
    · split at h
      · contradiction
      · split at h <;> contradiction
    · split at h
      · next hd =>
        unfold Context.select at h
        split at h <;> exact hd.trans h
      · contradiction
  cases t with
  | nil => contradiction
  | cons d t =>
    refine ⟨d, rfl, ?_⟩
    rw [measure_cons, Following.extend] at h
    split at h
    · exact hextend d _ h
    · split at h
      · contradiction
      · exact hextend d _ h

theorem Steady.adds (h : Steady (c :: t)) : Context.Adds c (measure t).2.context
    ((measure t).2.extend c).1 ((measure t).2.extend c).2.context := by
  refine Following.adds_extend fun σ hσ hselects => Nat.not_lt.mp fun hlt => ?_
  obtain ⟨d, hd, hσ⟩ := ofChar?_head_of_selector hσ
  have hwiden : widensBefore c d = true := by simp [widensBefore, hσ, hselects, hlt]
  have hchain := (List.isChain_cons.mp h.selector).1 d hd
  exact absurd (hwiden.symm.trans hchain) (by decide)

theorem Steady.measure_append_le (h : Steady (t ++ marker)) :
    (measure (t ++ marker)).1 + (measure (t ++ marker)).2.context.slack ≤
      charsWidth t + ((measure marker).1 + (measure marker).2.context.slack) := by
  induction t with
  | nil => simp
  | cons c t ih =>
    have h : Steady (c :: (t ++ marker)) := h
    have hrest := ih h.tail
    have hc := h.adds.le (h.control c List.mem_cons_self)
    rw [List.cons_append, measure_cons, charsWidth_cons]
    dsimp only
    omega

theorem Steady.displayWidth_le (h : Steady t) : displayWidth t ≤ charsWidth t := by
  have hle := @Steady.measure_append_le t [] (by rwa [List.append_nil])
  have hslack := (measure t).2.context.slack_nonneg
  have hnil : (measure []).1 + (measure []).2.context.slack = 0 := rfl
  rw [List.append_nil, hnil] at hle
  unfold displayWidth
  omega

theorem Steady.exists_joiner (h : Steady t)
    (hj : (measure t).2.context.isAfterJoiner = true) : ∃ j ∈ t, isJoiner j = true := by
  induction t with
  | nil => contradiction
  | cons c t ih =>
    rcases h.adds.joiner hj with hc | hj
    · exact ⟨c, List.mem_cons_self, hc⟩
    · obtain ⟨j, hmem, hj⟩ := ih h.tail hj
      exact ⟨j, List.mem_cons_of_mem c hmem, hj⟩

/-- The text starts with a regional indicator and has a joiner behind it. -/
def StartsFlag (t : Text) : Prop :=
  (∃ c ∈ t.head?, isRegionalIndicator c = true) ∧ ∃ j ∈ t, isJoiner j = true

theorem Steady.slack_eq_zero (h : Steady t) (hflag : ¬ StartsFlag t) :
    (measure t).2.context.slack = 0 := by
  by_contra hslack
  have hj : (measure t).2.context.isAfterJoiner = true := by
    generalize (measure t).2.context = next at hslack ⊢
    unfold Context.slack EmojiSequence.slack at hslack
    split at hslack
    · split at hslack
      · rfl
      · contradiction
    · contradiction
  cases t with
  | nil => exact hslack rfl
  | cons c t => exact hflag ⟨⟨c, rfl, h.adds.indicator hslack⟩, h.exists_joiner hj⟩

/-- The longest text in front whose characters take at most `room` columns on their own. -/
structure IsLongestSum (room : Nat) (t kept : Text) : Prop where
  isPrefix : kept <+: t
  le : charsWidth kept ≤ room
  longest : ∀ other, other <+: t → charsWidth other ≤ room → other <+: kept

inductive IsCut (width : Nat) (marker t : Text) : Text → Prop
  /-- The marker leaves no room for the text and is cut itself. -/
  | marker (kept : Text) : width ≤ displayWidth marker → IsLongestSum width marker kept →
      IsCut width marker t kept
  | marked (kept : Text) : displayWidth marker < width →
      IsLongestSum (width - displayWidth marker) t kept → IsCut width marker t (kept ++ marker)

theorem isLongestSum_truncateToWidth (room : Nat) (t : Text) :
    IsLongestSum room t (t.truncateToWidth room) := by
  refine ⟨ truncateToWidth_prefix t room, ?_, fun other hother hle => ?_⟩
  · induction t generalizing room with
    | nil => exact Nat.zero_le room
    | cons c t ih =>
      unfold truncateToWidth
      split
      · next hle =>
        have := ih (room - charWidth c)
        rw [charsWidth_cons]
        omega
      · exact Nat.zero_le room
  · induction t generalizing room other with
    | nil => rwa [truncateToWidth]
    | cons c t ih =>
      cases other with
      | nil => exact List.nil_prefix
      | cons d other =>
        obtain ⟨rfl, hrest⟩ := List.cons_prefix_cons.mp hother
        rw [charsWidth_cons] at hle
        rw [truncateToWidth, if_pos (by omega)]
        exact List.cons_prefix_cons.mpr ⟨rfl, ih _ _ hrest (by omega)⟩

theorem truncateToWidth_of_le (h : charsWidth t ≤ width) : t.truncateToWidth width = t :=
  ( truncateToWidth_prefix t width).eq_of_length_le
    ((isLongestSum_truncateToWidth width t).longest t (List.prefix_refl t) h).length_le

theorem truncateEnd_nil (h : charsWidth t ≤ width) (h0 : 0 < width) :
    t.truncateEnd width [] = t := by
  unfold truncateEnd
  split
  · rfl
  · rw [displayWidth_nil, if_neg (Nat.not_le.mpr h0), Nat.sub_zero, truncateToWidth_of_le h,
      List.append_nil]

theorem IsLongestSum.unique {room : Nat} {kept other : Text} (h : IsLongestSum room t kept)
    (hother : IsLongestSum room t other) : kept = other :=
  (hother.longest kept h.isPrefix h.le).eq_of_length_le
    (h.longest other hother.isPrefix hother.le).length_le

theorem IsCut.unique {kept other : Text} (h : IsCut width marker t kept)
    (hother : IsCut width marker t other) : kept = other := by
  cases h with
  | marker _ hle h =>
    cases hother with
    | marker _ _ hother => exact h.unique hother
    | marked _ hlt _ => exact absurd hle (Nat.not_le.mpr hlt)
  | marked kept hlt h =>
    cases hother with
    | marker _ hle _ => exact absurd hle (Nat.not_le.mpr hlt)
    | marked _ _ hother => rw [h.unique hother]

theorem isCut_truncateEnd (h : width < displayWidth t) (marker : Text) :
    IsCut width marker t (t.truncateEnd width marker) := by
  rw [truncateEnd, if_neg (Nat.not_le.mpr h)]
  split
  · next hle => exact .marker _ hle (isLongestSum_truncateToWidth _ _)
  · next hlt => exact .marked _ (Nat.not_le.mp hlt) (isLongestSum_truncateToWidth _ _)

/-- The text and the marker are as wide as their characters, and so is any of the texts in front of
the text with the marker behind it. -/
structure FitsMarked (t marker : Text) : Prop where
  steady : ∀ kept, kept <+: t → Steady (kept ++ marker)
  flag : ¬ StartsFlag marker

/-- A text whose characters take no more columns together than on their own fits when it is cut. -/
theorem FitsMarked.displayWidth_le (h : FitsMarked t marker) {kept : Text}
    (hkept : IsCut width marker t kept) : displayWidth kept ≤ width := by
  have hmarker : Steady marker := h.steady [] List.nil_prefix
  cases hkept with
  | marker _ hle hkept =>
    obtain ⟨rest, rfl⟩ := hkept.isPrefix
    exact (Steady.of_append hmarker).1.displayWidth_le.trans hkept.le
  | marked kept hlt hkept =>
    have hle := (h.steady kept hkept.isPrefix).measure_append_le
    have hsum := hkept.le
    have hslack := (measure (kept ++ marker)).2.context.slack_nonneg
    rw [hmarker.slack_eq_zero h.flag] at hle
    unfold displayWidth at *
    omega

theorem FitsMarked.displayWidth_truncateEnd_le (h : FitsMarked t marker) (width : Nat) :
    displayWidth (t.truncateEnd width marker) ≤ width := by
  rcases Nat.lt_or_ge width (displayWidth t) with hlt | hle
  · exact h.displayWidth_le (isCut_truncateEnd hlt marker)
  · rwa [truncateEnd, if_pos hle]

/-- A set of characters none of which takes more columns beside the others than on its own. -/
structure IsSteadySet (A : Char → Prop) : Prop where
  control : ∀ c, A c → isControl c = false
  selector : ∀ c, A c → ∀ d, A d → widensBefore c d = false
  joiner : ∀ c, A c → isRegionalIndicator c = true → ∀ j, A j → isJoiner j = false

theorem isSteadySet_mem_iff : IsSteadySet (· ∈ t) ↔
    (t.all fun c => !isControl c && t.all fun d =>
      !widensBefore c d && !(isRegionalIndicator c && isJoiner d)) = true := by
  simp only [List.all_eq_true, Bool.and_eq_true, Bool.not_eq_true', Bool.and_eq_false_imp]
  constructor
  · exact fun h c hc => ⟨h.control c hc, fun d hd =>
      ⟨h.selector c hc d hd, fun hindicator => h.joiner c hc hindicator d hd⟩⟩
  · exact fun h => ⟨fun c hc => (h c hc).1, fun c hc d hd => ((h c hc).2 d hd).1,
      fun c hc hindicator j hj => ((h c hc).2 j hj).2 hindicator⟩

instance (t : Text) : Decidable (IsSteadySet (· ∈ t)) :=
  decidable_of_iff _ isSteadySet_mem_iff.symm

theorem IsSteadySet.fitsMarked {A : Char → Prop} (h : IsSteadySet A)
    (hA : ∀ c ∈ t ++ marker, A c) : FitsMarked t marker where
  steady kept hkept := by
    have hmem : ∀ c ∈ kept ++ marker, A c := fun c hc =>
      hA c (List.mem_append.mpr ((List.mem_append.mp hc).imp_left fun hc => hkept.subset hc))
    refine ⟨fun c hc => h.control c (hmem c hc), List.Pairwise.isChain ?_⟩
    exact List.pairwise_of_forall_mem_list fun c hc d hd => h.selector c (hmem c hc) d (hmem d hd)
  flag := by
    rintro ⟨⟨c, hc, hindicator⟩, j, hj, hjoiner⟩
    have hmem (c : Char) (hc : c ∈ marker) : A c := hA c (List.mem_append_right t hc)
    have hnot := h.joiner c (hmem c (List.mem_of_mem_head? hc)) hindicator j (hmem j hj)
    exact absurd (hjoiner.symm.trans hnot) (by decide)

theorem displayWidth_of_isControl (h : isControl c = true) :
    displayWidth [c] = 1 ∧ charWidth c = 0 := by
  simp only [isControl, Bool.or_eq_true, Bool.and_eq_true, decide_eq_true_eq] at h
  have hlow : c.toNat ≤ 0xA0 := by omega
  have hmeasure : (measure [c]).1 = 1 := by
    have hplain : (Context.extend c .plain).1 = 1 := by
      rw [Context.extend, if_pos hlow]
      split <;> simp
    rw [measure_cons]
    exact (congrArg (· + (measure []).1) hplain).trans (Int.add_zero 1)
  refine ⟨by rw [displayWidth, hmeasure]; rfl, ?_⟩
  unfold charWidth
  rcases h with h | ⟨h, hlt⟩
  · exact if_pos h
  · rw [if_neg (by omega), if_neg (by omega), if_pos hlt]

theorem ofChar?_spec {d : Char} {σ : Selector} (h : Selector.ofChar? d = some σ) :
    0xA0 < d.toNat ∧ charWidth d = 0 := by
  unfold Selector.ofChar? at h
  split_ifs at h with hd hd hd <;> subst hd <;> decide +kernel

/-- A selected character before a context that the selector does not change. -/
theorem measure_selected {d : Char} {σ : Selector} {next : Context}
    (hd : Selector.ofChar? d = some σ) (hc : σ.selects c = true)
    (ht : (measure t).2 = { context := next }) (hnext : next.select σ = { selector := some σ }) :
    measure (c :: d :: t) = (σ.width + (measure t).1, { context := .ofSelected σ }) := by
  have hselector : Following.extend d { context := next } = (0, { selector := some σ }) := by
    change next.extend d = _
    rw [Context.extend, if_neg (Nat.not_le.mpr (ofChar?_spec hd).1), hd, ← hnext]
  have hselected : Following.extend c { selector := some σ } =
      ((σ.width : Int), { context := .ofSelected σ }) := by
    have hwidth : Context.selectedWidth σ .plain = σ.width := by cases σ <;> rfl
    rw [← hwidth]
    exact if_pos hc
  rw [measure_cons, measure_cons, ht, hselector, hselected, Int.zero_add]

/-- A character that a selector makes wider takes more columns than its own. It may have none, and
so it is taken twice to have more than one. -/
theorem lt_displayWidth_of_widensBefore {d : Char} (h : widensBefore c d = true) :
    max 1 (charsWidth [c, d, c, d]) < displayWidth [c, d, c, d] := by
  obtain ⟨σ, hd, h⟩ := (Option.any_eq_true _ _).mp h
  simp only [Bool.and_eq_true, decide_eq_true_eq] at h
  obtain ⟨hselects, hlt⟩ := h
  have honce : measure [c, d] = ((σ.width + 0 : Int), { context := .ofSelected σ }) :=
    measure_selected hd hselects rfl rfl
  have htwice : measure [c, d, c, d] =
      ((σ.width + (σ.width + 0) : Int), { context := .ofSelected σ }) := by
    have h := measure_selected (t := [c, d]) hd hselects (by rw [honce]) (by cases σ <;> rfl)
    rwa [honce] at h
  have hsum : charsWidth [c, d, c, d] = 2 * charWidth c := by
    simp only [charsWidth_cons, charsWidth_nil, (ofChar?_spec hd).2]
    omega
  rw [hsum, displayWidth, htwice]
  dsimp only
  omega

theorem measure_indicator {e e' : EmojiSequence} {columns n : Int}
    (hc : isRegionalIndicator c = true) (ht : measure t = (n, { context := .emoji e }))
    (he : e.extend c = some (columns, e')) :
    measure (c :: t) = (columns + n, { context := .emoji e' }) := by
  obtain ⟨hlow, hselector⟩ := EmojiSequence.selector_of_isRegionalIndicator hc
  have hextend : Context.extend c (.emoji e) = (columns, { context := .emoji e' }) := by
    rw [Context.extend, if_neg hlow, hselector, Context.absorb, he]
    rfl
  rw [measure_cons, ht]
  exact congrArg (fun r : Int × Following => (r.1 + n, r.2)) hextend

/-- A flag before a joiner and another flag takes no column, but with one more regional indicator
before it three. -/
theorem lt_displayWidth_indicators {c j : Char} (hc : isRegionalIndicator c = true)
    (hj : isJoiner j = true) :
    3 < displayWidth (truncateEnd [c, c, c, c] 3 [c, c, j, c, c]) := by
  obtain rfl : j = '\u200D' := of_decide_eq_true hj
  have hwidth := EmojiSequence.charWidth_of_isRegionalIndicator hc
  obtain ⟨hlow, hselector⟩ := EmojiSequence.selector_of_isRegionalIndicator hc
  have hkeycap : c ≠ '\u20E3' := by
    rintro rfl
    contradiction
  have hone : measure [c] = (1, { context := .emoji .indicator }) := by
    have hextend : Context.extend c .plain = (1, { context := .emoji .indicator }) := by
      simp [Context.extend, hlow, hselector, Context.absorb, Context.ofChar,
        EmojiSequence.ofChar?, hc, hwidth]
    exact congrArg (fun r : Int × Following => (r.1 + 0, r.2)) hextend
  have htwo : measure [c, c] = (1 + 1, { context := .emoji .indicators }) :=
    measure_indicator hc hone (if_pos hc)
  have hthree : measure [c, c, c] = (1 + (1 + 1), { context := .emoji .indicators }) :=
    measure_indicator hc htwo (if_pos hc)
  have hfour : measure [c, c, c, c] = (1 + (1 + (1 + 1)), { context := .emoji .indicators }) :=
    measure_indicator hc hthree (if_pos hc)
  have hjoined : measure ['\u200D', c, c] = (1 + 1, { context := .emoji .joined }) := by
    rw [measure_cons, htwo]
    rfl
  have hjoinedOne :
      measure [c, '\u200D', c, c] = (1 + (1 + 1), { context := .emoji .joinedIndicator }) :=
    measure_indicator hc hjoined ((if_neg hkeycap).trans (if_pos hc))
  have hjoinedTwo : measure [c, c, '\u200D', c, c] =
      (-1 + (1 + (1 + 1)), { context := .emoji (.joinedIndicators true) }) :=
    measure_indicator hc hjoinedOne (if_pos hc)
  have hjoinedThree : measure [c, c, c, '\u200D', c, c] =
      (3 + (-1 + (1 + (1 + 1))), { context := .emoji (.joinedIndicators false) }) :=
    measure_indicator hc hjoinedTwo (if_pos hc)
  have hcut : truncateEnd [c, c, c, c] 3 [c, c, '\u200D', c, c] = [c, c, c, '\u200D', c, c] := by
    simp [truncateEnd, displayWidth, hfour, hjoinedTwo, truncateToWidth, hwidth]
  rw [hcut, displayWidth, hjoinedThree]
  decide

/-- Texts with the characters of a set fit when they are cut exactly if no character of the set
takes more columns beside the others. -/
theorem forall_displayWidth_truncateEnd_le_iff (A : Char → Prop) :
    (∀ t marker : Text, (∀ c ∈ t ++ marker, A c) →
      ∀ width, displayWidth (t.truncateEnd width marker) ≤ width) ↔ IsSteadySet A := by
  constructor
  · intro h
    refine ⟨fun c hc => ?_, fun c hc d hd => ?_, fun c hc hindicator j hj => ?_⟩
    · by_contra hcontrol
      obtain ⟨hdisplay, hwidth⟩ := displayWidth_of_isControl (eq_true_of_ne_false hcontrol)
      have hle := h [c] [c] (by simp [hc]) 0
      have hcut : truncateEnd [c] 0 [c] = [c] := by
        simp [truncateEnd, hdisplay, truncateToWidth, hwidth]
      rw [hcut, hdisplay] at hle
      exact absurd hle (by decide)
    · by_contra hwidens
      have hlt := lt_displayWidth_of_widensBefore (eq_true_of_ne_false hwidens)
      have hle := h [c, d, c, d] [] (by simp [hc, hd]) (max 1 (charsWidth [c, d, c, d]))
      rw [truncateEnd_nil (Nat.le_max_right _ _) (Nat.le_max_left 1 _)] at hle
      exact absurd hle (Nat.not_le.mpr hlt)
    · by_contra hjoiner
      have hle := h [c, c, c, c] [c, c, j, c, c] (by simp [hc, hj]) 3
      have hlt := lt_displayWidth_indicators hindicator (eq_true_of_ne_false hjoiner)
      exact absurd hle (Nat.not_le.mpr hlt)
  · exact fun h t marker hA width => (h.fitsMarked hA).displayWidth_truncateEnd_le width

/-- A text that fits stays as it is, and any other text becomes the longest text in front whose
characters leave room for the marker, with the marker behind it. The result fits unless a character
takes more columns beside the others than on its own. -/
theorem truncateEnd_spec (t marker : Text) (width : Nat) :
    (displayWidth t ≤ width → t.truncateEnd width marker = t) ∧
    (width < displayWidth t → IsCut width marker t (t.truncateEnd width marker)) ∧
    (t.truncateEnd width marker = t ↔ displayWidth t ≤ width ∨ IsCut width marker t t) ∧
    (FitsMarked t marker → displayWidth (t.truncateEnd width marker) ≤ width) ∧
    ∀ A : Char → Prop,
      (∀ t marker : Text, (∀ c ∈ t ++ marker, A c) →
        ∀ width, displayWidth (t.truncateEnd width marker) ≤ width) ↔ IsSteadySet A := by
  refine ⟨fun hle => if_pos hle, fun hlt => isCut_truncateEnd hlt marker, ⟨fun heq => ?_, ?_⟩,
    fun h => h.displayWidth_truncateEnd_le width, forall_displayWidth_truncateEnd_le_iff⟩
  · rcases Nat.lt_or_ge width (displayWidth t) with hlt | hle
    · have hcut := isCut_truncateEnd hlt marker
      rw [heq] at hcut
      exact Or.inr hcut
    · exact Or.inl hle
  · rintro (hle | hcut)
    · exact if_pos hle
    · rcases Nat.lt_or_ge width (displayWidth t) with hlt | hle
      · exact (isCut_truncateEnd hlt marker).unique hcut
      · exact if_pos hle

/-- Narrow, wide and combining characters, with an ellipsis for what is cut. -/
theorem truncateEnd_wideText :
    FitsMarked "日本 cafe\u0301 🇯🇵".toList "…".toList ∧
      truncateEnd "日本 cafe\u0301 🇯🇵".toList 9 "…".toList = "日本 caf…".toList ∧
      displayWidth (truncateEnd "日本 cafe\u0301 🇯🇵".toList 9 "…".toList) ≤ 9 := by
  have hset : IsSteadySet (· ∈ "日本 cafe\u0301 🇯🇵".toList ++ "…".toList) := by decide +kernel
  have hfits : FitsMarked "日本 cafe\u0301 🇯🇵".toList "…".toList := hset.fitsMarked fun _ hc => hc
  obtain ⟨-, -, -, hle, -⟩ := truncateEnd_spec "日本 cafe\u0301 🇯🇵".toList "…".toList 9
  exact ⟨hfits, by decide +kernel, hle hfits⟩

/-- A tab takes a column in a text and none on its own. -/
theorem lt_displayWidth_truncateEnd_tab :
    0 < displayWidth ['a'] ∧ truncateEnd ['a'] 0 ['\t'] = ['\t'] ∧
      ¬ displayWidth (truncateEnd ['a'] 0 ['\t']) ≤ 0 := by
  decide +kernel

end Text

end TextTable
