import TextTable.Proofs.Text.Wrap

/-! # Pieces in their text

Lines are broken between pieces, and what a piece is can be told from the text around it: a word
between spaces, divided after every hyphen between two alphanumeric characters, and cut into chunks
if words may be broken.
-/

namespace TextTable

namespace Wrap

open Text

/-- The first text ends with a hyphen that stands between two alphanumeric characters. -/
def EndsAtHyphen (before after : Text) : Prop :=
  ∃ a b, isAlphanumeric a = true ∧ isAlphanumeric b = true ∧ [a, '-'] <:+ before ∧ b ∈ after.head?

/-- No hyphen of the text stands between two alphanumeric characters. -/
def IsUnhyphenated (t : Text) : Prop := ∀ x y, t = x ++ y → ¬ EndsAtHyphen x y

structure IsWord (before word after : Text) : Prop where
  noSpace : ' ' ∉ word
  starts : before = [] ∨ before.getLast? = some ' '
  ends : after = [] ∨ after.head? = some ' '

/-- A part of a word, from the start of the word or a hyphen on up to the next hyphen or the end of
the word, with the text before it and after it. -/
structure IsPart (before part after : Text) : Prop where
  ne_nil : part ≠ []
  noSpace : ' ' ∉ part
  unhyphenated : IsUnhyphenated part
  starts : before = [] ∨ before.getLast? = some ' ' ∨ EndsAtHyphen before part
  ends : after = [] ∨ after.head? = some ' ' ∨ EndsAtHyphen part after

/-- A piece with the text before it and after it: a part of a word, or, if words may be broken, one
of the chunks of `limit` characters that the part is cut into. -/
inductive IsPiece (limit : Nat) : Bool → Text → Text → Text → Prop
  | part {before part after : Text} : IsPart before part after →
      IsPiece limit false before part after
  | chunk {before front chunk back after : Text} : IsPart before (front ++ chunk ++ back) after →
      limit ∣ front.length → chunk ≠ [] → chunk = (chunk ++ back).take limit →
      IsPiece limit true (before ++ front) chunk (back ++ after)

variable {a b c : Char} {limit : Nat} {before part after t x y : Text} {p q w : Piece}
  {ps ps₁ ps₂ : List Piece}

theorem IsPiece.noSpace {breakWords : Bool} (h : IsPiece limit breakWords before t after) :
    ' ' ∉ t := by
  cases h with
  | part h => exact h.noSpace
  | chunk h => exact fun hspace => h.noSpace (by simp [hspace])

theorem EndsAtHyphen.append (h : EndsAtHyphen x y) (before after : Text) :
    EndsAtHyphen (before ++ x) (y ++ after) := by
  obtain ⟨a, b, ha, hb, hx, hy⟩ := h
  exact ⟨a, b, ha, hb, List.suffix_append_of_suffix hx, List.mem_head?_append_of_mem_head? hy⟩

theorem endsAtHyphen_cons_iff : EndsAtHyphen (a :: x) y ↔ EndsAtHyphen x y ∨
    x = ['-'] ∧ isAlphanumeric a = true ∧ ∃ b ∈ y.head?, isAlphanumeric b = true := by
  constructor
  · rintro ⟨c, b, hc, hb, hx, hy⟩
    rcases List.suffix_cons_iff.mp hx with heq | hx
    · obtain ⟨rfl, rfl⟩ := List.cons.inj heq
      exact Or.inr ⟨rfl, hc, b, hy, hb⟩
    · exact Or.inl ⟨c, b, hc, hb, hx, hy⟩
  · rintro (h | ⟨rfl, ha, b, hy, hb⟩)
    · simpa using h.append [a] []
    · exact ⟨a, b, ha, hb, List.suffix_rfl, hy⟩

theorem IsUnhyphenated.tail (h : IsUnhyphenated (a :: t)) : IsUnhyphenated t :=
  fun x y heq hends => h (a :: x) y (by rw [heq, List.cons_append]) (by
    simpa using hends.append [a] [])

theorem IsUnhyphenated.cons (h : IsUnhyphenated t)
    (ha : ∀ b rest, t = '-' :: b :: rest → isAlphanumeric a = true → isAlphanumeric b = false) :
    IsUnhyphenated (a :: t) := by
  intro x y heq hends
  rcases List.cons_eq_append_iff.mp heq with ⟨rfl, -⟩ | ⟨x, rfl, rfl⟩
  · obtain ⟨_, _, -, -, hx, -⟩ := hends
    exact absurd (List.suffix_nil.mp hx) (List.cons_ne_nil _ _)
  · rcases endsAtHyphen_cons_iff.mp hends with hends | ⟨rfl, halpha, b, hb, hbalpha⟩
    · exact h x y rfl hends
    · obtain ⟨rest, rfl⟩ := List.head?_eq_some_iff.mp hb
      exact absurd (hbalpha.symm.trans (ha b rest rfl halpha)) (by decide)

/-- The words of a text follow one another with spaces between them. -/
structure AreWords (ws : List Piece) : Prop where
  noSpace : ∀ w ∈ ws, ' ' ∉ w.text
  ne_nil : ∀ w ∈ ws.tail, w.text ≠ []
  separated : ws.IsChain fun w _ => 0 < w.spaces

theorem areWords_words (t : Text) : AreWords (words t) := by
  induction t with
  | nil => exact ⟨List.forall_mem_nil _, List.forall_mem_nil _, .nil⟩
  | cons c t ih =>
    obtain ⟨hspace, hne, hseparated⟩ := ih
    rw [words]
    split
    · split
      · next n more hw =>
        rw [hw] at hspace hne hseparated
        obtain ⟨-, hspace⟩ := List.forall_mem_cons.mp hspace
        exact ⟨List.forall_mem_cons.mpr ⟨List.not_mem_nil, hspace⟩, hne,
          List.isChain_cons.mpr ⟨fun _ _ => Nat.succ_pos n, hseparated.tail⟩⟩
      · next hw =>
        refine ⟨List.forall_mem_cons.mpr ⟨List.not_mem_nil, hspace⟩, fun w hmem hnil => ?_,
          List.isChain_cons.mpr ⟨fun _ _ => Nat.one_pos, hseparated⟩⟩
        -- The first of these words is not empty, or else the space would belong to it.
        cases hwords : words t with
        | nil => simp [hwords] at hmem
        | cons v more =>
          rw [hwords, List.tail_cons] at hmem hne
          rcases List.mem_cons.mp hmem with rfl | hmem
          · exact hw w.spaces more (by rw [hwords, ← hnil])
          · exact hne w hmem hnil
    · next hc =>
      split
      · next v more hw =>
        rw [hw] at hspace hne hseparated
        obtain ⟨hv, hspace⟩ := List.forall_mem_cons.mp hspace
        refine ⟨List.forall_mem_cons.mpr ⟨?_, hspace⟩, hne, ?_⟩
        · simpa [eq_comm] using And.intro hc hv
        · exact List.isChain_cons.mpr (List.isChain_cons.mp hseparated)
      · exact ⟨List.forall_mem_singleton.mpr fun h => hc (List.mem_singleton.mp h).symm,
          List.forall_mem_nil _, .singleton _⟩

theorem isWord_of_words (h : words t = ps₁ ++ w :: ps₂) : IsWord (ps₁.flatMap Piece.full) w.text
    (TextTable.spaces w.spaces ++ ps₂.flatMap Piece.full) := by
  obtain ⟨hspace, -, hseparated⟩ := h ▸ areWords_words t
  refine ⟨hspace w (by simp), ?_, ?_⟩
  · rcases List.eq_nil_or_concat' ps₁ with rfl | ⟨ps₁, v, rfl⟩
    · exact Or.inl rfl
    · rw [List.append_assoc] at hseparated
      have hpos := (List.isChain_append_cons_cons.mp hseparated).2.1
      obtain ⟨n, hn⟩ := Nat.exists_eq_add_of_lt hpos
      refine Or.inr ?_
      simp [Piece.full, TextTable.spaces, hn, List.replicate_succ']
  · cases hn : w.spaces with
    | zero =>
      cases ps₂ with
      | nil => exact Or.inl rfl
      | cons v ps₂ =>
        have hpos := (List.isChain_append_cons_cons.mp hseparated).2.1
        exact absurd hn (Nat.ne_of_gt hpos)
    | succ n => exact Or.inr (by simp [TextTable.spaces, List.replicate_succ])

structure AreParts (ds : List Text) : Prop where
  unhyphenated : ∀ d ∈ ds, IsUnhyphenated d
  divided : ds.IsChain EndsAtHyphen

theorem head?_hyphenParts (before : Option Char) (t : Text) :
    (hyphenParts before t).1.head? = t.head? := by
  cases t with
  | nil => rfl
  | cons c t =>
    simp only [hyphenParts]
    split <;> rfl

theorem isUnhyphenated_nil : IsUnhyphenated [] := fun x y heq ⟨_, _, _, _, hx, _⟩ => by
  obtain ⟨rfl, -⟩ := List.append_eq_nil_iff.mp heq.symm
  exact List.cons_ne_nil _ _ (List.suffix_nil.mp hx)

theorem isUnhyphenated_singleton (a : Char) : IsUnhyphenated [a] :=
  isUnhyphenated_nil.cons fun _ _ heq => absurd heq.symm (List.cons_ne_nil _ _)

theorem areParts_hyphenParts (before : Option Char) (t : Text) :
    AreParts ((before.toList ++ (hyphenParts before t).1) :: (hyphenParts before t).2) := by
  induction t generalizing before with
  | nil =>
    refine ⟨List.forall_mem_singleton.mpr ?_, .singleton _⟩
    cases before with
    | none => exact isUnhyphenated_nil
    | some a => exact isUnhyphenated_singleton a
  | cons c t ih =>
    have hhead := head?_hyphenParts (some c) t
    obtain ⟨hparts, hchain⟩ := ih (some c)
    simp only [hyphenParts]
    generalize hyphenParts (some c) t = r at *
    obtain ⟨part, more⟩ := r
    obtain ⟨hpart, hmore⟩ := List.forall_mem_cons.mp hparts
    obtain ⟨hnext, hdivided⟩ := List.isChain_cons.mp hchain
    dsimp only [Option.toList_some, List.singleton_append] at hpart hnext hhead hmore hdivided
    split
    · next hbreak =>
      simp only [Bool.and_eq_true, decide_eq_true_eq, Option.any_eq_true] at hbreak
      obtain ⟨⟨rfl, a, rfl, ha⟩, b, hb, hbalpha⟩ := hbreak
      have hends : EndsAtHyphen [a, '-'] part :=
        ⟨a, b, ha, hbalpha, List.suffix_rfl, hhead.trans hb⟩
      refine ⟨List.forall_mem_cons.mpr ⟨(isUnhyphenated_singleton '-').cons (by simp),
        List.forall_mem_cons.mpr ⟨hpart.tail, hmore⟩⟩,
        List.isChain_cons_cons.mpr ⟨hends, List.isChain_cons.mpr ⟨fun next hn => ?_, hdivided⟩⟩⟩
      exact (endsAtHyphen_cons_iff.mp (hnext next hn)).resolve_right
        fun h => absurd h.2.1 (by decide)
    · next hbreak =>
      refine ⟨List.forall_mem_cons.mpr ⟨?_, hmore⟩,
        List.isChain_cons.mpr ⟨fun next hn => ?_, hdivided⟩⟩
      · cases before with
        | none => exact hpart
        | some a =>
          refine hpart.cons fun b rest heq ha => ?_
          obtain ⟨rfl, rfl⟩ := List.cons.inj heq
          simpa [ha, ← hhead] using hbreak
      · simpa using (hnext next hn).append before.toList []

/-- The texts of the pieces that a word is divided into, with those before and after. -/
theorem exists_of_ofParts {n : Nat} {part : Text} {more : List Text}
    (h : ofParts n part more = ps₁ ++ p :: ps₂) :
    ∃ ds₁ ds₂, part :: more = ds₁ ++ p.text :: ds₂ ∧ ps₁.flatMap Piece.full = ds₁.flatten ∧
      TextTable.spaces p.spaces ++ ps₂.flatMap Piece.full =
        ds₂.flatten ++ TextTable.spaces n := by
  induction more generalizing part ps₁ with
  | nil =>
    rcases List.cons_eq_append_iff.mp h with ⟨rfl, heq⟩ | ⟨ps₁, rfl, hnil⟩
    · obtain ⟨rfl, rfl⟩ := List.cons.inj heq
      exact ⟨[], [], rfl, rfl, by simp⟩
    · simp at hnil
  | cons next more ih =>
    rcases List.cons_eq_append_iff.mp h with ⟨rfl, heq⟩ | ⟨ps₁, rfl, hrest⟩
    · obtain ⟨rfl, rfl⟩ := List.cons.inj heq
      refine ⟨[], next :: more, rfl, rfl, ?_⟩
      rw [flatMap_full_ofParts, List.flatten_cons]
      rfl
    · obtain ⟨ds₁, ds₂, hds, hfront, hback⟩ := ih hrest
      refine ⟨part :: ds₁, ds₂, by rw [hds, List.cons_append], ?_, hback⟩
      simp [Piece.full, TextTable.spaces, hfront]

/-- A piece out of the pieces of several words is one of the pieces of a word. -/
theorem exists_of_flatMap {f : Piece → List Piece} {ws : List Piece}
    (h : ws.flatMap f = ps₁ ++ p :: ps₂) :
    ∃ ws₁ w ws₂ qs₁ qs₂, ws = ws₁ ++ w :: ws₂ ∧ f w = qs₁ ++ p :: qs₂ ∧
      ps₁ = ws₁.flatMap f ++ qs₁ ∧ ps₂ = qs₂ ++ ws₂.flatMap f := by
  induction ws generalizing ps₁ with
  | nil => simp at h
  | cons w ws ih =>
    have hlater (as : List Piece) (hps : ps₁ = f w ++ as) (hrest : ws.flatMap f = as ++ p :: ps₂) :
        ∃ ws₁ v ws₂ qs₁ qs₂, w :: ws = ws₁ ++ v :: ws₂ ∧ f v = qs₁ ++ p :: qs₂ ∧
          ps₁ = ws₁.flatMap f ++ qs₁ ∧ ps₂ = qs₂ ++ ws₂.flatMap f := by
      obtain ⟨ws₁, v, ws₂, qs₁, qs₂, rfl, hv, rfl, rfl⟩ := ih hrest
      exact ⟨w :: ws₁, v, ws₂, qs₁, qs₂, rfl, hv, by simp [hps], rfl⟩
    rw [List.flatMap_cons] at h
    rcases List.append_eq_append_iff.mp h with ⟨as, hps, hrest⟩ | ⟨bs, hw, hrest⟩
    · exact hlater as hps hrest
    · rcases List.cons_eq_append_iff.mp hrest with ⟨rfl, hrest⟩ | ⟨bs, rfl, rfl⟩
      · exact hlater [] (by simpa using hw.symm) hrest.symm
      · exact ⟨[], w, ws, ps₁, bs, rfl, hw, rfl, rfl⟩

theorem IsWord.isPart {d : Text} {ds₁ ds₂ : List Text}
    (h : IsWord before (ds₁ ++ d :: ds₂).flatten after) (hparts : AreParts (ds₁ ++ d :: ds₂))
    (hne : d ≠ []) : IsPart (before ++ ds₁.flatten) d (ds₂.flatten ++ after) where
  ne_nil := hne
  noSpace hd := h.noSpace (List.mem_flatten.mpr ⟨d, by simp, hd⟩)
  unhyphenated := hparts.unhyphenated d (by simp)
  starts := by
    rcases List.eq_nil_or_concat' ds₁ with rfl | ⟨ds₁, e, rfl⟩
    · simpa using h.starts.imp_right Or.inl
    · have hdivided := hparts.divided
      rw [List.append_assoc] at hdivided
      have hends : EndsAtHyphen e d := (List.isChain_append_cons_cons.mp hdivided).2.1
      refine Or.inr (Or.inr ?_)
      simpa using hends.append (before ++ ds₁.flatten) []
  ends := by
    cases ds₂ with
    | nil => exact h.ends.imp_right Or.inl
    | cons e ds₂ =>
      have hends : EndsAtHyphen d e := (List.isChain_append_cons_cons.mp hparts.divided).2.1
      refine Or.inr (Or.inr ?_)
      simpa using hends.append [] (ds₂.flatten ++ after)

theorem isPart_of_flatMap (h : (words t).flatMap atHyphens = ps₁ ++ p :: ps₂) (hne : p.text ≠ []) :
    IsPart (ps₁.flatMap Piece.full) p.text
      (TextTable.spaces p.spaces ++ ps₂.flatMap Piece.full) := by
  obtain ⟨ws₁, w, ws₂, qs₁, qs₂, hwords, hw, rfl, rfl⟩ := exists_of_flatMap h
  obtain ⟨ds₁, ds₂, hds, hfront, hback⟩ := exists_of_ofParts hw
  have hparts := areParts_hyphenParts none w.text
  have htext := hyphenParts_flatten none w.text
  rw [Option.toList_none, List.nil_append, hds] at hparts
  rw [← List.flatten_cons, hds] at htext
  have hpart := IsWord.isPart (htext ▸ isWord_of_words hwords) hparts hne
  have hbefore : (ws₁.flatMap atHyphens ++ qs₁).flatMap Piece.full =
      ws₁.flatMap Piece.full ++ ds₁.flatten := by
    rw [List.flatMap_append, List.flatMap_assoc, hfront]
    simp only [flatMap_full_atHyphens]
  have hafter : TextTable.spaces p.spaces ++ (qs₂ ++ ws₂.flatMap atHyphens).flatMap Piece.full =
      ds₂.flatten ++ (TextTable.spaces w.spaces ++ ws₂.flatMap Piece.full) := by
    rw [List.flatMap_append, ← List.append_assoc, hback, List.append_assoc, List.flatMap_assoc]
    simp only [flatMap_full_atHyphens]
  rw [hbefore, hafter]
  exact hpart

theorem isNarrow_of_mem_flatMap (h : IsNarrow t) (hp : p ∈ (words t).flatMap atHyphens) :
    IsNarrow p.text :=
  @isNarrow_of_mem_pieces 0 t false p h hp

theorem AreParts.ne_nil {d : Text} {ds : List Text} (h : AreParts (d :: ds)) (hd : d ≠ []) :
    ∀ e ∈ d :: ds, e ≠ [] := by
  have hlater (e : Text) (he : e ∈ ds) : e ≠ [] := by
    obtain ⟨front, back, heq⟩ := List.append_of_mem he
    obtain ⟨e', hends⟩ : ∃ e', EndsAtHyphen e' e := by
      have hdivided := h.divided
      rcases List.eq_nil_or_concat' front with rfl | ⟨front, e', rfl⟩
      · rw [heq] at hdivided
        exact ⟨d, (List.isChain_cons_cons.mp hdivided).1⟩
      · rw [heq, List.append_assoc, ← List.cons_append] at hdivided
        exact ⟨e', (List.isChain_append_cons_cons.mp hdivided).2.1⟩
    obtain ⟨_, b, -, -, -, hb⟩ := hends
    exact List.ne_nil_of_mem (List.mem_of_mem_head? hb)
  exact List.forall_mem_cons.mpr ⟨hd, hlater⟩

theorem AreChunks.dvd_length {ds ds' : List Text} (h : AreChunks limit (ds ++ ds'))
    (hne : ds' ≠ []) : limit ∣ ds.flatten.length := by
  induction ds with
  | nil => exact Nat.dvd_zero limit
  | cons d ds ih =>
    rw [List.cons_append] at h
    obtain ⟨hnil, hle, hfull⟩ := h
    obtain ⟨hnext, hfull⟩ := List.isChain_cons.mp hfull
    obtain ⟨e, rest, hrest⟩ :=
      List.exists_cons_of_ne_nil (List.append_ne_nil_of_right_ne_nil ds hne)
    have hd : d.length = limit := hnext e (by rw [hrest]; rfl)
    have hdvd := ih ⟨(List.forall_mem_cons.mp hnil).2, (List.forall_mem_cons.mp hle).2, hfull⟩
    rw [List.flatten_cons, List.length_append, hd]
    exact Nat.dvd_add (Nat.dvd_refl limit) hdvd

theorem AreChunks.eq_take {d : Text} {ds₁ ds₂ : List Text}
    (h : AreChunks limit (ds₁ ++ d :: ds₂)) : d = (d ++ ds₂.flatten).take limit := by
  cases ds₂ with
  | nil =>
    have hle := h.length_le d (by simp)
    simp [List.take_of_length_le hle]
  | cons e ds₂ =>
    have heq : d.length = limit := (List.isChain_append_cons_cons.mp h.length_eq).2.1
    exact (List.take_left' heq).symm

theorem isPiece_of_pieces {breakWords : Bool} (h : IsNarrow t) (hl : 0 < limit)
    (hps : pieces limit breakWords t = ps₁ ++ p :: ps₂) (hne : p.text ≠ []) :
    IsPiece limit breakWords (ps₁.flatMap Piece.full) p.text
      (TextTable.spaces p.spaces ++ ps₂.flatMap Piece.full) := by
  cases breakWords with
  | false => exact .part (isPart_of_flatMap hps hne)
  | true =>
    obtain ⟨ws₁, w, ws₂, qs₁, qs₂, hparts, hw, rfl, rfl⟩ := exists_of_flatMap hps
    have hnarrow : IsNarrow w.text := isNarrow_of_mem_flatMap h (by simp [hparts])
    have hchunk : ∃ ds₁ ds₂, w.text = ds₁ ++ p.text ++ ds₂ ∧ limit ∣ ds₁.length ∧
        p.text = (p.text ++ ds₂).take limit ∧ qs₁.flatMap Piece.full = ds₁ ∧
        TextTable.spaces p.spaces ++ qs₂.flatMap Piece.full =
          ds₂ ++ TextTable.spaces w.spaces := by
      unfold cutToWidth at hw
      split at hw
      · next hlt =>
        obtain ⟨ds₁, ds₂, hds, hfront, hback⟩ := exists_of_ofParts hw
        have hchunks := hds ▸ areChunks_of_limit_lt hnarrow hl hlt
        have htext := fittingParts_flatten limit 0 .outside w.text
        rw [← List.flatten_cons, hds] at htext
        exact ⟨ds₁.flatten, ds₂.flatten, by simp [← htext],
          hchunks.dvd_length (List.cons_ne_nil _ _), hchunks.eq_take, hfront, hback⟩
      · next hle =>
        rw [Piece.width_eq hnarrow] at hle
        obtain ⟨rfl, rfl, rfl⟩ : qs₁ = [] ∧ w = p ∧ qs₂ = [] := by
          rcases List.cons_eq_append_iff.mp hw with ⟨rfl, heq⟩ | ⟨_, rfl, hnil⟩
          · simp_all
          · simp at hnil
        exact ⟨[], [], by simp, Nat.dvd_zero limit,
          by simp [List.take_of_length_le (Nat.not_lt.mp hle)], rfl, by simp⟩
    obtain ⟨front, back, htext, hdvd, htake, rfl, hback⟩ := hchunk
    have hpart : IsPart (ws₁.flatMap Piece.full) (qs₁.flatMap Piece.full ++ p.text ++ back)
        (TextTable.spaces w.spaces ++ ws₂.flatMap Piece.full) := by
      rw [← htext]
      refine isPart_of_flatMap hparts fun hnil => hne ?_
      rw [hnil] at htext
      exact (List.append_eq_nil_iff.mp (List.append_eq_nil_iff.mp htext.symm).1).2
    have hpiece := IsPiece.chunk hpart hdvd hne htake
    rw [List.flatMap_append, List.flatMap_append, List.flatMap_assoc, List.flatMap_assoc]
    simp only [flatMap_full_cutToWidth]
    rw [← List.append_assoc (TextTable.spaces p.spaces), hback, List.append_assoc]
    exact hpiece

/-- Only the first piece can be empty, before spaces at the start of the text. -/
def OnlyFirstEmpty (ps : List Piece) : Prop := ∀ p ∈ ps.tail, p.text ≠ []

theorem OnlyFirstEmpty.flatMap {f : Piece → List Piece} (h : OnlyFirstEmpty ps)
    (hempty : ∀ p ∈ ps, p.text = [] → f p = [p])
    (hf : ∀ p ∈ ps, p.text ≠ [] → ∀ q ∈ f p, q.text ≠ []) : OnlyFirstEmpty (ps.flatMap f) := by
  cases ps with
  | nil => nofun
  | cons p ps =>
    obtain ⟨hemptyp, -⟩ := List.forall_mem_cons.mp hempty
    obtain ⟨hfp, hfps⟩ := List.forall_mem_cons.mp hf
    have hrest : ∀ q ∈ ps.flatMap f, q.text ≠ [] := fun q hq => by
      obtain ⟨p, hp, hq⟩ := List.mem_flatMap.mp hq
      exact hfps p hp (h p hp) q hq
    rw [List.flatMap_cons]
    by_cases hp : p.text = []
    · rw [hemptyp hp]
      exact hrest
    · exact fun q hq => (List.mem_append.mp (List.mem_of_mem_tail hq)).elim (hfp hp q) (hrest q)

theorem onlyFirstEmpty_pieces {breakWords : Bool} (h : IsNarrow t) (hl : 0 < limit) :
    OnlyFirstEmpty (pieces limit breakWords t) := by
  have hparts : OnlyFirstEmpty ((words t).flatMap atHyphens) := by
    refine OnlyFirstEmpty.flatMap (areWords_words t).ne_nil (fun w _ hw => ?_) fun w _ hw q hq => ?_
    · obtain ⟨text, n⟩ := w
      cases hw
      rfl
    · have hhead := head?_hyphenParts none w.text
      have hfirst : (hyphenParts none w.text).1 ≠ [] := fun hnil => by
        rw [hnil] at hhead
        exact hw (List.head?_eq_none_iff.mp hhead.symm)
      exact (areParts_hyphenParts none w.text).ne_nil hfirst _
        (List.mem_cons.mpr (text_mem_of_mem_ofParts hq))
  cases breakWords with
  | false => exact hparts
  | true =>
    refine hparts.flatMap (fun w _ hw => ?_) fun w hmem hw q hq => ?_
    · rw [cutToWidth, if_neg (by simp [Piece.width, hw, shownWidth, Escape.width])]
    · have hnarrow : IsNarrow w.text := isNarrow_of_mem_flatMap h hmem
      unfold cutToWidth at hq
      split at hq
      · next hlt =>
        exact (areChunks_of_limit_lt hnarrow hl hlt).ne_nil _
          (List.mem_cons.mpr (text_mem_of_mem_ofParts hq))
      · rwa [List.mem_singleton.mp hq]

end Wrap

end TextTable
