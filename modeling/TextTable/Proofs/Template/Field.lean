import Mathlib.Data.Bool.AllAny
import Mathlib.Data.List.TakeWhile
import TextTable.Function.Builtin
import TextTable.Proofs.Format.Refusal

/-! # Fields of brace templates

A field ends at its closing brace, and its name at the first colon outside of brackets. The brackets
are counted over the whole field, so a spec is passed on untouched only if its own brackets are as
many opening as closing ones.
-/

namespace TextTable.Brace

variable {t name spec : Text}

def IsPlain (c : Char) : Prop :=
  c ≠ '{' ∧ c ≠ '}' ∧ c ≠ '[' ∧ c ≠ ']' ∧ c ≠ '!' ∧ c ≠ ':' ∧ c ≠ '.'

def IsNoBracket (c : Char) : Prop := c ≠ '{' ∧ c ≠ '}' ∧ c ≠ '[' ∧ c ≠ ']'

instance (c : Char) : Decidable (IsPlain c) :=
  inferInstanceAs (Decidable
    (c ≠ '{' ∧ c ≠ '}' ∧ c ≠ '[' ∧ c ≠ ']' ∧ c ≠ '!' ∧ c ≠ ':' ∧ c ≠ '.'))

instance (c : Char) : Decidable (IsNoBracket c) :=
  inferInstanceAs (Decidable (c ≠ '{' ∧ c ≠ '}' ∧ c ≠ '[' ∧ c ≠ ']'))

theorem IsPlain.isNoBracket {c : Char} (h : IsPlain c) : IsNoBracket c :=
  ⟨h.1, h.2.1, h.2.2.1, h.2.2.2.1⟩

theorem IsNoBracket.isNoBrace {c : Char} (h : IsNoBracket c) : c ≠ '{' ∧ c ≠ '}' := ⟨h.1, h.2.1⟩

theorem count_eq_of_isNoBracket (h : ∀ c ∈ t, IsNoBracket c) : t.count '[' = t.count ']' := by
  have hopen : t.count '[' = 0 := List.count_eq_zero.mpr fun hmem => (h _ hmem).2.2.1 rfl
  have hclose : t.count ']' = 0 := List.count_eq_zero.mpr fun hmem => (h _ hmem).2.2.2 rfl
  rw [hopen, hclose]

/-- The text belongs to a name as a whole, whatever stands behind it. -/
def IsInName (t : Text) : Prop :=
  ∀ rest, splitName 0 (t ++ rest) = (t ++ (splitName 0 rest).1, (splitName 0 rest).2)

theorem splitName_append (depth : Int)
    (h : ∀ c ∈ t, c ≠ '[' ∧ c ≠ ']' ∧ (depth = 0 → c ≠ '!' ∧ c ≠ ':')) (rest : Text) :
    splitName depth (t ++ rest) = (t ++ (splitName depth rest).1, (splitName depth rest).2) := by
  induction t with
  | nil => rfl
  | cons c t ih =>
    obtain ⟨⟨ho, hc, hend⟩, ht⟩ := List.forall_mem_cons.mp h
    have hinner : ¬ (depth = 0 ∧ (c = '!' ∨ c = ':')) := by
      rintro ⟨hd, h | h⟩
      · exact (hend hd).1 h
      · exact (hend hd).2 h
    simp only [List.cons_append, splitName, hinner, ho, hc, if_false, ih ht]

theorem isInName_nil : IsInName [] := fun _ => rfl

theorem IsInName.append {t' : Text} (h : IsInName t) (h' : IsInName t') : IsInName (t ++ t') := by
  intro rest
  rw [List.append_assoc, h, h', List.append_assoc]

theorem isInName_of_isPlain (h : ∀ c ∈ t, IsPlain c) : IsInName t := by
  apply splitName_append 0
  intro c hc
  obtain ⟨-, -, ho, hc, he, hcolon, -⟩ := h c hc
  exact ⟨ho, hc, fun _ => ⟨he, hcolon⟩⟩

theorem startsAccessor_eq_false (h : ∀ c ∈ name, IsPlain c) :
    ∀ c ∈ name, (!startsAccessor c) = true := by
  intro c hc
  obtain ⟨-, -, ho, -, -, -, hdot⟩ := h c hc
  simp [startsAccessor, ho, hdot]

/-- The text in front of the spec of a field names an argument and a path from it. -/
structure IsNameOf (name : Text) (argument : Argument) (path : List Accessor) : Prop where
  isInName : IsInName name
  inner : ∀ c ∈ name, c ≠ '{' ∧ c ≠ '}'
  balanced : name.count '[' = name.count ']'
  argument : .ofName (name.takeWhile fun c => !startsAccessor c) = argument
  path : scanPath (name.dropWhile fun c => !startsAccessor c) = ⟨path, none⟩

theorem isNameOf_nil : IsNameOf [] .next [] :=
  ⟨isInName_nil, List.forall_mem_nil _, rfl, rfl, rfl⟩

theorem isNameOf_plain (h : ∀ c ∈ name, IsPlain c) : IsNameOf name (.ofName name) [] where
  isInName := isInName_of_isPlain h
  inner c hc := (h c hc).isNoBracket.isNoBrace
  balanced := count_eq_of_isNoBracket fun c hc => (h c hc).isNoBracket
  argument := by rw [List.takeWhile_eq_self_iff.mpr (startsAccessor_eq_false h)]
  path := by
    rw [List.dropWhile_eq_nil_iff.mpr (startsAccessor_eq_false h)]
    rfl

theorem IsNameOf.ofText_eq {argument : Argument} {path : List Accessor}
    (h : IsNameOf name argument path) (spec : Text) :
    Replacement.ofText (name ++ ':' :: spec) = ⟨argument, ⟨path, none⟩, none, spec⟩ := by
  have hsplit : splitName 0 (name ++ ':' :: spec) = (name, ':' :: spec) := by
    simpa [splitName] using h.isInName (':' :: spec)
  rw [Replacement.ofText, hsplit, ← h.argument, ← h.path]
  rfl

theorem scanReplacement_eq (h : ∀ c ∈ t, c ≠ '{' ∧ c ≠ '}') (front rest : Text) :
    scanReplacement front (t ++ '}' :: rest) =
      if (front ++ t).count '[' = (front ++ t).count ']' then
        .cons (.replacement (.ofText (front ++ t))) (scan rest)
      else .stop .unmatchedBracket := by
  induction t generalizing front with
  | nil => simp [scanReplacement]
  | cons c t ih =>
    obtain ⟨⟨ho, hc⟩, ht⟩ := List.forall_mem_cons.mp h
    rw [List.cons_append, scanReplacement, if_neg hc, if_neg ho, ih ht]
    simp

theorem scan_field (h : ∀ c ∈ t, c ≠ '{' ∧ c ≠ '}') (rest : Text) :
    scan ('{' :: t ++ '}' :: rest) =
      if t.count '[' = t.count ']' then .cons (.replacement (.ofText t)) (scan rest)
      else .stop .unmatchedBracket := by
  -- The text does not start with a brace, so the brace before it is not doubled.
  have hscan : scan ('{' :: t ++ '}' :: rest) = scanReplacement [] (t ++ '}' :: rest) := by
    cases t with
    | nil => simp [scan]
    | cons c t => simp [scan, (h c List.mem_cons_self).1]
  rw [hscan, scanReplacement_eq h, List.nil_append]

theorem expand_of_count_ne (h : ∀ c ∈ t, c ≠ '{' ∧ c ≠ '}') (hcount : t.count '[' ≠ t.count ']')
    (args : Arguments) : expand ('{' :: t ++ ['}']) args =
      .error (.invalidSpec ('{' :: t ++ ['}']) .unmatchedBracket) := by
  rw [expand, scan_field h, if_neg hcount]
  rfl

theorem expand_of_count_eq (h : ∀ c ∈ t, c ≠ '{' ∧ c ≠ '}') (hcount : t.count '[' = t.count ']')
    (args : Arguments) : expand ('{' :: t ++ ['}']) args =
      (args.select .unused (Replacement.ofText t).argument).mapError
        (.withSpec ('{' :: t ++ ['}'])) >>= fun selected =>
          (Replacement.ofText t).expand ('{' :: t ++ ['}']) selected.1 := by
  rw [expand, scan_field h, if_pos hcount]
  simp only [Scan.cons, scan, Scan.done, expandParts]
  cases (args.select .unused (Replacement.ofText t).argument).mapError
    (FormatError.withSpec ('{' :: t ++ ['}'])) with
  | error e => rfl
  | ok selected =>
    simp only [bind, Except.bind]
    cases (Replacement.ofText t).expand ('{' :: t ++ ['}']) selected.1 <;>
      simp [templateError, pure, Except.pure]

theorem expand_path (template : Text) (argument : Argument) (path : List Accessor) (spec : Text)
    (v : Value) : Replacement.expand template ⟨argument, ⟨path, none⟩, none, spec⟩ v =
      follow v path >>= (formatValue · spec) := by
  rw [Replacement.expand]
  cases follow v path <;> rfl

/-- A field whose brackets match in its spec as well shows the named part under the spec. -/
theorem IsNameOf.expand_eq {argument : Argument} {path : List Accessor}
    (h : IsNameOf name argument path) (hspec : ∀ c ∈ spec, c ≠ '{' ∧ c ≠ '}')
    (hcount : spec.count '[' = spec.count ']') (args : Arguments) :
    expand ('{' :: (name ++ ':' :: spec) ++ ['}']) args =
      (args.select .unused argument).mapError (.withSpec ('{' :: (name ++ ':' :: spec) ++ ['}']))
        >>= fun selected => follow selected.1 path >>= (formatValue · spec) := by
  have hinner : ∀ c ∈ name ++ ':' :: spec, c ≠ '{' ∧ c ≠ '}' := by
    refine List.forall_mem_append.mpr ⟨h.inner, ?_⟩
    exact List.forall_mem_cons.mpr ⟨by decide, hspec⟩
  have hbalanced : (name ++ ':' :: spec).count '[' = (name ++ ':' :: spec).count ']' := by
    simp [h.balanced, hcount]
  rw [expand_of_count_eq hinner hbalanced, h.ofText_eq]
  simp only [expand_path]

/-- A spec without braces is passed on exactly if its brackets are as many opening as closing ones.
Otherwise the field is refused, whatever the spec means. -/
theorem call_spec_eq_iff (v : Value) (spec : Text) (hspec : ∀ c ∈ spec, c ≠ '{' ∧ c ≠ '}') :
    (Builtin.sformat.call v ('{' :: ':' :: spec ++ ['}']) = formatValue v spec ↔
        spec.count '[' = spec.count ']') ∧
      (spec.count '[' ≠ spec.count ']' →
        Builtin.sformat.call v ('{' :: ':' :: spec ++ ['}']) =
          .error (.invalidSpec ('{' :: ':' :: spec ++ ['}']) .unmatchedBracket)) := by
  have hrefused (hne : spec.count '[' ≠ spec.count ']') :
      Builtin.sformat.call v ('{' :: ':' :: spec ++ ['}']) =
        .error (.invalidSpec ('{' :: ':' :: spec ++ ['}']) .unmatchedBracket) := by
    apply expand_of_count_ne
    · exact List.forall_mem_cons.mpr ⟨by decide, hspec⟩
    · simpa using hne
  refine ⟨⟨fun heq => ?_, fun hcount => ?_⟩, hrefused⟩
  -- The fault of the field is none that a spec can have.
  · by_contra hne
    rw [hrefused hne] at heq
    cases isRefusal_formatValue heq.symm with
    | fault h => contradiction
  · exact isNameOf_nil.expand_eq hspec hcount { positional := [v] }

/-- A fill may be a character that ends names. -/
theorem colonFill_call :
    Builtin.sformat.call (.int 12345) "\x7b::^+9,d\x7d".toList =
      formatValue (.int 12345) ":^+9,d".toList ∧
    formatValue (.int 12345) ":^+9,d".toList = .ok ":+12,345:".toList := by
  constructor
  · have hspec : ∀ c ∈ ":^+9,d".toList, c ≠ '{' ∧ c ≠ '}' := List.all_iff_forall_prop.mp (by decide)
    exact (call_spec_eq_iff (.int 12345) _ hspec).1.mpr (by decide)
  · rfl

/-- A fill may not be a bracket. -/
theorem bracketFill_call :
    Builtin.sformat.call (.int 5) "\x7b:[>5\x7d".toList =
      .error (.invalidSpec "\x7b:[>5\x7d".toList .unmatchedBracket) ∧
    formatValue (.int 5) "[>5".toList = .ok "[[[[5".toList := by
  constructor
  · rfl
  · rfl

end TextTable.Brace
