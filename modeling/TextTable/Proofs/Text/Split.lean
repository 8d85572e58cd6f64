import Mathlib.Data.List.TakeWhile
import TextTable.Text.Basic

/-! # Texts taken apart at a separator

The tokens of a text are what stands before, between and after its separators.
-/

namespace TextTable

namespace Text

variable {sep : Char} {t : Text} {tokens : List Text}

theorem cutAt_eq_none_iff : cutAt sep t = none ↔ sep ∉ t := by
  induction t with
  | nil => simp [cutAt]
  | cons c t ih =>
    by_cases h : c = sep
    · simp [cutAt, h]
    · simp [cutAt, h, ih, Ne.symm h]

/-- The tokens make up the text, with a separator between two of them and none inside. -/
structure IsSplit (sep : Char) (tokens : List Text) (t : Text) : Prop where
  ne_nil : tokens ≠ []
  not_mem : ∀ token ∈ tokens, sep ∉ token
  eq : t = List.intercalate [sep] tokens

theorem splitOn_append {token : Text} (h : sep ∉ token) :
    splitOn sep (token ++ sep :: t) = token :: splitOn sep t := by
  induction token with
  | nil => simp [splitOn]
  | cons c token ih =>
    obtain ⟨hc, htoken⟩ := List.ne_and_not_mem_of_not_mem_cons h
    simp [splitOn, Ne.symm hc, ih htoken]

theorem splitOn_of_not_mem (h : sep ∉ t) : splitOn sep t = [t] := by
  induction t with
  | nil => rfl
  | cons c t ih =>
    obtain ⟨hc, ht⟩ := List.ne_and_not_mem_of_not_mem_cons h
    simp [splitOn, Ne.symm hc, ih ht]

theorem IsSplit.splitOn_eq (h : IsSplit sep tokens t) : splitOn sep t = tokens := by
  obtain ⟨hne, hnot, rfl⟩ := h
  induction tokens with
  | nil => contradiction
  | cons token tokens ih =>
    obtain ⟨htoken, htokens⟩ := List.forall_mem_cons.mp hnot
    cases tokens with
    | nil => rw [List.intercalate_singleton, splitOn_of_not_mem htoken]
    | cons token' tokens =>
      rw [List.intercalate_cons_cons, List.append_assoc, List.singleton_append,
        splitOn_append htoken, ih (List.cons_ne_nil _ _) htokens]

theorem isSplit_splitOn (sep : Char) (t : Text) : IsSplit sep (splitOn sep t) t := by
  induction t with
  | nil => exact ⟨List.cons_ne_nil _ _, by simp [splitOn], rfl⟩
  | cons c t ih =>
    obtain ⟨hne, hnot, heq⟩ := ih
    obtain ⟨token, tokens, hs⟩ := List.exists_cons_of_ne_nil hne
    rw [hs] at hnot heq
    by_cases h : c = sep
    · refine ⟨?_, ?_, ?_⟩ <;> simp only [splitOn, h, if_true, hs]
      · exact List.cons_ne_nil _ _
      · exact List.forall_mem_cons.mpr ⟨List.not_mem_nil, hnot⟩
      · rw [List.intercalate_cons_cons, ← heq]
        rfl
    · obtain ⟨htoken, htokens⟩ := List.forall_mem_cons.mp hnot
      refine ⟨?_, ?_, ?_⟩ <;> simp only [splitOn, h, if_false, hs]
      · exact List.cons_ne_nil _ _
      · have hcons := List.not_mem_cons_of_ne_of_not_mem (Ne.symm h) htoken
        exact List.forall_mem_cons.mpr ⟨hcons, htokens⟩
      · cases tokens with
        | nil => simp_all [List.intercalate]
        | cons token' tokens =>
          rw [heq, List.intercalate_cons_cons, List.intercalate_cons_cons]
          rfl

theorem splitOn_eq_iff : splitOn sep t = tokens ↔ IsSplit sep tokens t :=
  ⟨fun h => h ▸ isSplit_splitOn sep t, IsSplit.splitOn_eq⟩

theorem IsSplit.not_mem_of_ne {c : Char} (h : IsSplit sep tokens t) (hc : c ≠ sep)
    (htokens : ∀ token ∈ tokens, c ∉ token) : c ∉ t := by
  obtain ⟨-, -, rfl⟩ := h
  induction tokens with
  | nil => exact List.not_mem_nil
  | cons token tokens ih =>
    obtain ⟨htoken, htokens⟩ := List.forall_mem_cons.mp htokens
    cases tokens with
    | nil => rwa [List.intercalate_singleton]
    | cons token' tokens =>
      rw [List.intercalate_cons_cons]
      simp [htoken, hc, ih htokens]

theorem trim_of_isBlank (h : t.isBlank = true) : t.trim = [] := by
  have hstart : t.trimStart = [] := List.dropWhile_eq_nil_iff.mpr (by simpa [isBlank] using h)
  rw [trim, hstart]
  rfl

end Text

end TextTable
