import TextTable.Text.Basic

/-! # Dictionaries

A dictionary is a list of keys with their entries, in increasing order of the keys. Insertion keeps
the order and replaces an entry with the same key.
-/

namespace TextTable

/-- Keys with their entries, in increasing order of the keys. -/
abbrev Dict (α : Type) := List (Text × α)

namespace Dict

variable {α : Type}

/-- The keys increase strictly. -/
def Ordered (d : Dict α) : Prop := d.Pairwise fun a b => a.1 < b.1

/-- The entry with the given key, if there is one. -/
def get? (d : Dict α) (key : Text) : Option α :=
  match d with
  | [] => none
  | (k, e) :: rest => if key = k then some e else get? rest key

def keys (d : Dict α) : List Text := d.map Prod.fst

/-- Adds an entry, in place of one with the same key. -/
def insert (key : Text) (entry : α) : Dict α → Dict α
  | [] => [(key, entry)]
  | (k, e) :: rest =>
    if key < k then (key, entry) :: (k, e) :: rest
    else if key = k then (key, entry) :: rest
    else (k, e) :: insert key entry rest

/-- Adds an entry unless there is one with the same key. -/
def insertNew (key : Text) (entry : α) (d : Dict α) : Dict α :=
  if (d.get? key).isSome then d else d.insert key entry

@[simp] theorem get?_nil (key : Text) : get? ([] : Dict α) key = none := rfl

theorem get?_cons (key k : Text) (e : α) (rest : Dict α) :
    get? ((k, e) :: rest) key = if key = k then some e else get? rest key := rfl

theorem get?_insert (key k : Text) (e : α) (d : Dict α) :
    get? (d.insert key e) k = if k = key then some e else get? d k := by
  induction d with
  | nil => simp [insert, get?_cons]
  | cons a rest ih =>
    obtain ⟨k', e'⟩ := a
    unfold insert
    split
    · rw [get?_cons]
    · split
      · next h => subst h; rw [get?_cons, get?_cons]; split <;> rfl
      · next h =>
        rw [get?_cons, get?_cons, ih]
        by_cases hk : k = k'
        · subst hk
          simp [Ne.symm h]
        · simp [hk]

/-- Insertion brings in no key but its own. -/
theorem key_insert {a : Text × α} {key : Text} {e : α} {d : Dict α} (h : a ∈ d.insert key e) :
    a.1 = key ∨ a ∈ d := by
  induction d with
  | nil => exact Or.inl (congrArg Prod.fst (List.mem_singleton.mp h))
  | cons b rest ih =>
    obtain ⟨k, e'⟩ := b
    unfold insert at h
    split at h
    · rcases List.mem_cons.mp h with rfl | h
      · exact Or.inl rfl
      · exact Or.inr h
    · split at h
      · rcases List.mem_cons.mp h with rfl | h
        · exact Or.inl rfl
        · exact Or.inr (List.mem_cons_of_mem _ h)
      · rcases List.mem_cons.mp h with rfl | h
        · exact Or.inr (List.mem_cons_self)
        · exact (ih h).imp_right (List.mem_cons_of_mem _)

theorem Ordered.insert {d : Dict α} (h : d.Ordered) (key : Text) (e : α) :
    (d.insert key e).Ordered := by
  induction d with
  | nil => exact List.pairwise_singleton _ _
  | cons b rest ih =>
    obtain ⟨k, e'⟩ := b
    obtain ⟨hk, hrest⟩ := List.pairwise_cons.mp h
    unfold Dict.insert
    split
    · next hlt =>
      refine List.pairwise_cons.mpr ⟨fun a ha => ?_, h⟩
      rcases List.mem_cons.mp ha with rfl | ha
      · exact hlt
      · exact List.lt_trans hlt (hk a ha)
    · next hlt =>
      split
      · next heq => subst heq; exact List.pairwise_cons.mpr ⟨hk, hrest⟩
      · next hne =>
        refine List.pairwise_cons.mpr ⟨fun a ha => ?_, ih hrest⟩
        rcases key_insert ha with ha | ha
        · rw [ha]
          rcases List.le_iff_lt_or_eq.mp (List.not_lt.mp hlt) with h | h
          · exact h
          · exact absurd h.symm hne
        · exact hk a ha
end Dict

end TextTable
