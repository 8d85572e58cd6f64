import TextTable.Cell.Block
import TextTable.Proofs.Text.Ascii

/-! # Blocks of printable ASCII

Cutting lets no line of a block be longer than asked, and padding gives all lines one length.
-/

namespace TextTable

theorem foldr_max_le_iff {ns : List Nat} {n : Nat} :
    ns.foldr max 0 ≤ n ↔ ∀ m ∈ ns, m ≤ n := by
  induction ns with
  | nil => simp
  | cons m ns ih => rw [List.foldr_cons, Nat.max_le, ih, List.forall_mem_cons]

theorem blockWidth_le_iff {lines : List Text} {n : Nat} :
    blockWidth lines ≤ n ↔ ∀ line ∈ lines, displayWidth line ≤ n := by
  simp [blockWidth, foldr_max_le_iff]

namespace Block

def IsAscii (b : Block) : Prop := ∀ line ∈ b.lines, Text.IsAscii line

def Fills (width : Nat) (b : Block) : Prop :=
  ∀ line ∈ b.lines, Text.IsAscii line ∧ line.length = width

instance (width : Nat) (b : Block) : Decidable (b.Fills width) :=
  List.decidableBAll _ b.lines

variable {b : Block} {marker : Text} {width : Nat}

theorem lines_ofText_ne_nil (t : Text) (a : Align) : (ofText t a).lines ≠ [] :=
  Text.lines_ne_nil t

theorem isAscii_ofText {t : Text} (h : Text.isAsciiBlock t = true) (a : Align) :
    (ofText t a).IsAscii := Text.isAscii_of_mem_lines h

theorem Fills.displayWidth_eq (h : b.Fills width) {line : Text} (hl : line ∈ b.lines) :
    displayWidth line = width :=
  (h line hl).1.displayWidth_eq.trans (h line hl).2

theorem IsAscii.truncateLines (h : b.IsAscii) (hm : Text.IsAscii marker) :
    (b.truncateLines width marker).IsAscii := by
  intro cutLine hc
  obtain ⟨line, hl, rfl⟩ := List.mem_map.mp hc
  exact (h line hl).truncateEnd hm

theorem IsAscii.width_truncateLines_le (h : b.IsAscii) (hm : Text.IsAscii marker) :
    (b.truncateLines width marker).width ≤ width := by
  refine blockWidth_le_iff.mpr fun cutLine hc => ?_
  obtain ⟨line, hl, rfl⟩ := List.mem_map.mp hc
  rw [((h line hl).truncateEnd hm).displayWidth_eq, (h line hl).length_truncateEnd hm]
  exact Nat.min_le_right _ _

theorem IsAscii.fills_padWidth (h : b.IsAscii) (hw : b.width ≤ width) :
    (b.padWidth width).Fills width := by
  intro padded hp
  obtain ⟨line, hl, rfl⟩ := List.mem_map.mp hp
  rw [Nat.max_eq_left hw]
  have hle := blockWidth_le_iff.mp hw line hl
  rw [(h line hl).displayWidth_eq] at hle
  exact ⟨(h line hl).justify b.align, by rw [(h line hl).length_justify]; omega⟩

end Block

end TextTable
