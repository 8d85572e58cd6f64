import TextTable.Text.Basic
import TextTable.Text.CharWidth

/-! # Terminal escape sequences

Word wrapping measures what a terminal shows, so escape sequences take no column and are never
broken. A sequence is `ESC [` up to a final byte, `ESC ]` up to a bell or `ESC \`, or `ESC` with one
more character.
-/

namespace TextTable

/-- The position of a reader with respect to escape sequences. -/
inductive Escape where
  /-- Outside of any sequence. -/
  | outside
  /-- After `ESC`. -/
  | opened
  /-- After `ESC [`. -/
  | control
  /-- After `ESC ]`, where `escaped` says that `ESC` was read last. -/
  | command (escaped : Bool)
  deriving DecidableEq, Repr

namespace Escape

/-- The position after reading `c`. -/
def next (c : Char) : Escape → Escape
  | .outside => if c = '\x1b' then .opened else .outside
  | .opened => if c = '[' then .control else if c = ']' then .command false else .outside
  | .control => if 0x40 ≤ c.toNat && c.toNat ≤ 0x7E then .outside else .control
  | .command escaped =>
    if c = '\x07' || (c = '\\' && escaped) then .outside else .command (c = '\x1b')

/-- The character `c`, read at this position, is text to be shown. -/
def shows (c : Char) : Escape → Bool
  | .outside => c ≠ '\x1b'
  | _ => false

/-- The columns that `c` takes when it is read at this position. -/
def columns (c : Char) (e : Escape) : Nat := if e.shows c then charWidth c else 0

/-- The columns that a text takes when it is read from this position. -/
def width (e : Escape) : Text → Nat
  | [] => 0
  | c :: rest => e.columns c + (e.next c).width rest

end Escape

/-- The columns that a text takes, each character counted on its own and escape sequences not
counted. -/
def shownWidth (t : Text) : Nat := Escape.outside.width t

/-- The escape character takes no column, so nothing of such a text is an escape sequence. -/
theorem shownWidth_eq_length {t : Text} (h : ∀ c ∈ t, charWidth c = 1) :
    shownWidth t = t.length := by
  unfold shownWidth
  induction t with
  | nil => rfl
  | cons c t ih =>
    have hc := h c List.mem_cons_self
    have he : c ≠ '\x1b' := by rintro rfl; exact absurd hc (by decide)
    have ih := ih fun x hx => h x (List.mem_cons_of_mem _ hx)
    simp [Escape.width, Escape.columns, Escape.shows, Escape.next, he, hc, ih, Nat.add_comm]

end TextTable
