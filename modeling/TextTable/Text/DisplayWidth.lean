import TextTable.Text.Basic
import TextTable.Text.EmojiSequence
import TextTable.Text.Ligature

/-! # Display width

The number of columns of a text. Unlike the sum of the widths of its characters it counts every
control character as one column, `\r\n` as one together, and an emoji sequence or a ligature as one
character. What a character adds depends on the characters that follow it, so the text is measured
from its end.
-/

namespace TextTable

/-- A variation selector that changes the width of the character before it. -/
inductive Selector where
  /-- U+FE0E, for the text form of an emoji. -/
  | text
  /-- U+FE0F, for the emoji form of a character. -/
  | emoji
  /-- U+FE01, for the wide form of a quotation mark. -/
  | quote
  deriving DecidableEq, Repr

namespace Selector

def ofChar? (c : Char) : Option Selector :=
  if c = '\uFE0E' then some .text
  else if c = '\uFE0F' then some .emoji
  else if c = '\uFE01' then some .quote
  else none

/-- The selector changes the width of the character before it if that is `c`. -/
def selects (c : Char) : Selector → Bool
  | .text => takesTextSelector c
  | .emoji => takesEmojiSelector c
  | .quote => c = '\u2018' || c = '\u2019' || c = '\u201C' || c = '\u201D'

end Selector

/-- What is known about the characters that follow, variation selectors apart. -/
inductive Context where
  | plain
  | lineFeed
  | emoji (s : EmojiSequence)
  | ligature (l : Ligature)
  deriving DecidableEq, Repr

/-- What is known about the characters that follow. -/
structure Following where
  context : Context := .plain
  /-- The selector that stands before the context. -/
  selector : Option Selector := none
  deriving DecidableEq, Repr

namespace Context

/-- What a character that is not joined to the characters after it is to a character before it. -/
def ofChar (c : Char) : Context :=
  match EmojiSequence.ofChar? c with
  | some s => .emoji s
  | none => ((Ligature.ofChar? c).map .ligature).getD .plain

/-- What a selector leaves of the context to a character that it does not select. -/
def skipSelector : Context → Context
  | .ligature l => if l.spansMarks then .ligature l else .plain
  | _ => .plain

/-- The context with a selector before it. -/
def select (s : Selector) (next : Context) : Following :=
  match next, s with
  | .emoji e, .emoji => { context := if e.isJoined then .emoji e else .plain, selector := some s }
  | next, s => { context := next.skipSelector, selector := some s }

/-- The columns that `c` adds as a part of what follows it, and the context with it. -/
def absorb (c : Char) (next : Context) : Option (Int × Context) :=
  match next with
  | .emoji s => (s.extend c).map fun (columns, s) => (columns, .emoji s)
  | .ligature l => (l.extend c).map fun (columns, l) => (columns, (l.map .ligature).getD .plain)
  | _ => none

/-- The columns that `c` adds before the context, and what follows a character before `c`. -/
def extend (c : Char) (next : Context) : Int × Following :=
  if c.toNat ≤ 0xA0 then
    if c = '\n' then (1, { context := .lineFeed })
    else if c = '\r' && next = .lineFeed then (0, {})
    else (1, {})
  else
    match Selector.ofChar? c with
    | some s => (0, next.select s)
    | none =>
      let (columns, context) := (next.absorb c).getD (charWidth c, ofChar c)
      (columns, { context })

/-- The columns of a character that a selector selects. The emoji form before a joiner adds none. -/
def selectedWidth (s : Selector) (next : Context) : Int :=
  match s, next with
  | .text, _ => 1
  | .emoji, .emoji _ => 0
  | _, _ => 2

/-- What a character that a selector selects is to a character before it. -/
def ofSelected : Selector → Context
  | .emoji => .emoji .emoji
  | _ => .plain

end Context

/-- The columns that `c` adds before what follows, and what follows a character before `c`. -/
def Following.extend (c : Char) (next : Following) : Int × Following :=
  match next.selector with
  | none => next.context.extend c
  | some s =>
    if s.selects c then (next.context.selectedWidth s, { context := .ofSelected s })
    else next.context.skipSelector.extend c

/-- The width of a text, together with what a character before the text would see of it. -/
def measure (t : Text) : Int × Following :=
  t.foldr
    (fun c (width, next) =>
      let (columns, before) := next.extend c
      (columns + width, before))
    (0, {})

/-- The number of columns that the text takes. -/
def displayWidth (t : Text) : Nat := (measure t).1.toNat

/-- The width of the widest line, zero if there is none. -/
def blockWidth (lines : List Text) : Nat := (lines.map displayWidth).foldr max 0

@[simp] theorem displayWidth_nil : displayWidth [] = 0 := rfl

theorem measure_cons (c : Char) (t : Text) :
    measure (c :: t) = (((measure t).2.extend c).1 + (measure t).1, ((measure t).2.extend c).2) :=
  rfl

theorem extend_of_isPrintableAscii {c : Char} (h : isPrintableAscii c = true) :
    Following.extend c {} = (1, {}) := by
  have hn : c ≠ '\n' := by rintro rfl; exact absurd h (by decide)
  simp only [isPrintableAscii, Bool.and_eq_true, decide_eq_true_eq] at h
  simp [Following.extend, Context.extend, show c.toNat ≤ 0xA0 by omega, hn]

/-- Printable ASCII takes one column a character. -/
theorem displayWidth_of_isPrintableAscii {t : Text} (h : ∀ c ∈ t, isPrintableAscii c = true) :
    displayWidth t = t.length := by
  suffices measure t = ((t.length : Int), {}) by simp [displayWidth, this]
  induction t with
  | nil => rfl
  | cons c t ih =>
    rw [measure_cons, ih fun x hx => h x (List.mem_cons_of_mem _ hx),
      extend_of_isPrintableAscii (h c List.mem_cons_self)]
    simp [Int.add_comm]

end TextTable
