import TextTable.Text.CharWidth
import TextTable.Text.Emoji

/-! # Emoji sequences

Emoji that belong together take the columns of one emoji: an emoji and a modifier, two regional
indicators, and emoji with joiners between them. A sequence is read from its end, where it has its
columns, so that the characters before it add none.
-/

namespace TextTable

/-- What follows a character, if the character may belong to an emoji sequence with it. -/
inductive EmojiSequence where
  | modifier
  /-- A regional indicator. -/
  | indicator
  /-- Several regional indicators. -/
  | indicators
  | emoji
  /-- A joiner and an emoji. -/
  | joined
  /-- An enclosing keycap before a joiner and an emoji. -/
  | keycap
  /-- A regional indicator before a joiner and an emoji. -/
  | joinedIndicator
  /-- Several regional indicators before a joiner and an emoji. -/
  | joinedIndicators (even : Bool)
  /-- The end of some tags before a joiner and an emoji. -/
  | tagEnd
  /-- Tags before a joiner and an emoji, of which this many letters stand first. -/
  | tagLetters (n : Nat)
  /-- Tags before a joiner and an emoji, of which this many digits stand first. -/
  | tagDigits (n : Nat)
  deriving DecidableEq, Repr

namespace EmojiSequence

/-- The sequence that `c` ends. -/
def ofChar? (c : Char) : Option EmojiSequence :=
  if isRegionalIndicator c then some .indicator
  else if isEmojiModifier c then some .modifier
  else if isEmoji c then some .emoji
  else none

/-- What a joiner before an emoji makes of the character before it. -/
def extendJoined (c : Char) : Option (Int × EmojiSequence) :=
  if c = '\u20E3' then some (0, .keycap)
  else if isRegionalIndicator c then some (1, .joinedIndicator)
  else if isEmojiModifier c then some (0, .modifier)
  else if isTagEnd c then some (0, .tagEnd)
  else if isEmoji c then some (0, .emoji)
  else none

/-- The columns that `c` adds to the sequence, and the sequence with `c`. Columns that the character
after `c` took on its own may be taken back. -/
def extend (c : Char) (s : EmojiSequence) : Option (Int × EmojiSequence) :=
  match s with
  | .modifier =>
    if isEmojiModifierBase c then some (0, .emoji)
    else if isJoiner c then some (0, .joined)
    else none
  | .indicator => if isRegionalIndicator c then some (1, .indicators) else none
  | .indicators =>
    if isRegionalIndicator c then some (1, .indicators)
    else if isJoiner c then some (0, .joined)
    else none
  | .emoji => if isJoiner c then some (0, .joined) else none
  | .joined => extendJoined c
  | .keycap => none
  | .joinedIndicator =>
    if isRegionalIndicator c then some (-1, .joinedIndicators true) else none
  | .joinedIndicators even =>
    if isRegionalIndicator c then some (if even then 3 else -1, .joinedIndicators !even)
    else if isJoiner c then some (0, .joined)
    else none
  | .tagEnd =>
    if isTagLetter c then some (0, .tagLetters 1)
    else if isTagDigit c then some (0, .tagDigits 1)
    else none
  | .tagLetters n =>
    if isTagLetter c && n < 6 then some (0, .tagLetters (n + 1))
    else if isTagDigit c && n < 5 then some (0, .tagDigits 1)
    else if isBlackFlag c && 3 ≤ n then some (0, .emoji)
    else none
  | .tagDigits n =>
    if isTagDigit c && n < 3 then some (0, .tagDigits (n + 1))
    else if isBlackFlag c && n = 3 then some (0, .emoji)
    else none

/-- An emoji with a selector before this is joined to it. -/
def isJoined : EmojiSequence → Bool
  | .joined | .keycap => true
  | _ => false

end EmojiSequence

end TextTable
