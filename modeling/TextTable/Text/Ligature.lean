import TextTable.Text.CharWidth

/-! # Ligatures

Some letters are written as one with the letters before them, and the ligature takes the columns of
a single letter. A ligature is read from its end, where it has its columns, so that the letters
before add none or take back what a sign between the letters added.
-/

namespace TextTable

/-- Ranges of the characters without columns whose Joining_Type is not Transparent. -/
def nontransparentRanges : List (Nat × Nat) := [
  (0x0605, 0x0605), (0x0890, 0x0891), (0x08E2, 0x08E2), (0x09BE, 0x09BE), (0x09D7, 0x09D7),
  (0x0B3E, 0x0B3E), (0x0B57, 0x0B57), (0x0BBE, 0x0BBE), (0x0BD7, 0x0BD7), (0x0CC0, 0x0CC0),
  (0x0CC2, 0x0CC2), (0x0CC7, 0x0CC8), (0x0CCA, 0x0CCB), (0x0CD5, 0x0CD6), (0x0D3E, 0x0D3E),
  (0x0D4E, 0x0D4E), (0x0D57, 0x0D57), (0x0DCF, 0x0DCF), (0x0DDF, 0x0DDF), (0x1160, 0x11FF),
  (0x1715, 0x1715), (0x1734, 0x1734), (0x180E, 0x180E), (0x1B35, 0x1B35), (0x1B3B, 0x1B3B),
  (0x1B3D, 0x1B3D), (0x1B43, 0x1B44), (0x1BAA, 0x1BAA), (0x1BF2, 0x1BF3), (0x200C, 0x200D),
  (0x2065, 0x2069), (0x302E, 0x302F), (0x3164, 0x3164), (0xA8FA, 0xA8FA), (0xA953, 0xA953),
  (0xA9C0, 0xA9C0), (0xD7B0, 0xD7C6), (0xD7CB, 0xD7FB), (0xFFA0, 0xFFA0), (0xFFF0, 0xFFF8),
  (0x111C0, 0x111C0), (0x111C2, 0x111C3), (0x11235, 0x11235), (0x1133E, 0x1133E),
  (0x1134D, 0x1134D), (0x11357, 0x11357), (0x113B8, 0x113B8), (0x113C2, 0x113C2),
  (0x113C5, 0x113C5), (0x113C7, 0x113C9), (0x113CF, 0x113CF), (0x113D1, 0x113D1),
  (0x114B0, 0x114B0), (0x114BD, 0x114BD), (0x115AF, 0x115AF), (0x116B6, 0x116B6),
  (0x11930, 0x11930), (0x1193D, 0x1193D), (0x1193F, 0x1193F), (0x11941, 0x11941),
  (0x11A84, 0x11A89), (0x11D46, 0x11D46), (0x11F02, 0x11F02), (0x11F41, 0x11F41),
  (0x16FF0, 0x16FF1), (0x1D165, 0x1D166), (0x1D16D, 0x1D172), (0xE0000, 0xE0000),
  (0xE0002, 0xE001F), (0xE0080, 0xE00FF), (0xE01F0, 0xE0FFF)]

/-- A mark that does not keep Arabic letters from joining. -/
def isTransparent (c : Char) : Bool := charWidth c = 0 && !inRanges nontransparentRanges c

/-- A mark that is default ignorable, and does not break a ligature. -/
def isIgnorableMark (c : Char) : Bool :=
  inRanges [(0x034F, 0x034F), (0x17B4, 0x17B5), (0x180B, 0x180D), (0x180F, 0x180F),
    (0x200D, 0x200D), (0xFE00, 0xFE0F), (0xE0100, 0xE01EF)] c

/-- An Arabic letter of the joining group lam. -/
def isLam (c : Char) : Bool :=
  inRanges [(0x0644, 0x0644), (0x06B5, 0x06B8), (0x076A, 0x076A), (0x08A6, 0x08A6),
    (0x08C7, 0x08C7)] c

/-- An Arabic letter of the joining group alef. -/
def isAlef (c : Char) : Bool :=
  inRanges [(0x0622, 0x0623), (0x0625, 0x0625), (0x0627, 0x0627), (0x0671, 0x0673),
    (0x0675, 0x0675), (0x0773, 0x0774), (0x0870, 0x0882)] c

/-- A Khmer letter that the sign coeng puts below the letter before it. -/
def isKhmerSubscript (c : Char) : Bool :=
  inRanges [(0x1780, 0x1782), (0x1784, 0x1787), (0x1789, 0x178C), (0x178E, 0x1793),
    (0x1795, 0x1798), (0x179B, 0x179D), (0x17A0, 0x17A0), (0x17A2, 0x17A2), (0x17A7, 0x17A7),
    (0x17AB, 0x17AC), (0x17AF, 0x17AF)] c

/-- A Tifinagh consonant. -/
def isTifinaghConsonant (c : Char) : Bool := inRanges [(0x2D31, 0x2D65), (0x2D6F, 0x2D6F)] c

/-- What follows a character, if the character may belong to a ligature with it. Letters that need a
joiner before them have a flag that says whether there is one. -/
inductive Ligature where
  /-- The end of an Arabic lam and alef. -/
  | alef
  /-- The end of a Hebrew alef and lamed. -/
  | lamed (joined : Bool)
  /-- The end of the Buginese vowels and ya. -/
  | ya (joined : Bool)
  /-- The Buginese vowel i and ya. -/
  | vowelYa
  /-- The end of two Tifinagh consonants. -/
  | consonant (joined : Bool)
  /-- The consonant joiner and the second of two Tifinagh consonants. -/
  | joinedConsonant
  /-- The end of a pair of Lisu tones. -/
  | tone
  /-- The end of the Old Turkic letters er and i. -/
  | turkicI (joined : Bool)
  /-- The end of the Khmer sign coeng and a letter. -/
  | khmer
  /-- The Kirat Rai vowel sign e. -/
  | vowelE
  /-- The Kirat Rai vowel sign ai, or two signs e. -/
  | vowelAi
  deriving DecidableEq, Repr

namespace Ligature

/-- The ligature that `c` ends. -/
def ofChar? (c : Char) : Option Ligature :=
  if isAlef c then some .alef
  else if c = '\u05DC' then some (.lamed false)
  else if c = '\u1A10' then some (.ya false)
  else if isTifinaghConsonant c then some (.consonant false)
  else if c = '\uA4FC' || c = '\uA4FD' then some .tone
  else if c.toNat = 0x10C03 then some (.turkicI false)
  else if isKhmerSubscript c then some .khmer
  else if c.toNat = 0x16D67 then some .vowelE
  else if c.toNat = 0x16D68 then some .vowelAi
  else none

/-- A mark of no meaning to the ligature may stand inside of it. -/
def spansMarks : Ligature → Bool
  | .vowelE | .vowelAi => false
  | _ => true

/-- The ligature with a joiner before it. -/
def join : Ligature → Ligature
  | .lamed _ => .lamed true
  | .ya _ => .ya true
  | .consonant _ => .consonant true
  | .turkicI _ => .turkicI true
  | l => l

/-- The columns that the letter or sign `c` adds to the ligature, and the ligature that goes on. -/
def extendLetter (c : Char) (l : Ligature) : Option (Int × Option Ligature) :=
  match l with
  | .alef => if isLam c then some (0, none) else none
  | .lamed joined => if joined && c = '\u05D0' then some (0, none) else none
  | .ya joined => if joined && c = '\u1A17' then some (0, some .vowelYa) else none
  | .vowelYa => if c = '\u1A15' then some (0, none) else none
  | .consonant joined =>
    if c = '\u2D7F' then some (1, some .joinedConsonant)
    else if joined && isTifinaghConsonant c then some (0, none)
    else none
  | .joinedConsonant => if isTifinaghConsonant c then some (-1, none) else none
  | .tone => if 0xA4F8 ≤ c.toNat && c.toNat ≤ 0xA4FB then some (0, none) else none
  | .turkicI joined => if joined && c.toNat = 0x10C32 then some (0, none) else none
  | .khmer => if c = '\u17D2' then some (-1, none) else none
  | .vowelE =>
    if c.toNat = 0x16D63 || c.toNat = 0x16D69 then some (0, none)
    else if c.toNat = 0x16D67 then some (0, some .vowelAi)
    else if c.toNat = 0x16D68 then some (1, some .vowelE)
    else none
  | .vowelAi => if c.toNat = 0x16D63 then some (0, none) else none

/-- The mark `c` may stand inside of the ligature. -/
def admits (c : Char) (l : Ligature) : Bool :=
  match l with
  | .alef => isTransparent c
  | l => l.spansMarks && isIgnorableMark c

/-- The columns that `c` adds to the ligature, and the ligature that goes on. -/
def extend (c : Char) (l : Ligature) : Option (Int × Option Ligature) :=
  if l.admits c then some (0, some (if isJoiner c then l.join else l)) else l.extendLetter c

end Ligature

end TextTable
