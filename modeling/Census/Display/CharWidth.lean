/-
How many columns of a terminal a character takes by itself.

* `isSilent`, `isWide`: the characters that take none, and those that take two;
* `charWidth`: the columns of a character.
-/
import Census.Display.Picture
import Census.Text.Mark

namespace Census.Display

open Text (inRanges)

/-- Format characters, fillers, vowels and final consonants of Hangul, signs in front of numbers and
letters.  Marks may be among them. -/
def silentRanges : List (Nat × Nat) :=
  [(0xAD, 0xAD), (0x605, 0x605), (0x61C, 0x61C), (0x70F, 0x70F), (0x890, 0x891), (0x8E2, 0x8E2),
    (0xD4E, 0xD4E), (0x1160, 0x11FF), (0x180E, 0x180E), (0x200B, 0x200F), (0x202A, 0x202E),
    (0x2060, 0x206F), (0x3164, 0x3164), (0xA8FA, 0xA8FA), (0xD7B0, 0xD7C6), (0xD7CB, 0xD7FB),
    (0xFEFF, 0xFEFF), (0xFFA0, 0xFFA0), (0xFFF0, 0xFFF8), (0x111C2, 0x111C3), (0x113D1, 0x113D1),
    (0x1193F, 0x1193F), (0x11941, 0x11941), (0x11A84, 0x11A89), (0x11D46, 0x11D46),
    (0x11F02, 0x11F02), (0x1BCA0, 0x1BCA3), (0x1D173, 0x1D17A), (0xE0000, 0xE0FFF)]

/-- Ideographs, syllables of East Asian scripts and full width forms.  Pictures may be among
them. -/
def wideRanges : List (Nat × Nat) :=
  [(0x1100, 0x115F), (0x2329, 0x232A), (0x2630, 0x2637), (0x268A, 0x268F), (0x2E80, 0x2E99),
    (0x2E9B, 0x2EF3), (0x2F00, 0x2FD5), (0x2FF0, 0x3029), (0x3030, 0x303E), (0x3041, 0x3096),
    (0x309B, 0x30FF), (0x3105, 0x312F), (0x3131, 0x3163), (0x3165, 0x318E), (0x3190, 0x31E5),
    (0x31EF, 0x321E), (0x3220, 0x3247), (0x3250, 0xA48C), (0xA490, 0xA4C6), (0xA960, 0xA97C),
    (0xAC00, 0xD7A3), (0xF900, 0xFAFF), (0xFE10, 0xFE19), (0xFE30, 0xFE52), (0xFE54, 0xFE66),
    (0xFE68, 0xFE6B), (0xFF01, 0xFF60), (0xFFE0, 0xFFE6), (0x16FE0, 0x16FE3), (0x16FF2, 0x16FF6),
    (0x17000, 0x18CD5), (0x18CFF, 0x18D1E), (0x18D80, 0x18DF2), (0x1AFF0, 0x1AFF3),
    (0x1AFF5, 0x1AFFB), (0x1AFFD, 0x1AFFE), (0x1B000, 0x1B122), (0x1B132, 0x1B132),
    (0x1B150, 0x1B152), (0x1B155, 0x1B155), (0x1B164, 0x1B167), (0x1B170, 0x1B2FB),
    (0x1D300, 0x1D356), (0x1D360, 0x1D376), (0x1F200, 0x1F202), (0x1F210, 0x1F23B),
    (0x1F240, 0x1F248), (0x1F260, 0x1F265), (0x20000, 0x2FFFD), (0x30000, 0x3FFFD)]

/-- The character takes no column.  Of the marks one does: the joiner of Tifinagh. -/
def isSilent (c : Char) : Bool :=
  c != '\u2D7F' && (Text.isMark c || inRanges silentRanges c.toNat)

/-- The character takes two columns. -/
def isWide (c : Char) : Bool :=
  c == '\u17A4' || inRanges wideRanges c.toNat || isPicture c

/-- The columns that a character takes.  A control takes one, the Khmer sign for “and so on”
three. -/
def charWidth (c : Char) : Nat :=
  if c ≤ '\u00A0' then 1
  else if isSilent c then 0
  else if c = '\u17D8' then 3
  else if isWide c then 2
  else 1

end Census.Display
