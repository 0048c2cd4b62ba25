/-
How many columns of a terminal a text takes.

* `Kind`: what a text starts with, as far as the width of a character in front of it depends on it;
* `Follower`: the same with the selectors in front of it;
* `place`: the columns of a character in front of a text;
* `width`: the columns of a text.

A text is measured from its end.  What a character adds to the width of the text that follows it is
mostly its own width; the exceptions are letters that join, flags, and pictures made of others.
-/
import Census.Display.CharWidth

namespace Census.Display

open Text (inRanges)

/-! ### Kinds -/

/-- Letters that join with one in front of them across a zero width joiner. -/
inductive Joining
  | lamed
  | ya
  | tifinagh
  | orkhonI
  deriving DecidableEq, Repr

/-- The tags in front of the end of a flag of tags, read from the end: letters and then digits. -/
inductive Tags
  | letters (count : Nat)
  | digits (count : Nat)
  deriving DecidableEq, Repr

/-- What a text starts with. -/
inductive Kind
  /-- Nothing that matters. -/
  | plain
  | lineFeed
  | alef
  /-- A letter, and whether a joiner is in front of it. -/
  | joining (letter : Joining) (joined : Bool)
  /-- The Buginese vowel sign `i`, a joiner and `ya`. -/
  | vowelAndYa
  /-- The joiner of Tifinagh and a letter. -/
  | joinedTifinagh
  | lisuTone
  /-- A Khmer letter that may stand below another. -/
  | khmer
  /-- The vowel signs of Kirat Rai. -/
  | vowelE
  | vowelAi
  /-- One letter of a flag, or two and more. -/
  | region
  | regions
  | picture
  | tone
  /-- A zero width joiner and a picture. -/
  | joinedPicture
  /-- The frame of a key, a joiner and a picture. -/
  | joinedKey
  /-- Letters of flags in front of a joiner and a picture: one, an even number, or an odd one. -/
  | joinedRegion
  | evenRegions
  | oddRegions
  | tags (t : Tags)
  deriving DecidableEq, Repr

namespace Kind

/-- The kind stays what it is behind any selector. -/
def isLigature : Kind → Bool
  | alef | joining _ _ | vowelAndYa | joinedTifinagh | lisuTone | khmer => true
  | _ => false

/-- Selectors and joiners do not come between a letter of the kind and one in front of it. -/
def seesThrough (k : Kind) : Bool :=
  k.isLigature && k != alef

/-- The kind stays what it is behind the selector of pictures. -/
def keepsPicture (k : Kind) : Bool :=
  k.isLigature || k == joinedPicture || k == joinedKey

/-- The kind with a zero width joiner in front of it. -/
def join : Kind → Kind
  | joining letter _ => joining letter true
  | k => k

/-- The kind of a text that starts with a character. -/
def of (c : Char) : Kind :=
  let n := c.toNat
  if inRanges [(0x622, 0x623), (0x625, 0x625), (0x627, 0x627), (0x671, 0x673), (0x675, 0x675),
      (0x773, 0x774), (0x870, 0x882)] n then alef
  else if n = 0x5DC then joining .lamed false
  else if n = 0x1A10 then joining .ya false
  else if inRanges [(0x2D31, 0x2D65), (0x2D6F, 0x2D6F)] n then joining .tifinagh false
  else if n = 0x10C03 then joining .orkhonI false
  else if inRanges [(0xA4FC, 0xA4FD)] n then lisuTone
  else if inRanges [(0x1780, 0x1782), (0x1784, 0x1787), (0x1789, 0x178C), (0x178E, 0x1793),
      (0x1795, 0x1798), (0x179B, 0x179D), (0x17A0, 0x17A0), (0x17A2, 0x17A2), (0x17A7, 0x17A7),
      (0x17AB, 0x17AC), (0x17AF, 0x17AF)] n then khmer
  else if n = 0x16D67 then vowelE
  else if n = 0x16D68 then vowelAi
  else if isRegion c then region
  else if isTone c then tone
  else if isPicture c then picture
  else plain

end Kind

/-! ### Joining -/

/-- Arabic lam. -/
def isLam (c : Char) : Bool :=
  inRanges [(0x644, 0x644), (0x6B5, 0x6B8), (0x76A, 0x76A), (0x8A6, 0x8A6), (0x8C7, 0x8C7)] c.toNat

/-- Letters of Tifinagh that join with the one behind them. -/
def isTifinagh (c : Char) : Bool :=
  inRanges [(0x2D31, 0x2D65), (0x2D6F, 0x2D6F)] c.toNat

/-- Silent characters that Arabic letters do not join across. -/
def separatingRanges : List (Nat × Nat) :=
  [(0x605, 0x605), (0x890, 0x891), (0x8E2, 0x8E2), (0x9BE, 0x9BE), (0x9D7, 0x9D7), (0xB3E, 0xB3E),
    (0xB57, 0xB57), (0xBBE, 0xBBE), (0xBD7, 0xBD7), (0xCC0, 0xCC0), (0xCC2, 0xCC2), (0xCC7, 0xCC8),
    (0xCCA, 0xCCB), (0xCD5, 0xCD6), (0xD3E, 0xD3E), (0xD4E, 0xD4E), (0xD57, 0xD57), (0xDCF, 0xDCF),
    (0xDDF, 0xDDF), (0x1160, 0x11FF), (0x180E, 0x180E), (0x1B35, 0x1B35), (0x1B3B, 0x1B3B),
    (0x1B3D, 0x1B3D), (0x1B43, 0x1B43), (0x200C, 0x200D), (0x2065, 0x2069), (0x302E, 0x302F),
    (0x3164, 0x3164), (0xA8FA, 0xA8FA), (0xD7B0, 0xD7C6), (0xD7CB, 0xD7FB), (0xFF9E, 0xFFA0),
    (0xFFF0, 0xFFF8), (0x111C2, 0x111C3), (0x1133E, 0x1133E), (0x11357, 0x11357),
    (0x114B0, 0x114B0), (0x114BD, 0x114BD), (0x115AF, 0x115AF), (0x11930, 0x11930),
    (0x1193F, 0x1193F), (0x11941, 0x11941), (0x11A3A, 0x11A3A), (0x11A84, 0x11A89),
    (0x11D46, 0x11D46), (0x11F02, 0x11F02), (0x1D165, 0x1D165), (0x1D16E, 0x1D172),
    (0xE0000, 0xE0000), (0xE0002, 0xE001F), (0xE0080, 0xE00FF), (0xE01F0, 0xE0FFF)]

/-- Arabic letters join across the character. -/
def isTransparent (c : Char) : Bool :=
  isSilent c && !inRanges separatingRanges c.toNat

/-- Joiners and selectors of variants other than the zero width joiner. -/
def isSelector (c : Char) : Bool :=
  inRanges [(0x34F, 0x34F), (0x17B4, 0x17B5), (0x180B, 0x180D), (0x180F, 0x180F), (0xFE00, 0xFE0F),
    (0xE0100, 0xE01EF)] c.toNat

/-- Tags in front of others, if they may stand there. -/
def Tags.extend (c : Char) : Tags → Option Tags
  | letters k =>
    if inRanges [(0xE0061, 0xE007A)] c.toNat && k < 6 then some (letters (k + 1))
    else if inRanges [(0xE0030, 0xE0039)] c.toNat && k ≤ 4 then some (digits 1)
    else none
  | digits k =>
    if inRanges [(0xE0030, 0xE0039)] c.toNat && k < 3 then some (digits (k + 1)) else none

/-- The tags name a region, so that a black flag in front of them is one picture with them. -/
def Tags.nameRegion : Tags → Bool
  | letters k => 3 ≤ k
  | digits k => k == 3

/-- What a character adds to the width in front of a text of some kind that it joins with, and the
kind of both. -/
def Kind.joinedBy (c : Char) : Kind → Option (Int × Kind)
  | alef =>
    if isLam c then some (0, plain)
    else if isTransparent c then some (0, alef)
    else none
  | joining .lamed true => if c.toNat = 0x5D0 then some (0, plain) else none
  | joining .ya true => if c.toNat = 0x1A17 then some (0, vowelAndYa) else none
  | joining .orkhonI true => if c.toNat = 0x10C32 then some (0, plain) else none
  | joining .tifinagh joined =>
    if c.toNat = 0x2D7F then some (1, joinedTifinagh)
    else if joined && isTifinagh c then some (0, plain)
    else none
  | vowelAndYa => if c.toNat = 0x1A15 then some (0, plain) else none
  | joinedTifinagh => if isTifinagh c then some (-1, plain) else none
  | lisuTone => if inRanges [(0xA4F8, 0xA4FB)] c.toNat then some (0, plain) else none
  | khmer => if c.toNat = 0x17D2 then some (-1, plain) else none
  | vowelE =>
    if c.toNat = 0x16D63 || c.toNat = 0x16D69 then some (0, plain)
    else if c.toNat = 0x16D67 then some (0, vowelAi)
    else if c.toNat = 0x16D68 then some (1, vowelE)
    else none
  | vowelAi => if c.toNat = 0x16D63 then some (0, plain) else none
  | tone =>
    if takesTone c then some (0, picture)
    else if c = '\u200D' then some (0, joinedPicture)
    else none
  | region => if isRegion c then some (1, regions) else none
  | regions =>
    if isRegion c then some (1, regions)
    else if c = '\u200D' then some (0, joinedPicture)
    else none
  | picture => if c = '\u200D' then some (0, joinedPicture) else none
  | joinedPicture =>
    if c = '\u20E3' then some (0, joinedKey)
    else if isRegion c then some (1, joinedRegion)
    else if isTone c then some (0, tone)
    else if c.toNat = 0xE007F then some (0, tags (.letters 0))
    else if isPicture c then some (0, picture)
    else none
  | joinedRegion => if isRegion c then some (-1, evenRegions) else none
  | evenRegions =>
    if isRegion c then some (3, oddRegions)
    else if c = '\u200D' then some (0, joinedPicture)
    else none
  | oddRegions =>
    if isRegion c then some (-1, evenRegions)
    else if c = '\u200D' then some (0, joinedPicture)
    else none
  | tags t =>
    if c.toNat = 0x1F3F4 && t.nameRegion then some (0, picture)
    else (t.extend c).map fun t => (0, tags t)
  | _ => none

/-! ### Texts -/

/-- What a character is followed by: a text of some kind, and selectors in front of it that ask for
a picture, for text, or for wide quotes. -/
structure Follower where
  kind : Kind
  picture : Bool := false
  text : Bool := false
  quotes : Bool := false
  deriving DecidableEq, Repr

namespace Follower

/-- A text without a selector in front. -/
def plain (k : Kind) : Follower :=
  { kind := k }

/-- The selector of pictures in front. -/
def askPicture (f : Follower) : Follower :=
  { (if f.kind.keepsPicture then f else plain .plain) with picture := true }

/-- The selector of text in front. -/
def askText (f : Follower) : Follower :=
  { (if f.kind.isLigature then f else plain .plain) with text := true }

/-- The selector of wide quotes in front. -/
def askQuotes (f : Follower) : Follower :=
  { (if f.kind.isLigature then f else plain .plain) with quotes := true }

/-- What is left where no picture comes in front of the selector of pictures. -/
def withoutPicture (f : Follower) : Follower :=
  if !f.picture then f
  else if f.kind.isLigature then { f with picture := false }
  else plain .plain

/-- What is left where the other selectors have nothing in front to select. -/
def withoutText (f : Follower) : Follower :=
  if f.text then { f with text := false } else { f with quotes := false }

/-- The text with a character that joins with it, or else stands by itself. -/
def joinWith (c : Char) (f : Follower) : Int × Follower :=
  let joined : Option (Int × Kind) := if f.quotes then none else f.kind.joinedBy c
  match joined with
  | some (columns, kind) => (columns, plain kind)
  | none => (charWidth c, plain (.of c))

/-- The text with a character beyond ASCII in front of it. -/
def further (c : Char) (f : Follower) : Int × Follower :=
  if c = '\uFE0F' then (0, f.askPicture)
  else if c = '\uFE0E' then (0, f.askText)
  else if c = '\uFE01' then (0, f.askQuotes)
  else if f.text && hasTextForm c then (1, plain .plain)
  else if !f.text && f.quotes && ['‘', '’', '“', '”'].contains c then (2, plain .plain)
  else
    let f := f.withoutText
    if f.kind.seesThrough && c = '\u200D' then (0, { f with kind := f.kind.join })
    else if f.kind.seesThrough && isSelector c then (0, f)
    else f.joinWith c

/-- The columns that a character adds to the width of what follows it, and both together. -/
def place (c : Char) (f : Follower) : Int × Follower :=
  if f.picture && hasPictureForm c then
    (if f.kind = .joinedPicture ∨ f.kind = .joinedKey then 0 else 2, plain .picture)
  else
    let f := f.withoutPicture
    if c = '\n' then (1, plain .lineFeed)
    else if c = '\r' ∧ f.kind = .lineFeed then (0, plain .plain)
    else if c ≤ '\u00A0' then (1, plain .plain)
    else f.further c

end Follower

/-- The columns of a text, and what a character in front of it is followed by. -/
def measure : List Char → Int × Follower
  | [] => (0, .plain .plain)
  | c :: cs =>
    let (columns, rest) := measure cs
    let (more, both) := rest.place c
    (columns + more, both)

/-- The columns that a text takes. -/
def width (s : String) : Nat :=
  (measure s.toList).1.toNat

end Census.Display
